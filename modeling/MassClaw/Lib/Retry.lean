import Mathlib.Tactic.Common

/-!
# Asking again with the error

A question is asked a fixed number of times.  An answer that is refused is
followed by another question, which is made of the error; the first answer that
is accepted ends the exchange.

The messages, the errors and the answers are parameters, and so is what answers:
it may answer the same message differently each time.
-/

universe u v w

namespace Retry

variable {μ : Type u} {ε : Type v} {α : Type w}

/-- The messages that are sent, and the answer that is accepted or the last
error. -/
def ask (answer : Nat → μ → Except ε α) (next : ε → μ) : Nat → Nat → μ → List μ × Except ε α
  | 0, attempt, message => ([message], answer attempt message)
  | retries + 1, attempt, message =>
    match answer attempt message with
    | .ok result => ([message], .ok result)
    | .error error =>
      let later := ask answer next retries (attempt + 1) (next error)
      (message :: later.1, later.2)

/-- The messages and the outcome of an exchange: every message but the last was
answered by an error, of which the next one is made, and the last one by the
outcome. -/
inductive Exchange (answer : Nat → μ → Except ε α) (next : ε → μ) :
    Nat → μ → List μ → Except ε α → Prop
  | answered {attempt : Nat} {message : μ} :
      Exchange answer next attempt message [message] (answer attempt message)
  | again {attempt : Nat} {message : μ} {error : ε} {later : List μ} {outcome : Except ε α}
      (h : answer attempt message = .error error)
      (hlater : Exchange answer next (attempt + 1) (next error) later outcome) :
      Exchange answer next attempt message (message :: later) outcome

variable {answer : Nat → μ → Except ε α} {next : ε → μ}

/-- What is sent and returned is an exchange, of at most one message more than
there are retries; with an error as its outcome it has them all. -/
theorem ask_spec (retries attempt : Nat) (message : μ) :
    Exchange answer next attempt message (ask answer next retries attempt message).1
        (ask answer next retries attempt message).2 ∧
      (ask answer next retries attempt message).1.length ≤ retries + 1 ∧
      ∀ error, (ask answer next retries attempt message).2 = .error error →
        (ask answer next retries attempt message).1.length = retries + 1 := by
  induction retries generalizing attempt message with
  | zero => exact ⟨.answered, Nat.le_refl _, fun _ _ => rfl⟩
  | succ retries ih =>
    cases hanswer : answer attempt message with
    | ok result =>
      have hask : ask answer next (retries + 1) attempt message = ([message], .ok result) := by
        rw [ask, hanswer]
      rw [hask, ← hanswer]
      refine ⟨.answered, by simp, fun error herror => ?_⟩
      rw [hanswer] at herror
      cases herror
    | error error =>
      have hask : ask answer next (retries + 1) attempt message =
          (message :: (ask answer next retries (attempt + 1) (next error)).1,
            (ask answer next retries (attempt + 1) (next error)).2) := by
        rw [ask, hanswer]
      rw [hask]
      obtain ⟨hexchange, hbound, hall⟩ := ih (attempt + 1) (next error)
      refine ⟨.again hanswer hexchange, Nat.succ_le_succ hbound, fun last hlast => ?_⟩
      exact congrArg Nat.succ (hall last hlast)

namespace Exchange

variable {attempt : Nat} {message : μ} {sent : List μ} {outcome : Except ε α}

theorem head? (h : Exchange answer next attempt message sent outcome) :
    sent.head? = some message := by
  cases h with
  | answered => rfl
  | again hanswer hlater => rfl

/-- Each message after the first is made of the error that the one before it was
answered by. -/
theorem next_of_error (h : Exchange answer next attempt message sent outcome) {index : Nat}
    {later : μ} (hlater : sent[index + 1]? = some later) :
    ∃ earlier error, sent[index]? = some earlier ∧
      answer (attempt + index) earlier = .error error ∧ later = next error := by
  induction h generalizing index with
  | answered => simp at hlater
  | @again attempt message error rest outcome hanswer hexchange ih =>
    rw [List.getElem?_cons_succ] at hlater
    cases index with
    | zero =>
      refine ⟨message, error, rfl, hanswer, ?_⟩
      have hhead := hexchange.head?
      rw [List.head?_eq_getElem?, hlater] at hhead
      exact Option.some.inj hhead
    | succ index =>
      obtain ⟨earlier, previous, hearlier, herror, heq⟩ := ih hlater
      refine ⟨earlier, previous, ?_, ?_, heq⟩
      · rw [List.getElem?_cons_succ]
        exact hearlier
      · rw [← herror]
        congr 1
        omega

/-- The outcome is the answer to the last message. -/
theorem answer_last (h : Exchange answer next attempt message sent outcome) :
    ∃ last, sent.getLast? = some last ∧ answer (attempt + (sent.length - 1)) last = outcome := by
  induction h with
  | @answered attempt message => exact ⟨message, rfl, rfl⟩
  | @again attempt message error rest outcome hanswer hexchange ih =>
    obtain ⟨last, hlast, houtcome⟩ := ih
    have hne : rest ≠ [] := by
      rintro rfl
      cases hlast
    refine ⟨last, ?_, ?_⟩
    · rw [List.getLast?_cons, hlast]
      rfl
    · have hpos : 0 < rest.length := List.length_pos_iff.2 hne
      rw [← houtcome, List.length_cons]
      congr 1
      omega

end Exchange

end Retry
