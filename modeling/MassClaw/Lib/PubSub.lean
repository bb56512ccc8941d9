import Mathlib.Data.List.Induction
import MassClaw.Lib.Transition

/-!
# Publish and subscribe

A broker passes a message on to the subscriptions to its topic that are in place
when the message is published.  A subscription keeps what its subscriber has not
read yet; what it keeps is lost when the connection breaks.

A subscriber has a state, which decides whether it reads, and which changes with
each message that it reads and with each action of its own.  An action can
publish a message.

The messages that were published and those that were read are kept as history.

Nothing here mentions a particular program.
-/

namespace PubSub

universe u v w x y

/-- What the messages and the subscribers do. -/
structure System (τ : Type u) (μ : Type v) (σ : Type w) (ι : Type x) (α : Type y) where
  topic : μ → τ
  listens : σ → Bool
  receive : σ → μ → ι → σ
  act : σ → α → σ × Option μ

/-- A subscriber and its subscription, which is in place since the log had a
certain length. -/
structure Subscriber (τ : Type u) (μ : Type v) (σ : Type w) (ι : Type x) where
  topic : τ
  state : σ
  since : Option Nat := none
  read : List (μ × ι) := []
  pending : List μ := []

/-- The messages that were published and the subscribers. -/
structure Broker (τ : Type u) (μ : Type v) (σ : Type w) (ι : Type x) where
  log : List μ := []
  subscribers : List (Subscriber τ μ σ ι) := []

/-- What happens to a broker; subscribers have numbers. -/
inductive Event (τ : Type u) (μ : Type v) (σ : Type w) (ι : Type x) (α : Type y)
  | join (topic : τ) (state : σ)
  | establish (index : Nat)
  | publish (message : μ)
  | deliver (index : Nat) (input : ι)
  | act (index : Nat) (action : α)
  | lose (index : Nat)

variable {τ : Type u} {μ : Type v} {σ : Type w} {ι : Type x} {α : Type y}

namespace System

variable (sys : System τ μ σ ι α)

/-! ## Steps -/

/-- A subscriber reads its oldest message. -/
def take (s : Subscriber τ μ σ ι) (input : ι) : Subscriber τ μ σ ι :=
  if sys.listens s.state then
    match s.pending with
    | [] => s
    | message :: rest =>
      { s with
        state := sys.receive s.state message input
        read := s.read ++ [(message, input)]
        pending := rest }
  else s

/-- What an event does to the subscriber with the index, a publication apart. -/
def own (length : Nat) (event : Event τ μ σ ι α) (index : Nat) (s : Subscriber τ μ σ ι) :
    Subscriber τ μ σ ι :=
  match event with
  | .establish j => if j = index then { s with since := s.since.or (some length) } else s
  | .deliver j input => if j = index then sys.take s input else s
  | .act j action => if j = index then { s with state := (sys.act s.state action).1 } else s
  | .lose j => if j = index then { s with pending := [] } else s
  | .join _ _ | .publish _ => s

/-- The subscriber that an event adds. -/
def joined : Event τ μ σ ι α → List (Subscriber τ μ σ ι)
  | .join topic state => [{ topic, state }]
  | _ => []

/-- The message that an event publishes. -/
def emitted (b : Broker τ μ σ ι) : Event τ μ σ ι α → Option μ
  | .publish message => some message
  | .act index action => (b.subscribers[index]?).bind (fun s => (sys.act s.state action).2)
  | _ => none

variable [DecidableEq τ]

/-- A subscription that is in place keeps a message of its topic. -/
def offer (message : μ) (s : Subscriber τ μ σ ι) : Subscriber τ μ σ ι :=
  if s.since.isSome ∧ sys.topic message = s.topic then
    { s with pending := s.pending ++ [message] }
  else s

/-- The subscribers move, and a message is passed on to those that were there. -/
def step (b : Broker τ μ σ ι) (event : Event τ μ σ ι α) : Broker τ μ σ ι where
  log := b.log ++ (sys.emitted b event).toList
  subscribers :=
    (b.subscribers.mapIdx (sys.own b.log.length event)).map (fun s =>
      (sys.emitted b event).elim s (fun message => sys.offer message s)) ++ joined event

/-- A subscriber after an event is a new one, or has moved and been offered what
was published. -/
theorem getElem?_step {b : Broker τ μ σ ι} {event : Event τ μ σ ι α} {index : Nat}
    {t : Subscriber τ μ σ ι} (h : (sys.step b event).subscribers[index]? = some t) :
    (index = b.subscribers.length ∧ ∃ topic state, event = .join topic state ∧
        t = { topic, state }) ∨
      ∃ s, b.subscribers[index]? = some s ∧
        t = (sys.emitted b event).elim (sys.own b.log.length event index s)
          (fun message => sys.offer message (sys.own b.log.length event index s)) := by
  unfold step at h
  dsimp only at h
  rw [List.getElem?_append] at h
  split at h
  · right
    rw [List.getElem?_map, List.getElem?_mapIdx, Option.map_map] at h
    obtain ⟨s, hs, rfl⟩ := Option.map_eq_some_iff.1 h
    exact ⟨s, hs, rfl⟩
  · rename_i hlength
    left
    rw [List.length_map, List.length_mapIdx] at h hlength
    cases event with
    | join topic state =>
      have hindex := (List.getElem?_eq_some_iff.1 h).1
      have hzero : index - b.subscribers.length = 0 := Nat.lt_one_iff.1 hindex
      rw [hzero] at h
      cases h
      exact ⟨by omega, topic, state, rfl, rfl⟩
    | establish _ | publish _ | deliver _ _ | act _ _ | lose _ => cases h

theorem step_log (b : Broker τ μ σ ι) (event : Event τ μ σ ι α) :
    (sys.step b event).log = b.log ++ (sys.emitted b event).toList := rfl

/-! ## What a subscriber gets -/

/-- The messages of its topic since the subscription is in place. -/
def due (log : List μ) (s : Subscriber τ μ σ ι) : List μ :=
  s.since.elim [] (fun since => (log.drop since).filter (fun m => sys.topic m = s.topic))

/-- What a subscriber has got so far. -/
def got (s : Subscriber τ μ σ ι) : List μ := s.read.map Prod.fst ++ s.pending

/-- A relation between what a subscriber has got and what it is due. -/
structure Gets (R : List μ → List μ → Prop) (log : List μ) (s : Subscriber τ μ σ ι) : Prop where
  since : ∀ since ∈ s.since, since ≤ log.length
  rel : R (got s) (sys.due log s)

variable {sys} {s : Subscriber τ μ σ ι} {log : List μ}

omit [DecidableEq τ] in
theorem topic_own (length : Nat) (event : Event τ μ σ ι α) (index : Nat) :
    (sys.own length event index s).topic = s.topic := by
  cases event with
  | join _ _ | publish _ => rfl
  | establish j | act j _ | lose j =>
    unfold own
    dsimp only
    split <;> rfl
  | deliver j input =>
    unfold own take
    dsimp only
    split
    · split
      · split <;> rfl
      · rfl
    · rfl

theorem topic_offer (message : μ) : (sys.offer message s).topic = s.topic := by
  unfold offer
  split <;> rfl

theorem since_offer (message : μ) : (sys.offer message s).since = s.since := by
  unfold offer
  split <;> rfl

theorem due_offer (message : μ) : sys.due log (sys.offer message s) = sys.due log s := by
  unfold due
  rw [since_offer, topic_offer]

omit [DecidableEq τ] in
/-- Reading a message is a change of its place. -/
theorem got_take (input : ι) : got (sys.take s input) = got s := by
  unfold take
  split
  · split
    · rfl
    · rename_i message rest hpending
      unfold got
      rw [hpending, List.map_append, List.append_assoc]
      rfl
  · rfl

omit [DecidableEq τ] in
theorem since_take (input : ι) : (sys.take s input).since = s.since := by
  unfold take
  split
  · split <;> rfl
  · rfl

variable (sys) in
/-- A subscriber that moves is due what it was due, and has got what it had,
unless its connection breaks; its subscription can come into place. -/
theorem own_cases (log : List μ) (event : Event τ μ σ ι α) (index : Nat)
    (s : Subscriber τ μ σ ι) :
    ((sys.own log.length event index s).since = s.since ∨
      s.since = none ∧ (sys.own log.length event index s).since = some log.length) ∧
    sys.due log (sys.own log.length event index s) = sys.due log s ∧
    (got (sys.own log.length event index s) = got s ∨
      event = .lose index ∧
        (got (sys.own log.length event index s)).Sublist (got s)) := by
  have hdue : ∀ t : Subscriber τ μ σ ι, t.topic = s.topic → t.since = s.since →
      sys.due log t = sys.due log s := by
    intro t htopic hsince
    unfold due
    rw [htopic, hsince]
  have htopic := @topic_own _ _ _ _ _ sys s log.length event index
  cases event with
  | join _ _ | publish _ => exact ⟨Or.inl rfl, rfl, Or.inl rfl⟩
  | establish j =>
    unfold own
    dsimp only
    split
    · cases hplace : s.since with
      | some since =>
        exact ⟨Or.inl rfl, hdue _ rfl hplace.symm, Or.inl rfl⟩
      | none =>
        refine ⟨Or.inr ⟨rfl, rfl⟩, ?_, Or.inl rfl⟩
        unfold due
        rw [hplace]
        show (log.drop log.length).filter _ = []
        rw [List.drop_length]
        rfl
    · exact ⟨Or.inl rfl, rfl, Or.inl rfl⟩
  | deliver j input =>
    have hown : (sys.own log.length (.deliver j input) index s).since = s.since ∧
        got (sys.own log.length (.deliver j input) index s) = got s := by
      unfold own
      dsimp only
      split
      · exact ⟨since_take input, got_take input⟩
      · exact ⟨rfl, rfl⟩
    exact ⟨Or.inl hown.1, hdue _ htopic hown.1, Or.inl hown.2⟩
  | act j action =>
    have hown : (sys.own log.length (.act j action) index s).since = s.since ∧
        got (sys.own log.length (.act j action) index s) = got s := by
      unfold own
      dsimp only
      split <;> exact ⟨rfl, rfl⟩
    exact ⟨Or.inl hown.1, hdue _ htopic hown.1, Or.inl hown.2⟩
  | lose j =>
    unfold own
    dsimp only
    split
    · rename_i hindex
      rw [hindex]
      refine ⟨Or.inl rfl, hdue _ rfl rfl, Or.inr ⟨rfl, ?_⟩⟩
      exact (List.Sublist.refl _).append (List.nil_sublist _)
    · exact ⟨Or.inl rfl, rfl, Or.inl rfl⟩

/-- What a publication makes due is what is offered. -/
theorem due_append (hsince : ∀ since ∈ s.since, since ≤ log.length) (message : μ) :
    ∃ more, sys.due (log ++ [message]) s = sys.due log s ++ more ∧
      got (sys.offer message s) = got s ++ more := by
  unfold due offer
  cases hplace : s.since with
  | none => exact ⟨[], rfl, by rw [if_neg (by simp), List.append_nil]⟩
  | some since =>
    dsimp only [Option.elim]
    rw [List.drop_append_of_le_length (hsince since (by rw [hplace]; rfl)), List.filter_append]
    refine ⟨_, rfl, ?_⟩
    by_cases htopic : sys.topic message = s.topic
    · have hkept : [message].filter (fun m => decide (sys.topic m = s.topic)) = [message] :=
        List.filter_eq_self.2 (fun m hmem => by
          rw [List.mem_singleton.1 hmem]
          exact decide_eq_true htopic)
      rw [if_pos ⟨rfl, htopic⟩, hkept]
      exact (List.append_assoc _ _ _).symm
    · have hnone : [message].filter (fun m => decide (sys.topic m = s.topic)) = [] :=
        List.filter_eq_nil_iff.2 (fun m hmem hdec => htopic (by
          rw [List.mem_singleton.1 hmem] at hdec
          exact of_decide_eq_true hdec))
      rw [if_neg (fun hboth => htopic hboth.2), hnone, List.append_nil]

namespace Gets

variable {R : List μ → List μ → Prop}

theorem offer (happend : ∀ a b c, R a b → R (a ++ c) (b ++ c)) (h : sys.Gets R log s)
    (message : μ) : sys.Gets R (log ++ [message]) (sys.offer message s) := by
  obtain ⟨more, hdue, hgot⟩ := due_append h.since message
  refine ⟨fun since hmem => ?_, ?_⟩
  · rw [since_offer] at hmem
    rw [List.length_append]
    exact Nat.le_trans (h.since since hmem) (Nat.le_add_right _ _)
  · rw [hgot, due_offer, hdue]
    exact happend _ _ more h.rel

theorem own {event : Event τ μ σ ι α} {index : Nat}
    (hlose : event = .lose index → ∀ a b c, List.Sublist a b → R b c → R a c)
    (h : sys.Gets R log s) : sys.Gets R log (sys.own log.length event index s) := by
  obtain ⟨hsince, hdue, hgot⟩ := sys.own_cases log event index s
  refine ⟨fun since hmem => ?_, ?_⟩
  · rcases hsince with heq | ⟨-, heq⟩
    · rw [heq] at hmem
      exact h.since since hmem
    · rw [heq] at hmem
      cases hmem
      exact Nat.le_refl _
  · rw [hdue]
    rcases hgot with heq | ⟨hevent, hless⟩
    · rw [heq]
      exact h.rel
    · exact hlose hevent _ _ _ hless h.rel

/-- What a subscriber has got stays related to what it is due, if publications
keep the relation, and broken connections do. -/
theorem step (hnil : R [] []) (happend : ∀ a b c, R a b → R (a ++ c) (b ++ c))
    {event : Event τ μ σ ι α} {index : Nat}
    (hlose : event = .lose index → ∀ a b c, List.Sublist a b → R b c → R a c)
    {b : Broker τ μ σ ι} (h : ∀ s, b.subscribers[index]? = some s → sys.Gets R b.log s)
    {t : Subscriber τ μ σ ι} (ht : (sys.step b event).subscribers[index]? = some t) :
    sys.Gets R (sys.step b event).log t := by
  rw [step_log]
  rcases sys.getElem?_step ht with ⟨-, topic, state, rfl, rfl⟩ | ⟨s, hs, rfl⟩
  · exact ⟨nofun, hnil⟩
  · have hown := (h s hs).own hlose
    cases sys.emitted b event with
    | none =>
      rw [Option.toList_none, List.append_nil]
      exact hown
    | some message => exact hown.offer happend message

end Gets

/-! ## Runs -/

/-- The broker after the events. -/
def after (sys : System τ μ σ ι α) (events : List (Event τ μ σ ι α)) : Broker τ μ σ ι :=
  Transition.after sys.step {} events

theorem after_concat (events : List (Event τ μ σ ι α)) (event : Event τ μ σ ι α) :
    sys.after (events ++ [event]) = sys.step (sys.after events) event :=
  Transition.after_append _ _ _

theorem Gets.after {R : List μ → List μ → Prop} (hnil : R [] [])
    (happend : ∀ a b c, R a b → R (a ++ c) (b ++ c)) {events : List (Event τ μ σ ι α)}
    {index : Nat} (hlose : .lose index ∈ events → ∀ a b c, List.Sublist a b → R b c → R a c)
    (hs : (sys.after events).subscribers[index]? = some s) :
    sys.Gets R (sys.after events).log s := by
  induction events using List.reverseRecOn generalizing s with
  | nil => cases hs
  | append_singleton events event ih =>
    rw [after_concat] at hs ⊢
    refine Gets.step hnil happend (fun heq => hlose ?_) (fun _ hold => ih ?_ hold) hs
    · rw [heq]
      exact List.mem_append_right _ (List.mem_singleton_self _)
    · exact fun hmem => hlose (List.mem_append_left _ hmem)

/-- No message reaches a subscriber that it is not due, twice, or out of order. -/
theorem after_sublist {events : List (Event τ μ σ ι α)} {index : Nat}
    (hs : (sys.after events).subscribers[index]? = some s) :
    (got s).Sublist (sys.due (sys.after events).log s) :=
  (Gets.after (List.Sublist.refl []) (fun _ _ c h => h.append_right c)
    (fun _ _ _ _ hless h => hless.trans h) hs).rel

/-- A subscriber whose connection never breaks gets all that it is due. -/
theorem after_eq {events : List (Event τ μ σ ι α)} {index : Nat} (hkeeps : .lose index ∉ events)
    (hs : (sys.after events).subscribers[index]? = some s) :
    got s = sys.due (sys.after events).log s :=
  (Gets.after rfl (fun _ _ c h => congrArg (· ++ c) h) (fun hmem => absurd hmem hkeeps) hs).rel

/-! ## Rules -/

section Rules

variable {I : τ → σ → List (μ × ι) → Prop} {events : List (Event τ μ σ ι α)}

/-- What holds of a new subscriber, after each message that it reads, and after
each of its actions. -/
theorem after_state (hjoin : ∀ topic state, .join topic state ∈ events → I topic state [])
    (hreceive : ∀ topic state read message input, sys.listens state = true →
      I topic state read → I topic (sys.receive state message input) (read ++ [(message, input)]))
    (hact : ∀ topic state read action, I topic state read →
      I topic (sys.act state action).1 read) {index : Nat}
    (hs : (sys.after events).subscribers[index]? = some s) : I s.topic s.state s.read := by
  induction events using List.reverseRecOn generalizing s with
  | nil => cases hs
  | append_singleton events event ih =>
    rw [after_concat] at hs
    rcases sys.getElem?_step hs with ⟨-, topic, state, rfl, rfl⟩ | ⟨old, hthere, rfl⟩
    · exact hjoin topic state (by simp)
    · have hown : I (sys.own (sys.after events).log.length event index old).topic
          (sys.own (sys.after events).log.length event index old).state
          (sys.own (sys.after events).log.length event index old).read := by
        have hold := ih (fun topic state hmem => hjoin topic state (List.mem_append_left _ hmem))
          hthere
        rw [topic_own]
        cases event with
        | join _ _ | publish _ => exact hold
        | establish j | lose j =>
          unfold own
          dsimp only
          split <;> exact hold
        | act j action =>
          unfold own
          dsimp only
          split
          · exact hact _ _ _ action hold
          · exact hold
        | deliver j input =>
          unfold own take
          dsimp only
          split
          · split
            · rename_i hlistens
              split
              · exact hold
              · exact hreceive _ _ _ _ input hlistens hold
            · exact hold
          · exact hold
      cases sys.emitted (sys.after events) event with
      | none => exact hown
      | some message =>
        show I (sys.offer message _).topic (sys.offer message _).state (sys.offer message _).read
        unfold offer
        split <;> exact hown

/-- What holds of the messages that are published, and of those that a subscriber
publishes in its state. -/
theorem after_log {P : μ → Prop}
    (hstate : ∀ earlier, earlier <+: events → ∀ s ∈ (sys.after earlier).subscribers,
      ∀ action message, (sys.act s.state action).2 = some message → P message)
    (hpublish : ∀ message, .publish message ∈ events → P message) :
    ∀ message ∈ (sys.after events).log, P message := by
  induction events using List.reverseRecOn with
  | nil => exact fun _ hmem => absurd hmem List.not_mem_nil
  | append_singleton events event ih =>
    intro message hmem
    rw [after_concat, step_log, List.mem_append] at hmem
    rcases hmem with hold | hnew
    · exact ih (fun earlier hearlier => hstate earlier (hearlier.trans (List.prefix_append _ _)))
        (fun other hother => hpublish other (List.mem_append_left _ hother)) message hold
    · have hemitted := Option.mem_toList.1 hnew
      cases event with
      | publish other =>
        cases hemitted
        exact hpublish message (by simp)
      | act j action =>
        obtain ⟨s, hs, hact⟩ := Option.bind_eq_some_iff.1 hemitted
        exact hstate events (List.prefix_append _ _) s (List.mem_of_getElem? hs) action message
          hact
      | join _ _ | establish _ | deliver _ _ | lose _ => cases hemitted

end Rules

end System

end PubSub
