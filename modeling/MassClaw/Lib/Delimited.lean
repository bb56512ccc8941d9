import Mathlib.Data.List.Basic
import Mathlib.Tactic.Common

/-!
# Texts that can be told apart by reading from the front

Two texts are read apart when an input that starts with either of them, with a
delimiter or the end after it, tells which of the two it starts with.  A text
that marks its own end needs no delimiter after it.

`Reads delimiter P a b` states this for one pair of texts: inputs that start
with `a` and with `b` are equal only if `P` holds and the rests are equal.  The
property is closed under concatenation, repetition up to a closing symbol, and
lists with a separator, so an encoder is injective as soon as its parts are.
-/

namespace Delimited

universe u v

variable {α : Type u} {delimiter : α → Prop} {P Q : Prop} {a b a' b' : List α}

/-- The end, or a delimiter. -/
def Stops (delimiter : α → Prop) (rest : List α) : Prop := ∀ c ∈ rest.head?, delimiter c

theorem stops_nil : Stops delimiter [] := by
  intro c hc
  cases hc

theorem stops_cons {c : α} (h : delimiter c) (rest : List α) : Stops delimiter (c :: rest) := by
  intro d hd
  obtain rfl : c = d := by simpa using hd
  exact h

/-- No input starts with both texts, unless `P` holds and what follows them is
the same. -/
def Reads (delimiter : α → Prop) (P : Prop) (a b : List α) : Prop :=
  ∀ rest rest', Stops delimiter rest → Stops delimiter rest' → a ++ rest = b ++ rest' →
    P ∧ rest = rest'

/-- Texts that mark their own end. -/
abbrev ReadsSelf (P : Prop) (a b : List α) : Prop := Reads (fun _ => True) P a b

namespace Reads

theorem imp (h : Reads delimiter P a b) (hPQ : P → Q) : Reads delimiter Q a b := by
  intro rest rest' hstop hstop' heq
  obtain ⟨hP, hrest⟩ := h rest rest' hstop hstop' heq
  exact ⟨hPQ hP, hrest⟩

/-- Whoever needs no delimiter can have one. -/
theorem of_self (h : ReadsSelf P a b) : Reads delimiter P a b := by
  intro rest rest' _ _ heq
  exact h rest rest' (fun _ _ => trivial) (fun _ _ => trivial) heq

/-- A text tells what holds anyway. -/
theorem refl (h : P) (a : List α) : Reads delimiter P a a := by
  intro rest rest' _ _ heq
  exact ⟨h, List.append_cancel_left heq⟩

/-- Read to the end of the input. -/
theorem of_eq (h : Reads delimiter P a b) (heq : a = b) : P :=
  (h [] [] stops_nil stops_nil (by rw [heq])).1

/-- Texts that start differently. -/
theorem of_head {c d : α} (h : c ≠ d) : Reads delimiter P (c :: a) (d :: b) := by
  intro rest rest' _ _ heq
  simp only [List.cons_append, List.cons.injEq] at heq
  exact absurd heq.1 h

/-- Texts without delimiters in them. -/
theorem of_free (ha : ∀ c ∈ a, ¬delimiter c) (hb : ∀ c ∈ b, ¬delimiter c) :
    Reads delimiter (a = b) a b := by
  intro rest rest' hstop hstop' heq
  induction a generalizing b with
  | nil =>
    cases b with
    | nil => exact ⟨rfl, heq⟩
    | cons d b =>
      have hhead : rest.head? = some d := by
        rw [← List.nil_append rest, heq]
        rfl
      exact absurd (hstop d hhead) (hb d List.mem_cons_self)
  | cons c a ih =>
    cases b with
    | nil =>
      have hhead : rest'.head? = some c := by
        rw [← List.nil_append rest', ← heq]
        rfl
      exact absurd (hstop' c hhead) (ha c List.mem_cons_self)
    | cons d b =>
      simp only [List.cons_append, List.cons.injEq] at heq
      obtain ⟨hab, hrest⟩ := ih (fun x hx => ha x (List.mem_cons_of_mem c hx))
        (fun x hx => hb x (List.mem_cons_of_mem d hx)) heq.2
      exact ⟨by rw [heq.1, hab], hrest⟩

/-- Two texts with a separator behind them that is not in them. -/
theorem append_cons_inj {sep : α} {rest rest' : List α} (ha : sep ∉ a) (hb : sep ∉ b)
    (h : a ++ sep :: rest = b ++ sep :: rest') : a = b ∧ rest = rest' := by
  have hreads : Reads (fun c => c = sep) (a = b) a b :=
    of_free (fun c hc heq => ha (heq ▸ hc)) (fun c hc heq => hb (heq ▸ hc))
  have hstops : ∀ rest, Stops (fun c => c = sep) (sep :: rest) := by
    intro rest
    apply stops_cons
    rfl
  obtain ⟨hsame, hrest⟩ := hreads _ _ (hstops rest) (hstops rest') h
  exact ⟨hsame, (List.cons.inj hrest).2⟩

/-- One text after another, which starts with a delimiter of the first. -/
theorem append_stops {delimiter' : α → Prop} (h : Reads delimiter P a b)
    (h' : Reads delimiter' Q a' b') (ha : ∀ rest, Stops delimiter (a' ++ rest))
    (hb : ∀ rest, Stops delimiter (b' ++ rest)) :
    Reads delimiter' (P ∧ Q) (a ++ a') (b ++ b') := by
  intro rest rest' hstop hstop' heq
  rw [List.append_assoc, List.append_assoc] at heq
  obtain ⟨hP, htail⟩ := h _ _ (ha rest) (hb rest') heq
  obtain ⟨hQ, hrest⟩ := h' rest rest' hstop hstop' htail
  exact ⟨⟨hP, hQ⟩, hrest⟩

/-- One text after another. -/
theorem append (h : ReadsSelf P a b) (h' : Reads delimiter Q a' b') :
    Reads delimiter (P ∧ Q) (a ++ a') (b ++ b') :=
  h.append_stops h' (fun _ _ _ => trivial) (fun _ _ _ => trivial)

theorem cons (c : α) (h : Reads delimiter P a b) : Reads delimiter P (c :: a) (c :: b) := by
  intro rest rest' hstop hstop' heq
  simp only [List.cons_append, List.cons.injEq, true_and] at heq
  exact h rest rest' hstop hstop' heq

variable {β : Type v} {γ : Type v}

/-- Codes up to a closing symbol that none of them starts with. -/
theorem flatMap {f : β → List α} {close : α}
    (hf : ∀ x y, ReadsSelf (x = y) (f x) (f y)) (hstart : ∀ x, ∃ c rest, f x = c :: rest ∧ c ≠ close)
    (xs ys : List β) :
    ReadsSelf (xs = ys) (xs.flatMap f ++ [close]) (ys.flatMap f ++ [close]) := by
  induction xs generalizing ys with
  | nil =>
    cases ys with
    | nil => exact refl rfl _
    | cons y ys =>
      obtain ⟨c, code, hcode, hne⟩ := hstart y
      rw [List.flatMap_cons, hcode]
      exact of_head (fun h => hne h.symm)
  | cons x xs ih =>
    cases ys with
    | nil =>
      obtain ⟨c, code, hcode, hne⟩ := hstart x
      rw [List.flatMap_cons, hcode]
      exact of_head hne
    | cons y ys =>
      rw [List.flatMap_cons, List.flatMap_cons, List.append_assoc, List.append_assoc]
      exact (append (hf x y) (ih ys)).imp (fun h => by rw [h.1, h.2])

/-- A list with a separator is its first part and then the others, each after a
separator. -/
theorem intercalate_cons (separator part : List α) (parts : List (List α)) :
    separator.intercalate (part :: parts) = part ++ parts.flatMap (separator ++ ·) := by
  induction parts generalizing part with
  | nil => simp
  | cons next parts ih =>
    rw [List.intercalate_cons_cons, ih, List.flatMap_cons]
    simp only [List.append_assoc]

section Lists

variable {f : β → List α} {g : γ → List α} {R : β → γ → Prop} {separator close : α}
  {xs : List β} {ys : List γ}

/-- The rest of a list starts with the separator or with the closing symbol. -/
theorem stops_rest (hseparator : delimiter separator) (hclose : delimiter close)
    (xs : List β) (rest : List α) :
    Stops delimiter ((xs.map f).flatMap ([separator] ++ ·) ++ [close] ++ rest) := by
  cases xs with
  | nil => exact stops_cons hclose rest
  | cons x xs => exact stops_cons hseparator _

/-- The parts of a list after the first. -/
theorem rest (hseparator : delimiter separator) (hclose : delimiter close)
    (hne : separator ≠ close)
    (hparts : ∀ x ∈ xs, ∀ y ∈ ys, Reads delimiter (R x y) (f x) (g y)) :
    ReadsSelf (List.Forall₂ R xs ys) ((xs.map f).flatMap ([separator] ++ ·) ++ [close])
      ((ys.map g).flatMap ([separator] ++ ·) ++ [close]) := by
  induction xs generalizing ys with
  | nil =>
    cases ys with
    | nil => exact refl List.Forall₂.nil _
    | cons y ys => exact of_head (fun h => hne h.symm)
  | cons x xs ih =>
    cases ys with
    | nil => exact of_head hne
    | cons y ys =>
      have hfirst := hparts x List.mem_cons_self y List.mem_cons_self
      have hrest : ∀ x ∈ xs, ∀ y ∈ ys, Reads delimiter (R x y) (f x) (g y) :=
        fun x hx y hy => hparts x (List.mem_cons_of_mem _ hx) y (List.mem_cons_of_mem _ hy)
      have hothers := ih hrest
      have hboth := hfirst.append_stops hothers (stops_rest hseparator hclose xs)
        (stops_rest hseparator hclose ys)
      simp only [List.map_cons, List.flatMap_cons, List.cons_append, List.append_assoc] at hboth ⊢
      exact (hboth.cons separator).imp (fun h => List.Forall₂.cons h.1 h.2)

/-- Lists with a separator, up to a closing symbol that no part starts with.
The parts may need a delimiter after them, which the separator and the closing
symbol are. -/
theorem intercalate (hseparator : delimiter separator) (hclose : delimiter close)
    (hne : separator ≠ close)
    (hparts : ∀ x ∈ xs, ∀ y ∈ ys, Reads delimiter (R x y) (f x) (g y))
    (hf : ∀ x ∈ xs, ∃ c part, f x = c :: part ∧ c ≠ close)
    (hg : ∀ y ∈ ys, ∃ c part, g y = c :: part ∧ c ≠ close) :
    ReadsSelf (List.Forall₂ R xs ys) ([separator].intercalate (xs.map f) ++ [close])
      ([separator].intercalate (ys.map g) ++ [close]) := by
  cases xs with
  | nil =>
    cases ys with
    | nil => exact refl List.Forall₂.nil _
    | cons y ys =>
      obtain ⟨c, part, hpart, hc⟩ := hg y List.mem_cons_self
      rw [List.map_cons, intercalate_cons, hpart]
      exact of_head (fun h => hc h.symm)
  | cons x xs =>
    cases ys with
    | nil =>
      obtain ⟨c, part, hpart, hc⟩ := hf x List.mem_cons_self
      rw [List.map_cons, intercalate_cons, hpart]
      exact of_head hc
    | cons y ys =>
      have hrest : ∀ x ∈ xs, ∀ y ∈ ys, Reads delimiter (R x y) (f x) (g y) :=
        fun x hx y hy => hparts x (List.mem_cons_of_mem _ hx) y (List.mem_cons_of_mem _ hy)
      have hothers := rest hseparator hclose hne hrest
      have hfirst := hparts x List.mem_cons_self y List.mem_cons_self
      rw [List.map_cons, List.map_cons, intercalate_cons, intercalate_cons, List.append_assoc,
        List.append_assoc]
      exact (hfirst.append_stops hothers (stops_rest hseparator hclose xs)
        (stops_rest hseparator hclose ys)).imp (fun h => List.Forall₂.cons h.1 h.2)

end Lists

end Reads

end Delimited
