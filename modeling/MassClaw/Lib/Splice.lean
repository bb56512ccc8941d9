import Mathlib.Data.List.Sort
import Mathlib.Tactic.Common

/-!
# Ranges of a text replaced by tokens, one after the other

Each edit cuts its range out of the list as the earlier edits left it, by
positions of the original text.  Edits taken from the right do not disturb each
other while their ranges are apart; where ranges overlap, an edit can cut into
the token of an earlier one, or into text that no range covers.

What became of the text can be told when every symbol carries its origin: a
position of the text, or an offset in a token.  `Redacts` says on such cells that
each covered region has become whole tokens and everything else is as it was, and
`redacts_marked_iff` says by the lengths alone when that is so.

Nothing here mentions a particular program.
-/

namespace Splice

universe u v w

variable {τ : Type u} {β : Type v} {γ : Type w}

/-- A range of a text and the token that is to stand for it. -/
structure Edit (τ : Type u) where
  start : Nat
  stop : Nat
  token : τ
  deriving DecidableEq

/-- One edit on what the list is now. -/
def splice (symbols : τ → List β) (content : List β) (e : Edit τ) : List β :=
  content.take e.start ++ symbols e.token ++ content.drop e.stop

/-- The edits in the order of the list. -/
def spliceAll (symbols : τ → List β) (content : List β) (edits : List (Edit τ)) : List β :=
  edits.foldl (splice symbols) content

theorem spliceAll_concat (symbols : τ → List β) (content : List β) (edits : List (Edit τ))
    (e : Edit τ) :
    spliceAll symbols content (edits ++ [e]) = splice symbols (spliceAll symbols content edits) e := by
  simp [spliceAll]

/-- Cutting does not look at the symbols. -/
theorem map_spliceAll (f : β → γ) (symbols : τ → List β) (content : List β)
    (edits : List (Edit τ)) :
    (spliceAll symbols content edits).map f =
      spliceAll (fun t => (symbols t).map f) (content.map f) edits := by
  induction edits generalizing content with
  | nil => rfl
  | cons e rest ih =>
    simp only [spliceAll, List.foldl_cons] at ih ⊢
    rw [ih]
    simp [splice]

/-! ## Symbols with their origin -/

/-- A symbol of the text, or one of a token. -/
inductive Cell (τ : Type u) where
  | text (position : Nat)
  | token (t : τ) (offset : Nat)
  deriving DecidableEq

/-- The text from `a` up to `b`. -/
def texts (a b : Nat) : List (Cell τ) := (List.range' a (b - a)).map Cell.text

/-- A whole token. -/
def tokenCells (width : τ → Nat) (t : τ) : List (Cell τ) :=
  (List.range (width t)).map (Cell.token t)

/-- The symbol at a cell. -/
def symbol (symbols : τ → List β) (content : List β) : Cell τ → Option β
  | .text position => content[position]?
  | .token t offset => (symbols t)[offset]?

theorem texts_self (a : Nat) : (texts a a : List (Cell τ)) = [] := by
  simp [texts]

theorem texts_cons {a b : Nat} (h : a < b) :
    (texts a b : List (Cell τ)) = Cell.text a :: texts (a + 1) b := by
  have hlength : b - a = (b - (a + 1)) + 1 := by omega
  rw [texts, hlength, List.range'_succ]
  rfl

@[simp]
theorem length_texts (a b : Nat) : (texts a b : List (Cell τ)).length = b - a := by
  simp [texts]

@[simp]
theorem length_tokenCells (width : τ → Nat) (t : τ) : (tokenCells width t).length = width t := by
  simp [tokenCells]

theorem texts_append {a b c : Nat} (hab : a ≤ b) (hbc : b ≤ c) :
    (texts a b ++ texts b c : List (Cell τ)) = texts a c := by
  have hmiddle : a + (b - a) = b := by omega
  have hlength : b - a + (c - b) = c - a := by omega
  have happend := List.range'_append_1 (s := a) (m := b - a) (n := c - b)
  rw [hmiddle, hlength] at happend
  rw [texts, texts, texts, ← List.map_append, happend]

theorem drop_texts (a b k : Nat) : (texts a b : List (Cell τ)).drop k = texts (a + k) b := by
  have hsub : b - a - k = b - (a + k) := by omega
  rw [texts, ← List.map_drop, List.drop_range', hsub, Nat.mul_one]
  rfl

theorem take_texts_append (s : Nat) (tail : List (Cell τ)) :
    (texts 0 s ++ tail).take s = texts 0 s := by
  apply List.take_left'
  simp

theorem drop_texts_append {s m : Nat} (h : s ≤ m) (tail : List (Cell τ)) :
    (texts 0 s ++ tail).drop m = tail.drop (m - s) := by
  rw [List.drop_append, length_texts, List.drop_eq_nil_of_le (by simpa using h), List.nil_append,
    Nat.sub_zero]

theorem mem_texts {a b p : Nat} : Cell.text p ∈ (texts a b : List (Cell τ)) ↔ a ≤ p ∧ p < b := by
  simp only [texts, List.mem_map, Cell.text.injEq, exists_eq_right, List.mem_range'_1]
  omega

theorem text_notMem_tokenCells (width : τ → Nat) (t : τ) (p : Nat) :
    Cell.text p ∉ tokenCells width t := by
  simp [tokenCells]

theorem tokenCells_cons {width : τ → Nat} {t : τ} (h : 0 < width t) :
    ∃ rest, tokenCells width t = Cell.token t 0 :: rest := by
  obtain ⟨k, hk⟩ := Nat.exists_eq_succ_of_ne_zero h.ne'
  exact ⟨_, by rw [tokenCells, hk, List.range_succ_eq_map, List.map_cons]⟩

theorem map_symbol_texts (symbols : τ → List β) (content : List β) :
    (texts 0 content.length).map (symbol symbols content) = content.map some := by
  apply List.ext_getElem
  · simp
  · intro i h h'
    simp [texts, symbol]

theorem map_symbol_tokenCells (symbols : τ → List β) (content : List β) (t : τ) :
    (tokenCells (fun t => (symbols t).length) t).map (symbol symbols content) =
      (symbols t).map some := by
  apply List.ext_getElem
  · simp
  · intro i h h'
    simp [tokenCells, symbol]

/-- The symbols that the edits leave are those of the cells that they leave. -/
theorem map_symbol_spliceAll (symbols : τ → List β) (content : List β) (edits : List (Edit τ)) :
    (spliceAll (tokenCells (fun t => (symbols t).length)) (texts 0 content.length) edits).map
        (symbol symbols content) =
      (spliceAll symbols content edits).map some := by
  rw [map_spliceAll, map_spliceAll, map_symbol_texts]
  congr 1
  funext t
  exact map_symbol_tokenCells symbols content t

/-! ## Each covered region as whole tokens -/

/-- A position that some range covers. -/
def Covered (edits : List (Edit τ)) (i : Nat) : Prop := ∃ e ∈ edits, e.start ≤ i ∧ i < e.stop

instance (edits : List (Edit τ)) (i : Nat) : Decidable (Covered edits i) :=
  inferInstanceAs (Decidable (∃ e ∈ edits, e.start ≤ i ∧ i < e.stop))

theorem covered_cons {e : Edit τ} {edits : List (Edit τ)} {i : Nat} :
    Covered (e :: edits) i ↔ (e.start ≤ i ∧ i < e.stop) ∨ Covered edits i := by
  simp [Covered]

theorem le_of_covered {edits : List (Edit τ)} {k i : Nat} (h : ∀ e ∈ edits, k ≤ e.start)
    (hi : Covered edits i) : k ≤ i := by
  obtain ⟨e, he, hle, -⟩ := hi
  exact (h e he).trans hle

/-- The cells are the text of length `n` from `p` on, where each maximal covered
region has become whole tokens, at least one. -/
inductive Redacts (width : τ → Nat) (covered : Nat → Prop) (n : Nat) : Nat → List (Cell τ) → Prop
  | done : Redacts width covered n n []
  | text {p : Nat} {cells : List (Cell τ)} (hlt : p < n) (hopen : ¬covered p)
      (hrest : Redacts width covered n (p + 1) cells) :
      Redacts width covered n p (Cell.text p :: cells)
  | region {p q : Nat} {tokens : List τ} {cells : List (Cell τ)} (hlt : p < q) (hle : q ≤ n)
      (hcovered : ∀ i, p ≤ i → i < q → covered i) (hend : q = n ∨ ¬covered q)
      (htokens : tokens ≠ []) (hrest : Redacts width covered n q cells) :
      Redacts width covered n p (tokens.flatMap (tokenCells width) ++ cells)

/-- The cells go on behind some token of the region that reaches at least to `a`. -/
def InRegion (width : τ → Nat) (covered : Nat → Prop) (n a : Nat) (cells : List (Cell τ)) : Prop :=
  ∃ (tokens : List τ) (rest : List (Cell τ)) (q : Nat), cells = tokens.flatMap (tokenCells width) ++ rest ∧ a ≤ q ∧ q ≤ n ∧
    (∀ i, a ≤ i → i < q → covered i) ∧ (q = n ∨ ¬covered q) ∧ Redacts width covered n q rest

section Redacts

variable {width : τ → Nat} {covered : Nat → Prop} {n a b s p : Nat} {cells : List (Cell τ)} {t : τ}

theorem Redacts.le (h : Redacts width covered n p cells) : p ≤ n := by
  cases h with
  | done => exact le_refl n
  | text hlt => exact hlt.le
  | region hlt hle => omega

theorem Redacts.text_mem (h : Redacts width covered n p cells) (hlt : p < n) (hopen : ¬covered p) :
    Cell.text p ∈ cells := by
  cases h with
  | done => omega
  | text => exact List.mem_cons_self
  | region hpq _ hcovered => exact absurd (hcovered p (le_refl p) hpq) hopen

/-- A region starts with the first symbol of a token. -/
theorem flatMap_tokenCells_cons (hwidth : ∀ t, 0 < width t) {tokens : List τ} (h : tokens ≠ [])
    (cells : List (Cell τ)) :
    ∃ t rest, tokens.flatMap (tokenCells width) ++ cells = Cell.token t 0 :: rest := by
  obtain ⟨t, rest, rfl⟩ := List.exists_cons_of_ne_nil h
  obtain ⟨tail, htail⟩ := tokenCells_cons (hwidth t)
  exact ⟨t, _, by rw [List.flatMap_cons, htail]; rfl⟩

theorem redacts_text_iff (hwidth : ∀ t, 0 < width t) :
    Redacts width covered n a (Cell.text b :: cells) ↔
      a = b ∧ b < n ∧ ¬covered b ∧ Redacts width covered n (b + 1) cells := by
  constructor
  · intro h
    generalize hall : Cell.text b :: cells = all at h
    cases h with
    | done => exact absurd hall (List.cons_ne_nil _ _)
    | text hlt hopen hrest =>
      simp only [List.cons.injEq, Cell.text.injEq] at hall
      obtain ⟨rfl, rfl⟩ := hall
      exact ⟨rfl, hlt, hopen, hrest⟩
    | @region _ _ tokens rest _ _ _ _ htokens _ =>
      obtain ⟨t, tail, htail⟩ := flatMap_tokenCells_cons hwidth htokens rest
      simp [htail] at hall
  · rintro ⟨rfl, hlt, hopen, hrest⟩
    exact Redacts.text hlt hopen hrest

/-- No token can be cut in front. -/
theorem not_redacts_fragment (hwidth : ∀ t, 0 < width t) {offset : Nat} (h : 0 < offset) :
    ¬Redacts width covered n a (Cell.token t offset :: cells) := by
  intro hredacts
  generalize hall : Cell.token t offset :: cells = all at hredacts
  cases hredacts with
  | done => exact absurd hall (List.cons_ne_nil _ _)
  | text => simp at hall
  | @region _ _ tokens rest _ _ _ _ htokens _ =>
    obtain ⟨t', tail, htail⟩ := flatMap_tokenCells_cons hwidth htokens rest
    simp only [htail, List.cons.injEq, Cell.token.injEq] at hall
    omega

theorem not_inRegion_fragment (hwidth : ∀ t, 0 < width t) {offset : Nat} (h : 0 < offset) :
    ¬InRegion width covered n a (Cell.token t offset :: cells) := by
  rintro ⟨tokens, rest, q, heq, -, -, -, -, hrest⟩
  cases tokens with
  | nil =>
    rw [List.flatMap_nil, List.nil_append] at heq
    rw [← heq] at hrest
    exact not_redacts_fragment hwidth h hrest
  | cons t' tokens =>
    obtain ⟨t'', tail, htail⟩ := flatMap_tokenCells_cons hwidth (List.cons_ne_nil t' tokens) rest
    simp only [htail, List.cons.injEq, Cell.token.injEq] at heq
    omega

/-- The same token on both sides. -/
theorem tokenCells_append_inj (hwidth : ∀ t, 0 < width t) {t' : τ} {rest : List (Cell τ)}
    (h : tokenCells width t ++ cells = tokenCells width t' ++ rest) : t = t' ∧ cells = rest := by
  obtain ⟨tail, htail⟩ := tokenCells_cons (hwidth t)
  obtain ⟨tail', htail'⟩ := tokenCells_cons (hwidth t')
  have hhead : t = t' := by
    have := congrArg List.head? h
    simpa [htail, htail'] using this
  subst hhead
  exact ⟨rfl, List.append_cancel_left h⟩

/-- A token opens a region. -/
theorem redacts_token_iff (hwidth : ∀ t, 0 < width t) :
    Redacts width covered n p (tokenCells width t ++ cells) ↔
      p < n ∧ covered p ∧ InRegion width covered n p cells := by
  constructor
  · intro h
    generalize hall : tokenCells width t ++ cells = all at h
    obtain ⟨tail, htail⟩ := tokenCells_cons (hwidth t)
    cases h with
    | done => simp [htail] at hall
    | text => simp [htail] at hall
    | @region _ q tokens rest hlt hle hcovered hend htokens hrest =>
      obtain ⟨t', tokens, rfl⟩ := List.exists_cons_of_ne_nil htokens
      rw [List.flatMap_cons, List.append_assoc] at hall
      obtain ⟨-, hcells⟩ := tokenCells_append_inj hwidth hall
      exact ⟨by omega, hcovered p (le_refl p) hlt,
        tokens, rest, q, hcells, hlt.le, hle, hcovered, hend, hrest⟩
  · rintro ⟨hlt, hp, tokens, rest, q, rfl, hle, hqn, hcovered, hend, hrest⟩
    have hpq : p < q := by
      rcases hend with rfl | hopen
      · exact hlt
      · apply lt_of_le_of_ne hle
        rintro rfl
        exact hopen hp
    have hregion := Redacts.region hpq hqn hcovered hend (List.cons_ne_nil t tokens) hrest
    rwa [List.flatMap_cons, List.append_assoc] at hregion

/-- A further token in the region. -/
theorem inRegion_token_iff (hwidth : ∀ t, 0 < width t) :
    InRegion width covered n a (tokenCells width t ++ cells) ↔ InRegion width covered n a cells := by
  constructor
  · rintro ⟨tokens, rest, q, heq, hle, hqn, hcovered, hend, hrest⟩
    cases tokens with
    | nil =>
      rw [List.flatMap_nil, List.nil_append] at heq
      rw [← heq, redacts_token_iff hwidth] at hrest
      obtain ⟨hlt, hq, -⟩ := hrest
      rcases hend with rfl | hopen
      · omega
      · exact absurd hq hopen
    | cons t' tokens =>
      rw [List.flatMap_cons, List.append_assoc] at heq
      obtain ⟨-, hcells⟩ := tokenCells_append_inj hwidth heq
      exact ⟨tokens, rest, q, hcells, hle, hqn, hcovered, hend, hrest⟩
  · rintro ⟨tokens, rest, q, rfl, hrest⟩
    exact ⟨t :: tokens, rest, q, by rw [List.flatMap_cons, List.append_assoc], hrest⟩

theorem redacts_nil_iff (hwidth : ∀ t, 0 < width t) :
    Redacts width covered n a [] ↔ a = n := by
  constructor
  · intro h
    generalize hall : ([] : List (Cell τ)) = all at h
    cases h with
    | done => rfl
    | text => cases hall
    | @region _ _ tokens rest _ _ _ _ htokens _ =>
      obtain ⟨t, tail, htail⟩ := flatMap_tokenCells_cons hwidth htokens rest
      rw [htail] at hall
      cases hall
  · rintro rfl
    exact Redacts.done

theorem inRegion_nil_iff (hwidth : ∀ t, 0 < width t) :
    InRegion width covered n a [] ↔ a ≤ n ∧ ∀ i, a ≤ i → i < n → covered i := by
  constructor
  · rintro ⟨tokens, rest, q, heq, hle, -, hcovered, -, hrest⟩
    obtain ⟨-, rfl⟩ := List.append_eq_nil_iff.1 heq.symm
    rw [redacts_nil_iff hwidth] at hrest
    subst hrest
    exact ⟨hle, hcovered⟩
  · rintro ⟨hle, hcovered⟩
    exact ⟨[], [], n, rfl, hle, le_refl n, hcovered, Or.inl rfl, Redacts.done⟩

/-- Text ends the region. -/
theorem inRegion_text_iff (hwidth : ∀ t, 0 < width t) :
    InRegion width covered n a (Cell.text b :: cells) ↔
      a ≤ b ∧ (∀ i, a ≤ i → i < b → covered i) ∧
        Redacts width covered n b (Cell.text b :: cells) := by
  constructor
  · rintro ⟨tokens, rest, q, heq, hle, -, hcovered, -, hrest⟩
    cases tokens with
    | nil =>
      rw [List.flatMap_nil, List.nil_append] at heq
      subst heq
      obtain ⟨rfl, -⟩ := (redacts_text_iff hwidth).1 hrest
      exact ⟨hle, hcovered, hrest⟩
    | cons t tokens =>
      obtain ⟨t', tail, htail⟩ := flatMap_tokenCells_cons hwidth (List.cons_ne_nil t tokens) rest
      rw [htail] at heq
      cases heq
  · rintro ⟨hle, hcovered, hrest⟩
    have hopen := ((redacts_text_iff hwidth).1 hrest).2.2.1
    exact ⟨[], _, b, rfl, hle, hrest.le, hcovered, Or.inr hopen, hrest⟩

/-- A run of text that no range covers. -/
theorem redacts_texts_iff (hwidth : ∀ t, 0 < width t) (hab : a ≤ s) (hs : s ≤ n) :
    Redacts width covered n a (texts a s ++ cells) ↔
      (∀ i, a ≤ i → i < s → ¬covered i) ∧ Redacts width covered n s cells := by
  induction hab using Nat.decreasingInduction with
  | self =>
    rw [texts_self, List.nil_append]
    constructor
    · intro h
      exact ⟨fun i hle hlt => by omega, h⟩
    · exact And.right
  | of_succ a hlt ih =>
    rw [texts_cons hlt, List.cons_append, redacts_text_iff hwidth, ih]
    constructor
    · rintro ⟨-, -, hopen, hrun, hrest⟩
      refine ⟨?_, hrest⟩
      intro i hle hlt
      rcases Nat.eq_or_lt_of_le hle with rfl | hlt'
      · exact hopen
      · exact hrun i hlt' hlt
    · rintro ⟨hrun, hrest⟩
      exact ⟨rfl, by omega, hrun a (le_refl a) hlt, fun i hle => hrun i (by omega), hrest⟩

theorem redacts_texts_end_iff (hwidth : ∀ t, 0 < width t) (ha : a ≤ n) :
    Redacts width covered n a (texts a n) ↔ ∀ i, a ≤ i → i < n → ¬covered i := by
  have hrun : Redacts width covered n a (texts a n ++ []) ↔ _ :=
    redacts_texts_iff hwidth ha (le_refl n)
  rw [List.append_nil, redacts_nil_iff hwidth] at hrun
  simpa using hrun

/-- Of the positions from `a` up to `s`, exactly those before `b` are covered. -/
def SeparatedAt (covered : Nat → Prop) (a b s : Nat) : Prop :=
  a ≤ b ∧ ∀ i, a ≤ i → i < s → (covered i ↔ i < b)

instance [DecidablePred covered] : Decidable (SeparatedAt covered a b s) :=
  inferInstanceAs (Decidable (a ≤ b ∧ ∀ i, a ≤ i → i < s → (covered i ↔ i < b)))

theorem separatedAt_iff (hb : b ≤ s) :
    SeparatedAt covered a b s ↔
      a ≤ b ∧ (∀ i, a ≤ i → i < b → covered i) ∧ ∀ i, b ≤ i → i < s → ¬covered i := by
  constructor
  · rintro ⟨hle, hall⟩
    refine ⟨hle, fun i hai hib => (hall i hai (by omega)).2 hib, ?_⟩
    intro i hbi his hi
    have := (hall i (by omega) his).1 hi
    omega
  · rintro ⟨hle, hcovered, hopen⟩
    refine ⟨hle, ?_⟩
    intro i hai his
    constructor
    · intro hi
      by_contra hib
      exact hopen i (by omega) his hi
    · exact hcovered i hai

/-- The region, then text up to the end. -/
theorem inRegion_texts_iff (hwidth : ∀ t, 0 < width t) (hb : b ≤ n) :
    InRegion width covered n a (texts b n) ↔ SeparatedAt covered a b n := by
  rw [separatedAt_iff hb]
  rcases Nat.eq_or_lt_of_le hb with rfl | hlt
  · rw [texts_self, inRegion_nil_iff hwidth]
    constructor
    · rintro ⟨hle, hcovered⟩
      exact ⟨hle, hcovered, fun i hle hlt => by omega⟩
    · rintro ⟨hle, hcovered, -⟩
      exact ⟨hle, hcovered⟩
  · rw [texts_cons hlt, inRegion_text_iff hwidth, ← texts_cons hlt,
      redacts_texts_end_iff hwidth hb]

/-- The region, then text up to a position where the next region opens. -/
theorem inRegion_texts_token_iff (hwidth : ∀ t, 0 < width t) (ha : a ≤ s) (hb : b ≤ s) (hs : s < n)
    (hcovered : covered s) (hcells : ∀ p, Cell.text p ∈ cells → s ≤ p) :
    InRegion width covered n a (texts b s ++ (tokenCells width t ++ cells)) ↔
      SeparatedAt covered a b s ∧ InRegion width covered n s cells := by
  rw [separatedAt_iff hb]
  rcases Nat.eq_or_lt_of_le hb with rfl | hlt
  · -- no text between: the token belongs to the region that is being read
    rw [texts_self, List.nil_append, inRegion_token_iff hwidth]
    constructor
    · rintro ⟨tokens, rest, q, rfl, hle, hqn, hregion, hend, hrest⟩
      have hbq : b ≤ q := by
        rcases hend with rfl | hopen
        · exact hs.le
        · rcases Nat.eq_or_lt_of_le hqn with rfl | hqlt
          · exact hs.le
          · exact hcells q (List.mem_append_right _ (hrest.text_mem hqlt hopen))
      exact ⟨⟨ha, fun i hai hib => hregion i hai (by omega), fun i hle hlt => by omega⟩,
        tokens, rest, q, rfl, hbq, hqn, fun i hbi => hregion i (by omega), hend, hrest⟩
    · rintro ⟨⟨-, hbefore, -⟩, tokens, rest, q, rfl, hle, hqn, hregion, hend, hrest⟩
      refine ⟨tokens, rest, q, rfl, by omega, hqn, ?_, hend, hrest⟩
      intro i hai hiq
      by_cases hib : i < b
      · exact hbefore i hai hib
      · exact hregion i (by omega) hiq
  · have hrun : Redacts width covered n b (texts b s ++ (tokenCells width t ++ cells)) ↔ _ :=
      redacts_texts_iff hwidth hb hs.le
    rw [texts_cons hlt, List.cons_append, inRegion_text_iff hwidth, ← List.cons_append,
      ← texts_cons hlt, hrun, redacts_token_iff hwidth]
    constructor
    · rintro ⟨hle, hbefore, hopen, -, -, hrest⟩
      exact ⟨⟨hle, hbefore, hopen⟩, hrest⟩
    · rintro ⟨⟨hle, hbefore, hopen⟩, hrest⟩
      exact ⟨hle, hbefore, hopen, hs, hcovered, hrest⟩

end Redacts

/-! ## The lengths decide -/

/-- The cells that edits leave; the last edit stands first. -/
def marked (width : τ → Nat) (n : Nat) (edits : List (Edit τ)) : List (Cell τ) :=
  spliceAll (tokenCells width) (texts 0 n) edits.reverse

/-- The length that edits leave. -/
def lengthAfter (width : τ → Nat) (n : Nat) : List (Edit τ) → Nat
  | [] => n
  | e :: earlier => e.start + width e.token + (lengthAfter width n earlier - e.stop)

/-- Behind a token of a region that reaches to `a`, the last `r` symbols that the
edits left go on with whole tokens and uncovered text.  The next edit has its own
token among them, or has been cut away whole. -/
def FitsFrom (width : τ → Nat) (covered : Nat → Prop) (n : Nat) :
    Nat → Nat → List (Edit τ) → Prop
  | a, r, [] => SeparatedAt covered a (n - r) n
  | a, r, e :: earlier =>
    let kept := lengthAfter width n earlier - e.stop
    if r ≤ kept then FitsFrom width covered n a r earlier
    else
      kept + width e.token ≤ r ∧
        SeparatedAt covered a (e.start - (r - kept - width e.token)) e.start ∧
          FitsFrom width covered n e.start kept earlier

instance decidableFitsFrom (width : τ → Nat) (covered : Nat → Prop) [DecidablePred covered]
    (n : Nat) : ∀ a r edits, Decidable (FitsFrom width covered n a r edits)
  | a, r, [] => inferInstanceAs (Decidable (SeparatedAt covered a (n - r) n))
  | a, r, e :: earlier =>
    have := decidableFitsFrom width covered n a r earlier
    have := decidableFitsFrom width covered n e.start (lengthAfter width n earlier - e.stop) earlier
    inferInstanceAs (Decidable (if r ≤ lengthAfter width n earlier - e.stop then
        FitsFrom width covered n a r earlier
      else
        lengthAfter width n earlier - e.stop + width e.token ≤ r ∧
          SeparatedAt covered a
            (e.start - (r - (lengthAfter width n earlier - e.stop) - width e.token)) e.start ∧
            FitsFrom width covered n e.start (lengthAfter width n earlier - e.stop) earlier))

/-- No edit cut into a token or took text that no range covers. -/
def Fits (width : τ → Nat) (n : Nat) (edits : List (Edit τ)) : Prop :=
  match edits with
  | [] => True
  | e :: earlier =>
    FitsFrom width (Covered (e :: earlier)) n e.start (lengthAfter width n earlier - e.stop) earlier

instance (width : τ → Nat) (n : Nat) (edits : List (Edit τ)) : Decidable (Fits width n edits) :=
  match edits with
  | [] => inferInstanceAs (Decidable True)
  | _ :: _ => inferInstanceAs (Decidable (FitsFrom _ _ _ _ _ _))

/-- The edits stand by their starts, and their ranges lie in the text. -/
structure Placed (n : Nat) (edits : List (Edit τ)) : Prop where
  ascending : edits.Pairwise (fun a b => a.start ≤ b.start)
  inside : ∀ e ∈ edits, e.start < e.stop ∧ e.stop ≤ n

section Marked

variable {width : τ → Nat} {covered : Nat → Prop} {n a k r : Nat} {e : Edit τ}
  {earlier edits : List (Edit τ)}

theorem Placed.tail (h : Placed n (e :: earlier)) : Placed n earlier where
  ascending := h.ascending.of_cons
  inside := fun e he => h.inside e (List.mem_cons_of_mem _ he)

theorem Placed.start_le (h : Placed n (e :: earlier)) : ∀ f ∈ earlier, e.start ≤ f.start :=
  (List.pairwise_cons.1 h.ascending).1

theorem Placed.head_inside (h : Placed n (e :: earlier)) : e.start < e.stop ∧ e.stop ≤ n :=
  h.inside e List.mem_cons_self

/-- Nothing before the least start is covered. -/
theorem not_covered_of_lt (h : Placed n (e :: earlier)) {i : Nat} (hi : i < e.start) :
    ¬Covered (e :: earlier) i := by
  intro hcovered
  rw [covered_cons] at hcovered
  rcases hcovered with hcovered | hcovered
  · omega
  · have := le_of_covered h.start_le hcovered
    omega

theorem marked_nil (width : τ → Nat) (n : Nat) : marked width n [] = texts 0 n := rfl

theorem marked_cons (width : τ → Nat) (n : Nat) (e : Edit τ) (earlier : List (Edit τ)) :
    marked width n (e :: earlier) = splice (tokenCells width) (marked width n earlier) e := by
  rw [marked, List.reverse_cons, spliceAll_concat]
  rfl

/-- Before the least start the text is as it was, and what follows comes from behind it. -/
theorem marked_eq_texts_append (width : τ → Nat) (h : Placed n edits) (hk : ∀ e ∈ edits, k ≤ e.start) (hkn : k ≤ n) :
    ∃ tail, marked width n edits = texts 0 k ++ tail ∧ ∀ p, Cell.text p ∈ tail → k ≤ p := by
  induction edits generalizing k with
  | nil =>
    refine ⟨texts k n, ?_, ?_⟩
    · rw [marked_nil, texts_append (Nat.zero_le k) hkn]
    · intro p hp
      exact (mem_texts.1 hp).1
  | cons e earlier ih =>
    have hinside := h.head_inside
    have hke := hk e List.mem_cons_self
    obtain ⟨tail, htail, hpositions⟩ := ih h.tail h.start_le (by omega)
    refine ⟨texts k e.start ++ tokenCells width e.token ++ tail.drop (e.stop - e.start), ?_, ?_⟩
    · rw [marked_cons, splice, htail, take_texts_append, drop_texts_append hinside.1.le,
        ← texts_append (Nat.zero_le k) hke, List.append_assoc, List.append_assoc, List.append_assoc]
    · intro p hp
      rw [List.mem_append, List.mem_append, mem_texts] at hp
      rcases hp with (hp | hp) | hp
      · exact hp.1
      · exact absurd hp (text_notMem_tokenCells width e.token p)
      · exact hke.trans (hpositions p (List.mem_of_mem_drop hp))

/-- The last edit: the text up to its start, its token, and what it kept. -/
theorem marked_cons_eq (h : Placed n (e :: earlier)) :
    marked width n (e :: earlier) =
      texts 0 e.start ++ (tokenCells width e.token ++ (marked width n earlier).drop e.stop) := by
  have hinside := h.head_inside
  obtain ⟨tail, htail, -⟩ := marked_eq_texts_append width h.tail h.start_le (by omega)
  rw [marked_cons, splice, List.append_assoc]
  congr 1
  rw [htail, take_texts_append]

/-- What the last edit kept comes from behind its start. -/
theorem le_of_text_mem_kept (h : Placed n (e :: earlier)) :
    ∀ p, Cell.text p ∈ (marked width n earlier).drop e.stop → e.start ≤ p := by
  have hinside := h.head_inside
  obtain ⟨tail, htail, hpositions⟩ :=
    marked_eq_texts_append width h.tail h.start_le (by omega)
  intro p hp
  apply hpositions p
  rw [htail, drop_texts_append hinside.1.le] at hp
  exact List.mem_of_mem_drop hp

theorem length_marked (h : Placed n edits) :
    (marked width n edits).length = lengthAfter width n edits := by
  induction edits with
  | nil => simp [marked_nil, lengthAfter]
  | cons e earlier ih =>
    rw [marked_cons_eq h, lengthAfter, ← ih h.tail]
    simp
    omega

/-- What an edit kept, counted from the end. -/
theorem drop_stop (width : τ → Nat) (h : Placed n earlier) (stop : Nat) :
    (marked width n earlier).drop stop =
      (marked width n earlier).drop
        (lengthAfter width n earlier - (lengthAfter width n earlier - stop)) := by
  have hlength : (marked width n earlier).length = lengthAfter width n earlier := length_marked h
  by_cases hstop : stop ≤ lengthAfter width n earlier
  · congr 1
    omega
  · rw [List.drop_eq_nil_of_le (by omega), List.drop_eq_nil_of_le (by omega)]

/-- The last symbols, where the last edit kept as many. -/
theorem drop_marked_of_le (h : Placed n (e :: earlier))
    (hr : r ≤ lengthAfter width n earlier - e.stop) :
    (marked width n (e :: earlier)).drop (lengthAfter width n (e :: earlier) - r) =
      (marked width n earlier).drop (lengthAfter width n earlier - r) := by
  have hskip : lengthAfter width n (e :: earlier) - r =
      (texts 0 e.start ++ tokenCells width e.token : List (Cell τ)).length +
        (lengthAfter width n earlier - e.stop - r) := by
    simp [lengthAfter]
    omega
  rw [marked_cons_eq h, ← List.append_assoc, hskip, List.drop_append,
    List.drop_eq_nil_of_le (by omega), List.nil_append, Nat.add_sub_cancel_left,
    drop_stop width h.tail, List.drop_drop]
  congr 1
  omega

/-- The last symbols, where they reach back over the token of the last edit. -/
theorem drop_marked_of_ge (h : Placed n (e :: earlier)) (hr : r ≤ lengthAfter width n (e :: earlier))
    (htoken : lengthAfter width n earlier - e.stop + width e.token ≤ r) :
    (marked width n (e :: earlier)).drop (lengthAfter width n (e :: earlier) - r) =
      texts (e.start - (r - (lengthAfter width n earlier - e.stop) - width e.token)) e.start ++
        (tokenCells width e.token ++ (marked width n earlier).drop e.stop) := by
  rw [lengthAfter] at hr ⊢
  rw [marked_cons_eq h, List.drop_append_of_le_length (by simp; omega), drop_texts]
  congr 2
  omega

/-- The last symbols, where they start within the token of the last edit. -/
theorem drop_marked_of_lt (width : τ → Nat) (h : Placed n (e :: earlier))
    (hkept : lengthAfter width n earlier - e.stop < r)
    (htoken : r < lengthAfter width n earlier - e.stop + width e.token) :
    ∃ offset cells, 0 < offset ∧
      (marked width n (e :: earlier)).drop (lengthAfter width n (e :: earlier) - r) =
        Cell.token e.token offset :: cells := by
  let offset := lengthAfter width n earlier - e.stop + width e.token - r
  have hoffset : offset < (tokenCells width e.token).length := by
    rw [length_tokenCells]
    omega
  have hskip : lengthAfter width n (e :: earlier) - r =
      (texts 0 e.start : List (Cell τ)).length + offset := by
    simp [lengthAfter, offset]
    omega
  refine ⟨offset, (tokenCells width e.token).drop (offset + 1) ++
    (marked width n earlier).drop e.stop, by omega, ?_⟩
  rw [marked_cons_eq h, hskip, List.drop_length_add_append,
    List.drop_append_of_le_length hoffset.le, List.drop_eq_getElem_cons hoffset]
  simp [tokenCells]

/-- What lies behind a token of a region, by the lengths. -/
theorem inRegion_drop_iff (hwidth : ∀ t, 0 < width t) (h : Placed n edits)
    (hcovered : ∀ e ∈ edits, covered e.start) (ha : ∀ e ∈ edits, a ≤ e.start)
    (hr : r ≤ lengthAfter width n edits) :
    InRegion width covered n a ((marked width n edits).drop (lengthAfter width n edits - r)) ↔
      FitsFrom width covered n a r edits := by
  induction edits generalizing a r with
  | nil =>
    rw [marked_nil, drop_texts, Nat.zero_add, lengthAfter, FitsFrom]
    exact inRegion_texts_iff hwidth (Nat.sub_le n r)
  | cons e earlier ih =>
    have hinside := h.head_inside
    have hearlier := fun f hf => hcovered f (List.mem_cons_of_mem e hf)
    have hlater := fun f hf => ha f (List.mem_cons_of_mem e hf)
    have hlength : lengthAfter width n (e :: earlier) =
      e.start + width e.token + (lengthAfter width n earlier - e.stop) := rfl
    rw [FitsFrom]
    by_cases hkept : r ≤ lengthAfter width n earlier - e.stop
    · rw [if_pos hkept, drop_marked_of_le h hkept]
      exact ih h.tail hearlier hlater (by omega)
    · rw [if_neg hkept]
      by_cases htoken : lengthAfter width n earlier - e.stop + width e.token ≤ r
      · rw [drop_marked_of_ge h hr htoken, inRegion_texts_token_iff hwidth
          (ha e List.mem_cons_self) (Nat.sub_le _ _) (by omega) (hcovered e List.mem_cons_self)
          (le_of_text_mem_kept h), drop_stop width h.tail,
          ih h.tail hearlier h.start_le (Nat.sub_le _ _)]
        simp [htoken]
      · obtain ⟨offset, cells, hpositive, hcut⟩ :=
          drop_marked_of_lt width h (lt_of_not_ge hkept) (lt_of_not_ge htoken)
        rw [hcut]
        constructor
        · intro hregion
          exact absurd hregion (not_inRegion_fragment hwidth hpositive)
        · intro hfits
          exact absurd hfits.1 htoken

/-- Each maximal covered region has become whole tokens, and the text outside the
ranges is as it was, exactly where the lengths say so. -/
theorem redacts_marked_iff (hwidth : ∀ t, 0 < width t) (h : Placed n edits) :
    Redacts width (Covered edits) n 0 (marked width n edits) ↔ Fits width n edits := by
  have hcovered : ∀ e ∈ edits, Covered edits e.start := by
    intro e he
    exact ⟨e, he, le_refl _, (h.inside e he).1⟩
  cases edits with
  | nil =>
    rw [marked_nil, redacts_texts_end_iff hwidth (Nat.zero_le n)]
    simp [Covered, Fits]
  | cons e earlier =>
    have hinside := h.head_inside
    have hlt : e.start < n := by omega
    have hstart := hcovered e List.mem_cons_self
    rw [marked_cons_eq h, redacts_texts_iff hwidth (Nat.zero_le _) hlt.le,
      redacts_token_iff hwidth, drop_stop width h.tail,
      inRegion_drop_iff hwidth h.tail (fun f hf => hcovered f (List.mem_cons_of_mem e hf))
        h.start_le (Nat.sub_le _ _)]
    simp only [Fits, hlt, hstart, true_and]
    exact and_iff_right (fun i _ hi => not_covered_of_lt h hi)

/-- Ranges that are apart, with `k` between the region read last and their starts. -/
theorem fitsFrom_of_disjoint (hwidth : ∀ t, 0 < width t) (h : Placed n edits)
    (hdisjoint : edits.Pairwise (fun e f => e.stop ≤ f.start))
    (hcovered : ∀ i, k ≤ i → (covered i ↔ Covered edits i)) (hak : a ≤ k) (hkn : k ≤ n)
    (hregion : ∀ i, a ≤ i → i < k → covered i) (hk : ∀ e ∈ edits, k ≤ e.start) :
    k ≤ lengthAfter width n edits ∧
      FitsFrom width covered n a (lengthAfter width n edits - k) edits := by
  induction edits generalizing a k with
  | nil =>
    refine ⟨hkn, ?_⟩
    have hback : n - (n - k) = k := by omega
    rw [FitsFrom, lengthAfter, hback, separatedAt_iff hkn]
    refine ⟨hak, hregion, ?_⟩
    intro i hki _ hi
    obtain ⟨e, he, -⟩ := (hcovered i hki).1 hi
    cases he
  | cons e earlier ih =>
    have hinside := h.head_inside
    have hke := hk e List.mem_cons_self
    have hapart := List.pairwise_cons.1 hdisjoint
    have hopen : ∀ i, k ≤ i → i < e.start → ¬covered i := by
      intro i hki hi
      rw [hcovered i hki]
      exact not_covered_of_lt h hi
    have hrest : ∀ i, e.stop ≤ i → (covered i ↔ Covered earlier i) := by
      intro i hi
      rw [hcovered i (by omega), covered_cons, or_iff_right (by omega)]
    have hrange : ∀ i, e.start ≤ i → i < e.stop → covered i := by
      intro i hle hlt
      exact (hcovered i (by omega)).2 (covered_cons.2 (Or.inl ⟨hle, hlt⟩))
    obtain ⟨hstop, hfits⟩ := ih h.tail hapart.2 hrest hinside.1.le hinside.2 hrange hapart.1
    have hback : e.start - (e.start - k) = k := by omega
    have hlength : lengthAfter width n (e :: earlier) - k =
        lengthAfter width n earlier - e.stop + width e.token + (e.start - k) := by
      rw [lengthAfter]
      omega
    have hpositive := hwidth e.token
    refine ⟨by rw [lengthAfter]; omega, ?_⟩
    rw [FitsFrom, if_neg (by omega), hlength, Nat.add_assoc, Nat.add_sub_cancel_left,
      Nat.add_sub_cancel_left, hback]
    refine ⟨by omega, ?_, hfits⟩
    rw [separatedAt_iff hke]
    exact ⟨hak, hregion, hopen⟩

/-- Ranges that are apart do not disturb each other. -/
theorem fits_of_disjoint (hwidth : ∀ t, 0 < width t) (h : Placed n edits)
    (hdisjoint : edits.Pairwise (fun e f => e.stop ≤ f.start)) : Fits width n edits := by
  cases edits with
  | nil => trivial
  | cons e earlier =>
    have hinside := h.head_inside
    have hapart := List.pairwise_cons.1 hdisjoint
    refine (fitsFrom_of_disjoint hwidth h.tail hapart.2 ?_ hinside.1.le hinside.2 ?_ hapart.1).2
    · intro i hi
      rw [covered_cons, or_iff_right (by omega)]
    · intro i hle hlt
      exact covered_cons.2 (Or.inl ⟨hle, hlt⟩)

end Marked

end Splice
