import MassClaw.Identity.Canonicalize
import MassClaw.Lib.Delimited
import Mathlib.Data.List.Forall2

/-!
# What a canonical form tells

Two values have one canonical form exactly if they are the same up to the order
of dictionary keys, with an integral float read as the integer.

The texts of two values can be told apart by reading from the front: a text or
a container marks its own end, and a number ends before a comma or a closing
bracket.  This is what `Delimited.Reads` says, and it carries over from the
items of a list to the list.

`repr` of a float is the host's.  What is used of it is documented: it reads
back as the same float, and it is written with digits, signs, a point and an
exponent.
-/

namespace MassClaw

/-- The finite values of a binary64: an integer of at most 53 bits times a power
of two between `2 ^ -1074` and `2 ^ 971`. -/
def PyFloat.IsDouble (q : ℚ) : Prop :=
  ∃ (significand : Int) (exponent : Nat), significand.natAbs < 2 ^ 53 ∧
    ((exponent ≤ 971 ∧ q = significand * 2 ^ exponent) ∨
      (exponent ≤ 1074 ∧ q * 2 ^ exponent = significand))

/-- `repr` of the floats that are not integers. -/
structure Host.WritesFloats (host : Host) : Prop where
  /-- `float(repr(x)) == x`. -/
  injective : ∀ {q q' : ℚ}, PyFloat.IsDouble q → PyFloat.IsDouble q' → q.den ≠ 1 → q'.den ≠ 1 →
    host.repr (.float (.finite q)) = host.repr (.float (.finite q')) → q = q'
  /-- The characters of a decimal number. -/
  chars : ∀ {q : ℚ}, PyFloat.IsDouble q → q.den ≠ 1 →
    ∀ c ∈ (host.repr (.float (.finite q))).toList, c.isDigit ∨ c ∈ ['-', '+', '.', 'e']
  /-- A point or an exponent shows that the value is not an integer. -/
  fraction : ∀ {q : ℚ}, PyFloat.IsDouble q → q.den ≠ 1 →
    ∃ c ∈ (host.repr (.float (.finite q))).toList, c = '.' ∨ c = 'e'

namespace Json

/-- The value of an integer or of a finite float. -/
def numeral? : Json → Option ℚ
  | int n => some n
  | float (.finite q) => some q
  | _ => none

/-- The values that JSON has: finite floats, and distinct keys in every
dictionary. -/
inductive WellFormed : Json → Prop
  | null : WellFormed .null
  | bool (b : Bool) : WellFormed (.bool b)
  | int (n : Int) : WellFormed (.int n)
  | float {q : ℚ} (hdouble : PyFloat.IsDouble q) : WellFormed (.float (.finite q))
  | str (s : String) : WellFormed (.str s)
  | list {items : List Json} (hitems : ∀ item ∈ items, WellFormed item) : WellFormed (.list items)
  | dict {entries : List (String × Json)} (hkeys : (entries.map Prod.fst).Nodup)
      (hvalues : ∀ entry ∈ entries, WellFormed entry.2) : WellFormed (.dict entries)

/-- Equality up to the order of keys, with integral floats as integers. -/
inductive Same : Json → Json → Prop
  | null : Same .null .null
  | bool (b : Bool) : Same (.bool b) (.bool b)
  | str (s : String) : Same (.str s) (.str s)
  | number {v w : Json} {q : ℚ} (hv : v.numeral? = some q) (hw : w.numeral? = some q) : Same v w
  | list {xs ys : List Json} (hlength : xs.length = ys.length)
      (hitems : ∀ x y, (x, y) ∈ xs.zip ys → Same x y) : Same (.list xs) (.list ys)
  | dict {xs ys : List (String × Json)} (hkeys : (xs.map Prod.fst).Perm (ys.map Prod.fst))
      (hvalues : ∀ key x y, (key, x) ∈ xs → (key, y) ∈ ys → Same x y) : Same (.dict xs) (.dict ys)

namespace Same

/-- Dictionaries whose entries correspond in order are the same. -/
theorem dict_of_forall₂ {xs ys : List (String × Json)} (hnodup : (ys.map Prod.fst).Nodup)
    (h : List.Forall₂ (fun x y : String × Json => x.1 = y.1 ∧ x.2.Same y.2) xs ys) :
    (Json.dict xs).Same (.dict ys) := by
  have hkeys : xs.map Prod.fst = ys.map Prod.fst := by
    rw [← List.forall₂_eq_eq_eq, List.forall₂_map_left_iff, List.forall₂_map_right_iff]
    exact h.imp (fun _ _ hpair => hpair.1)
  refine .dict (hkeys ▸ List.Perm.refl _) (fun key x y hx hy => ?_)
  clear hkeys
  induction h with
  | nil => cases hx
  | @cons a b xs ys hpair hrest ih =>
    obtain ⟨hhead, htail⟩ := List.nodup_cons.1 hnodup
    have hin : ∀ {zs : List (String × Json)} {z : Json}, (key, z) ∈ zs → key ∈ zs.map Prod.fst :=
      fun hz => List.mem_map_of_mem (f := Prod.fst) hz
    have hkeys : xs.map Prod.fst = ys.map Prod.fst := by
      rw [← List.forall₂_eq_eq_eq, List.forall₂_map_left_iff, List.forall₂_map_right_iff]
      exact hrest.imp (fun _ _ hpair => hpair.1)
    rcases List.mem_cons.1 hx with rfl | hx
    · rcases List.mem_cons.1 hy with rfl | hy
      · exact hpair.2
      · exact absurd (hpair.1 ▸ hin hy) hhead
    · rcases List.mem_cons.1 hy with rfl | hy
      · exact absurd (hkeys ▸ hin hx) hhead
      · exact ih htail hx hy

/-- The order of the entries does not matter. -/
theorem dict_perm {xs xs' ys ys' : List (String × Json)} (hx : xs.Perm xs') (hy : ys.Perm ys')
    (h : (Json.dict xs).Same (.dict ys)) : (Json.dict xs').Same (.dict ys') := by
  cases h with
  | number hq => cases hq
  | dict hkeys hvalues =>
    refine .dict (((hx.map Prod.fst).symm.trans hkeys).trans (hy.map Prod.fst)) ?_
    intro key x y hxmem hymem
    exact hvalues key x y (hx.mem_iff.2 hxmem) (hy.mem_iff.2 hymem)

end Same

end Json

namespace Canonical

open Delimited

/-! ## Escaped texts -/

private theorem hexDigits_inj {m n : Nat} (hm : m < 0x20) (hn : n < 0x20)
    (h : UUID.hexDigits 4 m = UUID.hexDigits 4 n) : m = n := by
  have hcases : ∀ m n : Fin 32, UUID.hexDigits 4 m = UUID.hexDigits 4 n → m = n := by decide
  simpa using hcases ⟨m, hm⟩ ⟨n, hn⟩ h

/-- The character that a backslash and a letter stand for. -/
def unescape (letter : Char) : Char :=
  if letter = 'b' then '\x08'
  else if letter = 'f' then '\x0c'
  else if letter = 'n' then '\n'
  else if letter = 'r' then '\r'
  else if letter = 't' then '\t'
  else letter

/-- A character is written as itself, as a backslash and a letter, or by its
number. -/
theorem escapeChar_cases (c : Char) :
    (escapeChar c = [c] ∧ c ≠ '"' ∧ c ≠ '\\') ∨
    (∃ letter, escapeChar c = ['\\', letter] ∧ letter ≠ 'u' ∧ unescape letter = c) ∨
    (escapeChar c = '\\' :: 'u' :: UUID.hexDigits 4 c.toNat ∧ c.toNat < 0x20) := by
  unfold escapeChar
  by_cases hquote : c = '"'
  · exact Or.inr (Or.inl ⟨'"', by rw [if_pos hquote], by decide, by rw [hquote]; decide⟩)
  by_cases hbackslash : c = '\\'
  · exact Or.inr (Or.inl ⟨'\\', by rw [if_neg hquote, if_pos hbackslash], by decide,
      by rw [hbackslash]; decide⟩)
  rw [if_neg hquote, if_neg hbackslash]
  split
  · rename_i h
    exact Or.inr (Or.inl ⟨'b', rfl, by decide, by rw [h]; decide⟩)
  split
  · rename_i h
    exact Or.inr (Or.inl ⟨'f', rfl, by decide, by rw [h]; decide⟩)
  split
  · rename_i h
    exact Or.inr (Or.inl ⟨'n', rfl, by decide, by rw [h]; decide⟩)
  split
  · rename_i h
    exact Or.inr (Or.inl ⟨'r', rfl, by decide, by rw [h]; decide⟩)
  split
  · rename_i h
    exact Or.inr (Or.inl ⟨'t', rfl, by decide, by rw [h]; decide⟩)
  split
  · rename_i hcontrol
    exact Or.inr (Or.inr ⟨rfl, hcontrol⟩)
  · exact Or.inl ⟨rfl, hquote, hbackslash⟩

/-- An escape tells its character. -/
theorem escapeChar_reads (c d : Char) : ReadsSelf (c = d) (escapeChar c) (escapeChar d) := by
  rcases escapeChar_cases c with ⟨hc, -, hc'⟩ | ⟨x, hc, hx, rfl⟩ | ⟨hc, hlow⟩
  · rcases escapeChar_cases d with ⟨hd, -, hd'⟩ | ⟨y, hd, -, -⟩ | ⟨hd, -⟩
    · rw [hc, hd]
      intro rest rest' _ _ heq
      simpa using heq
    · rw [hc, hd]
      exact Reads.of_head hc'
    · rw [hc, hd]
      exact Reads.of_head hc'
  · rcases escapeChar_cases d with ⟨hd, -, hd'⟩ | ⟨y, hd, hy, rfl⟩ | ⟨hd, -⟩
    · rw [hc, hd]
      exact Reads.of_head (fun h => hd' h.symm)
    · rw [hc, hd]
      intro rest rest' _ _ heq
      simp only [List.cons_append, List.nil_append, List.cons.injEq, true_and] at heq
      exact ⟨by rw [heq.1], heq.2⟩
    · rw [hc, hd]
      exact Reads.cons _ (Reads.of_head hx)
  · rcases escapeChar_cases d with ⟨hd, -, hd'⟩ | ⟨y, hd, hy, rfl⟩ | ⟨hd, hlow'⟩
    · rw [hc, hd]
      exact Reads.of_head (fun h => hd' h.symm)
    · rw [hc, hd]
      exact Reads.cons _ (Reads.of_head (fun h => hy h.symm))
    · rw [hc, hd]
      intro rest rest' _ _ heq
      simp only [List.cons_append, List.cons.injEq, true_and] at heq
      obtain ⟨hdigits, hrest⟩ := List.append_inj heq (by simp)
      exact ⟨Char.toNat_inj.1 (hexDigits_inj hlow hlow' hdigits), hrest⟩

/-- No escape starts with the closing quote. -/
theorem escapeChar_start (c : Char) : ∃ d rest, escapeChar c = d :: rest ∧ d ≠ '"' := by
  rcases escapeChar_cases c with ⟨hc, hquote, -⟩ | ⟨x, hc, -, -⟩ | ⟨hc, -⟩
  · exact ⟨c, [], hc, hquote⟩
  · exact ⟨'\\', [x], hc, by decide⟩
  · exact ⟨'\\', _, hc, by decide⟩

/-- An escaped text marks its own end. -/
theorem escapeString_reads (s t : String) :
    ReadsSelf (s = t) (escapeString s) (escapeString t) :=
  (Reads.cons '"' (Reads.flatMap escapeChar_reads escapeChar_start s.toList t.toList)).imp
    String.toList_inj.1

/-! ## Numbers -/

/-- What ends a number. -/
def EndsNumber (c : Char) : Prop := c = ',' ∨ c = ']' ∨ c = '\x7d'

/-- The characters of a number. -/
def NumberChar (c : Char) : Prop := c.isDigit ∨ c ∈ ['-', '+', '.', 'e']

theorem NumberChar.not_ends {c : Char} (h : NumberChar c) : ¬EndsNumber c := by
  rintro (rfl | rfl | rfl)
  · exact absurd h (by unfold NumberChar; decide)
  · exact absurd h (by unfold NumberChar; decide)
  · exact absurd h (by unfold NumberChar; decide)

/-- An integer is written with digits, after a sign if it is negative. -/
theorem toList_toString (n : Int) : (toString n).toList =
    (if 0 ≤ n then [] else ['-']) ++ Nat.toDigits 10 n.natAbs := by
  rw [Int.toString_eq_repr, Int.repr_eq_if]
  split
  · rename_i hn
    rw [Nat.toList_repr, List.nil_append, show n.toNat = n.natAbs by omega]
  · rename_i hn
    rw [String.toList_append, Nat.toList_repr, show (-n).toNat = n.natAbs by omega]
    rfl

theorem mem_toString {n : Int} {c : Char} (h : c ∈ (toString n).toList) :
    c.isDigit ∨ c = '-' := by
  rw [toList_toString, List.mem_append] at h
  rcases h with hsign | hdigit
  · split at hsign
    · cases hsign
    · exact Or.inr (List.mem_singleton.1 hsign)
  · exact Or.inl (Nat.isDigit_of_mem_toDigits (by decide) (by decide) hdigit)

/-- The text of an integer tells the integer. -/
theorem toString_inj {m n : Int} (h : (toString m).toList = (toString n).toList) : m = n := by
  have hdash : ∀ k : Nat, '-' ∉ Nat.toDigits 10 k := by
    intro k hmem
    exact absurd (Nat.isDigit_of_mem_toDigits (by decide) (by decide) hmem) (by decide)
  have hdigits : ∀ {j k : Nat}, Nat.toDigits 10 j = Nat.toDigits 10 k → j = k := by
    intro j k hjk
    rw [← Nat.ofDigitChars_ten_toDigits (n := j), hjk, Nat.ofDigitChars_ten_toDigits]
  rw [toList_toString, toList_toString] at h
  split at h
  · split at h
    · have habs := hdigits h
      omega
    · rw [List.nil_append] at h
      exact absurd (h ▸ List.mem_cons_self) (hdash m.natAbs)
  · split at h
    · rw [List.nil_append] at h
      exact absurd (h ▸ List.mem_cons_self) (hdash n.natAbs)
    · have habs := hdigits (List.append_cancel_left h)
      omega

theorem toString_ne_nil (n : Int) : (toString n).toList ≠ [] := by
  rw [toList_toString]
  intro h
  exact Nat.toDigits_ne_nil (List.append_eq_nil_iff.1 h).2


section Host

variable {host : Host}

/-- The text of a number: an integral one as the integer. -/
def numeralText (host : Host) (q : ℚ) : List Char :=
  if q.den = 1 then (toString q.num).toList else (host.repr (.float (.finite q))).toList

/-- A number that is an integer or a float. -/
def IsNumeral (q : ℚ) : Prop := q.den ≠ 1 → PyFloat.IsDouble q

theorem numeralText_chars (hfloats : host.WritesFloats) {q : ℚ} (hq : IsNumeral q) {c : Char}
    (hc : c ∈ numeralText host q) : NumberChar c := by
  unfold numeralText at hc
  split at hc
  · rcases mem_toString hc with hdigit | rfl
    · exact Or.inl hdigit
    · exact Or.inr (by decide)
  · rename_i hden
    exact hfloats.chars (hq hden) hden c hc

theorem numeralText_ne_nil (hfloats : host.WritesFloats) {q : ℚ} (hq : IsNumeral q) :
    numeralText host q ≠ [] := by
  unfold numeralText
  split
  · exact toString_ne_nil q.num
  · rename_i hden
    obtain ⟨c, hc, -⟩ := hfloats.fraction (hq hden) hden
    exact List.ne_nil_of_mem hc

/-- The text of a number tells the number. -/
theorem numeralText_inj (hfloats : host.WritesFloats) {q q' : ℚ} (hq : IsNumeral q)
    (hq' : IsNumeral q') (h : numeralText host q = numeralText host q') : q = q' := by
  have hmark : ∀ {c : Char}, (c.isDigit ∨ c = '-') → ¬(c = '.' ∨ c = 'e') := by
    intro c hc hmark
    rcases hmark with rfl | rfl
    · exact absurd hc (by decide)
    · exact absurd hc (by decide)
  unfold numeralText at h
  split at h
  · rename_i hden
    split at h
    · rename_i hden'
      exact Rat.ext (toString_inj h) (by rw [hden, hden'])
    · rename_i hden'
      obtain ⟨c, hc, hpoint⟩ := hfloats.fraction (hq' hden') hden'
      rw [← h] at hc
      exact absurd hpoint (hmark (mem_toString hc))
  · rename_i hden
    split at h
    · obtain ⟨c, hc, hpoint⟩ := hfloats.fraction (hq hden) hden
      rw [h] at hc
      exact absurd hpoint (hmark (mem_toString hc))
    · rename_i hden'
      exact hfloats.injective (hq hden) (hq' hden') hden hden' (String.toList_inj.1 h)

/-! ## The text of a value -/

/-- `_emit` as a function on the values that have a canonical form. -/
def text (host : Host) (value : Json) : List Char := (emit host value).getD []

/-- The text of a dictionary entry. -/
def entryText (host : Host) (entry : String × Json) : List Char :=
  escapeString entry.1 ++ ':' :: text host entry.2

/-- The entries in the order in which they are written. -/
def inOrder (entries : List (String × Json)) : List (String × Json) :=
  entries.insertionSort (fun a b => a.1 ≤ b.1)

theorem emitItems_eq {items : List Json}
    (h : ∀ item ∈ items, emit host item = some (text host item)) :
    emitItems host items = some (items.map (text host)) := by
  induction items with
  | nil => rw [emitItems, List.map_nil]
  | cons item items ih =>
    rw [emitItems, h item List.mem_cons_self,
      ih (fun other hother => h other (List.mem_cons_of_mem item hother)), List.map_cons]
    rfl

theorem emitEntries_eq {entries : List (String × Json)}
    (h : ∀ entry ∈ entries, emit host entry.2 = some (text host entry.2)) :
    emitEntries host entries = some (entries.map (fun entry => (entry.1, text host entry.2))) := by
  induction entries with
  | nil => rw [emitEntries, List.map_nil]
  | cons entry entries ih =>
    rw [emitEntries, h entry List.mem_cons_self,
      ih (fun other hother => h other (List.mem_cons_of_mem entry hother)), List.map_cons]
    rfl

theorem joined_eq (parts : List (List Char)) : joined parts = [','].intercalate parts := by
  induction parts with
  | nil => rfl
  | cons part parts ih =>
    cases parts with
    | nil => simp [joined]
    | cons next parts =>
      rw [joined, ih, List.intercalate_cons_cons]
      · simp
      · simp

theorem sortEntries_map (entries : List (String × Json)) :
    (sortEntries (entries.map (fun entry => (entry.1, text host entry.2)))).map
      (fun entry => escapeString entry.1 ++ ':' :: entry.2) =
        (inOrder entries).map (entryText host) := by
  have hsorted : sortEntries (entries.map (fun entry => (entry.1, text host entry.2))) =
      (inOrder entries).map (fun entry => (entry.1, text host entry.2)) :=
    (List.map_insertionSort (r := fun a b : String × Json => a.1 ≤ b.1)
      (s := fun a b : String × List Char => a.1 ≤ b.1) _ entries (fun _ _ _ _ => Iff.rfl)).symm
  rw [hsorted, List.map_map]
  rfl

/-- A well-formed value has a canonical form. -/
theorem emit_eq_text {value : Json} (h : value.WellFormed) :
    emit host value = some (text host value) := by
  unfold text
  have hsome : ∀ {o : Option (List Char)} {chars : List Char}, o = some chars →
      o = some (o.getD []) := by
    intro o chars ho
    rw [ho]
    rfl
  induction h with
  | null => exact hsome (by rw [emit])
  | bool b => cases b <;> exact hsome (by rw [emit])
  | int n => exact hsome (by rw [emit])
  | str s => exact hsome (by rw [emit])
  | float hdouble =>
    rw [emit]
    split
    · rfl
    · rfl
  | list hitems ih => exact hsome (by rw [emit, emitItems_eq ih, Option.map_some])
  | dict hkeys hvalues ih => exact hsome (by rw [emit, emitEntries_eq ih, Option.map_some])

theorem text_bool (b : Bool) : text host (.bool b) = (if b then "true" else "false").toList := by
  cases b <;> rw [text, emit] <;> rfl

theorem text_str (s : String) : text host (.str s) = escapeString s := by
  rw [text, emit]
  rfl

/-- An integer and a float of one value have one text. -/
theorem text_number {value : Json} {q : ℚ} (h : value.numeral? = some q) :
    text host value = numeralText host q := by
  unfold text numeralText
  cases value with
  | int n =>
    obtain rfl : (n : ℚ) = q := Option.some.inj h
    rw [emit, if_pos (Rat.den_intCast n), Rat.num_intCast]
    rfl
  | float x =>
    cases x with
    | finite r =>
      obtain rfl : r = q := Option.some.inj h
      rw [emit]
      split <;> rfl
    | nan => cases h
    | infinite negative => cases h
  | _ => cases h

theorem text_list {items : List Json} (h : ∀ item ∈ items, item.WellFormed) :
    text host (.list items) = '[' :: ([','].intercalate (items.map (text host)) ++ [']']) := by
  rw [text, emit, emitItems_eq (fun item hitem => emit_eq_text (h item hitem)), Option.map_some,
    Option.getD_some, joined_eq]
  rfl

theorem text_dict {entries : List (String × Json)} (h : ∀ entry ∈ entries, entry.2.WellFormed) :
    text host (.dict entries) =
      '\x7b' :: ([','].intercalate ((inOrder entries).map (entryText host)) ++ ['\x7d']) := by
  rw [text, emit, emitEntries_eq (fun entry hentry => emit_eq_text (h entry hentry)),
    Option.map_some, Option.getD_some, sortEntries_map, joined_eq]
  rfl

theorem mem_inOrder {entries : List (String × Json)} {entry : String × Json} :
    entry ∈ inOrder entries ↔ entry ∈ entries :=
  List.mem_insertionSort _

theorem keys_inOrder (entries : List (String × Json)) :
    (inOrder entries).map Prod.fst = (entries.map Prod.fst).insertionSort (· ≤ ·) :=
  List.map_insertionSort (r := fun a b : String × Json => a.1 ≤ b.1) (s := (· ≤ ·)) _ entries
    (fun _ _ _ _ => Iff.rfl)

theorem perm_inOrder (entries : List (String × Json)) : (inOrder entries).Perm entries :=
  List.perm_insertionSort _ entries

/-! ## Reading a value from the front -/

/-- What a text starts with. -/
inductive Kind
  | null
  | bool (b : Bool)
  | str
  | number
  | list
  | dict
  deriving DecidableEq

/-- The kind of a value. -/
def kind : Json → Kind
  | .null => .null
  | .bool b => .bool b
  | .str _ => .str
  | .int _ | .float _ => .number
  | .list _ => .list
  | .dict _ => .dict

/-- The kind of the values that start with a character. -/
def kindOf (c : Char) : Option Kind :=
  if c = 'n' then some .null
  else if c = 't' then some (.bool true)
  else if c = 'f' then some (.bool false)
  else if c = '"' then some .str
  else if c = '[' then some .list
  else if c = '\x7b' then some .dict
  else if c.isDigit ∨ c ∈ ['-', '+', '.', 'e'] then some .number
  else none

theorem NumberChar.kindOf {c : Char} (h : NumberChar c) : kindOf c = some .number := by
  have hne : ∀ d : Char, ¬NumberChar d → c ≠ d := by
    intro d hd heq
    rw [heq] at h
    exact hd h
  unfold Canonical.kindOf
  rw [if_neg (hne _ (by unfold NumberChar; decide)), if_neg (hne _ (by unfold NumberChar; decide)),
    if_neg (hne _ (by unfold NumberChar; decide)), if_neg (hne _ (by unfold NumberChar; decide)),
    if_neg (hne _ (by unfold NumberChar; decide)), if_neg (hne _ (by unfold NumberChar; decide))]
  exact if_pos h

theorem numeral_of_kind {value : Json} (h : value.WellFormed) (hkind : kind value = .number) :
    ∃ q, value.numeral? = some q ∧ IsNumeral q := by
  cases h with
  | int n => exact ⟨n, rfl, fun hden => absurd (Rat.den_intCast n) hden⟩
  | float hdouble => exact ⟨_, rfl, fun _ => hdouble⟩
  | _ => cases hkind

/-- The first character of a text shows the kind of the value. -/
theorem text_start (hfloats : host.WritesFloats) {value : Json} (h : value.WellFormed) :
    ∃ c rest, text host value = c :: rest ∧ kindOf c = some (kind value) := by
  have hnumber : kind value = .number →
      ∃ c rest, text host value = c :: rest ∧ kindOf c = some (kind value) := by
    intro hkind
    obtain ⟨q, hvalue, hq⟩ := numeral_of_kind h hkind
    cases htext : numeralText host q with
    | nil => exact absurd htext (numeralText_ne_nil hfloats hq)
    | cons c rest =>
      have hc := numeralText_chars hfloats hq (htext ▸ List.mem_cons_self)
      exact ⟨c, rest, by rw [text_number hvalue, htext], by rw [hc.kindOf, hkind]⟩
  cases h with
  | null => exact ⟨'n', "ull".toList, by rw [text, emit]; rfl, by decide⟩
  | bool b =>
    rw [text_bool]
    cases b with
    | true => exact ⟨'t', "rue".toList, rfl, by decide⟩
    | false => exact ⟨'f', "alse".toList, rfl, by decide⟩
  | str s => exact ⟨'"', _, text_str s, rfl⟩
  | int n => exact hnumber rfl
  | float hdouble => exact hnumber rfl
  | list hitems => exact ⟨'[', _, text_list hitems, rfl⟩
  | dict hkeys hvalues => exact ⟨'\x7b', _, text_dict hvalues, rfl⟩

theorem text_start_ne (hfloats : host.WritesFloats) {value : Json} (h : value.WellFormed)
    {close : Char} (hclose : kindOf close = none) :
    ∃ c rest, text host value = c :: rest ∧ c ≠ close := by
  obtain ⟨c, rest, htext, hkind⟩ := text_start hfloats h
  refine ⟨c, rest, htext, fun hc => ?_⟩
  rw [hc, hclose] at hkind
  cases hkind

/-- A part that starts with a quote does not close the dictionary. -/
theorem entryText_start (entry : String × Json) :
    ∃ c rest, entryText host entry = c :: rest ∧ c ≠ '\x7d' :=
  ⟨'"', _, rfl, by decide⟩

/-- Only values of one kind need to be told apart further. -/
theorem reads_of_kind (hfloats : host.WritesFloats) {v w : Json} {P : Prop} (hv : v.WellFormed)
    (hw : w.WellFormed) (h : kind v = kind w → Reads EndsNumber P (text host v) (text host w)) :
    Reads EndsNumber P (text host v) (text host w) := by
  by_cases hkind : kind v = kind w
  · exact h hkind
  · obtain ⟨c, rest, htext, hc⟩ := text_start hfloats hv
    obtain ⟨d, rest', htext', hd⟩ := text_start hfloats hw
    rw [htext, htext']
    refine Reads.of_head (fun heq => hkind ?_)
    rw [heq, hd] at hc
    exact (Option.some.inj hc).symm

theorem number_reads (hfloats : host.WritesFloats) {v w : Json} (hv : v.WellFormed)
    (hw : w.WellFormed) (hvkind : kind v = .number) (hwkind : kind w = .number) :
    Reads EndsNumber (v.Same w) (text host v) (text host w) := by
  obtain ⟨q, hq, hnumeral⟩ := numeral_of_kind hv hvkind
  obtain ⟨q', hq', hnumeral'⟩ := numeral_of_kind hw hwkind
  rw [text_number hq, text_number hq']
  have hfree : Reads EndsNumber (numeralText host q = numeralText host q') _ _ := Reads.of_free
    (fun c hc => (numeralText_chars hfloats hnumeral hc).not_ends)
    (fun c hc => (numeralText_chars hfloats hnumeral' hc).not_ends)
  refine hfree.imp (fun heq => ?_)
  rw [numeralText_inj hfloats hnumeral hnumeral' heq] at hq
  exact Json.Same.number hq hq'

/-- Inputs that start with the texts of two values are equal only if the values
are the same. -/
theorem text_reads (hfloats : host.WritesFloats) {v w : Json} (hv : v.WellFormed)
    (hw : w.WellFormed) : Reads EndsNumber (v.Same w) (text host v) (text host w) := by
  induction hv generalizing w with
  | null =>
    refine reads_of_kind hfloats .null hw (fun hkind => ?_)
    cases hw with
    | null => exact Reads.refl .null _
    | _ => cases hkind
  | bool b =>
    refine reads_of_kind hfloats (.bool b) hw (fun hkind => ?_)
    cases hw with
    | bool b' =>
      cases hkind
      exact Reads.refl (.bool b) _
    | _ => cases hkind
  | int n =>
    exact reads_of_kind hfloats (.int n) hw (fun hkind =>
      number_reads hfloats (.int n) hw rfl hkind.symm)
  | float hdouble =>
    exact reads_of_kind hfloats (.float hdouble) hw (fun hkind =>
      number_reads hfloats (.float hdouble) hw rfl hkind.symm)
  | str s =>
    refine reads_of_kind hfloats (.str s) hw (fun hkind => ?_)
    cases hw with
    | str t =>
      rw [text_str, text_str]
      exact (escapeString_reads s t).of_self.imp (fun heq => heq ▸ Json.Same.str s)
    | _ => cases hkind
  | @list xs hitems ih =>
    refine reads_of_kind hfloats (.list hitems) hw (fun hkind => ?_)
    cases hw with
    | @list ys hitems' =>
      rw [text_list hitems, text_list hitems']
      have hitem : ∀ x ∈ xs, ∀ y ∈ ys,
          Reads EndsNumber (x.Same y) (text host x) (text host y) :=
        fun x hx y hy => ih x hx (hitems' y hy)
      have hlists : ReadsSelf (List.Forall₂ Json.Same xs ys)
          ([','].intercalate (xs.map (text host)) ++ [']'])
          ([','].intercalate (ys.map (text host)) ++ [']']) :=
        Reads.intercalate (Or.inl rfl) (Or.inr (Or.inl rfl)) (by decide) hitem
        (fun x hx => text_start_ne hfloats (hitems x hx) rfl)
        (fun y hy => text_start_ne hfloats (hitems' y hy) rfl)
      refine (hlists.of_self.cons '[').imp (fun hall => ?_)
      obtain ⟨hlength, hsame⟩ := List.forall₂_iff_zip.1 hall
      exact Json.Same.list hlength (fun x y hxy => hsame hxy)
    | _ => cases hkind
  | @dict xs hkeys hvalues ih =>
    refine reads_of_kind hfloats (.dict hkeys hvalues) hw (fun hkind => ?_)
    cases hw with
    | @dict ys hkeys' hvalues' =>
      rw [text_dict hvalues, text_dict hvalues']
      have hentry : ∀ x ∈ inOrder xs, ∀ y ∈ inOrder ys,
          Reads EndsNumber (x.1 = y.1 ∧ x.2.Same y.2) (entryText host x) (entryText host y) := by
        intro x hx y hy
        exact (escapeString_reads x.1 y.1).append
          ((ih x (mem_inOrder.1 hx) (hvalues' y (mem_inOrder.1 hy))).cons ':')
      have hlists : ReadsSelf
          (List.Forall₂ (fun x y : String × Json => x.1 = y.1 ∧ x.2.Same y.2) (inOrder xs)
            (inOrder ys))
          ([','].intercalate ((inOrder xs).map (entryText host)) ++ ['\x7d'])
          ([','].intercalate ((inOrder ys).map (entryText host)) ++ ['\x7d']) :=
        Reads.intercalate (Or.inl rfl) (Or.inr (Or.inr rfl)) (by decide) hentry
          (fun x _ => entryText_start x) (fun y _ => entryText_start y)
      refine (hlists.of_self.cons '\x7b').imp (fun hall => ?_)
      have hnodup : ((inOrder ys).map Prod.fst).Nodup :=
        ((perm_inOrder ys).map Prod.fst).nodup_iff.2 hkeys'
      exact (Json.Same.dict_of_forall₂ hnodup hall).dict_perm (perm_inOrder xs) (perm_inOrder ys)
    | _ => cases hkind

/-- Entries with the same keys in the same order, and values with the same
texts. -/
private theorem map_entryText {as bs : List (String × Json)}
    (hkeys : as.map Prod.fst = bs.map Prod.fst)
    (hvalues : ∀ a ∈ as, ∀ b ∈ bs, a.1 = b.1 → text host a.2 = text host b.2) :
    as.map (entryText host) = bs.map (entryText host) := by
  induction as generalizing bs with
  | nil => rw [List.map_eq_nil_iff.1 hkeys.symm]
  | cons a as ih =>
    cases bs with
    | nil => cases hkeys
    | cons b bs =>
      simp only [List.map_cons, List.cons.injEq] at hkeys
      have hfirst := hvalues a List.mem_cons_self b List.mem_cons_self hkeys.1
      have hothers := ih hkeys.2 (fun x hx y hy =>
        hvalues x (List.mem_cons_of_mem a hx) y (List.mem_cons_of_mem b hy))
      rw [List.map_cons, List.map_cons, hothers, entryText, entryText, hkeys.1, hfirst]

/-- The same values have the same text. -/
theorem text_congr {v w : Json} (h : v.Same w) (hv : v.WellFormed) (hw : w.WellFormed) :
    text host v = text host w := by
  induction h with
  | null => rfl
  | bool b => rfl
  | str s => rfl
  | number hq hq' => rw [text_number hq, text_number hq']
  | @list xs ys hlength hsame ih =>
    cases hv with
    | list hitems =>
      cases hw with
      | list hitems' =>
        rw [text_list hitems, text_list hitems']
        have hmap : xs.map (text host) = ys.map (text host) := by
          refine List.forall₂_eq_eq_eq ▸ List.forall₂_map_left_iff.2 (List.forall₂_map_right_iff.2
            (List.forall₂_iff_zip.2 ⟨hlength, fun {x y} hxy => ?_⟩))
          exact ih x y hxy (hitems x (List.of_mem_zip hxy).1) (hitems' y (List.of_mem_zip hxy).2)
        rw [hmap]
  | @dict xs ys hperm hsame ih =>
    cases hv with
    | dict hkeys hvalues =>
      cases hw with
      | dict hkeys' hvalues' =>
        rw [text_dict hvalues, text_dict hvalues']
        have horder : (inOrder xs).map Prod.fst = (inOrder ys).map Prod.fst := by
          rw [keys_inOrder, keys_inOrder]
          exact (((List.perm_insertionSort _ _).trans hperm).trans
            (List.perm_insertionSort _ _).symm).eq_of_pairwise'
            (List.pairwise_insertionSort _ _) (List.pairwise_insertionSort _ _)
        rw [map_entryText horder]
        intro a ha b hb heq
        have hb' : (a.1, b.2) ∈ ys := heq ▸ mem_inOrder.1 hb
        exact ih a.1 a.2 b.2 (mem_inOrder.1 ha) hb' (hvalues a (mem_inOrder.1 ha))
          (hvalues' b (mem_inOrder.1 hb))

end Host

/-- Well-formed values have one text exactly if they are the same. -/
theorem emit_eq_iff {host : Host} (hfloats : host.WritesFloats) {v w : Json} (hv : v.WellFormed)
    (hw : w.WellFormed) : emit host v = emit host w ↔ v.Same w := by
  rw [emit_eq_text hv, emit_eq_text hw, Option.some.injEq]
  constructor
  · intro h
    exact (text_reads hfloats hv hw).of_eq h
  · intro h
    exact text_congr h hv hw

end Canonical

/-- Well-formed values have a canonical form. -/
theorem canonicalize_isSome (host : Host) {v : Json} (hv : v.WellFormed) :
    (canonicalize host v).isSome := by
  rw [canonicalize, Canonical.emit_eq_text hv]
  rfl

/-- Well-formed values have one canonical form exactly if they are the same. -/
theorem canonicalize_eq_iff {host : Host} (hfloats : host.WritesFloats) {v w : Json}
    (hv : v.WellFormed) (hw : w.WellFormed) :
    canonicalize host v = canonicalize host w ↔ v.Same w := by
  have hbytes : Function.Injective
      (Option.map (fun chars => (String.ofList chars).toUTF8.toList)) :=
    Option.map_injective (fun _ _ h => String.ofList_injective (Canonical.toUTF8_inj h))
  rw [canonicalize, canonicalize, hbytes.eq_iff]
  exact Canonical.emit_eq_iff hfloats hv hw

/-! ## Values with tuples -/

/-- A value as the program holds it: a JSON value in which some lists are
tuples. -/
inductive PyValue
  | null
  | bool (b : Bool)
  | int (n : Int)
  | float (x : PyFloat)
  | str (s : String)
  | list (items : List PyValue)
  | tuple (items : List PyValue)
  | dict (entries : List (String × PyValue))

namespace PyValue

mutual

/-- `_clone_jsonable`: tuples become lists. -/
def cloneJsonable : PyValue → Json
  | .null => .null
  | .bool b => .bool b
  | .int n => .int n
  | .float x => .float x
  | .str s => .str s
  | .list items => .list (cloneItems items)
  | .tuple items => .list (cloneItems items)
  | .dict entries => .dict (cloneEntries entries)

/-- The items of a list or of a tuple. -/
def cloneItems : List PyValue → List Json
  | [] => []
  | item :: rest => cloneJsonable item :: cloneItems rest

/-- The entries of a dictionary. -/
def cloneEntries : List (String × PyValue) → List (String × Json)
  | [] => []
  | (key, value) :: rest => (key, cloneJsonable value) :: cloneEntries rest

end

variable (host : Host)

mutual

/-- `_emit`; `none` is the `CanonicalizationError`. -/
def emit : PyValue → Option (List Char)
  | .null => some "null".toList
  | .bool true => some "true".toList
  | .bool false => some "false".toList
  | .str s => some (Canonical.escapeString s)
  | .int n => some (toString n).toList
  | .float (.finite q) =>
    if q.den = 1 then some (toString q.num).toList
    else some (host.repr (.float (.finite q))).toList
  | .float _ => none
  | .list items => (emitItems items).map (fun parts => '[' :: Canonical.joined parts ++ [']'])
  | .tuple items => (emitItems items).map (fun parts => '[' :: Canonical.joined parts ++ [']'])
  | .dict entries =>
    (emitEntries entries).map (fun parts =>
      '\x7b' :: Canonical.joined ((Canonical.sortEntries parts).map
        (fun entry => Canonical.escapeString entry.1 ++ ':' :: entry.2)) ++ ['\x7d'])

/-- The items of a list or of a tuple. -/
def emitItems : List PyValue → Option (List (List Char))
  | [] => some []
  | item :: rest => do return (← emit item) :: (← emitItems rest)

/-- The values of a dictionary, each with its key. -/
def emitEntries : List (String × PyValue) → Option (List (String × List Char))
  | [] => some []
  | (key, value) :: rest => do return (key, ← emit value) :: (← emitEntries rest)

end

/-- `canonicalize`. -/
def canonicalize (value : PyValue) : Option Bytes :=
  (value.emit host).map (fun chars => (String.ofList chars).toUTF8.toList)

mutual

/-- The clone has the canonical form of the value. -/
theorem emit_cloneJsonable (value : PyValue) :
    Canonical.emit host value.cloneJsonable = value.emit host := by
  cases value with
  | null => rw [cloneJsonable, emit, Canonical.emit]
  | bool b => cases b <;> rw [cloneJsonable, emit, Canonical.emit]
  | int n => rw [cloneJsonable, emit, Canonical.emit]
  | float x => cases x <;> simp only [cloneJsonable, emit, Canonical.emit]
  | str s => rw [cloneJsonable, emit, Canonical.emit]
  | list items => rw [cloneJsonable, emit, Canonical.emit, emitItems_cloneItems items]
  | tuple items => rw [cloneJsonable, emit, Canonical.emit, emitItems_cloneItems items]
  | dict entries => rw [cloneJsonable, emit, Canonical.emit, emitEntries_cloneEntries entries]

theorem emitItems_cloneItems (items : List PyValue) :
    Canonical.emitItems host (cloneItems items) = emitItems host items := by
  cases items with
  | nil => rw [cloneItems, emitItems, Canonical.emitItems]
  | cons item rest =>
    rw [cloneItems, emitItems, Canonical.emitItems, emit_cloneJsonable item,
      emitItems_cloneItems rest]

theorem emitEntries_cloneEntries (entries : List (String × PyValue)) :
    Canonical.emitEntries host (cloneEntries entries) = emitEntries host entries := by
  cases entries with
  | nil => rw [cloneEntries, emitEntries, Canonical.emitEntries]
  | cons entry rest =>
    rw [cloneEntries, emitEntries, Canonical.emitEntries, emit_cloneJsonable entry.2,
      emitEntries_cloneEntries rest]

end

/-- The clone has the canonical bytes of the value. -/
theorem canonicalize_cloneJsonable (value : PyValue) :
    MassClaw.canonicalize host value.cloneJsonable = value.canonicalize host := by
  rw [MassClaw.canonicalize, canonicalize, emit_cloneJsonable]

/-- A value that JSON has, up to tuples. -/
def WellFormed (value : PyValue) : Prop := value.cloneJsonable.WellFormed

/-- Equality up to the order of keys and the kind of sequences. -/
def Same (v w : PyValue) : Prop := v.cloneJsonable.Same w.cloneJsonable

end PyValue

end MassClaw
