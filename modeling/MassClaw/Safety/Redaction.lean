import MassClaw.Lib.Splice

/-!
# Redaction, `app/safety/content_filter.py`

Five patterns look for personal data, each on its own, so a telephone number can
be found inside an e-mail address.  The matches are replaced by their
placeholders from the right, by the positions that they have in the content.

`redactCells` runs the replacements on the positions instead of the characters,
which tells what became of each of them.
-/

namespace MassClaw

/-- The types of `_PII_PATTERNS`. -/
inductive PIIType where
  | ssn
  | creditCard
  | email
  | phone
  | ipAddress
  deriving DecidableEq, Repr

/-- A compiled pattern.  The patterns match no empty text, and `finditer` yields
matches from left to right that do not overlap. -/
structure Pattern where
  pattern : String
  finditer : String → List (Nat × Nat)
  inside : ∀ content, ∀ span ∈ finditer content, span.1 < span.2 ∧ span.2 ≤ content.length
  ordered : ∀ content, (finditer content).Pairwise (fun a b => a.2 ≤ b.1)

/-- A text that can stand in for a match. -/
structure Placeholder where
  text : String
  nonempty : 0 < text.length
  deriving DecidableEq

namespace Placeholder

/-- The characters. -/
def chars (redacted : Placeholder) : List Char := redacted.text.toList

/-- The number of characters. -/
def width (redacted : Placeholder) : Nat := redacted.chars.length

theorem width_pos (redacted : Placeholder) : 0 < redacted.width := by
  rw [width, chars, String.length_toList]
  exact redacted.nonempty

end Placeholder

/-- A match, `PIIMatch`. -/
structure PIIMatch where
  type : PIIType
  pattern : String
  location : Nat × Nat
  redacted : Placeholder

namespace PIIMatch

/-- What the match asks for. -/
def edit (m : PIIMatch) : Splice.Edit Placeholder :=
  { start := m.location.1, stop := m.location.2, token := m.redacted }

end PIIMatch

namespace ContentFilter

section Model

variable (compiled : PIIType → Pattern)

/-- `_PII_PATTERNS`. -/
def piiPatterns : List (PIIType × Pattern × Placeholder) :=
  [(.ssn, compiled .ssn, ⟨"[REDACTED_SSN]", by decide⟩),
    (.creditCard, compiled .creditCard, ⟨"[REDACTED_CC]", by decide⟩),
    (.email, compiled .email, ⟨"[REDACTED_EMAIL]", by decide⟩),
    (.phone, compiled .phone, ⟨"[REDACTED_PHONE]", by decide⟩),
    (.ipAddress, compiled .ipAddress, ⟨"[REDACTED_IP]", by decide⟩)]

/-- `_detect_pii`. -/
def detectPii (content : String) : List PIIMatch :=
  (piiPatterns compiled).flatMap (fun (piiType, pattern, redacted) =>
    (pattern.finditer content).map (fun location =>
      { type := piiType, pattern := pattern.pattern, location, redacted }))

/-- `sorted` by the start, descending; matches with one start keep their order. -/
def sortedMatches (found : List PIIMatch) : List PIIMatch :=
  found.insertionSort (fun a b => b.location.1 ≤ a.location.1)

/-- The loop of `redact_pii`, over the symbols of the content. -/
def replaceMatches {β : Type} (symbols : Placeholder → List β) (content : List β)
    (found : List PIIMatch) : List β :=
  found.foldl (fun result m =>
    let (start, stop) := m.location
    result.take start ++ symbols m.redacted ++ result.drop stop) content

/-- `redact_pii`. -/
def redactPii (content : String) : String :=
  let found := detectPii compiled content
  if found.isEmpty then content
  else String.ofList (replaceMatches Placeholder.chars content.toList (sortedMatches found))

/-- The same replacements, on the positions of the content. -/
def redactCells (content : String) : List (Splice.Cell Placeholder) :=
  replaceMatches (Splice.tokenCells Placeholder.width) (Splice.texts 0 content.length)
    (sortedMatches (detectPii compiled content))

/-- The spans of the matches and their placeholders, from left to right. -/
def edits (content : String) : List (Splice.Edit Placeholder) :=
  ((sortedMatches (detectPii compiled content)).map PIIMatch.edit).reverse

/-- A position in a match. -/
def InMatch (content : String) (i : Nat) : Prop :=
  ∃ m ∈ detectPii compiled content, m.location.1 ≤ i ∧ i < m.location.2

/-- Each maximal covered region has become whole placeholders, and all text outside
the matches is there in order. -/
def Redacted (content : String) : Prop :=
  Splice.Redacts Placeholder.width (InMatch compiled content) content.length 0
    (redactCells compiled content)

end Model

section Result

variable {compiled : PIIType → Pattern} {content : String}

theorem replaceMatches_eq {β : Type} (symbols : Placeholder → List β) (content : List β)
    (found : List PIIMatch) :
    replaceMatches symbols content found =
      Splice.spliceAll symbols content (found.map PIIMatch.edit) := by
  rw [Splice.spliceAll, List.foldl_map]
  rfl

theorem redactCells_eq (compiled : PIIType → Pattern) (content : String) :
    redactCells compiled content =
      Splice.marked Placeholder.width content.length (edits compiled content) := by
  rw [redactCells, replaceMatches_eq, Splice.marked, edits, List.reverse_reverse]

theorem mem_detectPii {m : PIIMatch} (h : m ∈ detectPii compiled content) :
    m.location.1 < m.location.2 ∧ m.location.2 ≤ content.length := by
  obtain ⟨⟨piiType, pattern, redacted⟩, -, hm⟩ := List.mem_flatMap.1 h
  obtain ⟨location, hlocation, rfl⟩ := List.mem_map.1 hm
  exact pattern.inside content location hlocation

theorem mem_edits {e : Splice.Edit Placeholder} :
    e ∈ edits compiled content ↔ ∃ m ∈ detectPii compiled content, m.edit = e := by
  rw [edits, List.mem_reverse, List.mem_map]
  simp only [sortedMatches, List.mem_insertionSort]

theorem inMatch_eq (compiled : PIIType → Pattern) (content : String) :
    InMatch compiled content = Splice.Covered (edits compiled content) := by
  funext i
  apply propext
  simp [InMatch, Splice.Covered, mem_edits, PIIMatch.edit]

/-- From the left, and in the content. -/
theorem placed_edits (compiled : PIIType → Pattern) (content : String) :
    Splice.Placed content.length (edits compiled content) where
  ascending := by
    rw [edits, List.pairwise_reverse, List.pairwise_map]
    exact List.pairwise_insertionSort _ _
  inside := by
    intro e he
    obtain ⟨m, hm, rfl⟩ := mem_edits.1 he
    exact mem_detectPii hm

/-- The characters that come out are those of the cells. -/
theorem redactPii_eq (compiled : PIIType → Pattern) (content : String) :
    (redactPii compiled content).toList.map some =
      (redactCells compiled content).map (Splice.symbol Placeholder.chars content.toList) := by
  have hcells := Splice.map_symbol_spliceAll Placeholder.chars content.toList
    ((sortedMatches (detectPii compiled content)).map PIIMatch.edit)
  rw [String.length_toList, ← replaceMatches_eq, ← replaceMatches_eq] at hcells
  rw [redactPii]
  split
  · rename_i hempty
    rw [List.isEmpty_iff] at hempty
    rw [hempty] at hcells
    rw [redactCells, hempty]
    exact hcells.symm
  · rw [String.toList_ofList]
    exact hcells.symm

theorem redacted_iff_fits (compiled : PIIType → Pattern) (content : String) :
    Redacted compiled content ↔
      Splice.Fits Placeholder.width content.length (edits compiled content) := by
  rw [Redacted, inMatch_eq, redactCells_eq]
  exact Splice.redacts_marked_iff Placeholder.width_pos (placed_edits compiled content)

/-- Matches that are apart are replaced cleanly. -/
theorem redacted_of_disjoint
    (h : (detectPii compiled content).Pairwise (fun a b =>
      a.location.2 ≤ b.location.1 ∨ b.location.2 ≤ a.location.1)) :
    Redacted compiled content := by
  rw [redacted_iff_fits]
  have hplaced := placed_edits compiled content
  have hapart : (edits compiled content).Pairwise (fun e f => e.stop ≤ f.start ∨ f.stop ≤ e.start) := by
    rw [edits, List.pairwise_reverse, List.pairwise_map]
    apply ((List.perm_insertionSort _ _).pairwise_iff ?_).2
    · apply h.imp
      intro a b hab
      exact hab.symm
    · intro a b hab
      exact hab.symm
  apply Splice.fits_of_disjoint Placeholder.width_pos hplaced
  apply (hplaced.ascending.and hapart).imp_of_mem
  intro e f he hf hef
  have hinside := hplaced.inside f hf
  omega

/-- `redact_pii` leaves each covered region as whole placeholders and all other
text as it is exactly where the lengths of the matches and the placeholders say so. -/
theorem redactPii_redacted_iff (compiled : PIIType → Pattern) (content : String) :
    (redactPii compiled content).toList.map some =
        (redactCells compiled content).map (Splice.symbol Placeholder.chars content.toList) ∧
      (Redacted compiled content ↔
        Splice.Fits Placeholder.width content.length (edits compiled content)) :=
  ⟨redactPii_eq compiled content, redacted_iff_fits compiled content⟩

end Result

/-! ## A telephone number in an e-mail address -/

/-- A pattern that finds one span in one content. -/
def findsOnly (pattern content : String) (start stop : Nat)
    (h : start < stop ∧ stop ≤ content.length) : Pattern where
  pattern
  finditer c := if c = content then [(start, stop)] else []
  inside := by
    intro c span hspan
    split at hspan
    · rename_i heq
      obtain rfl := List.mem_singleton.1 hspan
      rw [heq]
      exact h
    · cases hspan
  ordered := by
    intro c
    split
    · exact List.pairwise_singleton _ _
    · exact List.Pairwise.nil

/-- A pattern that finds nothing. -/
def findsNothing (pattern : String) : Pattern where
  pattern
  finditer _ := []
  inside := by
    intro c span hspan
    cases hspan
  ordered _ := List.Pairwise.nil

/-- The matches of the five patterns in `5551234567@x.com`. -/
def phoneInEmail : PIIType → Pattern
  | .email => findsOnly "email" "5551234567@x.com" 0 16 (by decide)
  | .phone => findsOnly "phone" "5551234567@x.com" 0 10 (by decide)
  | .ssn => findsNothing "ssn"
  | .creditCard => findsNothing "credit_card"
  | .ipAddress => findsNothing "ip_address"

/-- The e-mail address is replaced first, and then ten characters of its
placeholder are cut away with the number. -/
theorem redactPii_fails :
    ∃ compiled, redactPii compiled "5551234567@x.com" = "[REDACTED_PHONE]EMAIL]" ∧
      ¬Redacted compiled "5551234567@x.com" := by
  refine ⟨phoneInEmail, ?_, ?_⟩
  · decide
  · rw [redacted_iff_fits]
    decide

end ContentFilter

end MassClaw
