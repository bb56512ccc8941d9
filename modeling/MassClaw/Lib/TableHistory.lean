import MassClaw.Lib.Table

/-!
# Tables over time

A table changes by insertions, by assignments to its rows and by deletions.
`Evolves R before after` says that the rows of `after` that are not new are rows
of `before`, changed as `R` admits.  Since ids are not used twice, a row that was
deleted does not come back.

The row type and the relation `R` are parameters; the relation has to be a
preorder.
-/

universe u v

namespace Table

variable {α : Type u} {κ : Type v} {schema : TableSchema α κ} {R : α → α → Prop}

/-- A row of `after` with an id that `before` has given out is a row of `before`,
changed as `R` admits. -/
structure Evolves (R : α → α → Prop) (before after : Table schema) : Prop where
  nextId_le : before.nextId ≤ after.nextId
  row : ∀ row ∈ after.rows, schema.rowId row < before.nextId →
    ∃ old ∈ before.rows, schema.rowId old = schema.rowId row ∧ R old row

namespace Evolves

variable {a b c : Table schema}

theorem refl (hrefl : ∀ row, R row row) (table : Table schema) : Evolves R table table :=
  ⟨Nat.le_refl _, fun row hrow _ => ⟨row, hrow, rfl, hrefl row⟩⟩

theorem trans (htrans : ∀ {x y z}, R x y → R y z → R x z) (hab : Evolves R a b)
    (hbc : Evolves R b c) : Evolves R a c := by
  refine ⟨Nat.le_trans hab.nextId_le hbc.nextId_le, fun row hrow hid => ?_⟩
  obtain ⟨old, hold, hsame, hchanged⟩ := hbc.row row hrow (Nat.lt_of_lt_of_le hid hab.nextId_le)
  obtain ⟨older, holder, hsame', hchanged'⟩ := hab.row old hold (hsame ▸ hid)
  exact ⟨older, holder, hsame'.trans hsame, htrans hchanged' hchanged⟩

/-- A row is appended under the next id. -/
theorem append (hrefl : ∀ row, R row row) {row : α} (hrows : b.rows = a.rows ++ [row])
    (hid : schema.rowId row = a.nextId) : Evolves R a b := by
  refine ⟨?_, fun other hother hold => ?_⟩
  · rw [← hid]
    exact Nat.le_of_lt
      (b.below row (hrows ▸ List.mem_append_right _ (List.mem_singleton_self row)))
  · rw [hrows] at hother
    rcases List.mem_append.1 hother with hmem | hnew
    · exact ⟨other, hmem, rfl, hrefl other⟩
    · rw [List.mem_singleton.1 hnew, hid] at hold
      exact absurd hold (Nat.lt_irrefl _)

/-- Every row of `after` is a changed row of `before`. -/
theorem of_rows (hnext : b.nextId = a.nextId)
    (hrows : ∀ row ∈ b.rows, ∃ old ∈ a.rows, schema.rowId old = schema.rowId row ∧ R old row) :
    Evolves R a b :=
  ⟨Nat.le_of_eq hnext.symm, fun row hrow _ => hrows row hrow⟩

/-- A row that has been deleted is not there again. -/
theorem not_mem (h : Evolves R a b) {id : Nat} (hgiven : id < a.nextId)
    (hdeleted : id ∉ a.rows.map schema.rowId) : id ∉ b.rows.map schema.rowId := by
  intro hmem
  obtain ⟨row, hrow, rfl⟩ := List.mem_map.1 hmem
  obtain ⟨old, hold, hsame, -⟩ := h.row row hrow hgiven
  exact hdeleted (List.mem_map.2 ⟨old, hold, hsame⟩)

end Evolves

end Table
