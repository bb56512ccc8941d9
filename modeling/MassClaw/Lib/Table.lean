import Mathlib.Data.List.Nodup
import Mathlib.Data.List.Pairwise
import Mathlib.Tactic.Common

/-!
# Database tables

A table with a generated primary key and one nullable column under a unique
constraint.  `Table` carries both constraints as fields: the ids are distinct
and below the next one to be generated, and no value of the unique column
occurs twice.  `insert?` is the only way to add a row; it fails when the
constraint would be violated.

The row type, the type of the unique column and the way to read them are
parameters.
-/

universe u v

/-- How to read the primary key and the unique column of a row. -/
structure TableSchema (α : Type u) (κ : Type v) where
  rowId : α → Nat
  withRowId : α → Nat → α
  unique : α → Option κ
  rowId_withRowId : ∀ row n, rowId (withRowId row n) = n
  unique_withRowId : ∀ row n, unique (withRowId row n) = unique row

/-- The rows of a table in insertion order. -/
structure Table {α : Type u} {κ : Type v} (schema : TableSchema α κ) where
  rows : List α
  nextId : Nat
  below : ∀ row ∈ rows, schema.rowId row < nextId
  nodupIds : (rows.map schema.rowId).Nodup
  nodupUnique : (rows.filterMap schema.unique).Nodup

namespace Table

variable {α : Type u} {κ : Type v} {schema : TableSchema α κ}

/-- The table without rows. -/
def empty : Table schema where
  rows := []
  nextId := 0
  below := by simp
  nodupIds := List.nodup_nil
  nodupUnique := List.nodup_nil

@[simp] theorem rows_empty : (empty : Table schema).rows = [] := rfl

/-- The unique column of a new row has no value yet. -/
def Accepts (table : Table schema) (row : α) : Prop :=
  ∀ key, schema.unique row = some key → key ∉ table.rows.filterMap schema.unique

instance [DecidableEq κ] (table : Table schema) (row : α) : Decidable (table.Accepts row) :=
  match h : schema.unique row with
  | none => isTrue (by intro key hkey; rw [h] at hkey; cases hkey)
  | some key =>
    decidable_of_iff (key ∉ table.rows.filterMap schema.unique)
      ⟨by intro hnot key' hkey; rw [h] at hkey; cases hkey; exact hnot, fun hacc => hacc key h⟩

private theorem nodup_concat {β : Type*} {l : List β} {b : β} (h : l.Nodup) (hb : b ∉ l) :
    (l ++ [b]).Nodup := by
  rw [List.nodup_append]
  refine ⟨h, List.nodup_singleton _, ?_⟩
  rintro a ha c hc rfl
  obtain rfl := List.mem_singleton.1 hc
  exact hb ha

/-- The table after the row has been inserted under a generated id. -/
def push (table : Table schema) (row : α) (h : table.Accepts row) : Table schema where
  rows := table.rows ++ [schema.withRowId row table.nextId]
  nextId := table.nextId + 1
  below := by
    intro other hother
    rcases List.mem_append.1 hother with hold | hnew
    · exact Nat.lt_succ_of_lt (table.below other hold)
    · obtain rfl := List.mem_singleton.1 hnew
      rw [schema.rowId_withRowId]
      exact Nat.lt_succ_self _
  nodupIds := by
    rw [List.map_append, List.map_singleton, schema.rowId_withRowId]
    refine nodup_concat table.nodupIds (fun hmem => ?_)
    obtain ⟨other, hother, hid⟩ := List.mem_map.1 hmem
    have := table.below other hother
    omega
  nodupUnique := by
    rw [List.filterMap_append]
    cases hkey : schema.unique row with
    | none =>
      simpa [List.filterMap, schema.unique_withRowId, hkey] using table.nodupUnique
    | some key =>
      have hnot := h key hkey
      simpa [List.filterMap, schema.unique_withRowId, hkey] using
        nodup_concat table.nodupUnique hnot

/-- Insert a row; `none` is the violation of the unique constraint. -/
def insert? [DecidableEq κ] (table : Table schema) (row : α) : Option (α × Table schema) :=
  if h : table.Accepts row then
    some (schema.withRowId row table.nextId, table.push row h)
  else none

/-- Assign to other columns of the rows. -/
def mapRows (table : Table schema) (f : α → α) (hid : ∀ row, schema.rowId (f row) = schema.rowId row)
    (hunique : ∀ row, schema.unique (f row) = schema.unique row) : Table schema where
  rows := table.rows.map f
  nextId := table.nextId
  below := by
    intro row hrow
    obtain ⟨old, hold, rfl⟩ := List.mem_map.1 hrow
    rw [hid]
    exact table.below old hold
  nodupIds := by
    have hsame : schema.rowId ∘ f = schema.rowId := funext hid
    rw [List.map_map, hsame]
    exact table.nodupIds
  nodupUnique := by
    have hsame : schema.unique ∘ f = schema.unique := funext hunique
    rw [List.filterMap_map, hsame]
    exact table.nodupUnique

/-- Keep some of the rows. -/
def filterRows (table : Table schema) (keep : α → Bool) : Table schema where
  rows := table.rows.filter keep
  nextId := table.nextId
  below row hrow := table.below row (List.mem_of_mem_filter hrow)
  nodupIds := table.nodupIds.sublist (List.filter_sublist.map _)
  nodupUnique := table.nodupUnique.sublist (List.filter_sublist.filterMap _)

/-- An insertion appends the row under a fresh id. -/
theorem insert?_eq_some [DecidableEq κ] {table table' : Table schema} {row row' : α}
    (h : table.insert? row = some (row', table')) :
    row' = schema.withRowId row table.nextId ∧ table'.rows = table.rows ++ [row'] ∧
      table'.nextId = table.nextId + 1 ∧ table.Accepts row := by
  unfold insert? at h
  split at h
  · rename_i hacc
    cases h
    exact ⟨rfl, rfl, rfl, hacc⟩
  · cases h

/-- The id of a new row is not in use. -/
theorem fresh (table : Table schema) : table.nextId ∉ table.rows.map schema.rowId := by
  intro hmem
  obtain ⟨row, hrow, hid⟩ := List.mem_map.1 hmem
  have := table.below row hrow
  omega

/-- Rows with one id are the same. -/
theorem eq_of_rowId {table : Table schema} {a b : α} (ha : a ∈ table.rows) (hb : b ∈ table.rows)
    (hid : schema.rowId a = schema.rowId b) : a = b :=
  List.inj_on_of_nodup_map table.nodupIds ha hb hid

/-- Rows with one value in the unique column are the same. -/
theorem eq_of_unique {table : Table schema} {a b : α} {key : κ} (ha : a ∈ table.rows)
    (hb : b ∈ table.rows) (hkeyA : schema.unique a = some key)
    (hkeyB : schema.unique b = some key) : a = b := by
  by_contra hne
  have hpairwise := List.pairwise_filterMap.1 table.nodupUnique
  have hsymm : Std.Symm (fun a b => ∀ key, schema.unique a = some key → ∀ key',
      schema.unique b = some key' → key ≠ key') :=
    ⟨fun _ _ h key hkey key' hkey' => (h key' hkey' key hkey).symm⟩
  exact hpairwise.forall ha hb hne key hkeyA key hkeyB rfl

/-- A value of the unique column that a new row has is in no old row. -/
theorem unique_ne_of_append {table table' : Table schema} {row old : α} {key : κ}
    (hrows : table'.rows = table.rows ++ [row]) (hkey : schema.unique row = some key)
    (hold : old ∈ table.rows) : schema.unique old ≠ some key := by
  intro hsame
  have hnodup := table'.nodupUnique
  rw [hrows, List.filterMap_append, List.nodup_append] at hnodup
  refine hnodup.2.2 key (List.mem_filterMap.2 ⟨old, hold, hsame⟩) key ?_ rfl
  exact List.mem_filterMap.2 ⟨row, List.mem_singleton_self row, hkey⟩

end Table
