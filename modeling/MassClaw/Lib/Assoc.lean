import Mathlib.Data.List.Nodup
import Mathlib.Tactic.Common

/-!
# Dictionaries in insertion order

A dictionary as the list of its entries.  Assigning to a key that is present
keeps its place, a new key goes to the end; `ofList` builds a dictionary by
assigning every entry in turn, so a later entry wins.

Rows that carry their key in a field are looked up and assigned to alike.
-/

namespace Assoc

universe u v

variable {κ : Type u} {α : Type v}

/-- The keys in order. -/
def keys (entries : List (κ × α)) : List κ := entries.map Prod.fst

variable [DecidableEq κ]

/-- `d[key] = value`. -/
def set (entries : List (κ × α)) (key : κ) (value : α) : List (κ × α) :=
  if key ∈ keys entries then
    entries.map (fun entry => if entry.1 = key then (entry.1, value) else entry)
  else entries ++ [(key, value)]

/-- The dictionary of a list of entries. -/
def ofList (entries : List (κ × α)) : List (κ × α) :=
  entries.foldl (fun acc entry => set acc entry.1 entry.2) []

theorem keys_set (entries : List (κ × α)) (key : κ) (value : α) :
    keys (set entries key value) =
      if key ∈ keys entries then keys entries else keys entries ++ [key] := by
  unfold set
  split
  · rw [keys, List.map_map]
    refine List.map_congr_left (fun entry _ => ?_)
    simp only [Function.comp_apply]
    split <;> rfl
  · simp [keys]

theorem nodup_set {entries : List (κ × α)} (key : κ) (value : α) (h : (keys entries).Nodup) :
    (keys (set entries key value)).Nodup := by
  rw [keys_set]
  split
  · exact h
  · rename_i hnot
    exact List.Nodup.append h (List.nodup_singleton key) (by simpa using hnot)

/-- An entry after an assignment is the assigned one or one of another key. -/
theorem mem_set {entries : List (κ × α)} {key : κ} {value : α} {entry : κ × α}
    (h : entry ∈ set entries key value) :
    entry = (key, value) ∨ (entry ∈ entries ∧ entry.1 ≠ key) := by
  unfold set at h
  split at h
  · obtain ⟨old, hold, rfl⟩ := List.mem_map.1 h
    by_cases hkey : old.1 = key
    · rw [if_pos hkey, hkey]
      exact Or.inl rfl
    · rw [if_neg hkey]
      exact Or.inr ⟨hold, hkey⟩
  · rename_i hnot
    rcases List.mem_append.1 h with hold | hnew
    · exact Or.inr ⟨hold, fun hkey => hnot (List.mem_map.2 ⟨entry, hold, hkey⟩)⟩
    · exact Or.inl (List.mem_singleton.1 hnew)

/-- A search that passes over the key finds the same entry as before. -/
theorem find?_set {entries : List (κ × α)} {key : κ} {value : α} {p : κ × α → Bool}
    (hp : ∀ entry, entry.1 = key → p entry = false) :
    (set entries key value).find? p = entries.find? p := by
  have hmap : ∀ rest : List (κ × α), (rest.map (fun entry =>
      if entry.1 = key then (entry.1, value) else entry)).find? p = rest.find? p := by
    intro rest
    induction rest with
    | nil => rfl
    | cons entry rest ih =>
      rw [List.map_cons, List.find?_cons, List.find?_cons, ih]
      by_cases heq : entry.1 = key
      · rw [if_pos heq, hp _ heq, hp (entry.1, value) heq]
      · rw [if_neg heq]
  unfold set
  split
  · exact hmap entries
  · rw [List.find?_append, List.find?_singleton, hp _ rfl]
    simp

/-! ## Reading a key -/

/-- `d.get(key)`. -/
def get? (entries : List (κ × α)) (key : κ) : Option α :=
  (entries.find? (fun entry => entry.1 = key)).map Prod.snd

@[simp] theorem get?_nil (key : κ) : get? ([] : List (κ × α)) key = none := rfl

theorem get?_set_ne {entries : List (κ × α)} {key other : κ} (value : α) (h : other ≠ key) :
    get? (set entries key value) other = get? entries other := by
  unfold get?
  rw [find?_set]
  intro entry hentry
  rw [hentry]
  exact decide_eq_false (Ne.symm h)

theorem get?_set_self (entries : List (κ × α)) (key : κ) (value : α) :
    get? (set entries key value) key = some value := by
  unfold get? set
  split
  · rename_i hkey
    induction entries with
    | nil => cases hkey
    | cons entry rest ih =>
      rw [List.map_cons, List.find?_cons]
      by_cases heq : entry.1 = key
      · rw [if_pos heq, decide_eq_true heq]
        rfl
      · rw [if_neg heq, decide_eq_false heq]
        rcases List.mem_cons.1 hkey with hhead | hrest
        · exact absurd hhead.symm heq
        · exact ih hrest
  · rename_i hnot
    rw [List.find?_append, List.find?_eq_none.2, List.find?_singleton, decide_eq_true rfl]
    · rfl
    · intro entry hentry
      rw [decide_eq_true_eq]
      intro hkey
      exact hnot (List.mem_map.2 ⟨entry, hentry, hkey⟩)

theorem mem_of_get? {entries : List (κ × α)} {key : κ} {value : α}
    (h : get? entries key = some value) : (key, value) ∈ entries := by
  obtain ⟨entry, hfound, hvalue⟩ := Option.map_eq_some_iff.1 h
  have hkey : entry.1 = key := by simpa using List.find?_some hfound
  rw [← hkey, ← hvalue]
  exact List.mem_of_find?_eq_some hfound

/-- With distinct keys the entries are what the keys read. -/
theorem mem_iff_get? {entries : List (κ × α)} (h : (keys entries).Nodup) (entry : κ × α) :
    entry ∈ entries ↔ get? entries entry.1 = some entry.2 := by
  constructor
  · intro hentry
    induction entries with
    | nil => cases hentry
    | cons head rest ih =>
      rw [keys, List.map_cons, List.nodup_cons] at h
      rw [get?, List.find?_cons]
      rcases List.mem_cons.1 hentry with rfl | hrest
      · rw [decide_eq_true rfl]
        rfl
      · have hne : head.1 ≠ entry.1 := by
          intro heq
          exact h.1 (List.mem_map.2 ⟨entry, hrest, heq.symm⟩)
        rw [decide_eq_false hne]
        exact ih h.2 hrest
  · intro hget
    obtain ⟨found, hfound, hvalue⟩ := Option.map_eq_some_iff.1 hget
    have hkey : found.1 = entry.1 := by simpa using List.find?_some hfound
    have heq : found = entry := Prod.ext hkey hvalue
    rw [← heq]
    exact List.mem_of_find?_eq_some hfound

/-- The keys of a dictionary are distinct. -/
theorem nodup_ofList (entries : List (κ × α)) : (keys (ofList entries)).Nodup := by
  have haux : ∀ (rest acc : List (κ × α)), (keys acc).Nodup →
      (keys (rest.foldl (fun acc entry => set acc entry.1 entry.2) acc)).Nodup := by
    intro rest
    induction rest with
    | nil => exact fun acc hacc => hacc
    | cons entry rest ih => exact fun acc hacc => ih _ (nodup_set entry.1 entry.2 hacc)
  exact haux entries [] List.nodup_nil

/-- Entries with distinct keys are a dictionary already. -/
theorem ofList_of_nodup {entries : List (κ × α)} (h : (keys entries).Nodup) :
    ofList entries = entries := by
  have haux : ∀ (rest acc : List (κ × α)), (keys (acc ++ rest)).Nodup →
      rest.foldl (fun acc entry => set acc entry.1 entry.2) acc = acc ++ rest := by
    intro rest
    induction rest with
    | nil => intro acc _; simp
    | cons entry rest ih =>
      intro acc hacc
      have hnot : entry.1 ∉ keys acc := by
        intro hmem
        rw [keys, List.map_append, List.nodup_append] at hacc
        exact hacc.2.2 _ hmem _ (by simp) rfl
      rw [List.foldl_cons, set, if_neg hnot, ih _ (by simpa using hacc)]
      simp
  simpa [ofList] using haux entries [] h

/-- Building a dictionary again changes nothing. -/
@[simp] theorem ofList_ofList (entries : List (κ × α)) :
    ofList (ofList entries) = ofList entries :=
  ofList_of_nodup (nodup_ofList entries)

/-! ## Rows with a key -/

/-- A lookup after an assignment to the rows with one key. -/
theorem find?_assign {key : α → κ} {f : α → α} (hf : ∀ row, key (f row) = key row)
    (rows : List α) (target other : κ) :
    (rows.map (fun row => if key row = target then f row else row)).find?
        (fun row => key row = other) =
      if other = target then (rows.find? (fun row => key row = other)).map f
      else rows.find? (fun row => key row = other) := by
  have hsame : (fun row : α => decide (key row = other)) ∘
      (fun row => if key row = target then f row else row) = fun row => decide (key row = other) := by
    funext row
    rw [Function.comp_apply]
    split
    · rw [hf]
    · rfl
  rw [List.find?_map, hsame]
  cases hfound : rows.find? (fun row => key row = other) with
  | none => simp
  | some row =>
    have hkey : key row = other := by simpa using List.find?_some hfound
    rw [Option.map_some, hkey, Option.map_some]
    split
    · rfl
    · rfl

end Assoc
