import MassClaw.Identity.CanonicalForm

/-!
# Dumps of records

A record is dumped as a dictionary with a fixed list of keys, in which a field
without a value is left out.  Two dumps with the same list of keys are the same
exactly if the fields are, one by one; so a dump is told from every other one as
soon as the dumps of its fields are.
-/

namespace MassClaw

namespace Json

/-- The fields that have a value, in order. -/
def present (fields : List (String × Option Json)) : List (String × Json) :=
  fields.filterMap (fun field => field.2.map (fun value => (field.1, value)))

@[simp] theorem present_nil : present [] = [] := rfl

@[simp] theorem present_cons_some (key : String) (value : Json)
    (rest : List (String × Option Json)) :
    present ((key, some value) :: rest) = (key, value) :: present rest := rfl

@[simp] theorem present_cons_none (key : String) (rest : List (String × Option Json)) :
    present ((key, none) :: rest) = present rest := rfl

theorem present_append (xs ys : List (String × Option Json)) :
    present (xs ++ ys) = present xs ++ present ys := List.filterMap_append

variable {xs ys : List (String × Option Json)}

theorem mem_present {key : String} {value : Json} :
    (key, value) ∈ present xs ↔ (key, some value) ∈ xs := by
  unfold present
  rw [List.mem_filterMap]
  constructor
  · rintro ⟨⟨name, field⟩, hmem, hfield⟩
    obtain ⟨given, rfl, heq⟩ := Option.map_eq_some_iff.1 hfield
    cases heq
    exact hmem
  · intro hmem
    exact ⟨(key, some value), hmem, rfl⟩

theorem keys_present_sublist (xs : List (String × Option Json)) :
    ((present xs).map Prod.fst).Sublist (xs.map Prod.fst) := by
  induction xs with
  | nil => exact List.Sublist.refl _
  | cons field rest ih =>
    obtain ⟨key, value⟩ := field
    cases value with
    | none => exact ih.cons key
    | some value => exact ih.cons_cons key

theorem wellFormed_present (hnodup : (xs.map Prod.fst).Nodup)
    (h : xs.Forall (fun field => ∀ value ∈ field.2, value.WellFormed)) :
    (dict (present xs)).WellFormed := by
  refine .dict (hnodup.sublist (keys_present_sublist xs)) (fun entry hentry => ?_)
  exact List.forall_iff_forall_mem.1 h (entry.1, some entry.2) (mem_present.1 hentry) entry.2 rfl

theorem wellFormed_list {α : Type} {dump : α → Json} {items : List α}
    (h : ∀ item ∈ items, (dump item).WellFormed) : (list (items.map dump)).WellFormed := by
  refine .list (fun value hvalue => ?_)
  obtain ⟨item, hitem, rfl⟩ := List.mem_map.1 hvalue
  exact h item hitem

/-- A field without a value is well-formed. -/
theorem wellFormed_option {α : Type} {dump : α → Json} {field : Option α}
    (h : ∀ x ∈ field, (dump x).WellFormed) : ∀ value ∈ field.map dump, value.WellFormed := by
  intro value hvalue
  obtain ⟨x, hx, rfl⟩ := Option.map_eq_some_iff.1 hvalue
  exact h x hx

theorem wellFormed_some {given : Json} (h : given.WellFormed) :
    ∀ value ∈ some given, value.WellFormed := by
  rintro value hvalue
  cases hvalue
  exact h

/-- One key has one field. -/
theorem field_unique (hnodup : (xs.map Prod.fst).Nodup) {key : String} {a b : Option Json}
    (ha : (key, a) ∈ xs) (hb : (key, b) ∈ xs) : a = b :=
  congrArg Prod.snd (List.inj_on_of_nodup_map hnodup ha hb rfl)

/-- The fields of two dumps with the same keys, one by one. -/
theorem present_same_iff (hkeys : xs.map Prod.fst = ys.map Prod.fst)
    (hnodup : (xs.map Prod.fst).Nodup) : (dict (present xs)).Same (dict (present ys)) ↔
      List.Forall₂ (fun x y => Option.Rel Same x.2 y.2) xs ys := by
  have halike : List.Forall₂ (fun x y : String × Option Json => x.1 = y.1) xs ys := by
    rw [← List.forall₂_eq_eq_eq, List.forall₂_map_left_iff, List.forall₂_map_right_iff] at hkeys
    exact hkeys
  constructor
  · intro h
    cases h with
    | number hq => cases hq
    | dict hpresent hvalues =>
      refine List.forall₂_iff_zip.2 ⟨halike.length_eq, fun {x y} hxy => ?_⟩
      obtain ⟨key, a⟩ := x
      obtain ⟨key', b⟩ := y
      have hkey : key = key' := List.forall₂_zip halike hxy
      subst hkey
      obtain ⟨ha, hb⟩ := List.of_mem_zip hxy
      have hboth : key ∈ (present xs).map Prod.fst ↔ key ∈ (present ys).map Prod.fst :=
        hpresent.mem_iff
      cases a with
      | some value =>
        obtain ⟨⟨name, other⟩, hother, hname⟩ := List.mem_map.1
          (hboth.1 (List.mem_map.2 ⟨_, mem_present.2 ha, rfl⟩))
        obtain rfl : name = key := hname
        rw [field_unique (hkeys ▸ hnodup) hb (mem_present.1 hother)]
        exact .some (hvalues name value other (mem_present.2 ha) hother)
      | none =>
        cases b with
        | none => exact .none
        | some other =>
          obtain ⟨⟨name, value⟩, hvalue, hname⟩ := List.mem_map.1
            (hboth.2 (List.mem_map.2 ⟨_, mem_present.2 hb, rfl⟩))
          obtain rfl : name = key := hname
          exact absurd (field_unique hnodup ha (mem_present.1 hvalue)) (by simp)
  · intro h
    have hnodup' : ((present ys).map Prod.fst).Nodup :=
      (hkeys ▸ hnodup).sublist (keys_present_sublist ys)
    refine Same.dict_of_forall₂ hnodup' ?_
    clear hkeys hnodup hnodup'
    induction h with
    | nil => exact .nil
    | @cons x y xs ys hfield hrest ih =>
      obtain ⟨key, a⟩ := x
      obtain ⟨key', b⟩ := y
      cases halike with
      | cons hkey hothers =>
        have hsame : key = key' := hkey
        subst hsame
        cases hfield with
        | some hsame => exact .cons ⟨rfl, hsame⟩ (ih hothers)
        | none => exact ih hothers

/-! ## Values that are told apart -/

theorem same_str_iff {s t : String} : (str s).Same (str t) ↔ s = t := by
  constructor
  · intro h
    cases h with
    | str => rfl
    | number hq => cases hq
  · rintro rfl
    exact .str s

theorem same_int_iff {m n : Int} : (int m).Same (int n) ↔ m = n := by
  constructor
  · intro h
    cases h with
    | number hq hq' =>
      cases hq
      exact (Int.cast_injective (Option.some.inj hq')).symm
  · rintro rfl
    exact .number rfl rfl

theorem same_finite_iff {q r : ℚ} :
    (float (.finite q)).Same (float (.finite r)) ↔ q = r := by
  constructor
  · intro h
    cases h with
    | number hq hq' =>
      cases hq
      exact (Option.some.inj hq').symm
  · rintro rfl
    exact .number rfl rfl

theorem same_list_iff {as bs : List Json} :
    (list as).Same (list bs) ↔ List.Forall₂ Same as bs := by
  constructor
  · intro h
    cases h with
    | number hq => cases hq
    | list hlength hitems =>
      exact List.forall₂_iff_zip.2 ⟨hlength, fun {x y} hxy => hitems x y hxy⟩
  · intro h
    obtain ⟨hlength, hitems⟩ := List.forall₂_iff_zip.1 h
    exact .list hlength (fun x y hxy => hitems hxy)

/-- Only equal values have the same dump. -/
def Faithful {α : Type} (dump : α → Json) : Prop := ∀ x y, (dump x).Same (dump y) ↔ x = y

theorem faithful_str : Faithful str := fun _ _ => same_str_iff

theorem faithful_int : Faithful int := fun _ _ => same_int_iff

namespace Faithful

variable {α : Type} {dump : α → Json}

/-- A list of such values. -/
protected theorem list (h : Faithful dump) : Faithful (fun items : List α => Json.list (items.map dump)) := by
  intro x y
  rw [same_list_iff, List.forall₂_map_left_iff, List.forall₂_map_right_iff]
  simp only [h _ _, List.forall₂_eq_eq_eq]

/-- A field with such a value. -/
theorem option (h : Faithful dump) {a b : Option α} :
    Option.Rel Same (a.map dump) (b.map dump) ↔ a = b := by
  constructor
  · intro hrel
    cases a with
    | none =>
      cases b with
      | none => rfl
      | some y => cases hrel
    | some x =>
      cases b with
      | none => cases hrel
      | some y =>
        cases hrel with
        | some hsame => rw [(h x y).1 hsame]
  · rintro rfl
    cases a with
    | none => exact .none
    | some x => exact .some ((h x x).2 rfl)

theorem field (h : Faithful dump) {x y : α} :
    Option.Rel Same (some (dump x)) (some (dump y)) ↔ x = y := by
  rw [Option.rel_some_some]
  exact h x y

end Faithful

end Json

end MassClaw
