import Mathlib.Algebra.GroupWithZero.Nat
import Mathlib.Algebra.Order.BigOperators.Group.List
import Mathlib.Algebra.Order.Group.Nat
import Mathlib.Data.List.Infix
import MassClaw.Lib.Assoc

/-!
# Directory trees with symbolic links

A tree gives each location, the list of names from the root, a directory, a
file or a link.  `follow` is the path resolution of the kernel: it fails at a
missing directory, and when more links than allowed have been followed.

`canonical` is the resolution that ignores errors: a missing name is kept, and
so is a link that is met again while its own target is being resolved.  The
main result is that a canonical path is `Solid` (`solid_canonical`): the kernel
either fails on it or stays on it, link by link (`Solid.follow`).  For a link of
a loop this holds since the kernel would have to run through the loop again,
with fewer links left.
-/

namespace FileTree

universe u v

/-- A part of a path: `.`, `..`, or a name. -/
inductive Step (α : Type u)
  | here
  | up
  | down (name : α)
  deriving DecidableEq

/-- The text of a link. -/
structure Target (α : Type u) where
  absolute : Bool
  steps : List (Step α)

/-- What stands at a location. -/
inductive Node (α : Type u) (β : Type v)
  | directory
  | file (content : β)
  | link (target : Target α)

/-- What the entries say of a location; the root is a directory. -/
def lookupIn {α : Type u} {β : Type v} [DecidableEq α] (entries : List (List α × Node α β))
    (location : List α) : Option (Node α β) :=
  if location = [] then some .directory else Assoc.get? entries location

/-- A tree: whatever exists stands in a directory. -/
structure Tree (α : Type u) (β : Type v) [DecidableEq α] where
  entries : List (List α × Node α β)
  nodup : (Assoc.keys entries).Nodup
  parents : ∀ location name, (lookupIn entries (location ++ [name])).isSome = true →
    lookupIn entries location = some .directory

variable {α : Type u} {β : Type v} [DecidableEq α]

/-- What stands at a location. -/
def Tree.lookup (tree : Tree α β) (location : List α) : Option (Node α β) :=
  lookupIn tree.entries location

/-- The location of a link's target, as far as it is known before its steps. -/
def Target.base (target : Target α) (location : List α) : List α :=
  if target.absolute then [] else location

/-! ## The kernel -/

/-- Follow a path until a link is met, which is left to `next`. -/
def followWith (tree : Tree α β) (next : List α → List (Step α) → Option (List α)) :
    List α → List (Step α) → Option (List α)
  | location, [] => some location
  | location, .here :: rest => followWith tree next location rest
  | location, .up :: rest => followWith tree next location.dropLast rest
  | location, .down name :: rest =>
    match tree.lookup (location ++ [name]) with
    | some (.link target) => next (target.base location) (target.steps ++ rest)
    | some .directory => followWith tree next (location ++ [name]) rest
    | _ => if rest.isEmpty then some (location ++ [name]) else none

/-- Follow a path over at most `links` links.  The last name may be missing. -/
def follow (tree : Tree α β) : Nat → List α → List (Step α) → Option (List α)
  | 0 => followWith tree (fun _ _ => none)
  | links + 1 => followWith tree (follow tree links)

/-- What stands at the end of a path; a link at its end is not followed. -/
def lstat (tree : Tree α β) (links : Nat) (location : List α) (steps : List (Step α)) :
    Option (Node α β) :=
  match steps.getLast? with
  | some (.down name) =>
    (follow tree links location steps.dropLast).bind (fun parent => tree.lookup (parent ++ [name]))
  | _ => (follow tree links location steps).bind tree.lookup

section Follow

variable (tree : Tree α β) (links : Nat) (location : List α) (rest : List (Step α))

@[simp] theorem follow_nil : follow tree links location [] = some location := by
  cases links <;> rfl

@[simp] theorem follow_here :
    follow tree links location (.here :: rest) = follow tree links location rest := by
  cases links <;> rfl

@[simp] theorem follow_up :
    follow tree links location (.up :: rest) = follow tree links location.dropLast rest := by
  cases links <;> rfl

variable {tree} {name : α}

theorem follow_directory (h : tree.lookup (location ++ [name]) = some .directory) :
    follow tree links location (.down name :: rest) =
      follow tree links (location ++ [name]) rest := by
  cases links with
  | zero =>
    show followWith tree _ location _ = _
    rw [followWith, h]
    rfl
  | succ links =>
    show followWith tree _ location _ = _
    rw [followWith, h]
    rfl

/-- A file or a missing name ends the path. -/
theorem follow_last (hdirectory : tree.lookup (location ++ [name]) ≠ some .directory)
    (hlink : ∀ target, tree.lookup (location ++ [name]) ≠ some (.link target)) :
    follow tree links location (.down name :: rest) =
      if rest.isEmpty then some (location ++ [name]) else none := by
  have hwith : ∀ next, followWith tree next location (.down name :: rest) =
      if rest.isEmpty then some (location ++ [name]) else none := by
    intro next
    rw [followWith]
    split
    · rename_i target heq
      exact absurd heq (hlink target)
    · rename_i heq
      exact absurd heq hdirectory
    · rfl
  cases links with
  | zero => exact hwith _
  | succ links => exact hwith _

theorem follow_link_zero {target : Target α}
    (h : tree.lookup (location ++ [name]) = some (.link target)) :
    follow tree 0 location (.down name :: rest) = none := by
  show followWith tree _ location _ = _
  rw [followWith, h]

theorem follow_link_succ {target : Target α}
    (h : tree.lookup (location ++ [name]) = some (.link target)) :
    follow tree (links + 1) location (.down name :: rest) =
      follow tree links (target.base location) (target.steps ++ rest) := by
  show followWith tree _ location _ = _
  rw [followWith, h]

end Follow

/-! ## Resolution in other words -/

/-- The kernel fails from the first point, or goes on from the second one with
no more links. -/
def Leads (tree : Tree α β) (location : List α) (steps : List (Step α)) (location' : List α)
    (steps' : List (Step α)) : Prop :=
  ∀ links rest, follow tree links location (steps ++ rest) = none ∨
    ∃ links' ≤ links, follow tree links location (steps ++ rest) =
      follow tree links' location' (steps' ++ rest)

/-- The same, after at least one link. -/
def LeadsOver (tree : Tree α β) (location : List α) (steps : List (Step α)) (location' : List α)
    (steps' : List (Step α)) : Prop :=
  ∀ links rest, follow tree links location (steps ++ rest) = none ∨
    ∃ links' < links, follow tree links location (steps ++ rest) =
      follow tree links' location' (steps' ++ rest)

/-- The kernel always fails at the name. -/
def Dead (tree : Tree α β) (location : List α) (name : α) : Prop :=
  ∀ links rest, follow tree links location (.down name :: rest) = none

section Leads

variable {tree : Tree α β} {location location' location'' : List α}
  {steps steps' steps'' : List (Step α)}

theorem LeadsOver.leads (h : LeadsOver tree location steps location' steps') :
    Leads tree location steps location' steps' := by
  intro links rest
  rcases h links rest with hnone | ⟨links', hlinks, heq⟩
  · exact Or.inl hnone
  · exact Or.inr ⟨links', hlinks.le, heq⟩

/-- The steps that are left do not matter. -/
theorem Leads.append (h : Leads tree location steps location' steps') (more : List (Step α)) :
    Leads tree location (steps ++ more) location' (steps' ++ more) := by
  intro links rest
  rw [List.append_assoc, List.append_assoc]
  exact h links (more ++ rest)

theorem LeadsOver.trans (h : LeadsOver tree location steps location' steps')
    (h' : Leads tree location' steps' location'' steps'') :
    LeadsOver tree location steps location'' steps'' := by
  intro links rest
  rcases h links rest with hnone | ⟨links', hlinks, heq⟩
  · exact Or.inl hnone
  · rw [heq]
    rcases h' links' rest with hnone | ⟨links'', hlinks', heq'⟩
    · exact Or.inl hnone
    · exact Or.inr ⟨links'', by omega, heq'⟩

/-- A name that leads over a link to itself is never resolved. -/
theorem dead_of_leadsOver {name : α} {steps : List (Step α)}
    (h : LeadsOver tree location [.down name] location (.down name :: steps)) :
    Dead tree location name := by
  intro links
  induction links using Nat.strongRecOn with
  | ind links ih =>
    intro rest
    rcases h links rest with hnone | ⟨links', hlinks, heq⟩
    · exact hnone
    · have hagain := ih links' hlinks (steps ++ rest)
      rw [← hagain]
      exact heq

end Leads

/-! ## The canonical path -/

/-- What is still to be resolved: a step, or the mark that the target of a link
ends here. -/
inductive Part (α : Type u)
  | step (step : Step α)
  | resolved (link : List α)

/-- The path so far, and the links that were met: with their canonical path, or
none while they are being resolved. -/
structure Resolution (α : Type u) where
  path : List α
  seen : List (List α × Option (List α)) := []

/-- One part, with the parts that take its place. -/
def advance (tree : Tree α β) (part : Part α) (state : Resolution α) :
    Resolution α × List (Part α) :=
  match part with
  | .resolved link => ({ state with seen := Assoc.set state.seen link (some state.path) }, [])
  | .step .here => (state, [])
  | .step .up => ({ state with path := state.path.dropLast }, [])
  | .step (.down name) =>
    let path := state.path ++ [name]
    match tree.lookup path with
    | some (.link target) =>
      match Assoc.get? state.seen path with
      | some (some known) => ({ state with path := known }, [])
      | some none => ({ state with path }, [])
      | none =>
        ({ path := target.base state.path, seen := Assoc.set state.seen path none },
          target.steps.map .step ++ [.resolved path])
    | _ => ({ state with path }, [])

/-- The loop over the parts. -/
def resolve (tree : Tree α β) : Nat → List (Part α) → Resolution α → Resolution α
  | 0, _, state => state
  | _ + 1, [], state => state
  | rounds + 1, part :: rest, state =>
    resolve tree rounds ((advance tree part state).2 ++ rest) (advance tree part state).1

/-- The parts that a link stands for, with its mark. -/
def Node.size : Node α β → Nat
  | .link target => target.steps.length + 2
  | _ => 0

/-- The parts of an entry that may still be met. -/
def remaining (seen : List (List α × Option (List α))) (entry : List α × Node α β) : Nat :=
  if (Assoc.get? seen entry.1).isSome then 0 else entry.2.size

/-- The parts of the links that were not met. -/
def unseen (tree : Tree α β) (seen : List (List α × Option (List α))) : Nat :=
  (tree.entries.map (remaining seen)).sum

/-- The canonical path, from a location. -/
def canonical (tree : Tree α β) (location : List α) (steps : List (Step α)) : List α :=
  (resolve tree (steps.length + unseen tree []) (steps.map .step)
    { path := location }).path

/-! ### The loop ends -/

section Ends

variable {seen : List (List α × Option (List α))} {link : List α} {value : Option (List α)}

theorem remaining_set_self {entry : List α × Node α β} (h : entry.1 = link) :
    remaining (Assoc.set seen link value) entry = 0 := by
  unfold remaining
  rw [h, Assoc.get?_set_self]
  rfl

theorem remaining_set_le (entry : List α × Node α β) :
    remaining (Assoc.set seen link value) entry ≤ remaining seen entry := by
  by_cases heq : entry.1 = link
  · rw [remaining_set_self heq]
    exact Nat.zero_le _
  · unfold remaining
    rw [Assoc.get?_set_ne _ heq]

theorem unseen_set_le (tree : Tree α β) :
    unseen tree (Assoc.set seen link value) ≤ unseen tree seen := by
  unfold unseen
  apply List.sum_le_sum
  exact fun entry _ => remaining_set_le entry

/-- A link that is met for the first time pays for its parts. -/
theorem unseen_set {tree : Tree α β} {target : Target α}
    (hlink : (link, .link target) ∈ tree.entries) (hnew : Assoc.get? seen link = none) :
    unseen tree (Assoc.set seen link value) + (target.steps.length + 2) ≤ unseen tree seen := by
  have hself : remaining seen (link, (Node.link target : Node α β)) = target.steps.length + 2 := by
    unfold remaining
    rw [hnew]
    rfl
  unfold unseen
  generalize tree.entries = entries at hlink
  induction entries with
  | nil => cases hlink
  | cons entry rest ih =>
    rw [List.map_cons, List.map_cons, List.sum_cons, List.sum_cons]
    have hentry : remaining (Assoc.set seen link value) entry ≤ remaining seen entry :=
      remaining_set_le entry
    rcases List.mem_cons.1 hlink with rfl | hrest
    · have hrest : (rest.map (remaining (Assoc.set seen link value))).sum ≤
          (rest.map (remaining seen)).sum := by
        apply List.sum_le_sum
        exact fun other _ => remaining_set_le other
      have hzero : remaining (Assoc.set seen link value)
          (link, (Node.link target : Node α β)) = 0 := remaining_set_self rfl
      rw [hzero, hself]
      omega
    · have hrest := ih hrest
      omega

theorem mem_entries_of_lookup {tree : Tree α β} {target : Target α}
    (h : tree.lookup link = some (.link target)) : (link, .link target) ∈ tree.entries := by
  unfold Tree.lookup lookupIn at h
  split at h
  · cases h
  · exact Assoc.mem_of_get? h

/-- A round uses up a part, or a link that was not met. -/
theorem length_advance (tree : Tree α β) (part : Part α) (state : Resolution α) :
    (advance tree part state).2.length + unseen tree (advance tree part state).1.seen ≤
      unseen tree state.seen := by
  unfold advance
  split
  · simpa using unseen_set_le tree
  · simp
  · simp
  · dsimp only
    split
    · rename_i target htarget
      split
      · simp
      · simp
      · rename_i hnew
        have hpaid := @unseen_set _ _ _ _ _ none _ _ (mem_entries_of_lookup htarget) hnew
        simp only [List.length_append, List.length_map, List.length_singleton]
        omega
    · simp

/-- With enough rounds the bound does not matter. -/
theorem resolve_stable (tree : Tree α β) (rounds more : Nat) (parts : List (Part α))
    (state : Resolution α) (h : parts.length + unseen tree state.seen ≤ rounds) :
    resolve tree (rounds + more) parts state = resolve tree rounds parts state := by
  induction rounds generalizing parts state with
  | zero =>
    have hempty : parts = [] := List.length_eq_zero_iff.1 (by omega)
    subst hempty
    cases more with
    | zero => rfl
    | succ more => rw [Nat.zero_add, resolve, resolve]
  | succ rounds ih =>
    cases parts with
    | nil =>
      rw [Nat.succ_add, resolve, resolve]
    | cons part rest =>
      rw [Nat.succ_add, resolve, resolve]
      apply ih
      have hround := length_advance tree part state
      rw [List.length_cons] at h
      rw [List.length_append]
      omega

end Ends

/-! ### The kernel stays on the canonical path -/

/-- Every name on the path is no link, or the kernel fails at it. -/
def Solid (tree : Tree α β) (path : List α) : Prop :=
  ∀ location name, location ++ [name] <+: path →
    (∀ target, tree.lookup (location ++ [name]) ≠ some (.link target)) ∨ Dead tree location name

section Solid

variable {tree : Tree α β} {path location : List α}

theorem Solid.of_prefix (h : Solid tree path) (habove : location <+: path) :
    Solid tree location :=
  fun other name hother => h other name (hother.trans habove)

theorem solid_nil (tree : Tree α β) : Solid tree [] := by
  intro location name habove
  have hnil := List.prefix_nil.1 habove
  simp at hnil

theorem Solid.concat {name : α} (h : Solid tree path)
    (hname : (∀ target, tree.lookup (path ++ [name]) ≠ some (.link target)) ∨
      Dead tree path name) : Solid tree (path ++ [name]) := by
  intro other last habove
  rcases List.prefix_concat_iff.1 habove with heq | hold
  · obtain ⟨rfl, hlast⟩ := List.append_inj' heq rfl
    cases hlast
    exact hname
  · exact h other last hold

/-- Whatever exists stands in directories. -/
theorem Tree.directory_of_prefix (hexists : (tree.lookup path).isSome = true)
    (habove : location <+: path) (hne : location ≠ path) :
    tree.lookup location = some .directory := by
  induction path using List.reverseRecOn with
  | nil => exact absurd (List.prefix_nil.1 habove) hne
  | append_singleton parent name ih =>
    have hparent := tree.parents parent name hexists
    rcases List.prefix_concat_iff.1 habove with heq | hold
    · exact absurd heq hne
    · by_cases hself : location = parent
      · rw [hself]
        exact hparent
      · refine ih ?_ hold hself
        show (lookupIn tree.entries parent).isSome = true
        rw [hparent]
        rfl

theorem solid_of_directory (h : tree.lookup path = some .directory) : Solid tree path := by
  intro other name habove
  refine Or.inl (fun target hlink => ?_)
  by_cases hself : other ++ [name] = path
  · rw [hself, h] at hlink
    cases hlink
  · rw [tree.directory_of_prefix (by rw [h]; rfl) habove hself] at hlink
    cases hlink

/-- The kernel fails on a solid path, or stays on it. -/
theorem Solid.follow (links : Nat) (done todo : List α) (h : Solid tree (done ++ todo)) :
    follow tree links done (todo.map .down) = none ∨
      follow tree links done (todo.map .down) = some (done ++ todo) := by
  induction todo generalizing done with
  | nil => exact Or.inr (by simp)
  | cons name rest ih =>
    have hsplit : done ++ name :: rest = done ++ [name] ++ rest := by simp
    rw [List.map_cons]
    have hlast : (∀ target, tree.lookup (done ++ [name]) ≠ some (.link target)) →
        tree.lookup (done ++ [name]) ≠ some .directory →
        FileTree.follow tree links done (.down name :: rest.map .down) = none ∨
          FileTree.follow tree links done (.down name :: rest.map .down) =
            some (done ++ name :: rest) := by
      intro hlink hdirectory
      rw [follow_last links done _ hdirectory hlink]
      cases rest with
      | nil => exact Or.inr rfl
      | cons _ _ => exact Or.inl rfl
    rcases h done name (hsplit ▸ List.prefix_append _ _) with hlink | hdead
    · by_cases hdirectory : tree.lookup (done ++ [name]) = some .directory
      · rw [follow_directory links done _ hdirectory, hsplit]
        exact ih (done ++ [name]) (hsplit ▸ h)
      · exact hlast hlink hdirectory
    · exact Or.inl (hdead links _)

end Solid

/-- Each mark that is left belongs to a link that leads, over itself, to the
current path and the steps before the mark. -/
def Pending (tree : Tree α β) (path : List α) : List (Step α) → List (Part α) → Prop
  | _, [] => True
  | before, .step step :: rest => Pending tree path (before ++ [step]) rest
  | before, .resolved link :: rest =>
    (∃ location name, link = location ++ [name] ∧
      LeadsOver tree location [.down name] path before) ∧ Pending tree path before rest

section Pending

variable {tree : Tree α β} {path path' : List α} {before before' : List (Step α)}
  {parts : List (Part α)}

theorem Pending.of_leads (h : Pending tree path before parts)
    (hleads : Leads tree path before path' before') : Pending tree path' before' parts := by
  induction parts generalizing before before' with
  | nil => exact trivial
  | cons part rest ih =>
    cases part with
    | step step => exact ih h (hleads.append [step])
    | resolved link =>
      obtain ⟨⟨location, name, hlink, hover⟩, hrest⟩ := h
      exact ⟨⟨location, name, hlink, hover.trans hleads⟩, ih hrest hleads⟩

theorem pending_map (steps : List (Step α)) :
    Pending tree path before (steps.map .step ++ parts) ↔
      Pending tree path (before ++ steps) parts := by
  induction steps generalizing before with
  | nil => simp
  | cons step rest ih =>
    rw [List.map_cons, List.cons_append]
    show Pending tree path (before ++ [step]) _ ↔ _
    rw [ih, List.append_assoc]
    rfl

/-- What is known of a link that is being resolved. -/
theorem Pending.mem {link : List α} (h : Pending tree path before parts)
    (hlink : Part.resolved link ∈ parts) : ∃ location name more, link = location ++ [name] ∧
      LeadsOver tree location [.down name] path (before ++ more) := by
  induction parts generalizing before with
  | nil => cases hlink
  | cons part rest ih =>
    cases part with
    | step step =>
      have hrest : Part.resolved link ∈ rest := by simpa using hlink
      obtain ⟨location, name, more, heq, hover⟩ := ih h hrest
      refine ⟨location, name, [step] ++ more, heq, ?_⟩
      rw [← List.append_assoc]
      exact hover
    | resolved other =>
      obtain ⟨⟨location, name, heq, hover⟩, hpending⟩ := h
      rcases List.mem_cons.1 hlink with hself | hrest
      · cases hself
        refine ⟨location, name, [], heq, ?_⟩
        rw [List.append_nil]
        exact hover
      · exact ih hpending hrest

end Pending

/-- What the loop keeps. -/
structure Sound (tree : Tree α β) (parts : List (Part α)) (state : Resolution α) : Prop where
  solid : Solid tree state.path
  pending : Pending tree state.path [] parts
  known : ∀ link path, Assoc.get? state.seen link = some (some path) →
    Solid tree path ∧ ∃ location name, link = location ++ [name] ∧
      Leads tree location [.down name] path []
  waiting : ∀ link, Assoc.get? state.seen link = some none → Part.resolved link ∈ parts

namespace Sound

variable {tree : Tree α β} {parts rest : List (Part α)} {state : Resolution α}

/-- A step that the kernel takes as well, or fails at. -/
theorem move {step : Step α} {path : List α} (h : Sound tree (.step step :: rest) state)
    (hsolid : Solid tree path) (hleads : Leads tree state.path [step] path []) :
    Sound tree rest { state with path } where
  solid := hsolid
  pending := Pending.of_leads h.pending hleads
  known := h.known
  waiting := by
    intro link hlink
    simpa using h.waiting link hlink

/-- The steps of a link take its place. -/
theorem enter {name : α} {target : Target α} (h : Sound tree (.step (.down name) :: rest) state)
    (htarget : tree.lookup (state.path ++ [name]) = some (.link target)) :
    Sound tree (target.steps.map .step ++ [.resolved (state.path ++ [name])] ++ rest)
      { path := target.base state.path
        seen := Assoc.set state.seen (state.path ++ [name]) none } where
  solid := by
    unfold Target.base
    split
    · exact solid_nil tree
    · exact h.solid
  pending := by
    have hover : LeadsOver tree state.path [.down name] (target.base state.path)
        target.steps := by
      intro links more
      cases links with
      | zero => exact Or.inl (follow_link_zero state.path more htarget)
      | succ links =>
        exact Or.inr ⟨links, Nat.lt_succ_self links, follow_link_succ links state.path more htarget⟩
    rw [List.append_assoc, pending_map]
    exact ⟨⟨state.path, name, rfl, hover⟩, Pending.of_leads h.pending hover.leads⟩
  known := by
    intro link path hlink
    by_cases heq : link = state.path ++ [name]
    · rw [heq, Assoc.get?_set_self] at hlink
      cases hlink
    · rw [Assoc.get?_set_ne _ heq] at hlink
      exact h.known link path hlink
  waiting := by
    intro link hlink
    by_cases heq : link = state.path ++ [name]
    · rw [heq]
      simp
    · rw [Assoc.get?_set_ne _ heq] at hlink
      have hold : Part.resolved link ∈ rest := by simpa using h.waiting link hlink
      simp [hold]

/-- The target of a link is resolved. -/
theorem leave {link : List α} (h : Sound tree (.resolved link :: rest) state) :
    Sound tree rest { state with seen := Assoc.set state.seen link (some state.path) } where
  solid := h.solid
  pending := h.pending.2
  known := by
    intro other path hother
    by_cases heq : other = link
    · rw [heq, Assoc.get?_set_self] at hother
      cases hother
      obtain ⟨location, name, hlink, hover⟩ := h.pending.1
      exact ⟨h.solid, location, name, heq.trans hlink, hover.leads⟩
    · rw [Assoc.get?_set_ne _ heq] at hother
      exact h.known other path hother
  waiting := by
    intro other hother
    by_cases heq : other = link
    · rw [heq, Assoc.get?_set_self] at hother
      cases hother
    · rw [Assoc.get?_set_ne _ heq] at hother
      have hold := h.waiting other hother
      rcases List.mem_cons.1 hold with hself | hrest
      · cases hself
        exact absurd rfl heq
      · exact hrest

/-- A round keeps the invariant. -/
theorem advance {part : Part α} (h : Sound tree (part :: rest) state) :
    Sound tree ((advance tree part state).2 ++ rest) (advance tree part state).1 := by
  cases part with
  | resolved link => exact h.leave
  | step step =>
    cases step with
    | here =>
      refine h.move h.solid (fun links more => Or.inr ⟨links, le_refl _, ?_⟩)
      exact follow_here tree links state.path more
    | up =>
      refine h.move (h.solid.of_prefix (List.dropLast_prefix _)) (fun links more => ?_)
      exact Or.inr ⟨links, le_refl _, follow_up tree links state.path more⟩
    | down name =>
      have hplain : (∀ target, tree.lookup (state.path ++ [name]) ≠ some (.link target)) →
          Sound tree rest { state with path := state.path ++ [name] } := by
        intro hlink
        refine h.move (h.solid.concat (Or.inl hlink)) (fun links more => ?_)
        by_cases hdirectory : tree.lookup (state.path ++ [name]) = some .directory
        · exact Or.inr ⟨links, le_refl _, follow_directory links state.path more hdirectory⟩
        · show FileTree.follow tree links state.path (.down name :: more) = none ∨ _
          rw [List.singleton_append, follow_last links state.path more hdirectory hlink]
          cases more with
          | nil => exact Or.inr ⟨links, le_refl _, by simp⟩
          | cons _ _ => exact Or.inl rfl
      unfold FileTree.advance
      dsimp only
      split
      · rename_i target htarget
        split
        · rename_i known hknown
          obtain ⟨hsolid, location, name', heq, hleads⟩ := h.known _ known hknown
          obtain ⟨rfl, hname⟩ := List.append_inj' heq rfl
          cases hname
          exact h.move hsolid hleads
        · rename_i hwaiting
          have hmem : Part.resolved (state.path ++ [name]) ∈ rest := by
            simpa using h.waiting _ hwaiting
          have hpending : Pending tree state.path [.down name] rest := h.pending
          obtain ⟨location, name', more, heq, hover⟩ := hpending.mem hmem
          obtain ⟨hlocation, hname⟩ := List.append_inj' heq rfl
          cases hname
          rw [← hlocation] at hover
          have hdead : Dead tree state.path name := dead_of_leadsOver hover
          exact h.move (h.solid.concat (Or.inr hdead))
            (fun links steps => Or.inl (hdead links steps))
        · exact h.enter htarget
      · rename_i hlink
        exact hplain (fun target htarget => hlink target htarget)

/-- The path is solid after any number of rounds. -/
theorem solid_resolve (rounds : Nat) (h : Sound tree parts state) :
    Solid tree (resolve tree rounds parts state).path := by
  induction rounds generalizing parts state with
  | zero => exact h.solid
  | succ rounds ih =>
    cases parts with
    | nil => exact h.solid
    | cons part rest => exact ih h.advance

end Sound

/-- A canonical path is solid. -/
theorem solid_canonical {tree : Tree α β} {location : List α}
    (h : tree.lookup location = some .directory) (steps : List (Step α)) :
    Solid tree (canonical tree location steps) := by
  apply Sound.solid_resolve
  refine ⟨solid_of_directory h, ?_, ?_, ?_⟩
  · rw [← List.append_nil (steps.map Part.step), pending_map]
    exact trivial
  · intro link path hlink
    cases hlink
  · intro link hlink
    cases hlink

/-! ## Changes -/

/-- A directory stands at the location. -/
def Tree.isDirectory (tree : Tree α β) (location : List α) : Bool :=
  match tree.lookup location with
  | some .directory => true
  | _ => false

/-- Nothing stands at the location, or a file. -/
def Tree.isWritable (tree : Tree α β) (location : List α) : Bool :=
  match tree.lookup location with
  | none => true
  | some (.file _) => true
  | _ => false

theorem Tree.isDirectory_iff {tree : Tree α β} {location : List α} :
    tree.isDirectory location = true ↔ tree.lookup location = some .directory := by
  unfold Tree.isDirectory
  split
  · rename_i heq
    simp [heq]
  · rename_i hne
    simpa using hne

/-- Put a node into a directory, where no directory stands. -/
def Tree.put (tree : Tree α β) (location : List α) (name : α) (node : Node α β)
    (hparent : tree.isDirectory location = true)
    (hfree : tree.isDirectory (location ++ [name]) = false) : Tree α β where
  entries := Assoc.set tree.entries (location ++ [name]) node
  nodup := Assoc.nodup_set _ _ tree.nodup
  parents := by
    have hne : location ≠ location ++ [name] := by simp
    have hlookup : ∀ other, other ≠ location ++ [name] →
        lookupIn (Assoc.set tree.entries (location ++ [name]) node) other =
          tree.lookup other := by
      intro other hother
      unfold Tree.lookup lookupIn
      rw [Assoc.get?_set_ne _ hother]
    intro parent last hexists
    by_cases heq : parent ++ [last] = location ++ [name]
    · obtain ⟨rfl, -⟩ := List.append_inj' heq rfl
      rw [hlookup _ hne]
      exact Tree.isDirectory_iff.1 hparent
    · rw [hlookup _ heq] at hexists
      have hdirectory := tree.parents parent last hexists
      have hself : parent ≠ location ++ [name] := by
        rintro rfl
        rw [Tree.isDirectory_iff.2 hdirectory] at hfree
        cases hfree
      rw [hlookup _ hself]
      exact hdirectory

theorem Tree.lookup_put {tree : Tree α β} {location : List α} {name : α} {node : Node α β}
    {hparent : tree.isDirectory location = true}
    {hfree : tree.isDirectory (location ++ [name]) = false} (other : List α) :
    (tree.put location name node hparent hfree).lookup other =
      if other = location ++ [name] then some node else tree.lookup other := by
  unfold Tree.put Tree.lookup lookupIn
  dsimp only
  by_cases heq : other = location ++ [name]
  · rw [if_pos heq, heq, if_neg (by simp), Assoc.get?_set_self]
  · rw [if_neg heq, Assoc.get?_set_ne _ heq]

/-- `mkdir` at the end of a path that leads to a free name. -/
def Tree.makeDirectory (tree : Tree α β) (location : List α) : Option (Tree α β) :=
  match location.getLast? with
  | none => none
  | some name =>
    if h : tree.isDirectory location.dropLast = true ∧
        tree.isDirectory (location.dropLast ++ [name]) = false ∧
        (tree.lookup (location.dropLast ++ [name])).isNone = true then
      some (tree.put location.dropLast name .directory h.1 h.2.1)
    else none

/-- Write a file at the end of a path, a new one or another content. -/
def Tree.writeFile (tree : Tree α β) (location : List α) (content : β) : Option (Tree α β) :=
  match location.getLast? with
  | none => none
  | some name =>
    if h : tree.isDirectory location.dropLast = true ∧
        tree.isDirectory (location.dropLast ++ [name]) = false ∧
        tree.isWritable (location.dropLast ++ [name]) = true then
      some (tree.put location.dropLast name (.file content) h.1 h.2.1)
    else none

/-- Write a file where a path leads. -/
def Tree.writeAt (tree : Tree α β) (links : Nat) (path : List α) (content : β) :
    Option (List α × Tree α β) :=
  (follow tree links [] (path.map .down)).bind (fun location =>
    (tree.writeFile location content).map (fun tree => (location, tree)))

/-- Make the directories of a path one after the other, those that are missing,
with the locations of the new ones. -/
def makeDirectories (links : Nat) : Tree α β → List α → List α →
    Option (Tree α β × List (List α))
  | tree, _, [] => some (tree, [])
  | tree, done, name :: rest =>
    match follow tree links [] ((done ++ [name]).map .down) with
    | none => none
    | some location =>
      match tree.lookup location with
      | some .directory => makeDirectories links tree (done ++ [name]) rest
      | some _ => none
      | none =>
        (tree.makeDirectory location).bind (fun tree =>
          (makeDirectories links tree (done ++ [name]) rest).map (fun result =>
            (result.1, location :: result.2)))

theorem follow_through {tree : Tree α β} {location : List α}
    (h : tree.lookup location = some .directory) (links : Nat) (rest : List (Step α)) :
    follow tree links [] (location.map .down ++ rest) = follow tree links location rest := by
  induction location using List.reverseRecOn generalizing rest with
  | nil => rfl
  | append_singleton parent name ih =>
    have hparent := tree.parents parent name (by
      show (tree.lookup (parent ++ [name])).isSome = true
      rw [h]
      rfl)
    rw [List.map_append, List.append_assoc, ih hparent]
    exact follow_directory links parent rest h

theorem makeDirectory_eq_some {tree tree' : Tree α β} {location : List α} {name : α}
    (h : tree.makeDirectory (location ++ [name]) = some tree') (other : List α) :
    tree'.lookup other =
      if other = location ++ [name] then some .directory else tree.lookup other := by
  unfold Tree.makeDirectory at h
  rw [List.getLast?_concat] at h
  dsimp only at h
  split at h
  · cases h
    rw [Tree.lookup_put, List.dropLast_concat]
  · cases h

theorem makeDirectory_isSome {tree : Tree α β} {location : List α} {name : α}
    (hparent : tree.lookup location = some .directory)
    (hfree : tree.lookup (location ++ [name]) = none) :
    ∃ tree', tree.makeDirectory (location ++ [name]) = some tree' := by
  unfold Tree.makeDirectory
  rw [List.getLast?_concat]
  dsimp only
  have hnot : tree.isDirectory (location ++ [name]) = false := by
    unfold Tree.isDirectory
    rw [hfree]
  rw [dif_pos]
  · exact ⟨_, rfl⟩
  · rw [List.dropLast_concat]
    exact ⟨Tree.isDirectory_iff.2 hparent, hnot, by rw [hfree]; rfl⟩

theorem writeFile_isSome_iff {tree : Tree α β} {location : List α} {name : α} {content : β}
    (hparent : tree.lookup location = some .directory) :
    (tree.writeFile (location ++ [name]) content).isSome = true ↔
      tree.isWritable (location ++ [name]) = true := by
  have hdrop : (location ++ [name]).dropLast = location := List.dropLast_concat
  unfold Tree.writeFile
  rw [List.getLast?_concat]
  dsimp only
  constructor
  · intro h
    split at h
    · rename_i hfree
      rw [← hdrop]
      exact hfree.2.2
    · cases h
  · intro h
    have hnot : tree.isDirectory (location ++ [name]) = false := by
      unfold Tree.isWritable at h
      unfold Tree.isDirectory
      cases hnode : tree.lookup (location ++ [name]) with
      | none => rfl
      | some node =>
        rw [hnode] at h
        cases node with
        | directory => cases h
        | file content => rfl
        | link target => cases h
    rw [dif_pos]
    · rfl
    · rw [hdrop]
      exact ⟨Tree.isDirectory_iff.2 hparent, hnot, h⟩

/-- The directories of a path were made in the tree `base`; if any was missing,
the end of the path was. -/
structure Extends (base tree : Tree α β) (path : List α) : Prop where
  made : tree.lookup path = some .directory
  old : ∀ location, tree.lookup location = base.lookup location ∨
    base.lookup location = none ∧ tree.lookup location = some .directory ∧ location <+: path
  same : tree = base ∨ base.lookup path = none

namespace Extends

variable {base tree : Tree α β} {path : List α} {name : α}

theorem start (base : Tree α β) : Extends base base [] where
  made := rfl
  old := fun _ => Or.inl rfl
  same := Or.inl rfl

/-- A missing name was missing before. -/
theorem missing (h : Extends base tree path) {location : List α}
    (hmissing : tree.lookup location = none) : base.lookup location = none := by
  rcases h.old location with heq | ⟨hold, -, -⟩
  · rw [← heq]
    exact hmissing
  · exact hold

/-- What existed stood in directories. -/
theorem missing_child {location : List α} (h : base.lookup location = none) (name : α) :
    base.lookup (location ++ [name]) = none := by
  cases hchild : base.lookup (location ++ [name]) with
  | none => rfl
  | some node =>
    have hparent := base.parents location name (by
      show (base.lookup (location ++ [name])).isSome = true
      rw [hchild]
      rfl)
    have hnone : lookupIn base.entries location = none := h
    rw [hnone] at hparent
    cases hparent

/-- A name that is no link is where its path leads. -/
theorem stay (h : Extends base tree path)
    (hlink : ∀ target, tree.lookup (path ++ [name]) ≠ some (.link target)) (links : Nat) :
    FileTree.follow tree links [] ((path ++ [name]).map .down) = some (path ++ [name]) := by
  rw [List.map_append, follow_through h.made]
  show FileTree.follow tree links path [.down name] = _
  by_cases hdirectory : tree.lookup (path ++ [name]) = some .directory
  · rw [follow_directory links path [] hdirectory, follow_nil]
  · rw [follow_last links path [] hdirectory hlink]
    rfl

/-- A link on a solid path is one at which the kernel fails. -/
theorem follow (h : Extends base tree path) (hsolid : Solid base (path ++ [name])) (links : Nat) :
    FileTree.follow tree links [] ((path ++ [name]).map .down) = none ∨
      FileTree.follow tree links [] ((path ++ [name]).map .down) = some (path ++ [name]) := by
  by_cases hlink : ∃ target, tree.lookup (path ++ [name]) = some (.link target)
  · obtain ⟨target, hlink⟩ := hlink
    have hbase : base.lookup (path ++ [name]) = some (.link target) := by
      rcases h.old (path ++ [name]) with heq | ⟨-, hmade, -⟩
      · rw [← heq]
        exact hlink
      · rw [hlink] at hmade
        cases hmade
    rcases h.same with rfl | hmissing
    · rcases hsolid path name (List.prefix_refl _) with hno | hdead
      · exact absurd hbase (hno target)
      · rw [List.map_append, follow_through h.made]
        exact Or.inl (hdead links [])
    · rw [missing_child hmissing name] at hbase
      cases hbase
  · exact Or.inr (h.stay (fun target heq => hlink ⟨target, heq⟩) links)

/-- A directory that exists is passed. -/
theorem pass (h : Extends base tree path)
    (hdirectory : tree.lookup (path ++ [name]) = some .directory) :
    Extends base tree (path ++ [name]) where
  made := hdirectory
  old := by
    intro location
    rcases h.old location with heq | ⟨hmissing, hmade, habove⟩
    · exact Or.inl heq
    · exact Or.inr ⟨hmissing, hmade, habove.trans (List.prefix_append _ _)⟩
  same := h.same.imp id (fun hmissing => missing_child hmissing name)

/-- A missing directory is made. -/
theorem make (h : Extends base tree path) {tree' : Tree α β}
    (hmissing : tree.lookup (path ++ [name]) = none)
    (hmake : tree.makeDirectory (path ++ [name]) = some tree') :
    Extends base tree' (path ++ [name]) where
  made := by
    rw [makeDirectory_eq_some hmake, if_pos rfl]
  old := by
    intro location
    rw [makeDirectory_eq_some hmake]
    by_cases heq : location = path ++ [name]
    · rw [if_pos heq, heq]
      exact Or.inr ⟨h.missing hmissing, rfl, List.prefix_refl _⟩
    · rw [if_neg heq]
      rcases h.old location with hsame | ⟨hold, hmade, habove⟩
      · exact Or.inl hsame
      · exact Or.inr ⟨hold, hmade, habove.trans (List.prefix_append _ _)⟩
  same := Or.inr (h.missing hmissing)

/-- Every directory on the way is there. -/
theorem directory (h : Extends base tree path) {location : List α} (habove : location <+: path) :
    tree.lookup location = some .directory := by
  by_cases heq : location = path
  · rw [heq]
    exact h.made
  · exact tree.directory_of_prefix (by rw [h.made]; rfl) habove heq

end Extends

/-- Nothing but directories stands in the way of the path. -/
def Makeable (tree : Tree α β) (path : List α) : Prop :=
  ∀ location, location <+: path → tree.lookup location = none ∨
    tree.lookup location = some .directory

/-- The directories of a solid path are made exactly if nothing else stands in
the way. -/
theorem makeDirectories_spec {base tree : Tree α β} (links : Nat) {done rest : List α}
    (hsolid : Solid base (done ++ rest)) (h : Extends base tree done) :
    (∀ result, makeDirectories links tree done rest = some result →
      Extends base result.1 (done ++ rest)) ∧
    (Makeable base (done ++ rest) → ∃ result, makeDirectories links tree done rest = some result) := by
  induction rest generalizing tree done with
  | nil =>
    rw [List.append_nil] at hsolid ⊢
    refine ⟨fun result hresult => ?_, fun _ => ⟨_, rfl⟩⟩
    cases hresult
    exact h
  | cons name rest ih =>
    have hsplit : done ++ name :: rest = done ++ [name] ++ rest := by simp
    rw [hsplit] at hsolid ⊢
    have hfollow := h.follow (hsolid.of_prefix (List.prefix_append _ _)) links
    constructor
    · intro result hresult
      unfold makeDirectories at hresult
      split at hresult
      · cases hresult
      · rename_i location hlocation
        rcases hfollow with hnone | hsome
        · rw [hnone] at hlocation
          cases hlocation
        · rw [hsome] at hlocation
          cases hlocation
          split at hresult
          · rename_i hdirectory
            exact (ih hsolid (h.pass hdirectory)).1 result hresult
          · cases hresult
          · rename_i hmissing
            obtain ⟨tree', hmake, hmade⟩ := Option.bind_eq_some_iff.1 hresult
            obtain ⟨result', hresult', rfl⟩ := Option.map_eq_some_iff.1 hmade
            exact (ih hsolid (h.make hmissing hmake)).1 result' hresult'
    · intro hmakeable
      have hhere := hmakeable (done ++ [name]) (List.prefix_append _ _)
      have hnow : tree.lookup (done ++ [name]) = none ∨
          tree.lookup (done ++ [name]) = some .directory := by
        rcases h.old (done ++ [name]) with heq | ⟨-, hmade, -⟩
        · rw [heq]
          exact hhere
        · exact Or.inr hmade
      have hsome : follow tree links [] ((done ++ [name]).map .down) = some (done ++ [name]) := by
        refine h.stay (fun target hlink => ?_) links
        rcases hnow with hmissing | hdirectory
        · rw [hmissing] at hlink
          cases hlink
        · rw [hdirectory] at hlink
          cases hlink
      unfold makeDirectories
      rw [hsome]
      dsimp only
      rcases hnow with hmissing | hdirectory
      · rw [hmissing]
        dsimp only
        obtain ⟨tree', hmake⟩ := makeDirectory_isSome h.made hmissing
        obtain ⟨result, hresult⟩ := (ih hsolid (h.make hmissing hmake)).2 hmakeable
        rw [hmake, Option.bind_some, hresult]
        exact ⟨_, rfl⟩
      · rw [hdirectory]
        exact (ih hsolid (h.pass hdirectory)).2 hmakeable

/-- Directories that could be made were free to be made. -/
theorem Extends.makeable {base tree : Tree α β} {path : List α} (h : Extends base tree path) :
    Makeable base path := by
  intro location habove
  rcases h.old location with heq | ⟨hmissing, -, -⟩
  · rw [← heq]
    exact Or.inr (h.directory habove)
  · exact Or.inl hmissing

theorem writeFile_eq_some {tree tree' : Tree α β} {location : List α} {content : β}
    (h : tree.writeFile location content = some tree') (other : List α) :
    tree'.lookup other =
      if other = location then some (.file content) else tree.lookup other := by
  unfold Tree.writeFile at h
  split at h
  · cases h
  · rename_i name hname
    have hlocation : location.dropLast ++ [name] = location :=
      List.dropLast_append_getLast? name hname
    split at h
    · cases h
      rw [Tree.lookup_put, hlocation]
    · cases h

namespace Extends

variable {base tree : Tree α β} {path : List α} {name : α} {content : β}

/-- The name in the last directory is as it was. -/
theorem lookup_child (h : Extends base tree path) :
    tree.lookup (path ++ [name]) = base.lookup (path ++ [name]) := by
  rcases h.old (path ++ [name]) with heq | ⟨-, -, habove⟩
  · exact heq
  · have hlength := habove.length_le
    rw [List.length_append, List.length_singleton] at hlength
    omega

/-- The files are as they were. -/
theorem file_iff (h : Extends base tree path) (location : List α) (content : β) :
    tree.lookup location = some (.file content) ↔ base.lookup location = some (.file content) := by
  rcases h.old location with heq | ⟨hmissing, hmade, -⟩
  · rw [heq]
  · rw [hmissing, hmade]
    constructor
    · intro h
      cases h
    · intro h
      cases h

/-- A file is written at the end of a solid path itself. -/
theorem writeAt_eq_some (h : Extends base tree path) (hsolid : Solid base (path ++ [name]))
    {links : Nat} {location : List α} {tree' : Tree α β}
    (hwrite : tree.writeAt links (path ++ [name]) content = some (location, tree')) :
    location = path ++ [name] ∧ tree.writeFile (path ++ [name]) content = some tree' := by
  obtain ⟨other, hother, hfile⟩ := Option.bind_eq_some_iff.1 hwrite
  obtain ⟨tree'', hfile, heq⟩ := Option.map_eq_some_iff.1 hfile
  cases heq
  rcases h.follow hsolid links with hnone | hsome
  · rw [hnone] at hother
    cases hother
  · rw [hsome] at hother
    cases hother
    exact ⟨rfl, hfile⟩

/-- It is written exactly if nothing or a file stood there. -/
theorem writeAt_isSome_iff (h : Extends base tree path) (hsolid : Solid base (path ++ [name]))
    (links : Nat) :
    (tree.writeAt links (path ++ [name]) content).isSome = true ↔
      base.isWritable (path ++ [name]) = true := by
  have hsame : tree.isWritable (path ++ [name]) = base.isWritable (path ++ [name]) := by
    unfold Tree.isWritable
    rw [h.lookup_child]
  rw [← hsame]
  constructor
  · intro hwrite
    obtain ⟨⟨location, tree'⟩, hwrite⟩ := Option.isSome_iff_exists.1 hwrite
    obtain ⟨-, hfile⟩ := h.writeAt_eq_some hsolid hwrite
    apply (@writeFile_isSome_iff _ _ _ _ _ _ content h.made).1
    rw [hfile]
    rfl
  · intro hwritable
    have hlink : ∀ target, tree.lookup (path ++ [name]) ≠ some (.link target) := by
      intro target hlink
      unfold Tree.isWritable at hwritable
      rw [hlink] at hwritable
      cases hwritable
    unfold Tree.writeAt
    rw [h.stay hlink links, Option.bind_some, Option.isSome_map]
    exact (writeFile_isSome_iff h.made).2 hwritable

end Extends

section Save

variable {base : Tree α β} {path : List α} {links : Nat} {content : β}

/-- Nothing is written at the root. -/
theorem writeAt_nil (tree : Tree α β) : tree.writeAt links [] content = none := by
  unfold Tree.writeAt
  rw [List.map_nil, follow_nil]
  rfl

/-- The directories above a solid path, once they are made. -/
theorem extends_of_makeDirectories {result : Tree α β × List (List α)} (hsolid : Solid base path)
    (h : makeDirectories links base [] path = some result) : Extends base result.1 path :=
  (makeDirectories_spec links hsolid (Extends.start base)).1 result h

/-- A file is written into directories that are made for it exactly if nothing
stands in the way of them, and at its own place nothing or a file. -/
theorem makeDirectories_writeAt_iff (hsolid : Solid base path) :
    (∃ result, makeDirectories links base [] path.dropLast = some result ∧
      (result.1.writeAt links path content).isSome = true) ↔
    Makeable base path.dropLast ∧ base.isWritable path = true := by
  induction path using List.reverseRecOn with
  | nil =>
    constructor
    · rintro ⟨result, -, hwrite⟩
      rw [writeAt_nil] at hwrite
      cases hwrite
    · intro h
      cases h.2
  | append_singleton parent name _ =>
    rw [List.dropLast_concat]
    have hparent : Solid base parent := hsolid.of_prefix (List.prefix_append _ _)
    constructor
    · rintro ⟨result, hmake, hwrite⟩
      have hextends := extends_of_makeDirectories hparent hmake
      exact ⟨hextends.makeable, (hextends.writeAt_isSome_iff hsolid links).1 hwrite⟩
    · rintro ⟨hmakeable, hwritable⟩
      obtain ⟨result, hmake⟩ :=
        (makeDirectories_spec links hparent (Extends.start base)).2 hmakeable
      have hextends := extends_of_makeDirectories hparent hmake
      exact ⟨result, hmake, (hextends.writeAt_isSome_iff hsolid links).2 hwritable⟩

/-- It is written at the solid path itself, and no other file changes. -/
theorem writeAt_eq_some {result : Tree α β × List (List α)} {location : List α}
    {tree : Tree α β} (hsolid : Solid base path)
    (hmake : makeDirectories links base [] path.dropLast = some result)
    (hwrite : result.1.writeAt links path content = some (location, tree)) :
    location = path ∧ ∀ other old, other ≠ path →
      (tree.lookup other = some (.file old) ↔ base.lookup other = some (.file old)) := by
  induction path using List.reverseRecOn with
  | nil =>
    rw [writeAt_nil] at hwrite
    cases hwrite
  | append_singleton parent name _ =>
    rw [List.dropLast_concat] at hmake
    have hparent : Solid base parent := hsolid.of_prefix (List.prefix_append _ _)
    have hextends := extends_of_makeDirectories hparent hmake
    obtain ⟨rfl, hfile⟩ := hextends.writeAt_eq_some hsolid hwrite
    refine ⟨rfl, fun other old hother => ?_⟩
    rw [writeFile_eq_some hfile, if_neg hother]
    exact hextends.file_iff other old

end Save

end FileTree
