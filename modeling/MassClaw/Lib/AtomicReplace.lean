import Mathlib.Logic.Function.Basic
import Mathlib.Tactic.Common

/-!
# Replacing a file in one step

Files are contents under paths.  A program performs actions on them one after
the other, and it can be interrupted at any point: before an action, after it,
or in the middle of a write, which leaves anything under the path.  A rename is
one step.

A file that is written to a staging path first and renamed over its target is
replaced in one step: an interruption leaves all other paths as they were, or
the replacement is complete.

Paths and contents are parameters.
-/

namespace Files

universe u v

variable {κ : Type u} {β : Type v}

/-- An action on the files; `makeDirs` makes the directories above a path. -/
inductive Action (κ : Type u) (β : Type v)
  | makeDirs (path : κ)
  | chmod (path : κ) (mode : Nat)
  | write (path : κ) (content : β)
  | rename (source target : κ)

variable [DecidableEq κ]

/-- The files after an action; a rename of a missing file changes nothing. -/
def perform (files : κ → Option β) : Action κ β → κ → Option β
  | .makeDirs _ => files
  | .chmod _ _ => files
  | .write path content => Function.update files path (some content)
  | .rename source target =>
    if source = target then files
    else
      match files source with
      | none => files
      | some content => Function.update (Function.update files target (some content)) source none

/-- The files after some actions. -/
def run (files : κ → Option β) (actions : List (Action κ β)) : κ → Option β :=
  actions.foldl perform files

/-- What is left of an action that is cut off in its middle. -/
inductive CutOff : (κ → Option β) → Action κ β → (κ → Option β) → Prop
  | write (files : κ → Option β) (path : κ) (content : β) (left : Option β) :
      CutOff files (.write path content) (Function.update files path left)

/-- What is left when some actions are interrupted. -/
inductive Interrupted : (κ → Option β) → List (Action κ β) → (κ → Option β) → Prop
  | here (files : κ → Option β) (actions : List (Action κ β)) : Interrupted files actions files
  | cut {files files' : κ → Option β} {action : Action κ β} {rest : List (Action κ β)}
      (h : CutOff files action files') : Interrupted files (action :: rest) files'
  | later {files files' : κ → Option β} {action : Action κ β} {rest : List (Action κ β)}
      (h : Interrupted (perform files action) rest files') :
      Interrupted files (action :: rest) files'

variable {files files' : κ → Option β}

@[simp] theorem run_nil : run files ([] : List (Action κ β)) = files := rfl

@[simp] theorem run_cons (action : Action κ β) (rest : List (Action κ β)) :
    run files (action :: rest) = run (perform files action) rest := rfl

/-- The last action may have been performed. -/
theorem Interrupted.complete (actions : List (Action κ β)) (files : κ → Option β) :
    Interrupted files actions (run files actions) := by
  induction actions generalizing files with
  | nil => exact .here _ _
  | cons action rest ih => exact .later (ih _)

theorem Interrupted.nil (h : Interrupted files ([] : List (Action κ β)) files') :
    files' = files := by
  cases h
  rfl

/-- An interruption of two sequences is one of the first, or one of the second
after the first. -/
theorem Interrupted.append {first second : List (Action κ β)}
    (h : Interrupted files (first ++ second) files') :
    Interrupted files first files' ∨ Interrupted (run files first) second files' := by
  induction first generalizing files with
  | nil => exact Or.inr h
  | cons action rest ih =>
    cases h with
    | here => exact Or.inl (.here _ _)
    | cut hcut => exact Or.inl (.cut hcut)
    | later hlater => exact (ih hlater).imp_left .later

/-! ## A rename -/

section Rename

variable {source target : κ} {content : β}

theorem perform_rename (hne : source ≠ target) (hsource : files source = some content) :
    perform files (.rename source target) =
      Function.update (Function.update files target (some content)) source none := by
  rw [perform, if_neg hne, hsource]

/-- A rename is one step. -/
theorem Interrupted.rename (h : Interrupted files [.rename source target] files') :
    files' = files ∨ files' = perform files (.rename source target) := by
  cases h with
  | here => exact Or.inl rfl
  | cut hcut => cases hcut
  | later hlater => exact Or.inr hlater.nil

end Rename

/-! ## A replacement -/

section Replace

variable {staging target : κ} {mode : Nat} {content : β}

/-- The content is written to the staging path, which is renamed over the
target. -/
def replace (staging target : κ) (mode : Nat) (content : β) : List (Action κ β) :=
  [.makeDirs target, .write staging content, .chmod staging mode, .rename staging target]

theorem run_replace (hne : staging ≠ target) :
    run files (replace staging target mode content) =
      Function.update (Function.update files target (some content)) staging none := by
  show perform (Function.update files staging (some content)) (.rename staging target) = _
  rw [perform_rename hne (Function.update_self _ _ _)]
  funext path
  by_cases hstaging : path = staging
  · rw [hstaging, Function.update_self, Function.update_self]
  · rw [Function.update_of_ne hstaging, Function.update_of_ne hstaging]
    by_cases htarget : path = target
    · rw [htarget, Function.update_self, Function.update_self]
    · rw [Function.update_of_ne htarget, Function.update_of_ne htarget,
        Function.update_of_ne hstaging]

/-- An interruption leaves all paths but the staging path as they were, or the
replacement is complete. -/
theorem Interrupted.replace
    (h : Interrupted files (Files.replace staging target mode content) files') :
    (∀ path, path ≠ staging → files' path = files path) ∨
      files' = run files (Files.replace staging target mode content) := by
  have hstaged : ∀ left path, path ≠ staging →
      Function.update files staging left path = files path :=
    fun left path hpath => Function.update_of_ne hpath _ _
  cases h with
  | here => exact Or.inl (fun _ _ => rfl)
  | cut hcut => cases hcut
  | later h =>
    cases h with
    | here => exact Or.inl (fun _ _ => rfl)
    | cut hcut =>
      cases hcut
      exact Or.inl (hstaged _)
    | later h =>
      cases h with
      | here => exact Or.inl (hstaged _)
      | cut hcut => cases hcut
      | later h =>
        rcases h.rename with rfl | rfl
        · exact Or.inl (hstaged _)
        · exact Or.inr rfl

end Replace

end Files
