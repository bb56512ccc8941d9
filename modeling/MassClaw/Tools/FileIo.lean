import Mathlib.Data.Char
import Mathlib.Data.List.Lex
import Mathlib.Data.List.MinMax
import MassClaw.Lib.Delimited
import MassClaw.Lib.FileTree
import MassClaw.Lib.Outcome
import MassClaw.Tools.ApiCaller

/-!
# The file tools, `app/tools/file_io.py`

Every path argument goes through `_safe_resolve`: the canonical path has to
begin with the canonical path of the workspace, or be that path itself.  A
canonical path is one on which the kernel stays, so a file that is opened lies
where its canonical path says.

Nothing but the resolution of paths makes a call of the file system fail here:
permissions and limits of names and sizes are left out.
-/

namespace MassClaw

namespace FileIo

open FileTree

/-- A name in a directory. -/
def Component : Type :=
  {name : List Char // name ≠ [] ∧ name ≠ ['.'] ∧ name ≠ ['.', '.'] ∧ '/' ∉ name ∧
    Char.ofNat 0 ∉ name}

instance : DecidableEq Component := inferInstanceAs (DecidableEq (Subtype _))

/-- An absolute path without `.` and `..`. -/
abbrev Location := List Component

/-- The file system and the process. -/
structure FileHost where
  tree : Tree Component Bytes
  /-- `os.getcwd()`. -/
  cwd : Location
  cwdExists : tree.lookup cwd = some .directory
  /-- The links that the kernel follows in one path. -/
  maxLinks : Nat
  /-- `bytes.decode("utf-8", errors="replace")`. -/
  decode : Bytes → String

/-- The exceptions of the file system. -/
inductive FileError
  | embeddedNullByte
  | osError
  deriving DecidableEq

/-- `ToolResult`, without the cost, which the tools leave at zero. -/
structure ToolResult where
  content : String
  success : Bool
  metadata : List (String × Json) := []
  artifacts : List String := []

/-- What a tool does to the file system, with the location where it does it. -/
inductive Access
  | read (location : Location)
  | list (location : Location)
  | write (location : Location)
  | mkdir (location : Location)
  deriving DecidableEq

/-! ## Paths -/

/-- One part of a path; `none` for a null character. -/
def step? (part : List Char) : Option (Step Component) :=
  if hempty : part = [] ∨ part = ['.'] then some .here
  else if hup : part = ['.', '.'] then some .up
  else if hname : '/' ∉ part ∧ Char.ofNat 0 ∉ part then
    some (.down ⟨part, (not_or.1 hempty).1, (not_or.1 hempty).2, hup, hname.1, hname.2⟩)
  else none

/-- The parts of a path. -/
def steps? (path : List Char) : Option (List (Step Component)) :=
  (path.splitOn '/').mapM step?

/-- Where a path starts. -/
def FileHost.start (host : FileHost) (path : List Char) : Location :=
  if path.head? = some '/' then [] else host.cwd

/-- The text of a location. -/
def render (location : Location) : List Char :=
  if location = [] then ['/'] else location.flatMap (fun name => '/' :: name.1)

/-- `os.path.join`. -/
def join (path other : List Char) : List Char :=
  if other.head? = some '/' then other
  else if path = [] ∨ path.getLast? = some '/' then path ++ other
  else path ++ '/' :: other

/-- `os.path.realpath`. -/
def realpath (host : FileHost) (path : List Char) : Except FileError Location :=
  match steps? path with
  | none => .error .embeddedNullByte
  | some steps => .ok (canonical host.tree (host.start path) steps)

/-- `os.path.islink`. -/
def islink (host : FileHost) (path : List Char) : Bool :=
  match steps? path with
  | none => false
  | some steps =>
    match lstat host.tree host.maxLinks (host.start path) steps with
    | some (.link _) => true
    | _ => false

/-- The node that a canonical path leads to, with its location. -/
def FileHost.stat (host : FileHost) (path : Location) :
    Option (Location × Node Component Bytes) :=
  (follow host.tree host.maxLinks [] (path.map .down)).bind (fun location =>
    (host.tree.lookup location).map (fun node => (location, node)))

/-- The text checks of `_safe_resolve`. -/
def isPlain (path : List Char) : Bool :=
  !(Char.ofNat 0 ∈ path || 1024 < path.length) &&
    !path.any (fun c => c.toNat < 32 && c ∉ ['\n', '\r', '\t'])

/-- `_safe_resolve`. -/
def safeResolve (host : FileHost) (workspace : String) (relativePath : List Char) :
    Except FileError (Option Location) :=
  if !isPlain relativePath then .ok none
  else do
    let workspaceReal ← realpath host workspace.toList
    let rawPath := join workspace.toList relativePath
    if islink host rawPath then return none
    let candidate ← realpath host rawPath
    if !(render workspaceReal ++ ['/']).isPrefixOf (render candidate) &&
        render candidate ≠ render workspaceReal then return none
    else return some candidate

/-- The path argument as the messages show it. -/
def pathArgument (path : Option String) : List Char := ApiCaller.strip (path.getD "").toList

/-- The answer to a path outside the workspace. -/
def escapes (pathArg : String) : ToolResult where
  content :=
    s!"Error: path '{pathArg}' escapes the workspace root — path traversal is not allowed."
  success := false

/-! ## The tools -/

namespace FileReadTool

/-- `_FILE_READ_CAP`. -/
def fileReadCap : Nat := 1 * 1024 * 1024

/-- The answer to a file, which is opened when it is not too large. -/
def readFile (host : FileHost) (pathArg : String) (location : Location) (content : Bytes) :
    ToolResult × List Access :=
  let size := content.length
  if fileReadCap < size then
    ({ content := s!"Error: file '{pathArg}' is {size} bytes, exceeding the 1 MB read cap."
       success := false
       metadata := [("size_bytes", .int size)] }, [])
  else if 0 ∈ content.take 1024 then
    ({ content :=
         s!"Error: file '{pathArg}' appears to be binary and cannot be read as text."
       success := false
       metadata := [("path", .str pathArg), ("binary", .bool true)] }, [.read location])
  else
    ({ content := host.decode content
       success := true
       metadata := [("path", .str pathArg), ("size_bytes", .int size)] }, [.read location])

/-- `execute`, with what it reads. -/
def execute (host : FileHost) (workspace : String) (path : Option String) :
    Except FileError ToolResult × List Access :=
  let pathArg := String.ofList (pathArgument path)
  if pathArgument path = [] then
    (.ok { content := "Error: 'path' argument is required.", success := false }, [])
  else
    match safeResolve host workspace (pathArgument path) with
    | .error error => (.error error, [])
    | .ok none => (.ok (escapes pathArg), [])
    | .ok (some resolved) =>
      match host.stat resolved with
      | none =>
        (.ok { content := s!"Error: file '{pathArg}' does not exist.", success := false }, [])
      | some (location, .file content) =>
        let (result, accesses) := readFile host pathArg location content
        (.ok result, accesses)
      | some _ => (.ok { content := s!"Error: '{pathArg}' is not a file.", success := false }, [])

end FileReadTool

namespace FileWriteTool

/-- How a call ends, with the tree it leaves and what it has done. -/
structure WriteRun where
  result : Except FileError ToolResult
  tree : Tree Component Bytes
  accesses : List Access

/-- `execute`. -/
def execute (host : FileHost) (workspace : String) (path content : Option String) : WriteRun :=
  let pathArg := String.ofList (pathArgument path)
  if pathArgument path = [] then
    { result := .ok { content := "Error: 'path' argument is required.", success := false }
      tree := host.tree
      accesses := [] }
  else
    match safeResolve host workspace (pathArgument path) with
    | .error error => { result := .error error, tree := host.tree, accesses := [] }
    | .ok none => { result := .ok (escapes pathArg), tree := host.tree, accesses := [] }
    | .ok (some resolved) =>
      let text := content.getD ""
      let bytes := text.toUTF8.toList
      match makeDirectories host.maxLinks host.tree [] resolved.dropLast with
      | none => { result := .error .osError, tree := host.tree, accesses := [] }
      | some (tree, made) =>
        match tree.writeAt host.maxLinks resolved bytes with
        | none => { result := .error .osError, tree, accesses := made.map .mkdir }
        | some (location, tree) =>
          { result := .ok
              { content :=
                  s!"File '{pathArg}' written successfully ({text.length} characters)."
                success := true
                metadata := [("path", .str pathArg), ("bytes_written", .int bytes.length)]
                artifacts := [String.ofList (render resolved)] }
            tree
            accesses := made.map .mkdir ++ [.write location] }

end FileWriteTool

namespace FileListTool

/-- The entries of a directory. -/
def scandir (host : FileHost) (location : Location) : List (Component × Node Component Bytes) :=
  host.tree.entries.filterMap (fun entry =>
    if entry.1.dropLast = location then entry.1.getLast?.map (fun name => (name, entry.2))
    else none)

/-- `is_dir()` of an entry; a link is followed. -/
def isDir (host : FileHost) (path : Location) (name : Component) : Bool :=
  match host.stat (path ++ [name]) with
  | some (_, .directory) => true
  | _ => false

/-- The entry is a link. -/
def isLinkEntry (entry : Component × Node Component Bytes) : Bool :=
  match entry.2 with
  | .link _ => true
  | _ => false

/-- A directory that `os.walk` visits. -/
structure Visited where
  path : Location
  /-- Where the directory that is listed stands. -/
  location : Location
  dirs : List Component
  files : List Component

/-- `os.walk`, which does not follow links, to a depth. -/
def walk (host : FileHost) : Nat → Location → List Visited
  | 0, _ => []
  | depth + 1, path =>
    match host.stat path with
    | some (location, .directory) =>
      let entries := scandir host location
      let dirs := entries.filter (fun entry => isDir host path entry.1)
      let files := entries.filter (fun entry => !isDir host path entry.1)
      { path, location, dirs := dirs.map Prod.fst, files := files.map Prod.fst } ::
        (dirs.filter (fun entry => !isLinkEntry entry)).flatMap (fun entry =>
          walk host depth (path ++ [entry.1]))
    | _ => []

/-- No location has more names. -/
def depth (host : FileHost) : Nat :=
  (host.tree.entries.map (fun entry => entry.1.length)).foldr max 0 + 1

/-- `sorted`. -/
def sorted (names : List Component) : List Component :=
  names.mergeSort (fun name other => decide (name.1 ≤ other.1))

/-- `str(path.relative_to(root))`. -/
def relative (root path : Location) : String :=
  String.intercalate "/" ((path.drop root.length).map (fun name => String.ofList name.1))

/-- The lines of a recursive listing. -/
def recursiveLines (host : FileHost) (workspaceReal resolved : Location) : List String :=
  (walk host (depth host) resolved).flatMap (fun visited =>
    (sorted visited.dirs).map (fun name =>
      relative workspaceReal (visited.path ++ [name]) ++ "/") ++
    (sorted visited.files).map (fun name => relative workspaceReal (visited.path ++ [name])))

/-- The lines of a listing. -/
def lines (host : FileHost) (workspaceReal resolved location : Location) : List String :=
  (sorted ((scandir host location).map Prod.fst)).map (fun name =>
    relative workspaceReal (resolved ++ [name]) ++ if isDir host resolved name then "/" else "")

/-- The directory that a call lists. -/
def directory (host : FileHost) (workspace : String) (path : List Char) :
    Except FileError (Option Location) :=
  if path = [] then (realpath host workspace.toList).map some
  else safeResolve host workspace path

/-- `execute`, with what it lists. -/
def execute (host : FileHost) (workspace : String) (path : Option String) (recursive : Bool) :
    Except FileError ToolResult × List Access :=
  let pathArg := String.ofList (pathArgument path)
  let shown := if pathArg = "" then "." else pathArg
  match directory host workspace (pathArgument path), realpath host workspace.toList with
  | .error error, _ => (.error error, [])
  | .ok none, _ => (.ok (escapes pathArg), [])
  | .ok (some _), .error error => (.error error, [])
  | .ok (some resolved), .ok workspaceReal =>
    match host.stat resolved with
    | none =>
      (.ok { content := s!"Error: directory '{shown}' does not exist.", success := false }, [])
    | some (location, .directory) =>
      let entries :=
        if recursive then recursiveLines host workspaceReal resolved
        else lines host workspaceReal resolved location
      let accesses :=
        if recursive then (walk host (depth host) resolved).map (fun visited =>
          Access.list visited.location)
        else [.list location]
      if entries.isEmpty then
        (.ok { content := "(empty directory)", success := true
               metadata := [("path", .str shown), ("count", .int 0)] }, accesses)
      else
        (.ok { content := String.intercalate "\n" entries, success := true
               metadata := [("path", .str shown), ("count", .int entries.length)] }, accesses)
    | some _ =>
      (.ok { content := s!"Error: '{pathArg}' is not a directory.", success := false }, [])

end FileListTool

/-! ## Texts of locations -/

section Render

variable {name other : Component} {location root candidate : Location}

theorem stops_flat (location : Location) :
    Delimited.Stops (· = '/') (location.flatMap (fun name => '/' :: name.1)) := by
  cases location with
  | nil => exact Delimited.stops_nil
  | cons name rest => exact @Delimited.stops_cons _ (· = '/') '/' rfl _

/-- A name ends at the next slash. -/
theorem reads_name (name other : Component) :
    Delimited.Reads (· = '/') (name.1 = other.1) ('/' :: name.1) ('/' :: other.1) := by
  apply Delimited.Reads.cons
  apply Delimited.Reads.of_free
  · intro c hc heq
    subst heq
    exact name.2.2.2.2.1 hc
  · intro c hc heq
    subst heq
    exact other.2.2.2.2.1 hc

/-- A text that goes on after a slash belongs to a location below. -/
theorem flat_prefix (rest : List Char)
    (h : location.flatMap (fun name => '/' :: name.1) ++ '/' :: rest =
      candidate.flatMap (fun name => '/' :: name.1)) : location <+: candidate := by
  induction location generalizing candidate with
  | nil => exact List.nil_prefix
  | cons name location ih =>
    cases candidate with
    | nil => cases h
    | cons other candidate =>
      rw [List.flatMap_cons, List.flatMap_cons, List.append_assoc] at h
      have hstop : Delimited.Stops (· = '/')
          (location.flatMap (fun name => '/' :: name.1) ++ '/' :: rest) := by
        cases location with
        | nil => exact @Delimited.stops_cons _ (· = '/') '/' rfl _
        | cons name location => exact @Delimited.stops_cons _ (· = '/') '/' rfl _
      obtain ⟨hname, hrest⟩ := reads_name name other _ _ hstop (stops_flat candidate) h
      rw [Subtype.ext hname]
      exact List.cons_prefix_cons.2 ⟨rfl, ih hrest⟩

theorem flat_injective (h : location.flatMap (fun name => '/' :: name.1) =
    candidate.flatMap (fun name => '/' :: name.1)) : location = candidate := by
  induction location generalizing candidate with
  | nil =>
    cases candidate with
    | nil => rfl
    | cons other candidate => cases h
  | cons name location ih =>
    cases candidate with
    | nil => cases h
    | cons other candidate =>
      rw [List.flatMap_cons, List.flatMap_cons] at h
      obtain ⟨hname, hrest⟩ := reads_name name other _ _ (stops_flat location)
        (stops_flat candidate) h
      rw [Subtype.ext hname, ih hrest]

theorem render_ne_root (hne : location ≠ []) : render location ≠ ['/'] := by
  intro h
  unfold render at h
  rw [if_neg hne] at h
  cases location with
  | nil => exact hne rfl
  | cons name location =>
    rw [List.flatMap_cons, List.cons_append, List.cons_eq_cons] at h
    exact name.2.1 (List.append_eq_nil_iff.1 h.2).1

theorem render_injective (h : render location = render candidate) : location = candidate := by
  by_cases hlocation : location = []
  · by_cases hcandidate : candidate = []
    · rw [hlocation, hcandidate]
    · rw [hlocation] at h
      exact absurd h.symm (render_ne_root hcandidate)
  · by_cases hcandidate : candidate = []
    · rw [hcandidate] at h
      exact absurd h (render_ne_root hlocation)
    · unfold render at h
      rw [if_neg hlocation, if_neg hcandidate] at h
      exact flat_injective h

/-- The test of `_safe_resolve` lets through what lies at or below the root. -/
theorem prefix_of_render (h : (render root ++ ['/']).isPrefixOf (render candidate) = true ∨
    render candidate = render root) : root <+: candidate := by
  rcases h with hbelow | heq
  · by_cases hroot : root = []
    · rw [hroot]
      exact List.nil_prefix
    · obtain ⟨rest, hrest⟩ := List.isPrefixOf_iff_prefix.1 hbelow
      unfold render at hrest
      rw [if_neg hroot, List.append_assoc] at hrest
      by_cases hcandidate : candidate = []
      · obtain ⟨name, below, rfl⟩ := List.exists_cons_of_ne_nil hroot
        rw [if_pos hcandidate, List.flatMap_cons, List.append_assoc, List.cons_append,
          List.cons_eq_cons] at hrest
        exact absurd (List.append_eq_nil_iff.1 hrest.2).1 name.2.1
      · rw [if_neg hcandidate] at hrest
        exact flat_prefix rest hrest
  · rw [render_injective heq]

end Render

/-! ## Resolution -/

section Resolution

variable {host : FileHost} {workspace : String} {path : List Char} {root location : Location}

/-- A path that is canonical is one on which the kernel stays. -/
theorem solid_realpath (h : realpath host path = .ok location) : Solid host.tree location := by
  unfold realpath at h
  split at h
  · cases h
  · cases h
    apply solid_canonical
    unfold FileHost.start
    split
    · rfl
    · exact host.cwdExists

theorem stat_eq_some (hsolid : Solid host.tree location) {found : Location}
    {node : Node Component Bytes} (h : host.stat location = some (found, node)) :
    found = location ∧ host.tree.lookup location = some node := by
  obtain ⟨other, hother, hnode⟩ := Option.bind_eq_some_iff.1 h
  obtain ⟨node', hnode', heq⟩ := Option.map_eq_some_iff.1 hnode
  cases heq
  rcases Solid.follow host.maxLinks [] location hsolid with hnone | hsome
  · rw [hnone] at hother
    cases hother
  · rw [hsome] at hother
    cases hother
    exact ⟨rfl, hnode'⟩

/-- The path argument is accepted, and no link. -/
def Accepted (host : FileHost) (workspace : String) (path : List Char) : Prop :=
  isPlain path = true ∧ islink host (join workspace.toList path) = false

/-- `_safe_resolve` accepts what lies at or below the workspace root. -/
theorem safeResolve_eq_some (h : safeResolve host workspace path = .ok (some location)) :
    Accepted host workspace path ∧ realpath host (join workspace.toList path) = .ok location ∧
      ∃ root, realpath host workspace.toList = .ok root ∧ root <+: location := by
  unfold safeResolve at h
  split at h
  · cases h
  · rename_i hplain
    obtain ⟨root, hroot, h⟩ := Outcome.bind_eq_ok h
    dsimp only at h
    split at h
    · cases h
    · rename_i hlink
      obtain ⟨candidate, hcandidate, h⟩ := Outcome.bind_eq_ok h
      split at h
      · cases h
      · rename_i hinside
        cases h
        refine ⟨⟨by simpa using hplain, by simpa using hlink⟩, hcandidate, root, hroot, ?_⟩
        apply prefix_of_render
        by_cases hbelow : (render root ++ ['/']).isPrefixOf (render location) = true
        · exact Or.inl hbelow
        · exact Or.inr (by simpa [hbelow] using hinside)

/-- A path to the workspace root itself is accepted. -/
theorem safeResolve_root (hroot : realpath host workspace.toList = .ok root)
    (haccepted : Accepted host workspace path)
    (hpath : realpath host (join workspace.toList path) = .ok root) :
    safeResolve host workspace path = .ok (some root) := by
  unfold safeResolve
  rw [haccepted.1, hroot]
  show (if islink host (join workspace.toList path) then _ else
    realpath host (join workspace.toList path) >>= _) = _
  rw [haccepted.2, hpath]
  show (if !(render root ++ ['/']).isPrefixOf (render root) &&
    decide (render root ≠ render root) then _ else _) = _
  rw [if_neg (by simp)]
  rfl

end Resolution

/-! ## Confinement -/

/-- Files are written strictly below the root, and read or listed at or below
it. -/
def Access.Confined (root : Location) : Access → Prop
  | .read location => root <+: location
  | .list location => root <+: location
  | .write location => root <+: location ∧ location ≠ root
  | .mkdir _ => True

/-- Whatever is done is confined to the workspace. -/
def Confined (host : FileHost) (workspace : String) (accesses : List Access) : Prop :=
  ∀ access ∈ accesses, ∃ root, realpath host workspace.toList = .ok root ∧ access.Confined root

section Read

variable (host : FileHost) (workspace : String) (path : Option String)

theorem confined_nil : Confined host workspace [] := by
  intro access haccess
  cases haccess

theorem FileReadTool.mem_readFile {pathArg : String} {location : Location} {content : Bytes}
    {access : Access} (h : access ∈ (readFile host pathArg location content).2) :
    access = .read location := by
  unfold readFile at h
  dsimp only at h
  split at h
  · cases h
  · split at h
    · simpa using h
    · simpa using h

theorem FileReadTool.confined : Confined host workspace (execute host workspace path).2 := by
  unfold execute
  split
  · exact confined_nil host workspace
  · split
    · exact confined_nil host workspace
    · exact confined_nil host workspace
    · rename_i resolved hresolved
      split
      · exact confined_nil host workspace
      · rename_i location content hstat
        intro access haccess
        obtain ⟨-, hpath, root, hroot, hbelow⟩ := safeResolve_eq_some hresolved
        obtain ⟨rfl, -⟩ := stat_eq_some (solid_realpath hpath) hstat
        rw [mem_readFile host haccess]
        exact ⟨root, hroot, hbelow⟩
      · exact confined_nil host workspace

end Read

section List

variable {host : FileHost} {workspace : String} {path location root : Location}

theorem FileListTool.lookup_of_mem_scandir {entry : Component × Node Component Bytes}
    (h : entry ∈ scandir host location) :
    host.tree.lookup (location ++ [entry.1]) = some entry.2 := by
  obtain ⟨⟨other, node⟩, hmem, heq⟩ := List.mem_filterMap.1 h
  dsimp only at heq
  split at heq
  · rename_i hparent
    obtain ⟨name, hname, heq⟩ := Option.map_eq_some_iff.1 heq
    cases heq
    have hother : location ++ [name] = other := by
      rw [← hparent]
      exact List.dropLast_append_getLast? name hname
    dsimp only
    rw [hother]
    unfold Tree.lookup lookupIn
    rw [if_neg (by rw [← hother]; simp)]
    exact (Assoc.mem_iff_get? host.tree.nodup _).1 hmem
  · cases heq

/-- A directory that the walk goes on to is no link. -/
theorem FileListTool.solid_child (hsolid : Solid host.tree location)
    {entry : Component × Node Component Bytes} (hentry : entry ∈ scandir host location)
    (hlink : !isLinkEntry entry) : Solid host.tree (location ++ [entry.1]) := by
  have hlookup := lookup_of_mem_scandir hentry
  apply hsolid.concat
  refine Or.inl (fun target heq => ?_)
  rw [hlookup] at heq
  unfold isLinkEntry at hlink
  rw [Option.some.inj heq] at hlink
  cases hlink

/-- The walk stays below the directory where it starts. -/
theorem FileListTool.walk_below {depth : Nat} {visited : Visited}
    (hsolid : Solid host.tree path) (h : visited ∈ walk host depth path) :
    path <+: visited.location := by
  induction depth generalizing path with
  | zero => cases h
  | succ depth ih =>
    unfold walk at h
    split at h
    · rename_i found hstat
      obtain ⟨rfl, -⟩ := stat_eq_some hsolid hstat
      rcases List.mem_cons.1 h with rfl | hrest
      · exact List.prefix_refl _
      · obtain ⟨entry, hentry, hvisited⟩ := List.mem_flatMap.1 hrest
        rw [List.mem_filter, List.mem_filter] at hentry
        have hchild := solid_child hsolid hentry.1.1 hentry.2
        exact (List.prefix_append _ _).trans (ih hchild hvisited)
    · cases h

theorem FileListTool.length_lt_depth {node : Node Component Bytes}
    (h : host.tree.lookup location = some node) : location.length < depth host := by
  unfold depth
  by_cases hroot : location = []
  · rw [hroot]
    exact Nat.succ_pos _
  · unfold Tree.lookup lookupIn at h
    rw [if_neg hroot] at h
    have hmem : location.length ∈ host.tree.entries.map (fun entry => entry.1.length) :=
      List.mem_map.2 ⟨_, Assoc.mem_of_get? h, rfl⟩
    exact Nat.lt_succ_of_le (List.le_max_of_le hmem (le_refl _))

/-- The walk is over before its bound. -/
theorem FileListTool.walk_stable {rounds : Nat} (more : Nat) (hsolid : Solid host.tree path)
    (h : depth host ≤ rounds + path.length) :
    walk host (rounds + more) path = walk host rounds path := by
  induction rounds generalizing path with
  | zero =>
    cases more with
    | zero => rfl
    | succ more =>
      rw [Nat.zero_add, walk, walk]
      split
      · rename_i found hstat
        obtain ⟨rfl, hlookup⟩ := stat_eq_some hsolid hstat
        have hlength := length_lt_depth hlookup
        omega
      · rfl
  | succ rounds ih =>
    rw [Nat.add_right_comm, walk, walk]
    split
    · rename_i found hstat
      obtain ⟨rfl, -⟩ := stat_eq_some hsolid hstat
      dsimp only
      congr 1
      apply List.flatMap_congr
      intro entry hentry
      rw [List.mem_filter, List.mem_filter] at hentry
      apply ih (solid_child hsolid hentry.1.1 hentry.2)
      rw [List.length_append, List.length_singleton]
      omega
    · rfl

theorem FileListTool.directory_eq_some {text : List Char}
    (h : directory host workspace text = .ok (some location)) :
    Solid host.tree location ∧ ∃ root, realpath host workspace.toList = .ok root ∧
      root <+: location := by
  unfold directory at h
  split at h
  · cases hroot : realpath host workspace.toList with
    | error error =>
      rw [hroot] at h
      cases h
    | ok root =>
      rw [hroot] at h
      cases h
      exact ⟨solid_realpath hroot, location, rfl, List.prefix_refl _⟩
  · obtain ⟨-, hpath, hroot⟩ := safeResolve_eq_some h
    exact ⟨solid_realpath hpath, hroot⟩

theorem FileListTool.confined (host : FileHost) (workspace : String) (path : Option String)
    (recursive : Bool) : Confined host workspace (execute host workspace path recursive).2 := by
  unfold execute
  dsimp only
  split
  · exact confined_nil host workspace
  · exact confined_nil host workspace
  · exact confined_nil host workspace
  · rename_i resolved workspaceReal hdirectory hworkspace
    obtain ⟨hsolid, root, hroot, hbelow⟩ := directory_eq_some hdirectory
    split
    · exact confined_nil host workspace
    · rename_i location hstat
      obtain ⟨rfl, -⟩ := stat_eq_some hsolid hstat
      have hall : Confined host workspace
          (if recursive then (walk host (depth host) location).map (fun visited =>
            Access.list visited.location) else [.list location]) := by
        intro access haccess
        split at haccess
        · obtain ⟨visited, hvisited, rfl⟩ := List.mem_map.1 haccess
          exact ⟨root, hroot, hbelow.trans (walk_below hsolid hvisited)⟩
        · rw [List.mem_singleton.1 haccess]
          exact ⟨root, hroot, hbelow⟩
      rw [apply_ite Prod.snd, ite_self]
      exact hall
    · exact confined_nil host workspace

end List

section Write

variable (host : FileHost) (workspace : String) (path content : Option String)

/-- What is written: the canonical path of an accepted argument, if nothing but
directories stands above it and no directory or link at it. -/
theorem FileWriteTool.write_mem_iff (location : Location) :
    Access.write location ∈ (execute host workspace path content).accesses ↔
      pathArgument path ≠ [] ∧
      safeResolve host workspace (pathArgument path) = .ok (some location) ∧
      Makeable host.tree location.dropLast ∧ host.tree.isWritable location = true := by
  unfold execute
  dsimp only
  split
  · rename_i hempty
    simp [hempty]
  · rename_i hne
    split
    · rename_i hresolved
      simp [hresolved]
    · rename_i hresolved
      simp [hresolved]
    · rename_i resolved hresolved
      have hsolid := solid_realpath (safeResolve_eq_some hresolved).2.1
      have hiff := @makeDirectories_writeAt_iff _ _ _ _ _ host.maxLinks
        (content.getD "").toUTF8.toList hsolid
      have hright : (pathArgument path ≠ [] ∧
          safeResolve host workspace (pathArgument path) = .ok (some location) ∧
          Makeable host.tree location.dropLast ∧ host.tree.isWritable location = true) ↔
          location = resolved ∧ Makeable host.tree resolved.dropLast ∧
            host.tree.isWritable resolved = true := by
        rw [hresolved]
        constructor
        · rintro ⟨-, heq, hfree⟩
          cases heq
          exact ⟨rfl, hfree⟩
        · rintro ⟨rfl, hfree⟩
          exact ⟨hne, rfl, hfree⟩
      rw [hright, ← hiff]
      clear hright hiff
      generalize (content.getD "").toUTF8.toList = bytes
      split
      · rename_i hmake
        simp [hmake]
      · rename_i tree made hmake
        split
        · rename_i hwrite
          simp [hmake, hwrite]
        · rename_i written tree' hwrite
          obtain ⟨rfl, -⟩ := writeAt_eq_some hsolid hmake hwrite
          simp [hmake, hwrite]

/-- Directories are made and a file is written, once a path was accepted. -/
theorem FileWriteTool.access_cases {access : Access}
    (h : access ∈ (execute host workspace path content).accesses) :
    (∃ root, realpath host workspace.toList = .ok root) ∧
      ((∃ location, access = .mkdir location) ∨ ∃ location, access = .write location) := by
  unfold execute at h
  dsimp only at h
  split at h
  · cases h
  · split at h
    · cases h
    · cases h
    · rename_i resolved hresolved
      obtain ⟨-, -, root, hroot, -⟩ := safeResolve_eq_some hresolved
      refine ⟨⟨root, hroot⟩, ?_⟩
      split at h
      · cases h
      · rename_i tree made hmake
        split at h
        · obtain ⟨location, -, rfl⟩ := List.mem_map.1 h
          exact Or.inl ⟨location, rfl⟩
        · rename_i written tree' hwrite
          rcases List.mem_append.1 h with hmade | hwritten
          · obtain ⟨location, -, rfl⟩ := List.mem_map.1 hmade
            exact Or.inl ⟨location, rfl⟩
          · exact Or.inr ⟨written, List.mem_singleton.1 hwritten⟩

/-- The files that are not written stay as they are. -/
theorem FileWriteTool.file_iff {location : Location}
    (h : Access.write location ∉ (execute host workspace path content).accesses) (old : Bytes) :
    (execute host workspace path content).tree.lookup location = some (.file old) ↔
      host.tree.lookup location = some (.file old) := by
  revert h
  unfold execute
  dsimp only
  split
  · exact fun _ => Iff.rfl
  · split
    · exact fun _ => Iff.rfl
    · exact fun _ => Iff.rfl
    · rename_i resolved hresolved
      have hsolid := solid_realpath (safeResolve_eq_some hresolved).2.1
      split
      · exact fun _ => Iff.rfl
      · rename_i tree made hmake
        split
        · intro _
          have hparent := hsolid.of_prefix (List.dropLast_prefix resolved)
          exact (extends_of_makeDirectories hparent hmake).file_iff location old
        · rename_i written tree' hwrite
          intro h
          obtain ⟨rfl, hother⟩ := writeAt_eq_some hsolid hmake hwrite
          refine hother location old ?_
          rintro rfl
          simp at h

end Write

/-- The path leads to the workspace root itself, where nothing stands, or a
file, and the directories above it stand or can be made. -/
def ReplacesRoot (host : FileHost) (workspace : String) (path : List Char) : Prop :=
  path ≠ [] ∧ Accepted host workspace path ∧
    ∃ root, realpath host workspace.toList = .ok root ∧
      realpath host (join workspace.toList path) = .ok root ∧
      Makeable host.tree root.dropLast ∧ host.tree.isWritable root = true

theorem FileWriteTool.confined_iff (host : FileHost) (workspace : String)
    (path content : Option String) :
    Confined host workspace (execute host workspace path content).accesses ↔
      ¬ReplacesRoot host workspace (pathArgument path) := by
  constructor
  · intro h hreplaces
    obtain ⟨hne, haccepted, root, hroot, hpath, hfree⟩ := hreplaces
    have hresolved := safeResolve_root hroot haccepted hpath
    have hwrite := (write_mem_iff host workspace path content root).2 ⟨hne, hresolved, hfree⟩
    obtain ⟨other, hother, -, hstrict⟩ := h _ hwrite
    rw [hroot] at hother
    cases hother
    exact hstrict rfl
  · intro h access haccess
    obtain ⟨⟨root, hroot⟩, ⟨location, rfl⟩ | ⟨location, rfl⟩⟩ :=
      access_cases host workspace path content haccess
    · exact ⟨root, hroot, trivial⟩
    · obtain ⟨hne, hresolved, hfree⟩ := (write_mem_iff host workspace path content location).1 haccess
      obtain ⟨haccepted, hpath, other, hother, hbelow⟩ := safeResolve_eq_some hresolved
      refine ⟨other, hother, hbelow, ?_⟩
      rintro rfl
      exact h ⟨hne, haccepted, location, hother, hpath, hfree⟩

/-- The three tools are confined to the workspace, unless the path leads to the
workspace root and a file can stand there. -/
theorem accesses_confined_iff (host : FileHost) (workspace : String)
    (path content : Option String) (recursive : Bool) :
    (Confined host workspace (FileWriteTool.execute host workspace path content).accesses ∧
      Confined host workspace (FileReadTool.execute host workspace path).2 ∧
      Confined host workspace (FileListTool.execute host workspace path recursive).2) ↔
    ¬ReplacesRoot host workspace (pathArgument path) := by
  rw [FileWriteTool.confined_iff]
  constructor
  · exact fun h => h.1
  · exact fun h => ⟨h, FileReadTool.confined host workspace path,
      FileListTool.confined host workspace path recursive⟩

/-- A file system without files, and a process in its root. -/
def emptyHost : FileHost where
  tree :=
    { entries := []
      nodup := List.nodup_nil
      parents := by
        intro location name hexists
        unfold lookupIn at hexists
        rw [if_neg (by simp)] at hexists
        cases hexists }
  cwd := []
  cwdExists := rfl
  maxLinks := 40
  decode := fun _ => ""

def playground : String := "/tmp/massclaw/workspaces/playground"

/-- Before anything was written to a workspace, a file takes its place. -/
theorem accesses_confined_fails : ¬Confined emptyHost playground
    (FileWriteTool.execute emptyHost playground (some ".") (some "text")).accesses := by
  intro h
  have hroot : realpath emptyHost playground.toList =
      .ok (canonical emptyHost.tree [] ((steps? playground.toList).getD [])) := by
    decide +kernel
  have hwrite : Access.write (canonical emptyHost.tree [] ((steps? playground.toList).getD [])) ∈
      (FileWriteTool.execute emptyHost playground (some ".") (some "text")).accesses := by
    decide +kernel
  obtain ⟨root, hother, -, hstrict⟩ := h _ hwrite
  rw [hroot] at hother
  cases hother
  exact hstrict rfl

end FileIo

end MassClaw
