import MassClaw.Crdt.Store
import MassClaw.Lib.AtomicReplace
import MassClaw.Lib.Transition

/-!
# The key of an instance, `app/identity/key_store.py`

A node has one key pair, whose seed is a file.  A call either reads the file or
performs actions on the files, and then the key pair is cached in the process.
A call can raise in the middle of its actions, and the process can die there;
the files are then what the interruption has left.

In such runs the file is never torn, no key pair that a call has returned is
lost, and between rotations all calls return the same key pair.
-/

namespace MassClaw

/-! ## File names -/

/-- `Path.suffix`: from the last dot, if there is something on either side. -/
def suffixOf (name : String) : List Char :=
  let tail := (name.toList.reverse.takeWhile (· ≠ '.')).reverse
  if tail ≠ [] ∧ tail.length + 1 < name.length then '.' :: tail else []

/-- The name without its suffix. -/
def stemOf (name : String) : List Char := name.toList.take (name.length - (suffixOf name).length)

/-- `Path.with_suffix`. -/
def withSuffix (name : String) (suffix : List Char) : String :=
  String.ofList (stemOf name ++ suffix)

/-- A suffix has a dot at its beginning only. -/
theorem suffixOf_cases (name : String) :
    suffixOf name = [] ∨ ∃ tail, '.' ∉ tail ∧ suffixOf name = '.' :: tail := by
  unfold suffixOf
  dsimp only
  split
  · refine Or.inr ⟨_, ?_, rfl⟩
    intro hdot
    have hkept := List.all_takeWhile (p := (· ≠ '.')) (l := name.toList.reverse)
    rw [List.all_eq_true] at hkept
    simpa using hkept '.' (List.mem_reverse.1 hdot)
  · exact Or.inl rfl

theorem suffixOf_isSuffix (name : String) : suffixOf name <:+ name.toList := by
  unfold suffixOf
  dsimp only
  split
  · rename_i hsplit
    have hparts := List.takeWhile_append_dropWhile (p := (· ≠ '.')) (l := name.toList.reverse)
    cases hrest : name.toList.reverse.dropWhile (· ≠ '.') with
    | nil =>
      rw [hrest, List.append_nil] at hparts
      have hlength := congrArg List.length hparts
      have hsize := hsplit.2
      rw [List.length_reverse] at hlength hsize
      rw [hlength, String.length_toList] at hsize
      omega
    | cons first rest =>
      have hfirst : first = '.' := by
        have hhead := List.head?_dropWhile_not (p := (· ≠ '.')) (l := name.toList.reverse)
        rw [hrest] at hhead
        simpa using hhead
      refine ⟨rest.reverse, ?_⟩
      have hname := congrArg List.reverse hparts
      rw [hrest, hfirst, List.reverse_append, List.reverse_cons, List.reverse_reverse,
        List.append_assoc] at hname
      exact hname
  · exact List.nil_suffix

theorem stemOf_append (name : String) : stemOf name ++ suffixOf name = name.toList := by
  obtain ⟨stem, hstem⟩ := suffixOf_isSuffix name
  have hlength : name.length = stem.length + (suffixOf name).length := by
    rw [← String.length_toList, ← hstem, List.length_append]
  unfold stemOf
  rw [hlength, Nat.add_sub_cancel, ← hstem, List.take_left]

/-- A name with a suffix of its own is the name with that suffix. -/
theorem withSuffix_eq_iff {name : String} {suffix : List Char} :
    withSuffix name suffix = name ↔ suffix = suffixOf name := by
  constructor
  · intro h
    have hchars := congrArg String.toList h
    rw [withSuffix, String.toList_ofList, ← stemOf_append name] at hchars
    exact List.append_cancel_left hchars
  · rintro rfl
    rw [withSuffix, stemOf_append, String.ofList_toList]

theorem withSuffix_injective {name : String} {suffix other : List Char}
    (h : withSuffix name suffix = withSuffix name other) : suffix = other := by
  have hchars := congrArg String.toList h
  rw [withSuffix, withSuffix, String.toList_ofList, String.toList_ofList] at hchars
  exact List.append_cancel_left hchars

/-! ## The calls -/

/-- The public keys of Ed25519. -/
structure Ed25519 where
  publicKey : Bytes → Bytes
  length_publicKey : ∀ seed, (publicKey seed).length = 32

/-- The key pair of a seed. -/
def Ed25519.keyPair (ed : Ed25519) (seed : Bytes) (h : seed.length = 32) : KeyPair :=
  ⟨seed, ed.publicKey seed, h, ed.length_publicKey seed⟩

theorem Ed25519.keyPair_eq {ed : Ed25519} {keypair : KeyPair}
    (hseed : keypair.privateSeed.length = 32)
    (h : keypair.publicBytes = ed.publicKey keypair.privateSeed) :
    ed.keyPair keypair.privateSeed hseed = keypair := by
  obtain ⟨seed, bytes, _, _⟩ := keypair
  dsimp only at h
  subst h
  rfl

/-- `KeyStoreError`, of a file that does not hold a seed. -/
structure KeyStoreError where
  path : String
  length : Nat

/-- The files next to the key, by their names. -/
abbrev KeyFiles := String → Option Bytes

namespace KeyStore

variable (ed : Ed25519) (path : String)

/-- Where the seed is written first. -/
def staging : String := withSuffix path ".tmp".toList

/-- Where a rotation moves the key to. -/
def archive (clock : Nat) : String :=
  withSuffix path (".rotated.".toList ++ (toString clock).toList)

/-- `_persist_instance_key`. -/
def persistInstanceKey (keypair : KeyPair) : List (Files.Action String Bytes) :=
  Files.replace (staging path) path 0o600 keypair.privateSeed

/-- `instance_keypair`: its actions, and the key pair that it returns then. -/
def instanceKeypair (files : KeyFiles) (cached : Option KeyPair) (generated : KeyPair) :
    Except KeyStoreError (List (Files.Action String Bytes) × KeyPair) :=
  match cached with
  | some keypair => .ok ([], keypair)
  | none =>
    match files path with
    | some seed =>
      if h : seed.length = 32 then .ok ([], ed.keyPair seed h) else .error ⟨path, seed.length⟩
    | none => .ok (persistInstanceKey path generated, generated)

/-- `rotate_instance_keypair`: its actions, and the key pair that it returns then. -/
def rotateInstanceKeypair (files : KeyFiles) (clock : Nat) (generated : KeyPair) :
    List (Files.Action String Bytes) × KeyPair :=
  ((if (files path).isSome then [.rename path (archive path clock)] else []) ++
    persistInstanceKey path generated, generated)

/-- A call, with the seed that `generate_keypair` would draw. -/
inductive Call
  | instanceKeypair (seed : Bytes) (h : seed.length = 32)
  | rotateInstanceKeypair (clock : Nat) (seed : Bytes) (h : seed.length = 32)

/-- The key pair that the call would generate. -/
def Call.generated : Call → KeyPair
  | instanceKeypair seed h => ed.keyPair seed h
  | rotateInstanceKeypair _ seed h => ed.keyPair seed h

/-- The actions of a call, and what it returns. -/
def Call.plan (files : KeyFiles) (cached : Option KeyPair) (call : Call) :
    Except KeyStoreError (List (Files.Action String Bytes) × KeyPair) :=
  match call with
  | instanceKeypair _ _ => KeyStore.instanceKeypair ed path files cached (call.generated ed)
  | rotateInstanceKeypair clock _ _ =>
    .ok (KeyStore.rotateInstanceKeypair path files clock (call.generated ed))

/-- The clock of a rotation shows a time that no archive has. -/
def Call.Timely (files : KeyFiles) : Call → Prop
  | instanceKeypair _ _ => True
  | rotateInstanceKeypair clock _ _ => files (archive path clock) = none

/-! ## Runs -/

/-- The files and the process, with what the calls have generated and returned so
far. -/
structure State where
  files : KeyFiles
  cached : Option KeyPair := none
  generated : List KeyPair := []
  returned : List KeyPair := []

/-- The state after a call that has returned. -/
def State.completed (state : State) (call : Call) (actions : List (Files.Action String Bytes))
    (keypair : KeyPair) : State where
  files := Files.run state.files actions
  cached := some keypair
  generated := call.generated ed :: state.generated
  returned := keypair :: state.returned

/-- The state after a call that was interrupted, and perhaps the process with it. -/
def State.interrupted (state : State) (call : Call) (files : KeyFiles) (dies : Bool) : State where
  files := files
  cached := if dies then none else state.cached
  generated := call.generated ed :: state.generated
  returned := state.returned

/-- What happens to a key store: a call returns, it is interrupted, or the
process restarts. -/
inductive Step : State → Option Call → State → Prop
  | returns {state : State} {call : Call} {actions : List (Files.Action String Bytes)}
      {keypair : KeyPair} (htimely : call.Timely path state.files)
      (hplan : call.plan ed path state.files state.cached = .ok (actions, keypair)) :
      Step state (some call) (state.completed ed call actions keypair)
  | isInterrupted {state : State} {call : Call} {actions : List (Files.Action String Bytes)}
      {keypair : KeyPair} {files : KeyFiles} (dies : Bool)
      (htimely : call.Timely path state.files)
      (hplan : call.plan ed path state.files state.cached = .ok (actions, keypair))
      (hleft : Files.Interrupted state.files actions files) :
      Step state (some call) (state.interrupted ed call files dies)
  | restarts (state : State) : Step state none { state with cached := none }

/-! ## What is on disk -/

/-- The seed is in the key file or in an archive. -/
def OnDisk (files : KeyFiles) (seed : Bytes) : Prop :=
  files path = some seed ∨ ∃ clock, files (archive path clock) = some seed

/-- No seed is lost, and the key file gets the new seed only. -/
structure Keeps (keypair : KeyPair) (files files' : KeyFiles) : Prop where
  onDisk : ∀ seed, OnDisk path files seed → OnDisk path files' seed
  key : ∀ seed, files' path = some seed → files path = some seed ∨ seed = keypair.privateSeed

variable {path} {files files' files'' : KeyFiles} {keypair : KeyPair}

namespace Keeps

theorem refl (keypair : KeyPair) (files : KeyFiles) : Keeps path keypair files files :=
  ⟨fun _ h => h, fun _ h => Or.inl h⟩

theorem trans (h : Keeps path keypair files files') (h' : Keeps path keypair files' files'') :
    Keeps path keypair files files'' :=
  ⟨fun seed hseed => h'.onDisk seed (h.onDisk seed hseed),
    fun seed hseed => (h'.key seed hseed).elim (h.key seed) Or.inr⟩

end Keeps

section Paths

variable (path)

theorem archive_ne (clock : Nat) : archive path clock ≠ path := by
  intro heq
  have hsuffix := withSuffix_eq_iff.1 heq
  rcases suffixOf_cases path with hnone | ⟨tail, hdot, hsome⟩
  · rw [hnone] at hsuffix
    cases hsuffix
  · have hdots : ".rotated.".toList = '.' :: "rotated.".toList := by decide
    rw [hsome, hdots, List.cons_append] at hsuffix
    -- the suffix of an archive has a second dot
    refine hdot ?_
    rw [← (List.cons.inj hsuffix).2]
    exact List.mem_append_left _ (by decide)

theorem archive_ne_staging (clock : Nat) : archive path clock ≠ staging path := by
  intro heq
  have hsuffix := withSuffix_injective heq
  cases hsuffix

end Paths

/-- A persisted key takes a free place. -/
theorem Keeps.persist (hstaging : staging path ≠ path) (habsent : files path = none)
    (h : Files.Interrupted files (persistInstanceKey path keypair) files') :
    Keeps path keypair files files' := by
  rcases h.replace with hother | rfl
  · refine ⟨fun seed hseed => ?_, fun seed hseed => ?_⟩
    · rcases hseed with hkey | ⟨clock, harchived⟩
      · rw [habsent] at hkey
        cases hkey
      · exact Or.inr ⟨clock, (hother _ (archive_ne_staging path clock)).trans harchived⟩
    · exact Or.inl ((hother path hstaging.symm).symm.trans hseed)
  · rw [Files.run_replace hstaging]
    refine ⟨fun seed hseed => ?_, fun seed hseed => ?_⟩
    · rcases hseed with hkey | ⟨clock, harchived⟩
      · rw [habsent] at hkey
        cases hkey
      · refine Or.inr ⟨clock, ?_⟩
        rw [Function.update_of_ne (archive_ne_staging path clock),
          Function.update_of_ne (archive_ne path clock)]
        exact harchived
    · rw [Function.update_of_ne hstaging.symm, Function.update_self] at hseed
      exact Or.inr (Option.some.inj hseed).symm

/-- A key that is moved to a new archive is still on disk. -/
theorem Keeps.move {clock : Nat} {seed : Bytes} (hkey : files path = some seed)
    (hnew : files (archive path clock) = none) :
    Keeps path keypair files (Files.perform files (.rename path (archive path clock))) := by
  rw [Files.perform_rename (archive_ne path clock).symm hkey]
  refine ⟨fun other hother => ?_, fun other hother => ?_⟩
  · rcases hother with hsame | ⟨clock', harchived⟩
    · refine Or.inr ⟨clock, ?_⟩
      rw [Function.update_of_ne (archive_ne path clock), Function.update_self, ← hkey, hsame]
    · refine Or.inr ⟨clock', ?_⟩
      have hne : archive path clock' ≠ archive path clock := by
        intro heq
        rw [heq, hnew] at harchived
        cases harchived
      rw [Function.update_of_ne (archive_ne path clock'), Function.update_of_ne hne]
      exact harchived
  · rw [Function.update_self] at hother
    cases hother

/-- An interrupted rotation. -/
theorem Keeps.rotate {clock : Nat} (hstaging : staging path ≠ path)
    (hnew : files (archive path clock) = none)
    (h : Files.Interrupted files (rotateInstanceKeypair path files clock keypair).1 files') :
    Keeps path keypair files files' := by
  unfold rotateInstanceKeypair at h
  dsimp only at h
  cases hkey : files path with
  | none =>
    rw [hkey, if_neg (by decide)] at h
    exact .persist hstaging hkey h
  | some seed =>
    rw [hkey, if_pos Option.isSome_some] at h
    have hmoved : Keeps path keypair files
        (Files.perform files (.rename path (archive path clock))) := .move hkey hnew
    rcases h.append with hrename | hpersist
    · rcases hrename.rename with rfl | rfl
      · exact .refl _ _
      · exact hmoved
    · have habsent : Files.perform files (.rename path (archive path clock)) path = none := by
        rw [Files.perform_rename (archive_ne path clock).symm hkey, Function.update_self]
      rw [Files.run_cons, Files.run_nil] at hpersist
      exact hmoved.trans (Keeps.persist hstaging habsent hpersist)

/-! ## Every call -/

section Calls

variable {ed : Ed25519} {call : Call} {cached : Option KeyPair}
  {actions : List (Files.Action String Bytes)} {returned : KeyPair}

/-- What a call of `instance_keypair` returns: the cached key pair, that of the
file, or a new one for a missing file. -/
theorem instanceKeypair_cases (h : instanceKeypair ed path files cached keypair =
    .ok (actions, returned)) :
    (actions = [] ∧ cached = some returned) ∨
    (actions = [] ∧ cached = none ∧ ∃ seed hseed, files path = some seed ∧
      returned = ed.keyPair seed hseed) ∨
    (actions = persistInstanceKey path keypair ∧ cached = none ∧ files path = none ∧
      returned = keypair) := by
  unfold instanceKeypair at h
  cases cached with
  | some cached =>
    cases h
    exact Or.inl ⟨rfl, rfl⟩
  | none =>
    dsimp only at h
    cases hkey : files path with
    | none =>
      rw [hkey] at h
      cases h
      exact Or.inr (Or.inr ⟨rfl, rfl, rfl, rfl⟩)
    | some seed =>
      rw [hkey] at h
      dsimp only at h
      split at h
      · rename_i hseed
        cases h
        exact Or.inr (Or.inl ⟨rfl, rfl, seed, hseed, rfl, rfl⟩)
      · cases h

/-- No call loses a seed, wherever it is interrupted. -/
theorem keeps_of_plan (hstaging : staging path ≠ path) (htimely : call.Timely path files)
    (hplan : call.plan ed path files cached = .ok (actions, returned))
    (h : Files.Interrupted files actions files') :
    Keeps path (call.generated ed) files files' := by
  cases call with
  | instanceKeypair seed hseed =>
    rcases instanceKeypair_cases hplan with ⟨rfl, -⟩ | ⟨rfl, -⟩ | ⟨rfl, -, habsent, -⟩
    · rw [h.nil]
      exact .refl _ _
    · rw [h.nil]
      exact .refl _ _
    · exact .persist hstaging habsent h
  | rotateInstanceKeypair clock seed hseed =>
    cases hplan
    exact .rotate hstaging htimely h

/-- A rotation that returns has replaced the key. -/
theorem run_rotate {clock : Nat} (hstaging : staging path ≠ path) :
    Files.run files (rotateInstanceKeypair path files clock keypair).1 path =
      some keypair.privateSeed := by
  unfold rotateInstanceKeypair
  rw [Files.run, List.foldl_append]
  show Files.run _ (Files.replace _ _ _ _) path = _
  rw [Files.run_replace hstaging, Function.update_of_ne hstaging.symm, Function.update_self]

/-- A call that returns without the cache leaves its key pair in the file. -/
theorem key_of_plan (hstaging : staging path ≠ path)
    (hplan : call.plan ed path files cached = .ok (actions, returned))
    (hfresh : cached = none ∨ ∃ clock seed hseed, call = .rotateInstanceKeypair clock seed hseed) :
    Files.run files actions path = some returned.privateSeed := by
  cases call with
  | rotateInstanceKeypair clock seed hseed =>
    cases hplan
    exact run_rotate hstaging
  | instanceKeypair seed hseed =>
    have hnone : cached = none := by
      rcases hfresh with hnone | ⟨_, _, _, hcall⟩
      · exact hnone
      · cases hcall
    rcases instanceKeypair_cases hplan with ⟨-, hcached⟩ | ⟨rfl, -, read, hread, hkey, rfl⟩ |
      ⟨rfl, -, -, rfl⟩
    · rw [hnone] at hcached
      cases hcached
    · exact hkey
    · show Files.run files (Files.replace _ _ _ _) path = _
      rw [Files.run_replace hstaging, Function.update_of_ne hstaging.symm, Function.update_self]

end Calls

/-! ## Every run -/

/-- What holds in every run: the key file is whole, and nothing that was returned
is lost. -/
structure Kept (ed : Ed25519) (path : String) (start : KeyFiles) (state : State) : Prop where
  key : ∀ seed, state.files path = some seed → seed.length = 32 ∧
    (start path = some seed ∨ ∃ keypair ∈ state.generated, keypair.privateSeed = seed)
  initial : ∀ seed, start path = some seed → OnDisk path state.files seed
  returned : ∀ keypair ∈ state.returned, OnDisk path state.files keypair.privateSeed
  genuine : ∀ keypair ∈ state.returned, keypair.publicBytes = ed.publicKey keypair.privateSeed
  cached : ∀ keypair, state.cached = some keypair → keypair ∈ state.returned

section Runs

variable {ed : Ed25519} {start : KeyFiles} {state state' : State} {call : Call}
  {actions : List (Files.Action String Bytes)} {returned : KeyPair}

theorem Call.genuine (ed : Ed25519) (call : Call) :
    (call.generated ed).publicBytes = ed.publicKey (call.generated ed).privateSeed := by
  cases call <;> rfl

/-- A call that is interrupted keeps what holds. -/
theorem Kept.interrupted (h : Kept ed path start state) (dies : Bool)
    (hkeeps : Keeps path (call.generated ed) state.files files) :
    Kept ed path start (state.interrupted ed call files dies) where
  key := by
    intro seed hseed
    rcases hkeeps.key seed hseed with hold | rfl
    · refine ⟨(h.key seed hold).1, (h.key seed hold).2.imp_right ?_⟩
      exact fun ⟨keypair, hmem, heq⟩ => ⟨keypair, List.mem_cons_of_mem _ hmem, heq⟩
    · exact ⟨(call.generated ed).seedLength, Or.inr ⟨_, List.mem_cons_self, rfl⟩⟩
  initial := fun seed hseed => hkeeps.onDisk seed (h.initial seed hseed)
  returned := fun keypair hmem => hkeeps.onDisk _ (h.returned keypair hmem)
  genuine := h.genuine
  cached := by
    intro keypair hcached
    cases dies with
    | true => cases hcached
    | false => exact h.cached keypair hcached

/-- The key pair that a call returns is on disk, and it is one of Ed25519. -/
theorem Kept.plan (h : Kept ed path start state) (hstaging : staging path ≠ path)
    (hkeeps : Keeps path (call.generated ed) state.files (Files.run state.files actions))
    (hplan : call.plan ed path state.files state.cached = .ok (actions, returned)) :
    OnDisk path (Files.run state.files actions) returned.privateSeed ∧
      returned.publicBytes = ed.publicKey returned.privateSeed := by
  cases call with
  | rotateInstanceKeypair clock seed hseed =>
    have hkey := key_of_plan hstaging hplan (Or.inr ⟨_, _, _, rfl⟩)
    cases hplan
    exact ⟨Or.inl hkey, rfl⟩
  | instanceKeypair seed hseed =>
    rcases instanceKeypair_cases hplan with ⟨-, hcached⟩ | ⟨-, hnone, read, hread, -, heq⟩ |
      ⟨-, hnone, -, heq⟩
    · have hmem := h.cached returned hcached
      exact ⟨hkeeps.onDisk _ (h.returned returned hmem), h.genuine returned hmem⟩
    · refine ⟨Or.inl (key_of_plan hstaging hplan (Or.inl hnone)), ?_⟩
      rw [heq]
      rfl
    · refine ⟨Or.inl (key_of_plan hstaging hplan (Or.inl hnone)), ?_⟩
      rw [heq]
      rfl

theorem Kept.step (hstaging : staging path ≠ path) {event : Option Call}
    (h : Kept ed path start state) (hstep : Step ed path state event state') :
    Kept ed path start state' := by
  cases hstep with
  | restarts =>
    exact ⟨h.key, h.initial, h.returned, h.genuine, nofun⟩
  | isInterrupted dies htimely hplan hleft =>
    exact h.interrupted dies (keeps_of_plan hstaging htimely hplan hleft)
  | @returns call actions keypair htimely hplan =>
    have hkeeps := keeps_of_plan hstaging htimely hplan (.complete actions state.files)
    have hleft : Kept ed path start
        (state.interrupted ed call (Files.run state.files actions) false) :=
      h.interrupted false hkeeps
    obtain ⟨honDisk, hgenuine⟩ := h.plan hstaging hkeeps hplan
    refine ⟨hleft.key, hleft.initial, ?_, ?_, ?_⟩
    · intro other hother
      rcases List.mem_cons.1 hother with rfl | hold
      · exact honDisk
      · exact hleft.returned other hold
    · intro other hother
      rcases List.mem_cons.1 hother with rfl | hold
      · exact hgenuine
      · exact h.genuine other hold
    · intro other hother
      cases hother
      exact List.mem_cons_self

/-- A file that is whole can be read. -/
theorem Kept.plan_ok (h : Kept ed path start state) (call : Call) :
    ∃ actions keypair, call.plan ed path state.files state.cached = .ok (actions, keypair) := by
  cases call with
  | rotateInstanceKeypair clock seed hseed => exact ⟨_, _, rfl⟩
  | instanceKeypair seed hseed =>
    show ∃ actions keypair, instanceKeypair ed path state.files state.cached _ = _
    unfold instanceKeypair
    cases hcached : state.cached with
    | some keypair => exact ⟨_, _, rfl⟩
    | none =>
      cases hkey : state.files path with
      | none => exact ⟨_, _, rfl⟩
      | some read => exact ⟨_, _, dif_pos (h.key read hkey).1⟩

/-! ## Between rotations -/

/-- The key pair is the one in the file, and no other one is cached. -/
structure Settled (ed : Ed25519) (path : String) (keypair : KeyPair) (state : State) : Prop where
  key : state.files path = some keypair.privateSeed
  cached : ∀ other, state.cached = some other → other = keypair
  genuine : keypair.publicBytes = ed.publicKey keypair.privateSeed

/-- A step that is not part of a rotation. -/
def StepsQuietly (ed : Ed25519) (path : String) (state state' : State) : Prop :=
  ∃ event, Step ed path state event state' ∧
    ∀ clock seed h, event ≠ some (.rotateInstanceKeypair clock seed h)

theorem Settled.plan (h : Settled ed path keypair state) {seed : Bytes} {hseed : seed.length = 32}
    (hplan : (Call.instanceKeypair seed hseed).plan ed path state.files state.cached =
      .ok (actions, returned)) : actions = [] ∧ returned = keypair := by
  rcases instanceKeypair_cases hplan with ⟨rfl, hcached⟩ | ⟨rfl, -, read, hread, hkey, rfl⟩ |
    ⟨-, -, habsent, -⟩
  · exact ⟨rfl, h.cached returned hcached⟩
  · refine ⟨rfl, ?_⟩
    have hsame := Option.some.inj (hkey.symm.trans h.key)
    subst hsame
    exact Ed25519.keyPair_eq hread h.genuine
  · rw [h.key] at habsent
    cases habsent

theorem Settled.step (h : Settled ed path keypair state)
    (hstep : StepsQuietly ed path state state') :
    Settled ed path keypair state' ∧ ∀ other ∈ state'.returned,
      other ∈ state.returned ∨ other = keypair := by
  obtain ⟨event, hstep, hquiet⟩ := hstep
  cases hstep with
  | restarts => exact ⟨⟨h.key, nofun, h.genuine⟩, fun _ => Or.inl⟩
  | @isInterrupted call actions returned files dies htimely hplan hleft =>
    cases call with
    | rotateInstanceKeypair clock seed hseed => exact absurd rfl (hquiet clock seed hseed)
    | instanceKeypair seed hseed =>
      obtain ⟨rfl, -⟩ := h.plan hplan
      rw [hleft.nil]
      refine ⟨⟨h.key, fun other hcached => ?_, h.genuine⟩, fun _ => Or.inl⟩
      cases dies with
      | true => cases hcached
      | false => exact h.cached other hcached
  | @returns call actions returned htimely hplan =>
    cases call with
    | rotateInstanceKeypair clock seed hseed => exact absurd rfl (hquiet clock seed hseed)
    | instanceKeypair seed hseed =>
      obtain ⟨rfl, rfl⟩ := h.plan hplan
      refine ⟨⟨h.key, fun other hcached => (Option.some.inj hcached).symm, h.genuine⟩, ?_⟩
      exact fun other hother => (List.mem_cons.1 hother).symm

/-- All calls of such steps return the key pair of the file. -/
theorem Settled.later (h : Settled ed path keypair state)
    (hrun : Relation.ReflTransGen (StepsQuietly ed path) state state') :
    Settled ed path keypair state' ∧ ∀ other ∈ state'.returned,
      other ∈ state.returned ∨ other = keypair := by
  induction hrun with
  | refl => exact ⟨h, fun _ => Or.inl⟩
  | tail _ hlast ih =>
    obtain ⟨hsettled, hreturned⟩ := ih.1.step hlast
    exact ⟨hsettled, fun other hother => (hreturned other hother).elim (ih.2 other) Or.inr⟩

end Runs

namespace CrashExample

/-- A scheme with one public key. -/
def scheme : Ed25519 := ⟨fun _ => List.replicate 32 0, fun _ => List.length_replicate⟩

def keyPath : String := "instance.key"

def firstSeed : Bytes := List.replicate 32 0

theorem length_firstSeed : firstSeed.length = 32 := List.length_replicate

/-- The first call creates the key. -/
def create : Call := .instanceKeypair firstSeed length_firstSeed

def created : State :=
  State.completed scheme { files := fun _ => none } create
    (persistInstanceKey keyPath (create.generated scheme)) (create.generated scheme)

/-- The second call is to replace it. -/
def rotate : Call := .rotateInstanceKeypair 7 (List.replicate 32 1) List.length_replicate

/-- The process dies when it has moved the key. -/
def crashed : State :=
  created.interrupted scheme rotate
    (Files.perform created.files (.rename keyPath (archive keyPath 7))) true

theorem reachable_crashed : Transition.Reachable
    (fun state : State => state = { files := fun _ => none })
    (fun state state' => ∃ event, Step scheme keyPath state event state') crashed := by
  have hcreated : Step scheme keyPath { files := fun _ => none } (some create) created :=
    .returns trivial rfl
  have htimely : created.files (archive keyPath 7) = none := by decide +kernel
  have hkey : (created.files keyPath).isSome = true := by decide +kernel
  have hleft : Files.Interrupted created.files
      (rotateInstanceKeypair keyPath created.files 7 (rotate.generated scheme)).1
      (Files.perform created.files (.rename keyPath (archive keyPath 7))) := by
    rw [rotateInstanceKeypair, if_pos hkey]
    exact .later (.here _ _)
  have hcrashed : Step scheme keyPath created (some rotate) crashed :=
    .isInterrupted true htimely rfl hleft
  refine Transition.Reachable.next (Transition.Reachable.next (.start rfl) ?_) ⟨_, hcrashed⟩
  exact ⟨_, hcreated⟩

end CrashExample

end KeyStore

end MassClaw
