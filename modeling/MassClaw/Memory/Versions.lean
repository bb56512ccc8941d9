import Mathlib.Data.List.Chain
import MassClaw.Memory.History

/-!
# The versions of a record, `MemoryService.get_memory_versions`

A record names the version that it was made from, so the records form a
forest.  The walk goes up from a record to its root, and down from it as long
as there is one newer version.  The query for the newer version expects at
most one row, and raises where a version was edited twice.
-/

namespace MassClaw

/-- `sqlalchemy.exc.MultipleResultsFound`. -/
inductive VersionError
  | multipleResultsFound
  deriving DecidableEq

namespace MemoryService

/-! ## The walks -/

/-- The rows that a walk has not met. -/
def unseen (rows : List MemoryRecord) (seen : List RowId) : List MemoryRecord :=
  rows.filter (fun row => row.memoryId ∉ seen)

theorem length_unseen_lt {rows : List MemoryRecord} {seen : List RowId} {row : MemoryRecord}
    (hrow : row ∈ rows) (hnew : row.memoryId ∉ seen) :
    (unseen rows (row.memoryId :: seen)).length < (unseen rows seen).length := by
  have hsublist : (unseen rows (row.memoryId :: seen)).Sublist (unseen rows seen) := by
    apply List.monotone_filter_right
    intro other hother
    simp only [decide_eq_true_eq, List.mem_cons, not_or] at hother ⊢
    exact hother.2
  apply lt_of_le_of_ne hsublist.length_le
  intro hlength
  have hmem : row ∈ unseen rows seen := List.mem_filter.2 ⟨hrow, by simpa using hnew⟩
  rw [← hsublist.eq_of_length hlength] at hmem
  simpa using (List.mem_filter.1 hmem).2

theorem length_unseen_of_find? {rows : List MemoryRecord} {seen : List RowId} {currentId : RowId}
    {record : MemoryRecord} (hseen : currentId ∉ seen)
    (h : rows.find? (fun row => row.memoryId = currentId) = some record) :
    (unseen rows (currentId :: seen)).length < (unseen rows seen).length := by
  have hid : record.memoryId = currentId := by simpa using List.find?_some h
  rw [← hid] at hseen ⊢
  exact length_unseen_lt (List.mem_of_find?_eq_some h) hseen

/-- The walk to older versions, with the ids that it has met. -/
def walkUp (rows : List MemoryRecord) (seen : List RowId) :
    Option RowId → List RowId × List MemoryRecord
  | none => (seen, [])
  | some currentId =>
    if hseen : currentId ∈ seen then (seen, [])
    else
      match h : rows.find? (fun row => row.memoryId = currentId) with
      | none => (currentId :: seen, [])
      | some record =>
        have := length_unseen_of_find? hseen h
        let rest := walkUp rows (currentId :: seen) record.parentVersionId
        (rest.1, record :: rest.2)
termination_by (unseen rows seen).length

/-- The newer versions of a record that the walk has not met. -/
def newerVersions (rows : List MemoryRecord) (childSeen : List RowId) (childId : RowId) :
    List MemoryRecord :=
  rows.filter (fun row => row.parentVersionId = some childId ∧ row.memoryId ∉ childSeen)

theorem length_unseen_of_newer {rows : List MemoryRecord} {childSeen : List RowId}
    {childId : RowId} {child : MemoryRecord} (h : newerVersions rows childSeen childId = [child]) :
    (unseen rows (child.memoryId :: childSeen)).length < (unseen rows childSeen).length := by
  have hchild : child ∈ newerVersions rows childSeen childId := by
    rw [h]
    exact List.mem_singleton_self child
  obtain ⟨hrow, hnew⟩ := List.mem_filter.1 hchild
  exact length_unseen_lt hrow (of_decide_eq_true hnew).2

/-- The walk to newer versions; `scalar_one_or_none` raises at several rows. -/
def walkDown (rows : List MemoryRecord) (childSeen : List RowId) (childId : RowId) :
    Except VersionError (List MemoryRecord) :=
  match h : newerVersions rows childSeen childId with
  | [] => .ok []
  | [child] =>
    have := length_unseen_of_newer h
    (walkDown rows (child.memoryId :: childSeen) child.memoryId).map (fun children =>
      child :: children)
  | _ :: _ :: _ => .error .multipleResultsFound
termination_by (unseen rows childSeen).length

/-- `get_memory_versions`; the response of a record has its columns. -/
def getMemoryVersions (db : Db) (memoryId : RowId) : Except VersionError (List MemoryRecord) :=
  let (seen, versions) := walkUp db.memoryRecords.rows [] (some memoryId)
  (walkDown db.memoryRecords.rows seen memoryId).map (fun children =>
    children.reverse ++ versions)

/-! ## The forest of the versions -/

/-- Every record was made from an older one that is there. -/
def ParentsExist (rows : List MemoryRecord) : Prop :=
  ∀ row ∈ rows, ∀ parentId, row.parentVersionId = some parentId →
    parentId < row.memoryId ∧ ∃ parent ∈ rows, parent.memoryId = parentId

/-- The record with the second id is the one with the first, or was made from
it, in one or more steps. -/
inductive Below (rows : List MemoryRecord) (memoryId : RowId) : RowId → Prop
  | self : Below rows memoryId memoryId
  | edit {versionId : RowId} {row : MemoryRecord} : Below rows memoryId versionId → row ∈ rows →
      row.parentVersionId = some versionId → Below rows memoryId row.memoryId

/-- Two records were made from the same one. -/
def Branches (rows : List MemoryRecord) (memoryId : RowId) : Prop :=
  ∃ a ∈ rows, ∃ b ∈ rows, a ≠ b ∧ a.parentVersionId = some memoryId ∧
    b.parentVersionId = some memoryId

/-- The first record was made from the second. -/
def Succeeds (newer older : MemoryRecord) : Prop := newer.parentVersionId = some older.memoryId

namespace Below

variable {rows : List MemoryRecord} {memoryId id : RowId}

/-- The first step down. -/
theorem of_child {row : MemoryRecord} (hrow : row ∈ rows)
    (hparent : row.parentVersionId = some memoryId) (h : Below rows row.memoryId id) :
    Below rows memoryId id := by
  induction h with
  | self => exact .edit .self hrow hparent
  | edit _ hother hversion ih => exact .edit ih hother hversion

theorem cases_child (h : Below rows memoryId id) :
    id = memoryId ∨ ∃ row ∈ rows, row.parentVersionId = some memoryId ∧
      Below rows row.memoryId id := by
  induction h with
  | self => exact Or.inl rfl
  | edit _ hrow hparent ih =>
    rename_i versionId row _
    rcases ih with rfl | ⟨child, hchild, hof, hbelow⟩
    · exact Or.inr ⟨row, hrow, hparent, .self⟩
    · exact Or.inr ⟨child, hchild, hof, .edit hbelow hrow hparent⟩

end Below

section Walks

variable {rows : List MemoryRecord} {seen childSeen : List RowId} {memoryId childId : RowId}

theorem walkUp_found {currentId : RowId} {record : MemoryRecord} (hseen : currentId ∉ seen)
    (h : rows.find? (fun row => row.memoryId = currentId) = some record) :
    walkUp rows seen (some currentId) =
      ((walkUp rows (currentId :: seen) record.parentVersionId).1,
        record :: (walkUp rows (currentId :: seen) record.parentVersionId).2) := by
  rw [walkUp, dif_neg hseen]
  split
  · rename_i hnone
    rw [h] at hnone
    cases hnone
  · rename_i other hother
    rw [h] at hother
    cases hother
    rfl

/-- The walk up lists a chain of records, from the newest to a root. -/
theorem walkUp_spec (hparents : ParentsExist rows) {currentId : Option RowId}
    (hcurrent : ∀ id, currentId = some id →
      (∃ row ∈ rows, row.memoryId = id) ∧ ∀ other ∈ seen, id < other) :
    (walkUp rows seen currentId).2.IsChain Succeeds ∧
    (walkUp rows seen currentId).2.head?.map MemoryRecord.memoryId = currentId ∧
    (∀ row ∈ (walkUp rows seen currentId).2, row ∈ rows) ∧
    ∀ id ∈ (walkUp rows seen currentId).1, id ∈ seen ∨ ∃ top, currentId = some top ∧ id ≤ top := by
  induction seen, currentId using walkUp.induct rows with
  | case1 seen =>
    rw [walkUp]
    exact ⟨.nil, rfl, by simp, fun id hid => Or.inl hid⟩
  | case2 seen currentId hseen =>
    exact absurd ((hcurrent currentId rfl).2 currentId hseen) (lt_irrefl currentId)
  | case3 seen currentId hseen h =>
    obtain ⟨row, hrow, hid⟩ := (hcurrent currentId rfl).1
    exact absurd hid (by simpa using List.find?_eq_none.1 h row hrow)
  | case4 seen currentId hseen record h hless ih =>
    have hrecord : record ∈ rows := List.mem_of_find?_eq_some h
    have hid : record.memoryId = currentId := by simpa using List.find?_some h
    obtain ⟨hchain, hhead, hmem, hmet⟩ := ih (by
      intro parentId hparent
      obtain ⟨holder, hthere⟩ := hparents record hrecord parentId hparent
      rw [hid] at holder
      refine ⟨hthere, fun other hother => ?_⟩
      rcases List.mem_cons.1 hother with rfl | hold
      · exact holder
      · exact holder.trans ((hcurrent currentId rfl).2 other hold))
    rw [walkUp_found hseen h]
    refine ⟨?_, congrArg some hid, ?_, ?_⟩
    · cases hrest : (walkUp rows (currentId :: seen) record.parentVersionId).2 with
      | nil => exact .singleton record
      | cons older rest =>
        rw [hrest] at hchain hhead
        exact List.isChain_cons_cons.2 ⟨hhead.symm, hchain⟩
    · intro row hrow
      rcases List.mem_cons.1 hrow with rfl | hrest
      · exact hrecord
      · exact hmem row hrest
    · intro id hmem
      rcases hmet id hmem with hold | ⟨parentId, hparent, hle⟩
      · rcases List.mem_cons.1 hold with rfl | hseen
        · exact Or.inr ⟨id, rfl, le_refl _⟩
        · exact Or.inl hseen
      · have holder := (hparents record hrecord parentId hparent).1
        rw [hid] at holder
        exact Or.inr ⟨currentId, rfl, hle.trans holder.le⟩

theorem walkDown_nil (h : newerVersions rows childSeen childId = []) :
    walkDown rows childSeen childId = .ok [] := by
  rw [walkDown]
  split
  · rfl
  · rename_i hone
    rw [h] at hone
    cases hone
  · rename_i hmany
    rw [h] at hmany
    cases hmany

theorem walkDown_singleton {child : MemoryRecord}
    (h : newerVersions rows childSeen childId = [child]) :
    walkDown rows childSeen childId =
      (walkDown rows (child.memoryId :: childSeen) child.memoryId).map (fun children =>
        child :: children) := by
  rw [walkDown]
  split
  · rename_i hnone
    rw [h] at hnone
    cases hnone
  · rename_i other hone
    rw [h] at hone
    cases hone
    rfl
  · rename_i hmany
    rw [h] at hmany
    cases hmany

theorem walkDown_many {a b : MemoryRecord} {others : List MemoryRecord}
    (h : newerVersions rows childSeen childId = a :: b :: others) :
    walkDown rows childSeen childId = .error .multipleResultsFound := by
  rw [walkDown]
  split
  · rename_i hnone
    rw [h] at hnone
    cases hnone
  · rename_i hone
    rw [h] at hone
    cases hone
  · rfl

/-- No newer version was met before. -/
theorem mem_newerVersions (hparents : ParentsExist rows) (hseen : ∀ id ∈ childSeen, id ≤ childId)
    {row : MemoryRecord} : row ∈ newerVersions rows childSeen childId ↔
      row ∈ rows ∧ row.parentVersionId = some childId := by
  unfold newerVersions
  rw [List.mem_filter, decide_eq_true_iff]
  constructor
  · exact fun h => ⟨h.1, h.2.1⟩
  · rintro ⟨hrow, hparent⟩
    refine ⟨hrow, hparent, fun hmem => ?_⟩
    exact absurd (hseen row.memoryId hmem) (not_le.2 (hparents row hrow childId hparent).1)

theorem seen_cons (hparents : ParentsExist rows) (hseen : ∀ id ∈ childSeen, id ≤ childId)
    {child : MemoryRecord} (hchild : child ∈ rows) (hparent : child.parentVersionId = some childId) :
    ∀ id ∈ child.memoryId :: childSeen, id ≤ child.memoryId := by
  intro id hid
  rcases List.mem_cons.1 hid with rfl | hold
  · exact le_refl _
  · exact (hseen id hold).trans (hparents child hchild childId hparent).1.le

/-- The walk down lists a chain of newer versions. -/
theorem walkDown_spec (hparents : ParentsExist rows) (hseen : ∀ id ∈ childSeen, id ≤ childId)
    {record : MemoryRecord} (hrecord : record.memoryId = childId) {children : List MemoryRecord}
    (h : walkDown rows childSeen childId = .ok children) :
    (record :: children).IsChain (fun older newer => Succeeds newer older) ∧
      ∀ row ∈ children, row ∈ rows := by
  induction childSeen, childId using walkDown.induct rows generalizing record children with
  | case1 childSeen childId hnewer =>
    rw [walkDown_nil hnewer] at h
    cases h
    exact ⟨.singleton record, by simp⟩
  | case2 childSeen childId child hnewer hless ih =>
    rw [walkDown_singleton hnewer] at h
    have hmem : child ∈ newerVersions rows childSeen childId := by
      rw [hnewer]
      exact List.mem_singleton_self child
    obtain ⟨hchild, hparent⟩ := (mem_newerVersions hparents hseen).1 hmem
    cases hrest : walkDown rows (child.memoryId :: childSeen) child.memoryId with
    | error error =>
      rw [hrest] at h
      cases h
    | ok rest =>
      rw [hrest] at h
      cases h
      obtain ⟨hchain, hrows⟩ := ih (seen_cons hparents hseen hchild hparent) rfl hrest
      rw [← hrecord] at hparent
      refine ⟨List.isChain_cons_cons.2 ⟨hparent, hchain⟩, fun row hrow => ?_⟩
      rcases List.mem_cons.1 hrow with rfl | hrest
      · exact hchild
      · exact hrows row hrest
  | case3 childSeen childId a b others hnewer =>
    rw [walkDown_many hnewer] at h
    cases h

/-- The walk down succeeds exactly if no record that it can meet was edited
twice. -/
theorem walkDown_isOk_iff (hnodup : (rows.map MemoryRecord.memoryId).Nodup)
    (hparents : ParentsExist rows) (hseen : ∀ id ∈ childSeen, id ≤ childId) :
    (∃ children, walkDown rows childSeen childId = .ok children) ↔
      ∀ id, Below rows childId id → ¬Branches rows id := by
  induction childSeen, childId using walkDown.induct rows with
  | case1 childSeen childId hnewer =>
    rw [walkDown_nil hnewer]
    have hnone : ∀ row ∈ rows, row.parentVersionId ≠ some childId := by
      intro row hrow hparent
      have hmem := (mem_newerVersions hparents hseen).2 ⟨hrow, hparent⟩
      rw [hnewer] at hmem
      cases hmem
    refine ⟨fun _ id hbelow => ?_, fun _ => ⟨[], rfl⟩⟩
    rcases hbelow.cases_child with rfl | ⟨row, hrow, hparent, -⟩
    · rintro ⟨a, ha, -, -, -, hparent, -⟩
      exact hnone a ha hparent
    · exact absurd hparent (hnone row hrow)
  | case2 childSeen childId child hnewer hless ih =>
    rw [walkDown_singleton hnewer]
    have honly : ∀ row ∈ rows, row.parentVersionId = some childId → row = child := by
      intro row hrow hparent
      have hmem := (mem_newerVersions hparents hseen).2 ⟨hrow, hparent⟩
      rw [hnewer] at hmem
      exact List.mem_singleton.1 hmem
    have hmem : child ∈ newerVersions rows childSeen childId := by
      rw [hnewer]
      exact List.mem_singleton_self child
    obtain ⟨hchild, hparent⟩ := (mem_newerVersions hparents hseen).1 hmem
    have hrest : (∃ children, (walkDown rows (child.memoryId :: childSeen) child.memoryId).map
        (fun children => child :: children) = .ok children) ↔
        ∃ children, walkDown rows (child.memoryId :: childSeen) child.memoryId = .ok children := by
      cases walkDown rows (child.memoryId :: childSeen) child.memoryId with
      | error error => simp [Except.map]
      | ok children => simp [Except.map]
    rw [hrest, ih (seen_cons hparents hseen hchild hparent)]
    constructor
    · intro h id hbelow
      rcases hbelow.cases_child with rfl | ⟨row, hrow, hof, hbelow⟩
      · rintro ⟨a, ha, b, hb, hne, hparentA, hparentB⟩
        exact hne ((honly a ha hparentA).trans (honly b hb hparentB).symm)
      · rw [honly row hrow hof] at hbelow
        exact h id hbelow
    · exact fun h id hbelow => h id (hbelow.of_child hchild hparent)
  | case3 childSeen childId a b others hnewer =>
    rw [walkDown_many hnewer]
    constructor
    · rintro ⟨children, h⟩
      cases h
    intro h
    have hmem : ∀ row ∈ a :: b :: others, row ∈ rows ∧ row.parentVersionId = some childId := by
      intro row hrow
      rw [← hnewer] at hrow
      exact (mem_newerVersions hparents hseen).1 hrow
    have hdistinct : (a :: b :: others).Nodup := by
      rw [← hnewer]
      exact (List.Nodup.of_map _ hnodup).filter _
    have hne : a ≠ b := fun heq => (List.nodup_cons.1 hdistinct).1 (by simp [heq])
    obtain ⟨ha, hparentA⟩ := hmem a (by simp)
    obtain ⟨hb, hparentB⟩ := hmem b (by simp)
    exact absurd ⟨a, ha, b, hb, hne, hparentA, hparentB⟩ (h childId .self)

end Walks

/-- Stored records, each made from the next one, through the record. -/
structure IsVersionChain (rows : List MemoryRecord) (memoryId : RowId)
    (versions : List MemoryRecord) : Prop where
  stored : ∀ row ∈ versions, row ∈ rows
  through : ∃ record ∈ versions, record.memoryId = memoryId
  linked : versions.IsChain Succeeds
  nodup : (versions.map MemoryRecord.memoryId).Nodup

/-- A chain of records meets none of them twice. -/
theorem nodup_of_linked {rows versions : List MemoryRecord} (hparents : ParentsExist rows)
    (hstored : ∀ row ∈ versions, row ∈ rows) (hlinked : versions.IsChain Succeeds) :
    (versions.map MemoryRecord.memoryId).Nodup := by
  have holder : versions.IsChain (fun newer older => older.memoryId < newer.memoryId) := by
    apply hlinked.imp_of_mem_imp
    intro newer older hnewer _ hparent
    exact (hparents newer (hstored newer hnewer) older.memoryId hparent).1
  have htrans : IsTrans MemoryRecord (fun newer older => older.memoryId < newer.memoryId) :=
    ⟨fun a b c hab hbc => hbc.trans hab⟩
  apply List.pairwise_map.2
  exact holder.pairwise.imp (fun hlt => (ne_of_lt hlt).symm)

/-- The versions of a record are listed exactly if no version at or below it
was edited twice. -/
theorem getMemoryVersions_iff {db : Db} {memoryId : RowId}
    (hparents : ParentsExist db.memoryRecords.rows)
    (hid : memoryId ∈ db.memoryRecords.rows.map MemoryRecord.memoryId) :
    (∃ versions, getMemoryVersions db memoryId = .ok versions ∧
      IsVersionChain db.memoryRecords.rows memoryId versions) ↔
    ∀ versionId, Below db.memoryRecords.rows memoryId versionId →
      ¬Branches db.memoryRecords.rows versionId := by
  obtain ⟨row, hrow, hrowid⟩ := List.mem_map.1 hid
  obtain ⟨hup, hhead, hmem, hmet⟩ := @walkUp_spec db.memoryRecords.rows [] hparents (some memoryId) (by
    intro id heq
    cases heq
    exact ⟨⟨row, hrow, hrowid⟩, by simp⟩)
  have hseen : ∀ id ∈ (walkUp db.memoryRecords.rows [] (some memoryId)).1, id ≤ memoryId := by
    intro id hmem
    rcases hmet id hmem with hnil | ⟨top, heq, hle⟩
    · cases hnil
    · cases heq
      exact hle
  rw [← walkDown_isOk_iff db.memoryRecords.nodupIds hparents hseen]
  unfold getMemoryVersions
  generalize walkUp db.memoryRecords.rows [] (some memoryId) = up at *
  obtain ⟨seen, versions⟩ := up
  dsimp only at *
  constructor
  · rintro ⟨all, hall, -⟩
    cases hdown : walkDown db.memoryRecords.rows seen memoryId with
    | error error =>
      rw [hdown] at hall
      cases hall
    | ok children => exact ⟨children, rfl⟩
  · rintro ⟨children, hdown⟩
    rw [hdown]
    obtain ⟨record, older, rfl⟩ : ∃ record older, versions = record :: older := by
      cases versions with
      | nil => cases hhead
      | cons record older => exact ⟨record, older, rfl⟩
    have hrecord : record.memoryId = memoryId := Option.some.inj hhead
    obtain ⟨hchain, hstored⟩ := walkDown_spec hparents hseen hrecord hdown
    have hall : ∀ row ∈ children.reverse ++ record :: older, row ∈ db.memoryRecords.rows := by
      intro row hrow
      rcases List.mem_append.1 hrow with hnewer | holder
      · exact hstored row (List.mem_reverse.1 hnewer)
      · exact hmem row holder
    have hlinked : (children.reverse ++ record :: older).IsChain Succeeds := by
      rw [List.isChain_split]
      refine ⟨?_, hup⟩
      rw [← List.reverse_cons, List.isChain_reverse]
      exact hchain
    exact ⟨_, rfl, hall, ⟨record, by simp, hrecord⟩, hlinked,
      nodup_of_linked hparents hall hlinked⟩

end MemoryService

/-! ## The forest in every history -/

section Histories

variable {host : Host} {db db' : Db}

/-- A row that the store appends names the parent of the write. -/
theorem CRDTStore.put_parent {now : Time} {write : MemoryWrite} {keypair : Option KeyPair}
    {precomputedHash : Option String} {precomputedSignature : Option Json} {row : MemoryRecord}
    (h : put host db now write keypair precomputedHash precomputedSignature = .ok (row, db')) :
    db' = db ∨ row.parentVersionId = write.parentVersionId := by
  unfold put at h
  obtain ⟨⟨contentHash, signature⟩, -, h⟩ := Outcome.bind_eq_ok h
  cases hfound : db.fetchByHash contentHash with
  | some existing =>
    simp only [hfound] at h
    cases h
    exact Or.inl rfl
  | none =>
    simp only [hfound] at h
    cases hrow : write.row? host contentHash signature now with
    | none =>
      simp only [hrow] at h
      cases h
    | some record =>
      simp only [hrow] at h
      obtain ⟨hid, -, -⟩ := Db.insertMemoryRecord_eq_ok (Outcome.mapError_eq_ok.1 h)
      simp only [MemoryWrite.row?, Option.bind_eq_bind, Option.bind_eq_some_iff, Option.pure_def,
        Option.some.injEq] at hrow
      obtain ⟨_, -, _, -, _, -, _, -, -, -, rfl⟩ := hrow
      rw [hid]
      exact Or.inr rfl

namespace MemoryService

/-- The parent of an accepted write is there. -/
theorem writeMemory_parent {now transactionStart : Time} {data : MemoryWriteRequest}
    {result : MemoryRecord × Db} (h : writeMemory host db now transactionStart data = .ok result)
    {parentId : RowId} (hparent : data.parentVersionId = some parentId) :
    ∃ parent ∈ db.memoryRecords.rows, parent.memoryId = parentId := by
  cases hfound : db.memoryRecords.rows.find? (fun record => record.memoryId = parentId) with
  | none =>
    unfold writeMemory at h
    rw [hparent] at h
    simp only [hfound] at h
    cases h
  | some parent => exact ⟨parent, List.mem_of_find?_eq_some hfound, by simpa using List.find?_some hfound⟩

namespace ParentsExist

/-- Rows change one by one and keep their parents. -/
theorem map {rows : List MemoryRecord} (h : ParentsExist rows) {g : MemoryRecord → MemoryRecord}
    (hid : ∀ row, (g row).memoryId = row.memoryId)
    (hparent : ∀ row, (g row).parentVersionId = row.parentVersionId) :
    ParentsExist (rows.map g) := by
  intro row hrow parentId hof
  obtain ⟨old, hold, rfl⟩ := List.mem_map.1 hrow
  rw [hparent] at hof
  obtain ⟨holder, parent, hmem, hparentId⟩ := h old hold parentId hof
  rw [hid]
  exact ⟨holder, g parent, List.mem_map_of_mem hmem, by rw [hid, hparentId]⟩

theorem put {now : Time} {write : MemoryWrite} {keypair : Option KeyPair}
    {precomputedHash : Option String} {precomputedSignature : Option Json} {row : MemoryRecord}
    (hput : CRDTStore.put host db now write keypair precomputedHash precomputedSignature =
      .ok (row, db'))
    (hparent : ∀ parentId, write.parentVersionId = some parentId →
      ∃ parent ∈ db.memoryRecords.rows, parent.memoryId = parentId)
    (h : ParentsExist db.memoryRecords.rows) : ParentsExist db'.memoryRecords.rows := by
  obtain ⟨_, _, -, hcases⟩ := CRDTStore.put_cases hput
  rcases hcases with ⟨rfl, -⟩ | ⟨-, hid, hrows, -⟩
  · exact h
  · rcases CRDTStore.put_parent hput with rfl | hof
    · exact h
    · intro other hother parentId hotherOf
      rw [hrows] at hother ⊢
      rcases List.mem_append.1 hother with hold | hnew
      · obtain ⟨holder, parent, hmem, hparentId⟩ := h other hold parentId hotherOf
        exact ⟨holder, parent, List.mem_append_left _ hmem, hparentId⟩
      · rw [List.mem_singleton.1 hnew] at hotherOf ⊢
        rw [hof] at hotherOf
        obtain ⟨parent, hmem, hparentId⟩ := hparent parentId hotherOf
        refine ⟨?_, parent, List.mem_append_left _ hmem, hparentId⟩
        rw [hid, ← hparentId]
        exact db.memoryRecords.below parent hmem

theorem applySupersedeRules (newRecord : MemoryRecord) (h : ParentsExist db.memoryRecords.rows) :
    ParentsExist (MemoryService.applySupersedeRules db newRecord).memoryRecords.rows := by
  obtain ⟨select, _, hrows⟩ := rows_applySupersedeRules db newRecord
  rw [hrows]
  exact h.map (fun row => by split <;> rfl) (fun row => by split <;> rfl)

theorem assignRecordState (select : MemoryRecord → Bool) (state : RecordState)
    (h : ParentsExist db.memoryRecords.rows) :
    ParentsExist (db.assignRecordState select state).memoryRecords.rows :=
  h.map (fun row => by split <;> rfl) (fun row => by split <;> rfl)

/-- The versions that were made from a deleted row become roots. -/
theorem deleteMemoryRecords (select : MemoryRecord → Bool)
    (h : ParentsExist db.memoryRecords.rows) :
    ParentsExist (db.deleteMemoryRecords select).memoryRecords.rows := by
  intro row hrow parentId hof
  obtain ⟨old, hold, rfl⟩ := List.mem_map.1 hrow
  have hid : ∀ other : MemoryRecord, (if other.parentVersionId.any
      (· ∈ (db.memoryRecords.rows.filter select).map MemoryRecord.memoryId) then
      { other with parentVersionId := none } else other).memoryId = other.memoryId := by
    intro other
    split <;> rfl
  split at hof
  · cases hof
  · rename_i hkept
    obtain ⟨holder, parent, hparent, hparentId⟩ :=
      h old (List.mem_of_mem_filter hold) parentId hof
    rw [hid]
    have hselect : select parent = false := by
      by_contra hselected
      refine hkept ?_
      rw [hof, Option.any_some, decide_eq_true_iff, ← hparentId]
      exact List.mem_map_of_mem (List.mem_filter.2 ⟨hparent, by simpa using hselected⟩)
    refine ⟨holder, _, List.mem_map_of_mem (List.mem_filter.2 ⟨hparent, ?_⟩), (hid parent).trans hparentId⟩
    rw [hselect]
    rfl

/-- Every operation of the store keeps the forest. -/
theorem run (op : MemoryOp) (h : ParentsExist db.memoryRecords.rows) :
    ParentsExist (op.run host db).memoryRecords.rows := by
  cases op with
  | writeMemory now transactionStart data =>
    dsimp only [MemoryOp.run]
    split
    · rename_i record db' hwrite
      have hparent := fun parentId => @writeMemory_parent host db now transactionStart data _ hwrite parentId
      rcases writeMemory_eq_ok hwrite with ⟨-, rfl⟩ | ⟨-, version, written, -, hput, rfl⟩
      · exact h
      · have hwritten := h.put hput hparent
        split
        · exact hwritten.applySupersedeRules record
        · exact hwritten
    · exact h
  | reconcileWith now peer cached workflowId =>
    refine GossipService.reconcileWith_keeps (I := fun table => ParentsExist table.rows)
      cached workflowId (fun batch records _ record _ => ?_) h
    intro before workflowUuid sourceAgentUuid memoryType row after _ hput hbefore
    exact hbefore.put hput (fun parentId hof => nomatch hof)
  | tombstoneMemory now request =>
    dsimp only [MemoryOp.run]
    split
    · rename_i record db' haccepted
      obtain ⟨target, workflowId, written, -, -, -, hput, rfl⟩ := tombstoneMemory_eq_ok haccepted
      exact (h.put hput (fun parentId hof => nomatch hof)).assignRecordState _ _
    · exact h
  | deleteMemory now memoryId =>
    dsimp only [MemoryOp.run]
    split
    · rename_i db' hdelete
      rw [rows_deleteMemory hdelete]
      refine h.map (fun row => ?_) (fun row => ?_)
      · unfold deletedRow
        split
        · split <;> rfl
        · rfl
      · unfold deletedRow
        split
        · split <;> rfl
        · rfl
    · exact h
  | garbageCollect now limit semanticCacheMaxEntries policy maxAgeHours minConfidence =>
    exact garbageCollect_rule (I := fun db => ParentsExist db.memoryRecords.rows)
      (fun _ select h => h.deleteMemoryRecords select)
      (fun _ select h => h.assignRecordState select _) (fun _ h => h.assignRecordState _ _) h
  | elsewhere now tables => exact h

/-- After a history from an empty store the records form a forest. -/
theorem afterOps (host : Host) {start : Db} (hstart : NoMemoryRecords start)
    (ops : List MemoryOp) : ParentsExist (afterOps host start ops).memoryRecords.rows := by
  apply @Transition.after_invariant _ _ _ (fun db : Db => ParentsExist db.memoryRecords.rows)
    (fun _ => True) (fun db op _ h => h.run op)
  · exact fun _ _ => trivial
  · intro row hrow
    rw [hstart] at hrow
    cases hrow

end ParentsExist

/-- After any history, the versions of a record are listed exactly if no version
at or below it was edited twice. -/
theorem getMemoryVersions_afterOps_iff (host : Host) (start : Db) (ops : List MemoryOp)
    (memoryId : RowId) (hstart : NoMemoryRecords start)
    (hid : memoryId ∈ (MassClaw.afterOps host start ops).memoryRecords.rows.map
      MemoryRecord.memoryId) :
    (∃ versions, getMemoryVersions (MassClaw.afterOps host start ops) memoryId = .ok versions ∧
      IsVersionChain (MassClaw.afterOps host start ops).memoryRecords.rows memoryId versions) ↔
    ∀ versionId, Below (MassClaw.afterOps host start ops).memoryRecords.rows memoryId versionId →
      ¬Branches (MassClaw.afterOps host start ops).memoryRecords.rows versionId :=
  getMemoryVersions_iff (ParentsExist.afterOps host hstart ops) hid

namespace VersionExample

/-- A version of a fact. -/
def version (content : String) (hcontent : 1 ≤ content.length ∧ content.length ≤ 100000)
    (parentVersionId : Option RowId) : MemoryOp := .writeMemory 0 0
  { workflowId := UUID.ofNat 1
    memoryType := .fact
    content
    confidence := 1
    parentVersionId
    contentLength := hcontent
    confidenceRange := MemoryWriteRequest.confidenceRange_one
    ttlPositive := MemoryWriteRequest.ttlPositive_none }

/-- One edit after the other. -/
def edits : List MemoryOp :=
  [version "draft" (by decide) none, version "second" (by decide) (some 0),
    version "third" (by decide) (some 1)]

/-- Two edits of one record. -/
def concurrentEdits : List MemoryOp :=
  [version "draft" (by decide) none, version "mine" (by decide) (some 0),
    version "yours" (by decide) (some 0)]

end VersionExample

open GossipService.ImportExample VersionExample in
theorem getMemoryVersions_afterOps_iff_edits :
    (∃ versions, getMemoryVersions (MassClaw.afterOps constant start edits) 1 = .ok versions ∧
      IsVersionChain (MassClaw.afterOps constant start edits).memoryRecords.rows 1 versions) ↔
    ∀ versionId, Below (MassClaw.afterOps constant start edits).memoryRecords.rows 1 versionId →
      ¬Branches (MassClaw.afterOps constant start edits).memoryRecords.rows versionId :=
  getMemoryVersions_afterOps_iff constant start edits 1 rfl (by decide +kernel)

open GossipService.ImportExample VersionExample in
/-- The versions of a record that was edited twice are not listed. -/
theorem getMemoryVersions_fails :
    0 ∈ (MassClaw.afterOps constant start concurrentEdits).memoryRecords.rows.map
        MemoryRecord.memoryId ∧
    getMemoryVersions (MassClaw.afterOps constant start concurrentEdits) 0 =
      .error .multipleResultsFound := by
  refine ⟨by decide +kernel, ?_⟩
  have hraises : (getMemoryVersions (MassClaw.afterOps constant start concurrentEdits)
      0).toOption.isNone = true := by
    decide +kernel
  cases hversions : getMemoryVersions (MassClaw.afterOps constant start concurrentEdits) 0 with
  | error error => rfl
  | ok versions =>
    rw [hversions] at hraises
    cases hraises

end MemoryService

end Histories

end MassClaw
