import Mathlib.Data.Prod.Lex
import Mathlib.Data.String.Basic
import Mathlib.Order.Lattice
import MassClaw.Core.Money
import MassClaw.Core.Basic
import MassClaw.Lib.Outcome
import MassClaw.Lib.Selection

/-!
# Facts from conflicting records, `app/services/memory_fact_resolver.py`

The store keeps every signed record; `resolve_fact` makes one answer of them.
Candidates are ranked by confidence, freshness and the trust in their author.
Numbers are exact: a product is not rounded, and `round` rounds half to even.

The conflict that makes a sensitive read escalate is looked for between the
top-ranked candidate and the others only.
-/

namespace MassClaw

namespace FactResolver

open Selection

inductive ReadMode
  | planning | audit | sensitive
  deriving DecidableEq, Repr

/-- What the resolver takes from the machine it runs on. -/
structure Platform where
  /-- `math.exp`. -/
  exp : ℚ → ℚ
  /-- `datetime.timestamp` of a local time. -/
  mktime : Time → ℚ

/-- A `datetime`: the wall clock, and the offset of an aware one. -/
structure Datetime where
  wallClock : Time
  utcoffset : Option Time
  deriving DecidableEq

/-- `datetime.timestamp`. -/
def Datetime.timestamp (platform : Platform) (datetime : Datetime) : ℚ :=
  match datetime.utcoffset with
  | some offset => ((datetime.wallClock - offset : Int) : ℚ) / 1000000
  | none => platform.mktime datetime.wallClock

structure TypeError where
  message : String
  deriving DecidableEq

structure FactCandidate where
  memoryId : UUID
  content : String
  confidence : ℚ
  authorDid : Option String
  authorTrust : Option ℚ
  recordState : RecordState
  contentHash : Option String
  createdAt : Datetime
  similarity : ℚ
  deriving DecidableEq

structure RankedCandidate where
  candidate : FactCandidate
  rank : ℚ
  freshnessFactor : ℚ
  effectiveAuthorTrust : ℚ
  deriving DecidableEq

structure FactResolution where
  mode : ReadMode
  chosen : Option FactCandidate
  candidates : List RankedCandidate := []
  requiresHitl : Bool := false
  conflictDetected : Bool := false
  reason : String := ""

/-- The keyword arguments of `resolve_fact`. -/
structure Options where
  now : Option Datetime := none
  decayLambda : ℚ := 1 / 100
  defaultAuthorTrust : ℚ := 1 / 2
  sensitiveMinConfidence : ℚ := 7 / 10
  sensitiveRankDelta : ℚ := 15 / 100

/-! ## Rounding -/

/-- The nearest integer; the even one of two. -/
def roundHalfEven (x : ℚ) : Int :=
  if x - ⌊x⌋ < 1 / 2 then ⌊x⌋
  else if 1 / 2 < x - ⌊x⌋ then ⌊x⌋ + 1
  else if ⌊x⌋ % 2 = 0 then ⌊x⌋
  else ⌊x⌋ + 1

/-- `round(x, digits)`. -/
def roundTo (digits : Nat) (x : ℚ) : ℚ := roundHalfEven (x * 10 ^ digits) / 10 ^ digits

/-- `f"{x:.4f}"`. -/
def format4f (x : ℚ) : String :=
  let scaled := (roundHalfEven (|x| * 10 ^ 4)).toNat
  let sign := if x < 0 then "-" else ""
  let fraction := String.ofList (List.leftpad 4 '0' (toString (scaled % 10000)).toList)
  s!"{sign}{scaled / 10000}.{fraction}"

/-! ## The resolver -/

/-- `now or datetime.now(UTC)`, where the clock shows `clock`. -/
def Options.reference (options : Options) (clock : Time) : Datetime :=
  options.now.getD { wallClock := clock, utcoffset := some 0 }

/-- `freshness_factor`, at the reference time. -/
def FactCandidate.freshnessFactor (platform : Platform) (candidate : FactCandidate)
    (reference : Datetime) (decayLambda : ℚ) : Except TypeError ℚ :=
  let created := candidate.createdAt.wallClock - candidate.createdAt.utcoffset.getD 0
  match reference.utcoffset with
  | none => .error ⟨"can't subtract offset-naive and offset-aware datetimes"⟩
  | some offset =>
    let seconds := ((reference.wallClock - offset - created : Int) : ℚ) / 1000000
    let hoursSince := max 0 (seconds / 3600)
    .ok (platform.exp (-decayLambda * hoursSince))

section Resolver

variable (platform : Platform) (options : Options)

/-- One candidate with its rank. -/
def score (reference : Datetime) (candidate : FactCandidate) : Except TypeError RankedCandidate := do
  let trust := candidate.authorTrust.getD options.defaultAuthorTrust
  let freshness ← candidate.freshnessFactor platform reference options.decayLambda
  let rank := candidate.confidence * freshness * trust
  return {
    candidate
    rank := roundTo 6 rank
    freshnessFactor := roundTo 6 freshness
    effectiveAuthorTrust := roundTo 6 trust }

/-- The loop over the candidates; each of them reads the clock. -/
def scoreAll (clock : Nat → Time) : List FactCandidate → Except TypeError (List RankedCandidate)
  | [] => .ok []
  | candidate :: rest => do
    let scored ← score platform options (options.reference (clock 0)) candidate
    let others ← scoreAll (fun i => clock (i + 1)) rest
    return scored :: others

/-- The rank, then the time, both descending, then the hash. -/
def sortKey (ranked : RankedCandidate) : ℚ ×ₗ ℚ ×ₗ String :=
  toLex (-ranked.rank, toLex (-ranked.candidate.createdAt.timestamp platform,
    ranked.candidate.contentHash.getD ""))

/-- `_rank_candidates`. -/
def rankCandidates (clock : Nat → Time) (candidates : List FactCandidate) :
    Except TypeError (List RankedCandidate) :=
  (scoreAll platform options clock candidates).map (byKey (sortKey platform))

/-- `_has_high_confidence_conflict`. -/
def hasHighConfidenceConflict (minConfidence rankDelta : ℚ) : List RankedCandidate → Bool
  | [] => false
  | [_] => false
  | top :: others =>
    if top.candidate.confidence < minConfidence then false
    else others.any (fun other =>
      !(other.candidate.confidence < minConfidence) &&
        !(other.candidate.content = top.candidate.content) &&
        |top.rank - other.rank| ≤ rankDelta)

/-- The answer of `resolve_fact`, from the ranked candidates. -/
def resolution (mode : ReadMode) (ranked auditRanked : List RankedCandidate) : FactResolution :=
  let conflict := hasHighConfidenceConflict options.sensitiveMinConfidence
    options.sensitiveRankDelta ranked
  if mode = .audit then
    { mode
      chosen := none
      candidates := auditRanked
      conflictDetected := conflict
      reason := s!"audit mode — returning {auditRanked.length} candidates" }
  else
    match ranked with
    | [] => { mode, chosen := none, reason := "no active candidates matched the query" }
    | winner :: _ =>
      if mode = .sensitive ∧ conflict then
        { mode
          chosen := none
          candidates := ranked
          requiresHitl := true
          conflictDetected := true
          reason :=
            s!"high-confidence conflict among {ranked.length} candidates; escalating to human approval" }
      else
        { mode
          chosen := some winner.candidate
          candidates := ranked
          conflictDetected := conflict
          reason :=
            s!"selected top-ranked candidate (rank={format4f winner.rank}) from {ranked.length} active records" }

/-- The candidates that a winner can be one of. -/
def activeCandidates (candidates : List FactCandidate) : List FactCandidate :=
  candidates.filter (fun candidate => candidate.recordState = .active)

/-- `resolve_fact`. -/
def resolveFact (mode : ReadMode) (clock : Nat → Time) (candidates : List FactCandidate) :
    Except TypeError FactResolution := do
  let active := activeCandidates candidates
  let ranked ← rankCandidates platform options clock active
  let auditRanked ←
    if mode ≠ .audit then .ok ranked
    else rankCandidates platform options (fun i => clock (i + active.length)) candidates
  return resolution options mode ranked auditRanked

end Resolver

/-! ## What the ranking is -/

section Ranking

variable {platform : Platform} {options : Options} {clock : Nat → Time}

/-- A naive reference time fails for every candidate, an aware one for none. -/
theorem score_cases (platform : Platform) (options : Options) (reference : Datetime) :
    (∃ scored : FactCandidate → RankedCandidate, ∀ candidate,
      score platform options reference candidate = .ok (scored candidate) ∧
        (scored candidate).candidate = candidate) ∨
    ∃ error, ∀ candidate, score platform options reference candidate = .error error := by
  cases hoffset : reference.utcoffset with
  | none =>
    refine Or.inr ⟨⟨"can't subtract offset-naive and offset-aware datetimes"⟩,
      fun candidate => ?_⟩
    unfold score FactCandidate.freshnessFactor
    rw [hoffset]
    rfl
  | some offset =>
    have hall : ∀ candidate, ∃ ranked, score platform options reference candidate = .ok ranked ∧
        ranked.candidate = candidate := by
      intro candidate
      unfold score FactCandidate.freshnessFactor
      rw [hoffset]
      exact ⟨_, rfl, rfl⟩
    choose scored hscored using hall
    exact Or.inl ⟨scored, hscored⟩

theorem rankCandidates_eq_ok {candidates : List FactCandidate} {ranked : List RankedCandidate} :
    rankCandidates platform options clock candidates = .ok ranked ↔
      ∃ scored, scoreAll platform options clock candidates = .ok scored ∧
        byKey (sortKey platform) scored = ranked := by
  unfold rankCandidates
  cases scoreAll platform options clock candidates with
  | error error => simp [Except.map]
  | ok scored => simp [Except.map]

section Answer

variable {mode : ReadMode} {candidates : List FactCandidate} {ranked auditRanked : List RankedCandidate}

theorem resolveFact_error {error : TypeError}
    (h : rankCandidates platform options clock (activeCandidates candidates) = .error error) :
    resolveFact platform options mode clock candidates = .error error := by
  unfold resolveFact
  dsimp only
  rw [h]
  rfl

theorem resolveFact_read (hmode : mode ≠ .audit)
    (h : rankCandidates platform options clock (activeCandidates candidates) = .ok ranked) :
    resolveFact platform options mode clock candidates =
      .ok (resolution options mode ranked ranked) := by
  unfold resolveFact
  dsimp only
  rw [h]
  show (if mode ≠ .audit then _ else _) = _
  rw [if_pos hmode]
  rfl

theorem resolveFact_audit
    (h : rankCandidates platform options clock (activeCandidates candidates) = .ok ranked) :
    resolveFact platform options .audit clock candidates =
      (rankCandidates platform options (fun i => clock (i + (activeCandidates candidates).length))
        candidates).map (resolution options .audit ranked) := by
  unfold resolveFact
  dsimp only
  rw [h]
  cases rankCandidates platform options
    (fun i => clock (i + (activeCandidates candidates).length)) candidates with
  | error error => rfl
  | ok auditRanked => rfl

end Answer

/-- The first candidate has the highest rank. -/
theorem rank_le_top {candidates : List FactCandidate} {ranked : List RankedCandidate}
    (h : rankCandidates platform options clock candidates = .ok ranked)
    {top other : RankedCandidate} (htop : ranked.head? = some top) (hother : other ∈ ranked) :
    other.rank ≤ top.rank := by
  obtain ⟨scored, -, rfl⟩ := rankCandidates_eq_ok.1 h
  have hkey := key_head_le htop (mem_byKey.1 hother)
  rcases Prod.Lex.toLex_le_toLex.1 hkey with hlt | ⟨heq, -⟩
  · exact (neg_lt_neg_iff.1 hlt).le
  · exact (neg_inj.1 heq).ge

end Ranking

/-! ## Conflicts -/

section Conflict

variable {platform : Platform} {options : Options} {clock : Nat → Time}
  {ranked : List RankedCandidate}

/-- Two candidates that are confident, differ in content and are ranked close
to each other. -/
def Conflicting (options : Options) (a b : RankedCandidate) : Prop :=
  options.sensitiveMinConfidence ≤ a.candidate.confidence ∧
    options.sensitiveMinConfidence ≤ b.candidate.confidence ∧
    a.candidate.content ≠ b.candidate.content ∧ |a.rank - b.rank| ≤ options.sensitiveRankDelta

instance (options : Options) (a b : RankedCandidate) : Decidable (Conflicting options a b) :=
  inferInstanceAs (Decidable (_ ∧ _))

/-- Only conflicts with the first candidate are found. -/
theorem hasHighConfidenceConflict_iff :
    hasHighConfidenceConflict options.sensitiveMinConfidence options.sensitiveRankDelta ranked =
        true ↔
      ∃ top, ranked.head? = some top ∧ ∃ other ∈ ranked, Conflicting options top other := by
  unfold hasHighConfidenceConflict Conflicting
  split
  · simp
  · simp
  · rename_i top others _
    have hhead : ∀ first, (top :: others).head? = some first ↔ top = first := by simp
    simp only [hhead, exists_eq_left', List.mem_cons, exists_eq_or_imp]
    split
    · rename_i hlow
      simp [not_le.2 hlow]
    · rename_i hhigh
      simp only [List.any_eq_true, Bool.and_eq_true, Bool.not_eq_true', decide_eq_false_iff_not,
        decide_eq_true_eq, not_lt, ne_eq, not_true_eq_false, false_and, and_false, false_or]
      constructor
      · rintro ⟨other, hother, ⟨hsure, hdiffer⟩, hclose⟩
        exact ⟨other, hother, not_lt.1 hhigh, hsure, fun heq => hdiffer heq.symm, hclose⟩
      · rintro ⟨other, hother, -, hsure, hdiffer, hclose⟩
        exact ⟨other, hother, ⟨hsure, fun heq => hdiffer heq.symm⟩, hclose⟩

/-- Candidates conflict, but the first is not confident, or is ranked too far
above every confident one of another content. -/
def Overlooked (options : Options) (ranked : List RankedCandidate) : Prop :=
  (∃ a ∈ ranked, ∃ b ∈ ranked, Conflicting options a b) ∧
    ∀ top, ranked.head? = some top →
      top.candidate.confidence < options.sensitiveMinConfidence ∨
      ∀ other ∈ ranked, options.sensitiveMinConfidence ≤ other.candidate.confidence →
        other.candidate.content ≠ top.candidate.content →
        options.sensitiveRankDelta < top.rank - other.rank

theorem resolution_escalates (auditRanked : List RankedCandidate) :
    ((resolution options .sensitive ranked auditRanked).chosen = none ∧
      (resolution options .sensitive ranked auditRanked).requiresHitl = true) ↔
    hasHighConfidenceConflict options.sensitiveMinConfidence options.sensitiveRankDelta ranked =
      true := by
  unfold resolution
  dsimp only
  rw [if_neg (by simp)]
  cases ranked with
  | nil => simp [hasHighConfidenceConflict]
  | cons winner others =>
    dsimp only
    split
    · rename_i hconflict
      simp [hconflict.2]
    · rename_i hnone
      simpa using hnone

/-- What `resolve_fact` escalates. -/
theorem escalates_iff {candidates : List FactCandidate} :
    (∃ answer, resolveFact platform options .sensitive clock candidates = .ok answer ∧
      answer.chosen = none ∧ answer.requiresHitl = true) ↔
    ∃ ranked, rankCandidates platform options clock (activeCandidates candidates) = .ok ranked ∧
      ∃ top, ranked.head? = some top ∧ ∃ other ∈ ranked, Conflicting options top other := by
  cases hranked : rankCandidates platform options clock (activeCandidates candidates) with
  | error error =>
    rw [resolveFact_error hranked]
    constructor
    · rintro ⟨answer, hanswer, -⟩
      cases hanswer
    · rintro ⟨ranked, hranked, -⟩
      cases hranked
  | ok ranked =>
    rw [resolveFact_read (by simp) hranked]
    have hleft : (∃ answer, Except.ok (resolution options .sensitive ranked ranked) =
        (.ok answer : Except TypeError _) ∧ answer.chosen = none ∧ answer.requiresHitl = true) ↔
        hasHighConfidenceConflict options.sensitiveMinConfidence options.sensitiveRankDelta
          ranked = true := by
      rw [← resolution_escalates ranked]
      constructor
      · rintro ⟨answer, heq, hescalates⟩
        cases heq
        exact hescalates
      · exact fun h => ⟨_, rfl, h⟩
    rw [hleft, hasHighConfidenceConflict_iff]
    constructor
    · exact fun h => ⟨ranked, rfl, h⟩
    · rintro ⟨other, heq, hconflict⟩
      cases heq
      exact hconflict

/-- A sensitive read escalates exactly the conflicts, unless they are overlooked. -/
theorem escalates_conflicts_iff (platform : Platform) (options : Options) (clock : Nat → Time)
    (candidates : List FactCandidate) :
    ((∃ answer, resolveFact platform options .sensitive clock candidates = .ok answer ∧
        answer.chosen = none ∧ answer.requiresHitl = true) ↔
      ∃ scored, scoreAll platform options clock (activeCandidates candidates) = .ok scored ∧
        ∃ a ∈ scored, ∃ b ∈ scored, Conflicting options a b) ↔
    ¬∃ ranked, rankCandidates platform options clock (activeCandidates candidates) = .ok ranked ∧
      Overlooked options ranked := by
  have hpair : (∃ scored, scoreAll platform options clock (activeCandidates candidates) =
      .ok scored ∧ ∃ a ∈ scored, ∃ b ∈ scored, Conflicting options a b) ↔
      ∃ ranked, rankCandidates platform options clock (activeCandidates candidates) = .ok ranked ∧
        ∃ a ∈ ranked, ∃ b ∈ ranked, Conflicting options a b := by
    constructor
    · rintro ⟨scored, hscored, a, ha, b, hb, hconflict⟩
      exact ⟨_, rankCandidates_eq_ok.2 ⟨scored, hscored, rfl⟩, a, mem_byKey.2 ha, b,
        mem_byKey.2 hb, hconflict⟩
    · rintro ⟨ranked, hranked, a, ha, b, hb, hconflict⟩
      obtain ⟨scored, hscored, rfl⟩ := rankCandidates_eq_ok.1 hranked
      exact ⟨scored, hscored, a, mem_byKey.1 ha, b, mem_byKey.1 hb, hconflict⟩
  rw [escalates_iff, hpair]
  constructor
  · rintro h ⟨ranked, hranked, hpairs, hshield⟩
    obtain ⟨other, hother, top, htop, rival, hrival, hsure, hsure', hdiffer, hclose⟩ :=
      h.2 ⟨ranked, hranked, hpairs⟩
    rw [hranked] at hother
    cases hother
    rcases hshield top htop with hlow | hfar
    · exact absurd hsure (not_le.2 hlow)
    · have hgap := hfar rival hrival hsure' (Ne.symm hdiffer)
      exact absurd hclose (not_le.2 (lt_of_lt_of_le hgap (le_abs_self _)))
  · intro h
    constructor
    · rintro ⟨ranked, hranked, top, htop, rival, hrival, hconflict⟩
      exact ⟨ranked, hranked, top, List.mem_of_mem_head? htop, rival, hrival, hconflict⟩
    · rintro ⟨ranked, hranked, hpairs⟩
      refine ⟨ranked, hranked, ?_⟩
      by_contra hnone
      refine h ⟨ranked, hranked, hpairs, fun top htop => ?_⟩
      by_cases hlow : top.candidate.confidence < options.sensitiveMinConfidence
      · exact Or.inl hlow
      · refine Or.inr (fun rival hrival hsure hdiffer => ?_)
        by_contra hnear
        refine hnone ⟨top, htop, rival, hrival, not_lt.1 hlow, hsure, Ne.symm hdiffer, ?_⟩
        have hle := rank_le_top hranked htop hrival
        rw [abs_of_nonneg (by linarith)]
        exact not_lt.1 hnear

/-- A machine in the time zone of UTC, at a moment when nothing is old. -/
def utcPlatform : Platform where
  exp := fun _ => 1
  mktime := fun time => time / 1000000

def newYear : Datetime where
  wallClock := 1767225600000000
  utcoffset := some 0

/-- An active record of this moment. -/
def deadline (number : Nat) (content : String) (confidence authorTrust : ℚ) : FactCandidate where
  memoryId := UUID.ofNat number
  content
  confidence
  authorDid := none
  authorTrust := some authorTrust
  recordState := .active
  contentHash := none
  createdAt := newYear
  similarity := 9 / 10

/-- A trusted author is unsure, two others are sure of different dates. -/
def deadlines : List FactCandidate :=
  [deadline 1 "Deadline: April 28" (6 / 10) 1, deadline 2 "Deadline: May 5" (9 / 10) (1 / 2),
    deadline 3 "Deadline: May 9" (9 / 10) (1 / 2)]

/-- The conflict of the two is not escalated. -/
theorem escalates_conflicts_fails :
    ¬((∃ answer, resolveFact utcPlatform { now := some newYear } .sensitive (fun _ => 0) deadlines =
          .ok answer ∧ answer.chosen = none ∧ answer.requiresHitl = true) ↔
      ∃ scored, scoreAll utcPlatform { now := some newYear } (fun _ => 0)
          (activeCandidates deadlines) = .ok scored ∧
        ∃ a ∈ scored, ∃ b ∈ scored, Conflicting { now := some newYear } a b) := by
  intro h
  have hpairs : (scoreAll utcPlatform { now := some newYear } (fun _ => 0)
      (activeCandidates deadlines)).toOption.any (fun scored => scored.any (fun a =>
        scored.any (fun b => Conflicting { now := some newYear } a b))) = true := by
    decide +kernel
  have hanswer : (resolveFact utcPlatform { now := some newYear } .sensitive (fun _ => 0)
      deadlines).toOption.all (fun answer => !answer.requiresHitl) = true := by
    decide +kernel
  cases hscored : scoreAll utcPlatform { now := some newYear } (fun _ => 0)
      (activeCandidates deadlines) with
  | error error =>
    rw [hscored] at hpairs
    cases hpairs
  | ok scored =>
    rw [hscored] at hpairs
    obtain ⟨a, ha, hpair⟩ := List.any_eq_true.1 hpairs
    obtain ⟨b, hb, hconflict⟩ := List.any_eq_true.1 hpair
    obtain ⟨answer, heq, -, hhitl⟩ := h.2 ⟨scored, hscored, a, ha, b, hb, of_decide_eq_true hconflict⟩
    rw [heq] at hanswer
    have hnot : (!answer.requiresHitl) = true := hanswer
    rw [hhitl] at hnot
    cases hnot

end Conflict

/-! ## The order of the records -/

section Order

variable {platform : Platform} {options : Options} {clock : Nat → Time} {mode : ReadMode}
  {reference : Datetime} {scored : FactCandidate → RankedCandidate}
  {candidates other : List FactCandidate}

/-- The candidates that a mode ranks. -/
def pool (mode : ReadMode) (candidates : List FactCandidate) : List FactCandidate :=
  if mode = .audit then candidates else activeCandidates candidates

/-- Two candidates with one key. -/
def Tied (platform : Platform) (options : Options) (reference : Datetime)
    (first second : FactCandidate) : Prop :=
  ∃ a b, score platform options reference first = .ok a ∧
    score platform options reference second = .ok b ∧ sortKey platform a = sortKey platform b

/-- What is compared of two answers. -/
def choice (answer : FactResolution) : Option FactCandidate × List RankedCandidate :=
  (answer.chosen, answer.candidates)

theorem scoreAll_eq_ok (hreference : ∀ i, options.reference (clock i) = reference)
    (hscored : ∀ candidate, score platform options reference candidate = .ok (scored candidate)) :
    scoreAll platform options clock candidates = .ok (candidates.map scored) := by
  induction candidates generalizing clock with
  | nil => rfl
  | cons candidate rest ih =>
    unfold scoreAll
    rw [hreference, hscored, ih (fun i => hreference (i + 1))]
    rfl

theorem scoreAll_eq_error (hreference : ∀ i, options.reference (clock i) = reference)
    {error : TypeError}
    (herror : ∀ candidate, score platform options reference candidate = .error error) :
    scoreAll platform options clock candidates =
      if candidates = [] then .ok [] else .error error := by
  cases candidates with
  | nil => rfl
  | cons candidate rest =>
    unfold scoreAll
    rw [hreference, herror]
    rfl

theorem resolveFact_eq_ok (hreference : ∀ i, options.reference (clock i) = reference)
    (hscored : ∀ candidate, score platform options reference candidate = .ok (scored candidate)) :
    resolveFact platform options mode clock candidates =
      .ok (resolution options mode
        (byKey (sortKey platform) ((activeCandidates candidates).map scored))
        (byKey (sortKey platform) ((pool mode candidates).map scored))) := by
  have hranked : ∀ (clock : Nat → Time) (list : List FactCandidate),
      (∀ i, options.reference (clock i) = reference) →
      rankCandidates platform options clock list = .ok (byKey (sortKey platform) (list.map scored)) := by
    intro clock list hclock
    unfold rankCandidates
    rw [scoreAll_eq_ok hclock hscored]
    rfl
  unfold pool
  by_cases hmode : mode = .audit
  · rw [hmode, resolveFact_audit (hranked clock _ hreference),
      hranked _ _ (fun i => hreference (i + (activeCandidates candidates).length))]
    rfl
  · rw [resolveFact_read hmode (hranked clock _ hreference), if_neg hmode]

/-- A failure tells only whether there was a candidate. -/
theorem resolveFact_eq_error (hreference : ∀ i, options.reference (clock i) = reference)
    {error : TypeError}
    (herror : ∀ candidate, score platform options reference candidate = .error error) :
    resolveFact platform options mode clock candidates =
      if pool mode candidates = [] then .ok (resolution options mode [] []) else .error error := by
  have hranked : ∀ (clock : Nat → Time) (list : List FactCandidate),
      (∀ i, options.reference (clock i) = reference) →
      rankCandidates platform options clock list =
        if list = [] then .ok [] else .error error := by
    intro clock list hclock
    unfold rankCandidates
    rw [scoreAll_eq_error hclock herror]
    cases list with
    | nil => rfl
    | cons candidate rest => rfl
  have hactive := hranked clock (activeCandidates candidates) hreference
  have hall := hranked _ candidates
    (fun i => hreference (i + (activeCandidates candidates).length))
  unfold pool
  by_cases hempty : activeCandidates candidates = []
  · rw [if_pos hempty] at hactive
    by_cases hmode : mode = .audit
    · rw [hmode, resolveFact_audit hactive, hall, if_pos rfl]
      cases candidates with
      | nil => rfl
      | cons candidate rest => rfl
    · rw [resolveFact_read hmode hactive, if_neg hmode, if_pos hempty]
  · rw [if_neg hempty] at hactive
    rw [resolveFact_error hactive]
    have hpool : (if mode = .audit then candidates else activeCandidates candidates) ≠ [] := by
      split
      · intro hnil
        rw [hnil] at hempty
        exact hempty rfl
      · exact hempty
    rw [if_neg hpool]

theorem resolution_candidates (hmode : mode ≠ .audit) (ranked : List RankedCandidate) :
    (resolution options mode ranked ranked).candidates = ranked := by
  unfold resolution
  dsimp only
  rw [if_neg hmode]
  cases ranked with
  | nil => rfl
  | cons winner others =>
    dsimp only
    split
    · rfl
    · rfl

theorem pool_perm (h : other.Perm candidates) (mode : ReadMode) :
    (pool mode other).Perm (pool mode candidates) := by
  unfold pool activeCandidates
  split
  · exact h
  · exact h.filter _

theorem pool_sublist (mode : ReadMode) (candidates : List FactCandidate) :
    (pool mode candidates).Sublist candidates := by
  unfold pool activeCandidates
  split
  · exact List.Sublist.refl _
  · exact List.filter_sublist

theorem pool_cons {candidate : FactCandidate} (h : candidate ∈ pool mode candidates)
    (rest : List FactCandidate) : pool mode (candidate :: rest) = candidate :: pool mode rest := by
  unfold pool activeCandidates at h ⊢
  split
  · rfl
  · rename_i hmode
    rw [if_neg hmode] at h
    exact List.filter_cons_of_pos (List.mem_filter.1 h).2

/-- The list of an answer is the sorted pool. -/
theorem candidates_of_choice_eq (hreference : ∀ i, options.reference (clock i) = reference)
    (hscored : ∀ candidate, score platform options reference candidate = .ok (scored candidate))
    (h : (resolveFact platform options mode clock candidates).map choice =
      (resolveFact platform options mode clock other).map choice) :
    byKey (sortKey platform) ((pool mode candidates).map scored) =
      byKey (sortKey platform) ((pool mode other).map scored) := by
  rw [resolveFact_eq_ok hreference hscored, resolveFact_eq_ok hreference hscored] at h
  have hcandidates := congrArg Prod.snd (Except.ok.inj h)
  by_cases hmode : mode = .audit
  · rw [hmode] at hcandidates ⊢
    exact hcandidates
  · unfold pool at hcandidates ⊢
    rw [if_neg hmode] at hcandidates ⊢
    unfold choice at hcandidates
    rw [resolution_candidates hmode, if_neg hmode, resolution_candidates hmode] at hcandidates
    rw [if_neg hmode]
    exact hcandidates

/-- Equal keys stand in the order of the records. -/
theorem choice_ne_of_tied (hreference : ∀ i, options.reference (clock i) = reference)
    (hscored : ∀ candidate, score platform options reference candidate = .ok (scored candidate) ∧
      (scored candidate).candidate = candidate)
    {first second : FactCandidate} {rest : List FactCandidate}
    (hnodup : (first :: second :: rest).Nodup)
    (hfirst : first ∈ pool mode candidates) (hsecond : second ∈ pool mode candidates)
    (hkey : sortKey platform (scored first) = sortKey platform (scored second)) :
    (resolveFact platform options mode clock (first :: second :: rest)).map choice ≠
      (resolveFact platform options mode clock (second :: first :: rest)).map choice := by
  intro h
  have hsame := candidates_of_choice_eq hreference (fun candidate => (hscored candidate).1) h
  have hinjective : Function.Injective scored := by
    intro candidate other heq
    rw [← (hscored candidate).2, heq, (hscored other).2]
  have hdistinct : ((pool mode (first :: second :: rest)).map scored).Nodup :=
    (hnodup.sublist (pool_sublist mode _)).map hinjective
  rw [pool_cons hfirst, pool_cons hsecond] at hsame hdistinct
  rw [pool_cons hsecond, pool_cons hfirst] at hsame
  have hpair : ∀ (a b : FactCandidate) (tail : List FactCandidate),
      [scored a, scored b].Sublist ((a :: b :: tail).map scored) :=
    fun a b tail => ((List.nil_sublist _).cons_cons _).cons_cons _
  exact byKey_ne hdistinct hkey (hpair first second _) (hpair second first _) hsame

/-- Sorting by keys that tell the pool apart makes one answer of all orders. -/
theorem choice_eq_of_perm {clock' : Nat → Time}
    (hreference : ∀ i, options.reference (clock i) = reference)
    (hreference' : ∀ i, options.reference (clock' i) = reference)
    (hscored : ∀ candidate, score platform options reference candidate = .ok (scored candidate))
    (hkeys : ∀ first ∈ pool mode candidates, ∀ second ∈ pool mode candidates,
      sortKey platform (scored first) = sortKey platform (scored second) → first = second)
    (hperm : other.Perm candidates) :
    (resolveFact platform options mode clock' other).map choice =
      (resolveFact platform options mode clock candidates).map choice := by
  have hsame : byKey (sortKey platform) ((pool mode other).map scored) =
      byKey (sortKey platform) ((pool mode candidates).map scored) := by
    apply byKey_eq_of_perm _ ((pool_perm hperm mode).map scored)
    intro a ha b hb hkey
    obtain ⟨first, hfirst, rfl⟩ := List.mem_map.1 ha
    obtain ⟨second, hsecond, rfl⟩ := List.mem_map.1 hb
    rw [hkeys first hfirst second hsecond hkey]
  rw [resolveFact_eq_ok hreference hscored, resolveFact_eq_ok hreference' hscored, hsame]
  by_cases hmode : mode = .audit
  · rw [hmode]
    rfl
  · have hactive : ∀ list, activeCandidates list = pool mode list := by
      intro list
      unfold pool
      rw [if_neg hmode]
    rw [hactive, hactive, hsame]

/-- The order of the records does not matter exactly if no two candidates of the
pool are tied. -/
theorem choice_perm_iff (platform : Platform) (options : Options) (mode : ReadMode)
    (clock : Nat → Time) (reference : Datetime) (candidates : List FactCandidate)
    (hreference : ∀ i, options.reference (clock i) = reference)
    (hids : (candidates.map FactCandidate.memoryId).Nodup) :
    (∀ other clock', other.Perm candidates → (∀ i, options.reference (clock' i) = reference) →
      (resolveFact platform options mode clock' other).map choice =
        (resolveFact platform options mode clock candidates).map choice) ↔
    ∀ first ∈ pool mode candidates, ∀ second ∈ pool mode candidates,
      Tied platform options reference first second → first = second := by
  rcases score_cases platform options reference with ⟨scored, hscored⟩ | ⟨error, herror⟩
  · have hok := fun candidate => (hscored candidate).1
    constructor
    · intro h first hfirst second hsecond htied
      by_contra hne
      obtain ⟨a, b, ha, hb, hkey⟩ := htied
      rw [hok] at ha hb
      cases ha
      cases hb
      have hmem := (pool_sublist mode candidates).subset
      have hsecond' : second ∈ candidates.erase first :=
        (List.mem_erase_of_ne (Ne.symm hne)).2 (hmem hsecond)
      have hperm : (first :: second :: (candidates.erase first).erase second).Perm candidates :=
        ((List.perm_cons_erase hsecond').symm.cons first).trans
          (List.perm_cons_erase (hmem hfirst)).symm
      have hnodup := hperm.nodup_iff.2 (List.Nodup.of_map _ hids)
      apply choice_ne_of_tied hreference hscored hnodup hfirst hsecond hkey
      rw [h _ clock hperm hreference,
        h _ clock ((List.Perm.swap first second _).trans hperm) hreference]
    · intro h other clock' hperm hclock
      apply choice_eq_of_perm hreference hclock hok _ hperm
      intro first hfirst second hsecond hkey
      exact h first hfirst second hsecond ⟨_, _, hok first, hok second, hkey⟩
  · constructor
    · rintro - first - second - ⟨a, -, ha, -⟩
      rw [herror] at ha
      cases ha
    · intro _ other clock' hperm hclock
      rw [resolveFact_eq_error hreference herror, resolveFact_eq_error hclock herror]
      have hempty : pool mode other = [] ↔ pool mode candidates = [] := by
        have hpool := pool_perm hperm mode
        constructor
        · intro hnil
          rw [hnil] at hpool
          exact hpool.nil_eq.symm
        · intro hnil
          rw [hnil] at hpool
          exact hpool.eq_nil
      simp only [hempty]

theorem choice_perm_iff_deadlines :
    (∀ other clock', other.Perm deadlines →
      (∀ i, ({ now := some newYear } : Options).reference (clock' i) = newYear) →
      (resolveFact utcPlatform { now := some newYear } .planning clock' other).map choice =
        (resolveFact utcPlatform { now := some newYear } .planning (fun _ => 0) deadlines).map
          choice) ↔
    ∀ first ∈ pool .planning deadlines, ∀ second ∈ pool .planning deadlines,
      Tied utcPlatform { now := some newYear } newYear first second → first = second :=
  choice_perm_iff utcPlatform { now := some newYear } .planning (fun _ => 0) newYear deadlines
    (fun _ => rfl) (by decide +kernel)

/-- Two unsigned records of one moment: the first one wins. -/
def unsignedDeadlines : List FactCandidate :=
  [deadline 2 "Deadline: May 5" (9 / 10) (1 / 2), deadline 3 "Deadline: May 9" (9 / 10) (1 / 2)]

theorem choice_perm_fails :
    (unsignedDeadlines.map FactCandidate.memoryId).Nodup ∧
    ¬∀ other, other.Perm unsignedDeadlines →
      (resolveFact utcPlatform { now := some newYear } .planning (fun _ => 0) other).map choice =
        (resolveFact utcPlatform { now := some newYear } .planning (fun _ => 0)
          unsignedDeadlines).map choice := by
  refine ⟨by decide +kernel, fun h => ?_⟩
  have heq := congrArg (fun answer => answer.toOption.map (fun chosen => chosen.1))
    (h _ (List.Perm.swap _ _ _))
  revert heq
  decide +kernel

end Order

end FactResolver

end MassClaw
