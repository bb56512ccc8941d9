import MassClaw.Lib.Interleave
import MassClaw.Lib.Transition
import MassClaw.Safety.PolicyRules

/-!
# The cache of active rules, `safety.PolicyEngine`

Evaluations read the active rules from one key in Redis, and from the table when
the key is not there; then they store what they have read.  A change by
`safety.PolicyEngine` deletes the key before its session commits, one by
`PolicyService` does not delete it at all.  Every call has a session of its own,
and others may run between any two of its awaits.

`evaluations_upToDate` says that the rules of an evaluation are as new as its
start, in runs in which nothing old is cached, or about to be, at a commit.
-/

namespace MassClaw

namespace RuleCache

/-! ## The store and the calls -/

/-- The table with its earlier committed states, and the cached rules. -/
structure RuleStore where
  earlier : List (List PolicyRule) := []
  rows : List PolicyRule
  cached : Option (List ActiveRule) := none

namespace RuleStore

/-- The committed states of the table, the oldest first. -/
def versions (store : RuleStore) : List (List PolicyRule) := store.earlier ++ [store.rows]

/-- A session commits its write. -/
def commit (store : RuleStore) (write : RuleWrite) : RuleStore :=
  { store with earlier := store.versions, rows := write.apply store.rows }

end RuleStore

/-- Where a call of `evaluate` waits: for the cache, for the table, for the cache
to take the rules; and how it ends. -/
inductive EvaluationStage
  | reading
  | querying
  | storing (rules : List ActiveRule)
  | returned (rules : List ActiveRule) (response : PolicyDecisionResponse)
  | raised

/-- A call of `evaluate`, with the number of commits before its start. -/
structure Evaluation where
  action : String
  context : List (String × Json)
  started : Nat
  stage : EvaluationStage := .reading

/-- A call that changes rules, by one of the two services. -/
inductive RuleCall
  | serviceCreate (ruleId : UUID) (data : PolicyRuleCreate)
  | serviceUpdate (ruleId : UUID) (data : PolicyRuleUpdate)
  | serviceToggle (ruleId : UUID)
  | serviceDelete (ruleId : UUID)
  | engineCreate (ruleId : UUID) (data : PolicyRuleCreate)
  | engineUpdate (ruleId : UUID) (data : PolicyRuleUpdate)
  | engineToggle (ruleId : UUID) (enabled : Bool)

namespace RuleCall

/-- What the call leaves to its session. -/
def write (builtins : Builtins) (rows : List PolicyRule) :
    RuleCall → Except RuleError (Option RuleWrite)
  | serviceCreate ruleId data => PolicyService.createRule ruleId data
  | serviceUpdate ruleId data => PolicyService.updateRule rows ruleId data
  | serviceToggle ruleId => PolicyService.toggleRule rows ruleId
  | serviceDelete ruleId => PolicyService.deleteRule rows ruleId
  | engineCreate ruleId data => PolicyEngine.createRule builtins ruleId data
  | engineUpdate ruleId data => PolicyEngine.updateRule builtins rows ruleId data
  | engineToggle ruleId enabled => PolicyEngine.toggleRule rows ruleId enabled

/-- The call deletes the key behind its flush. -/
def invalidates : RuleCall → Bool
  | engineCreate _ _ => true
  | engineUpdate _ _ => true
  | engineToggle _ _ => true
  | _ => false

end RuleCall

/-- Where a change waits: for its flush, for the cache to drop the key, for the
commit of its session; and how it ends. -/
inductive ChangeStage
  | flushing
  | invalidating (write : RuleWrite)
  | committing (write : Option RuleWrite)
  | committed
  | rolledBack

/-- A call that changes rules, with its session. -/
structure Change where
  call : RuleCall
  stage : ChangeStage := .flushing

/-- A call that is on its way. -/
inductive PolicyCall
  | evaluation (evaluation : Evaluation)
  | change (change : Change)

namespace Evaluation

variable (builtins : Builtins)

/-- The evaluation has its rules. -/
def finish (evaluation : Evaluation) (rules : List ActiveRule) : Evaluation :=
  let response := PolicyEngine.evaluateWith builtins evaluation.context rules evaluation.action
  { evaluation with stage := .returned rules response }

/-- The evaluation from one await to the next; `ok` says whether the awaited
operation takes effect.  Errors of the cache are logged and ignored. -/
def advance (store : RuleStore) (evaluation : Evaluation) (ok : Bool) : RuleStore × Evaluation :=
  match evaluation.stage with
  | .reading =>
    match store.cached with
    | some rules =>
      if ok then (store, evaluation.finish builtins rules)
      else (store, { evaluation with stage := .querying })
    | none => (store, { evaluation with stage := .querying })
  | .querying =>
    if ok then (store, { evaluation with stage := .storing (activeRules store.rows) })
    else (store, { evaluation with stage := .raised })
  | .storing rules =>
    if ok then ({ store with cached := some rules }, evaluation.finish builtins rules)
    else (store, evaluation.finish builtins rules)
  | .returned _ _ => (store, evaluation)
  | .raised => (store, evaluation)

end Evaluation

namespace Change

variable (builtins : Builtins)

/-- The change from one await to the next.  A flush or a commit that fails rolls
the session back. -/
def advance (store : RuleStore) (change : Change) (ok : Bool) : RuleStore × Change :=
  match change.stage with
  | .flushing =>
    if ok then
      match change.call.write builtins store.rows with
      | .error _ => (store, { change with stage := .rolledBack })
      | .ok none => (store, { change with stage := .committing none })
      | .ok (some write) =>
        if change.call.invalidates then (store, { change with stage := .invalidating write })
        else (store, { change with stage := .committing (some write) })
    else (store, { change with stage := .rolledBack })
  | .invalidating write =>
    if ok then ({ store with cached := none }, { change with stage := .committing (some write) })
    else (store, { change with stage := .committing (some write) })
  | .committing none => (store, { change with stage := .committed })
  | .committing (some write) =>
    if ok then (store.commit write, { change with stage := .committed })
    else (store, { change with stage := .rolledBack })
  | .committed => (store, change)
  | .rolledBack => (store, change)

end Change

namespace PolicyCall

/-- The call from one await to the next. -/
def advance (builtins : Builtins) (store : RuleStore) (call : PolicyCall) (ok : Bool) :
    RuleStore × PolicyCall :=
  match call with
  | .evaluation reader =>
    ((reader.advance builtins store ok).1, .evaluation (reader.advance builtins store ok).2)
  | .change writer =>
    ((writer.advance builtins store ok).1, .change (writer.advance builtins store ok).2)

end PolicyCall

/-- The store and the calls. -/
abbrev Services := Interleave.Config RuleStore PolicyCall

/-- Something that happens: a call begins, the key expires, a call goes on. -/
inductive RuleEvent
  | evaluate (action : String) (context : List (String × Json))
  | change (call : RuleCall)
  | expire
  | resume (index : Nat) (ok : Bool)

namespace RuleEvent

/-- The services after the event. -/
def run (builtins : Builtins) (services : Services) : RuleEvent → Services
  | evaluate action context =>
    services.spawn (.evaluation { action, context, started := services.shared.earlier.length })
  | change call => services.spawn (.change { call })
  | expire => services.update (fun store => { store with cached := none })
  | resume index ok => services.advance (PolicyCall.advance builtins) index ok

end RuleEvent

/-- Nothing is cached, and no call is on its way. -/
def idle (rows : List PolicyRule) : Services := { shared := { rows }, processes := [] }

/-! ## What should hold, and when -/

/-- The rules are the active ones of a committed state of the table, from the
given number of commits on. -/
def Served (store : RuleStore) (started : Nat) (rules : List ActiveRule) : Prop :=
  ∃ version rows, started ≤ version ∧ store.versions[version]? = some rows ∧
    rules = activeRules rows

/-- Every evaluation that has returned used rules that are as new as its start. -/
def UpToDate (services : Services) : Prop :=
  ∀ evaluation, .evaluation evaluation ∈ services.processes → ∀ rules response,
    evaluation.stage = .returned rules response → Served services.shared evaluation.started rules

/-- A commit finds nothing cached, and nothing that an evaluation is about to
cache, but the rules that are active behind it. -/
def CommitsClean (step : Services × RuleEvent) : Prop :=
  ∀ index change write, step.2 = .resume index true →
    step.1.processes[index]? = some (.change change) → change.stage = .committing (some write) →
      (∀ rules, step.1.shared.cached = some rules →
        rules = activeRules (write.apply step.1.shared.rows)) ∧
      ∀ evaluation rules, .evaluation evaluation ∈ step.1.processes →
        evaluation.stage = .storing rules → rules = activeRules (write.apply step.1.shared.rows)

/-! ## The rules that are served -/

variable {builtins : Builtins} {store : RuleStore} {rules : List ActiveRule} {started : Nat}

theorem RuleStore.versions_commit (store : RuleStore) (write : RuleWrite) :
    (store.commit write).versions = store.versions ++ [write.apply store.rows] := rfl

theorem RuleStore.length_earlier_commit (store : RuleStore) (write : RuleWrite) :
    (store.commit write).earlier.length = store.earlier.length + 1 :=
  List.length_append

/-- The rules that are active now are new enough for every call that has begun. -/
theorem Served.current (h : started ≤ store.earlier.length) :
    Served store started (activeRules store.rows) :=
  ⟨store.earlier.length, store.rows, h, List.getElem?_concat_length, rfl⟩

/-- What has been served remains so. -/
theorem Served.commit (h : Served store started rules) (write : RuleWrite) :
    Served (store.commit write) started rules := by
  obtain ⟨version, rows, hversion, hrows, hrules⟩ := h
  refine ⟨version, rows, hversion, ?_, hrules⟩
  rw [RuleStore.versions_commit]
  have hlt : version < store.versions.length := (List.getElem?_eq_some_iff.1 hrows).1
  rw [List.getElem?_append_left hlt]
  exact hrows

/-- What is cached is active. -/
def CacheFresh (store : RuleStore) : Prop :=
  ∀ rules, store.cached = some rules → rules = activeRules store.rows

/-- What an evaluation is about to cache is active, and what it has used was
active at its start or later. -/
def ReaderFresh (store : RuleStore) : PolicyCall → Prop
  | .evaluation reader =>
    reader.started ≤ store.earlier.length ∧
    match reader.stage with
    | .storing rules => rules = activeRules store.rows
    | .returned rules _ => Served store reader.started rules
    | _ => True
  | .change _ => True

/-- The assertions read nothing but the table. -/
theorem ReaderFresh.of_cached {call : PolicyCall} (h : ReaderFresh store call)
    (cached : Option (List ActiveRule)) : ReaderFresh { store with cached := cached } call := h

/-- An evaluation keeps the cache fresh, and leaves the table alone. -/
theorem Evaluation.fresh_advance (builtins : Builtins) {reader : Evaluation} (hcache : CacheFresh store)
    (hreader : ReaderFresh store (.evaluation reader)) (ok : Bool) :
    CacheFresh (reader.advance builtins store ok).1 ∧
      ReaderFresh store (.evaluation (reader.advance builtins store ok).2) ∧
        ∃ cached, (reader.advance builtins store ok).1 = { store with cached := cached } := by
  obtain ⟨hstarted, hstage⟩ := hreader
  unfold Evaluation.advance
  cases hreader : reader.stage with
  | reading =>
    cases hcached : store.cached with
    | none => exact ⟨hcache, ⟨hstarted, trivial⟩, store.cached, rfl⟩
    | some rules =>
      cases ok with
      | false => exact ⟨hcache, ⟨hstarted, trivial⟩, store.cached, rfl⟩
      | true =>
        refine ⟨hcache, ⟨hstarted, ?_⟩, store.cached, rfl⟩
        show Served store reader.started rules
        rw [hcache rules hcached]
        exact Served.current hstarted
  | querying =>
    cases ok with
    | false => exact ⟨hcache, ⟨hstarted, trivial⟩, store.cached, rfl⟩
    | true => exact ⟨hcache, ⟨hstarted, rfl⟩, store.cached, rfl⟩
  | storing rules =>
    rw [hreader] at hstage
    have hserved : Served store reader.started rules := by
      rw [show rules = activeRules store.rows from hstage]
      exact Served.current hstarted
    cases ok with
    | false => exact ⟨hcache, ⟨hstarted, hserved⟩, store.cached, rfl⟩
    | true =>
      refine ⟨?_, ⟨hstarted, hserved⟩, some rules, rfl⟩
      intro other hother
      cases hother
      exact hstage
  | returned rules response =>
    refine ⟨hcache, ⟨hstarted, ?_⟩, store.cached, rfl⟩
    exact hstage
  | raised =>
    refine ⟨hcache, ⟨hstarted, ?_⟩, store.cached, rfl⟩
    exact hstage

/-- A change leaves the store alone but for the key that it deletes and the
write that it commits. -/
theorem Change.store_advance (writer : Change) (builtins : Builtins) (store : RuleStore)
    (ok : Bool) :
    (writer.advance builtins store ok).1 = store ∨
      (writer.advance builtins store ok).1 = { store with cached := none } ∨
        ∃ write, ok = true ∧ writer.stage = .committing (some write) ∧
          (writer.advance builtins store ok).1 = store.commit write := by
  unfold Change.advance
  cases hstage : writer.stage with
  | flushing =>
    left
    cases ok with
    | false => rfl
    | true =>
      cases writer.call.write builtins store.rows with
      | error error => rfl
      | ok write =>
        cases write with
        | none => rfl
        | some write => cases writer.call.invalidates <;> rfl
  | invalidating write =>
    cases ok with
    | false => exact Or.inl rfl
    | true => exact Or.inr (Or.inl rfl)
  | committing write =>
    cases write with
    | none => exact Or.inl rfl
    | some write =>
      cases ok with
      | false => exact Or.inl rfl
      | true => exact Or.inr (Or.inr ⟨write, rfl, rfl, rfl⟩)
  | committed => exact Or.inl rfl
  | rolledBack => exact Or.inl rfl

/-! ## Whole runs -/

/-- The cache and every evaluation are fresh. -/
abbrev Fresh (services : Services) : Prop := services.Holds CacheFresh ReaderFresh

theorem fresh_idle (rows : List PolicyRule) : Fresh (idle rows) where
  shared := by
    intro rules h
    cases h
  processes := by
    intro call h
    cases h

theorem Fresh.upToDate {services : Services} (h : Fresh services) : UpToDate services := by
  intro reader hreader rules response hstage
  have hfresh := (h.processes _ hreader).2
  rw [hstage] at hfresh
  exact hfresh

/-- A clean event keeps everything fresh. -/
theorem Fresh.run {services : Services} (h : Fresh services) {event : RuleEvent}
    (hclean : CommitsClean (services, event)) : Fresh (event.run builtins services) := by
  cases event with
  | evaluate action context => exact h.spawn ⟨Nat.le_refl _, trivial⟩
  | change call => exact h.spawn trivial
  | expire =>
    show Fresh (services.update (fun store => { store with cached := none }))
    refine h.update ?_ (fun call hcall => hcall.of_cached none)
    intro _ rules hrules
    cases hrules
  | resume index ok =>
    refine h.advance ?_
    intro call hcall hcache hown
    cases call with
    | evaluation reader =>
      obtain ⟨hcache', hown', cached, hstore⟩ :=
        Evaluation.fresh_advance builtins hcache hown ok
      refine ⟨hcache', ?_, ?_⟩
      · show ReaderFresh (reader.advance builtins services.shared ok).1 _
        rw [hstore]
        exact hown'.of_cached cached
      · intro other _ hother
        show ReaderFresh (reader.advance builtins services.shared ok).1 other
        rw [hstore]
        exact hother.of_cached cached
    | change writer =>
      show CacheFresh (writer.advance builtins services.shared ok).1 ∧ True ∧
        ∀ other ∈ services.processes, ReaderFresh services.shared other →
          ReaderFresh (writer.advance builtins services.shared ok).1 other
      rcases writer.store_advance builtins services.shared ok with
        hstore | hstore | ⟨write, hok, hstage, hstore⟩
      · rw [hstore]
        exact ⟨hcache, trivial, fun other _ hother => hother⟩
      · rw [hstore]
        refine ⟨?_, trivial, fun other _ hother => hother.of_cached none⟩
        intro rules hrules
        cases hrules
      · rw [hstore]
        subst hok
        obtain ⟨hcached, hstoring⟩ := hclean index writer write rfl hcall hstage
        refine ⟨hcached, trivial, ?_⟩
        intro other hmem hother
        cases other with
        | change other => exact trivial
        | evaluation reader =>
          obtain ⟨hstarted, hreader⟩ := hother
          refine ⟨?_, ?_⟩
          · rw [RuleStore.length_earlier_commit]
            omega
          · cases hother : reader.stage with
            | storing rules => exact hstoring reader rules hmem hother
            | returned rules response =>
              rw [hother] at hreader
              exact Served.commit hreader write
            | reading => exact trivial
            | querying => exact trivial
            | raised => exact trivial

/-- When every commit of a run is clean, every evaluation of it uses rules that
are as new as its start. -/
theorem evaluations_upToDate (builtins : Builtins) (rows : List PolicyRule)
    (events : List RuleEvent)
    (hclean : ∀ step ∈ Transition.steps (RuleEvent.run builtins) (idle rows) events,
      CommitsClean step) :
    UpToDate (Transition.after (RuleEvent.run builtins) (idle rows) events) := by
  have hfresh : Fresh (Transition.after (RuleEvent.run builtins) (idle rows) events) :=
    Transition.after_invariant (fun _ _ hstep h => Fresh.run h hstep) hclean (fresh_idle rows)
  exact hfresh.upToDate

/-! ## The other commits -/

/-- An evaluation that has begun after the last commit and uses other rules than
the active ones is stale. -/
theorem not_upToDate {services : Services} {reader : Evaluation}
    {response : PolicyDecisionResponse} (hreader : .evaluation reader ∈ services.processes)
    (hstage : reader.stage = .returned rules response)
    (hstarted : services.shared.earlier.length ≤ reader.started)
    (hstale : rules ≠ activeRules services.shared.rows) : ¬UpToDate services := by
  intro h
  obtain ⟨version, rows, hversion, hrows, hrules⟩ := h reader hreader rules response hstage
  have hlt : version < services.shared.versions.length := (List.getElem?_eq_some_iff.1 hrows).1
  have hlength : services.shared.versions.length = services.shared.earlier.length + 1 :=
    List.length_append
  have hlast : version = services.shared.earlier.length := by omega
  have hcurrent : services.shared.versions[version]? = some services.shared.rows := by
    rw [hlast]
    exact List.getElem?_concat_length
  rw [hcurrent] at hrows
  cases hrows
  exact hstale hrules

/-- When something else than the active rules is cached, an evaluation that begins
now uses it. -/
theorem stale_of_cached {services : Services} (action : String) (context : List (String × Json))
    (hcached : services.shared.cached = some rules)
    (hstale : rules ≠ activeRules services.shared.rows) :
    ¬UpToDate (Transition.after (RuleEvent.run builtins) services
      [.evaluate action context, .resume services.processes.length true]) := by
  let reader : Evaluation := { action, context, started := services.shared.earlier.length }
  let begun : Services := services.spawn (.evaluation reader)
  have hreader : begun.processes[services.processes.length]? = some (.evaluation reader) := by
    rw [Interleave.Config.getElem?_spawn, if_pos rfl]
  have hadvance : reader.advance builtins services.shared true =
      (services.shared, reader.finish builtins rules) := by
    simp only [Evaluation.advance, reader, hcached, if_true]
  show ¬UpToDate (begun.advance (PolicyCall.advance builtins) services.processes.length true)
  have hshared : (begun.advance (PolicyCall.advance builtins) services.processes.length true).shared =
      services.shared := by
    rw [Interleave.Config.shared_advance hreader]
    exact congrArg Prod.fst hadvance
  have hfinished : .evaluation (reader.finish builtins rules) ∈
      (begun.advance (PolicyCall.advance builtins) services.processes.length true).processes := by
    apply List.mem_of_getElem? (i := services.processes.length)
    rw [Interleave.Config.getElem?_advance hreader, if_pos rfl]
    show some (PolicyCall.evaluation (reader.advance builtins services.shared true).2) = _
    rw [hadvance]
  refine not_upToDate hfinished rfl ?_ ?_
  · rw [hshared]
    exact Nat.le_refl _
  · rw [hshared]
    exact hstale

/-- Behind every other commit some evaluation can be stale. -/
theorem stale_of_unclean {services : Services} {event : RuleEvent}
    (hunclean : ¬CommitsClean (services, event)) :
    ∃ later, ¬UpToDate (Transition.after (RuleEvent.run builtins) services (event :: later)) := by
  unfold CommitsClean at hunclean
  push Not at hunclean
  obtain ⟨index, writer, write, hevent, hwriter, hstage, hunclean⟩ := hunclean
  dsimp only at hevent hwriter
  rw [hevent]
  have hadvance : writer.advance builtins services.shared true =
      (services.shared.commit write, { writer with stage := .committed }) := by
    simp only [Change.advance, hstage, if_true]
  let committed : Services := services.advance (PolicyCall.advance builtins) index true
  have hshared : committed.shared = services.shared.commit write := by
    rw [Interleave.Config.shared_advance hwriter]
    exact congrArg Prod.fst hadvance
  by_cases hcached : ∀ rules, services.shared.cached = some rules →
      rules = activeRules (write.apply services.shared.rows)
  · -- an evaluation is about to store other rules
    obtain ⟨reader, rules, hreader, hstoring, hstale⟩ := hunclean hcached
    obtain ⟨other, hother⟩ := List.getElem?_of_mem hreader
    have hne : other ≠ index := by
      intro heq
      rw [heq, hwriter] at hother
      cases hother
    have hother' : committed.processes[other]? = some (.evaluation reader) := by
      rw [Interleave.Config.getElem?_advance hwriter, if_neg hne]
      exact hother
    have hstored : (reader.advance builtins committed.shared true).1 =
        { services.shared.commit write with cached := some rules } := by
      simp only [Evaluation.advance, hstoring, hshared, if_true]
    let refilled : Services := committed.advance (PolicyCall.advance builtins) other true
    have hrefilled : refilled.shared =
        { services.shared.commit write with cached := some rules } := by
      rw [Interleave.Config.shared_advance hother']
      exact hstored
    refine ⟨.resume other true :: [.evaluate "" [], .resume refilled.processes.length true], ?_⟩
    show ¬UpToDate (Transition.after (RuleEvent.run builtins) refilled _)
    refine stale_of_cached "" [] (?_ : _ = some rules) ?_
    · rw [hrefilled]
    · rw [hrefilled]
      exact hstale
  · -- other rules are cached
    push Not at hcached
    obtain ⟨rules, hrules, hstale⟩ := hcached
    refine ⟨[.evaluate "" [], .resume committed.processes.length true], ?_⟩
    show ¬UpToDate (Transition.after (RuleEvent.run builtins) committed _)
    refine stale_of_cached "" [] (?_ : _ = some rules) ?_
    · rw [hshared]
      exact hrules
    · rw [hshared]
      exact hstale

namespace RuleCacheExample

open Conditions.ConditionExample

/-- A rule that is off. -/
def off : PolicyRule where
  ruleId := UUID.ofNat 1
  name := "no guests"
  description := none
  ruleType := .access
  condition := .dict costly
  action := .deny
  priority := 1
  enabled := false

/-- The services after the events, from a table with that rule. -/
def after (events : List RuleEvent) : Services :=
  Transition.after (RuleEvent.run plain) (idle [off]) events

/-- The service switches the rule on while the active rules are cached. -/
def uncleared : List RuleEvent :=
  [.evaluate "access" [], .resume 0 true, .resume 0 true, .resume 0 true,
    .change (.serviceToggle off.ruleId), .resume 1 true, .resume 1 true,
    .evaluate "access" [], .resume 2 true]

/-- The engine switches it on, and an evaluation fills the cache between the
deletion of the key and the commit. -/
def refilled : List RuleEvent :=
  [.change (.engineToggle off.ruleId true), .resume 0 true, .resume 0 true,
    .evaluate "access" [], .resume 1 true, .resume 1 true, .resume 1 true, .resume 0 true,
    .evaluate "access" [], .resume 2 true]

/-- The engine switches it on, and an evaluation stores what it has read before. -/
def overtaken : List RuleEvent :=
  [.evaluate "access" [], .resume 0 true, .resume 0 true,
    .change (.engineToggle off.ruleId true), .resume 1 true, .resume 1 true, .resume 1 true,
    .resume 0 true, .evaluate "access" [], .resume 2 true]

/-- The engine switches it on, and an evaluation follows. -/
def cleared : List RuleEvent :=
  [.change (.engineToggle off.ruleId true), .resume 0 true, .resume 0 true, .resume 0 true,
    .evaluate "access" [], .resume 1 true, .resume 1 true, .resume 1 true]

end RuleCacheExample

open RuleCacheExample in
theorem evaluations_upToDate_fails :
    ¬UpToDate (RuleCacheExample.after uncleared) ∧ ¬UpToDate (RuleCacheExample.after refilled) ∧
      ¬UpToDate (RuleCacheExample.after overtaken) := by
  have hstale : ∀ events reader response,
      (RuleCacheExample.after events).processes[2]? = some (.evaluation reader) →
      reader.stage = .returned [] response →
      (RuleCacheExample.after events).shared.earlier.length ≤ reader.started →
      activeRules (RuleCacheExample.after events).shared.rows ≠ [] →
      ¬UpToDate (RuleCacheExample.after events) := by
    intro events reader response hreader hstage hstarted hactive
    exact not_upToDate (List.mem_of_getElem? hreader) hstage hstarted (Ne.symm hactive)
  refine ⟨?_, ?_, ?_⟩
  all_goals exact hstale _ _ _ rfl rfl (by decide) nofun

open RuleCacheExample in
theorem evaluations_upToDate_cleared :
    UpToDate (Transition.after (RuleEvent.run Conditions.ConditionExample.plain)
      (idle [RuleCacheExample.off]) cleared) := by
  apply evaluations_upToDate
  intro step hstep index writer write hevent hwriter hstage
  simp only [Transition.steps, cleared, List.mem_cons, List.not_mem_nil, or_false] at hstep
  rcases hstep with rfl | rfl | rfl | rfl | rfl | rfl | rfl | rfl
  · cases hevent
  · cases hevent
    cases hwriter
    cases hstage
  · cases hevent
    cases hwriter
    cases hstage
  · -- the commit: the key is gone, and no evaluation has begun
    constructor
    · intro rules hrules
      cases hrules
    · intro reader rules hreader
      cases hreader with
      | tail _ h => cases h
  · cases hevent
  all_goals
    cases hevent
    cases hwriter

end RuleCache

end MassClaw
