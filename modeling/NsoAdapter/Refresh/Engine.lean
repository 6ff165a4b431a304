import NsoAdapter.Refresh.Registry

/-! The refresh engine: `_apply_outcome` and `_materialize_guarded` as they run in a session,
with other refreshes and re-keys in between. The mirror rows, the terminal row and the pointer
of a refresh are written in one transaction under the family's fence. -/

namespace NsoAdapter.Refresh
open Lib

/-- What a refresh left in the outcome store: a terminal attempt, or the write failed. -/
inductive Recording where
  | terminal (attemptId : Nat)
  | failed

/-- How `_apply_outcome` returns or raises. -/
inductive RefreshEnd where
  | published (attemptId : Nat)
  | superseded (attemptId : Nat)
  | kept (recording : Recording)
  | raised (recording : Recording)

/-- Where a refresh stands. `superseding` tells whether the staged loss is inside the guarded
span, `reporting` whether an exception is to be raised again. -/
inductive Phase where
  | recorded (attemptId : Option Nat)
  | fenced (attemptId : Nat)
  | publishing (attemptId : Nat)
  | superseding (attemptId : Nat) (guarded : Bool)
  | failing (attemptId : Nat)
  | recovering
  | reporting (attemptId : Nat) (raises : Bool)
  | finished (refreshEnd : RefreshEnd)

/-- A refresh in its session; `raised` records that its guarded span met an exception. -/
structure RefreshRun where
  family : ReadFamily
  outcome : ReadOutcome
  sourceEpoch : Nat
  phase : Phase
  raised : Bool

/-- What the family's extractor, materializer and observer did: rows, their count and the
observation, or an exception after some rows were written. -/
inductive Materialized where
  | wrote (rows : List Json) (rowCount : Option Nat) (observation : Option ObservationDocument)
  | raised (rows : List Json)

/-- The registry and the refreshes in flight; as history, the rows that were materialized for
each attempt. -/
structure Engine where
  registry : Registry
  refreshes : Nat → Option RefreshRun
  materialized : ReadFamily → Nat → Option (List Json)

/-- `stored`, `acquired` and `durable` say whether the database took the statement. -/
inductive EngineEvent where
  | start (session : Nat) (family : ReadFamily) (outcome : ReadOutcome) (sourceEpoch : Nat)
      (stored : Bool)
  | fence (session : Nat) (acquired : Bool)
  | publish (session : Nat) (materialized : Materialized) (lost : Bool)
  | report (session : Nat) (stored : Bool)
  | recover (session : Nat) (stored : Bool)
  | commit (session : Nat) (durable : Bool)
  | rekey (nsoInstance nsoDeviceName : Option String)

def supersededRequest : StageRequest := ⟨.superseded, true, none, some false, none⟩

def errorRequest : StageRequest := ⟨.error, false, none, none, none⟩

def keptRequest (succeeded : Bool) : StageRequest := ⟨.kept, succeeded, none, none, none⟩

/-- `NONFAILING_KEEP_REASONS`. -/
def UnavailableReason.nonfailing : UnavailableReason → Bool
  | .notAuthoritative | .unsupported | .notCovered => true
  | .exportDown | .readError | .notReady => false

def ReadOutcome.publishedResult : ReadOutcome → RefreshResult
  | .absentAuthoritative => .cleared
  | _ => .replaced

/-- Whether `stage_result` would return true. -/
def Registry.selects (registry : Registry) (session attemptId : Nat) (request : StageRequest) : Bool :=
  match registry.store.seen (registry.transaction session).writes attemptId with
  | none => false
  | some row =>
    (stageResult registry.store.epoch
      (registry.store.view (registry.transaction session).writes row.family) row
      request).toOption.any (·.selected)

def RefreshEnd.reported (raises : Bool) : Recording → RefreshEnd :=
  if raises then .raised else .kept

namespace Engine

def advance (engine : Engine) (session : Nat) (registry : Registry) (refresh : RefreshRun) : Engine :=
  { engine with registry, refreshes := Function.update engine.refreshes session (some refresh) }

def abandon (engine : Engine) (session : Nat) (refresh : RefreshRun) (finish : RefreshEnd) : Engine :=
  engine.advance session (engine.registry.close session) { refresh with phase := .finished finish }

/-- `_record_read` in a session of its own; a failed write is rolled back. -/
def start (engine : Engine) (session : Nat) (family : ReadFamily) (outcome : ReadOutcome)
    (sourceEpoch : Nat) (stored : Bool) : Option Engine :=
  match engine.refreshes session with
  | some _ => none
  | none =>
    if stored then
      (engine.registry.recordRead session family outcome (some sourceEpoch)).map fun registry =>
        engine.advance session registry
          ⟨family, outcome, sourceEpoch, .recorded (some engine.registry.nextAttempt), false⟩
    else
      some (engine.advance session (engine.registry.close session)
        ⟨family, outcome, sourceEpoch, .recorded none, false⟩)

/-- The guarded span takes the family's fence; without an attempt it raises. -/
def fence (engine : Engine) (session : Nat) (refresh : RefreshRun) (attemptId : Option Nat)
    (acquired : Bool) : Option Engine :=
  match refresh.outcome, attemptId with
  | .unavailable _, _ => none
  | _, none => some (engine.abandon session refresh (.raised .failed))
  | _, some attemptId =>
    if acquired then
      (engine.registry.acquireFence session refresh.family).map fun registry =>
        engine.advance session registry { refresh with phase := .fenced attemptId }
    else
      some (engine.abandon session refresh (.raised .failed))

/-- An exception in the savepoint: only the materializer's own writes are discarded. -/
def discard (engine : Engine) (session : Nat) (refresh : RefreshRun) (attemptId : Nat)
    (written : Registry) : Option Engine :=
  (written.rollbackNested session).map fun registry =>
    engine.advance session registry { refresh with phase := .failing attemptId, raised := true }

/-- The savepoint of `_materialize_guarded`. -/
def materialize (engine : Engine) (session : Nat) (refresh : RefreshRun) (attemptId : Nat)
    (written : Registry) (rows : List Json) (request : StageRequest) (lost : Bool) : Option Engine :=
  match written.stage session attemptId request with
  | none => engine.discard session refresh attemptId written
  | some staged =>
    if lost || !written.selects session attemptId request then
      ((staged.rollbackNested session).bind fun registry =>
        registry.stage session attemptId supersededRequest).map fun registry =>
          engine.advance session registry { refresh with phase := .superseding attemptId true }
    else
      some { engine.advance session staged { refresh with phase := .publishing attemptId } with
        materialized := Function.update engine.materialized refresh.family
          (Function.update (engine.materialized refresh.family) attemptId (some rows)) }

/-- `_materialize_guarded` up to its commit. -/
def publish (engine : Engine) (session : Nat) (refresh : RefreshRun) (attemptId : Nat)
    (materialized : Materialized) (lost : Bool) : Option Engine :=
  (engine.registry.store.seen (engine.registry.transaction session).writes attemptId).bind fun row =>
    if publicationIsCurrent engine.registry.store.epoch
        (engine.registry.store.view (engine.registry.transaction session).writes refresh.family)
        row then
      (engine.registry.beginNested session).bind fun nested =>
        match materialized with
        | .raised rows =>
          (nested.materialize session refresh.family rows).bind fun written =>
            engine.discard session refresh attemptId written
        | .wrote rows rowCount observation =>
          (nested.materialize session refresh.family rows).bind fun written =>
            engine.materialize session refresh attemptId written rows
              ⟨refresh.outcome.publishedResult, true, rowCount, some true, observation⟩ lost
    else
      (engine.registry.stage session attemptId supersededRequest).map fun registry =>
        engine.advance session registry { refresh with phase := .superseding attemptId false }

/-- `_record_result` up to its commit; a failure of the store is swallowed. -/
def reportResult (engine : Engine) (session : Nat) (refresh : RefreshRun) (attemptId : Nat)
    (request : StageRequest) (raises stored : Bool) : Option Engine :=
  if stored then
    ((engine.registry.acquireFence session refresh.family).bind fun registry =>
      registry.stage session attemptId request).map fun registry =>
        engine.advance session registry { refresh with phase := .reporting attemptId raises }
  else
    some (engine.abandon session refresh (.reported raises .failed))

def report (engine : Engine) (session : Nat) (refresh : RefreshRun) (stored : Bool) : Option Engine :=
  match refresh.phase, refresh.outcome with
  | .failing attemptId, _ =>
    engine.reportResult session refresh attemptId errorRequest true stored
  | .recorded none, .unavailable _ => some (engine.abandon session refresh (.kept .failed))
  | .recorded (some attemptId), .unavailable reason =>
    engine.reportResult session refresh attemptId (keptRequest reason.nonfailing) false stored
  | _, _ => none

/-- The flushed attempt died with the transaction: a fresh one is recorded. -/
def recover (engine : Engine) (session : Nat) (refresh : RefreshRun) (stored : Bool) : Option Engine :=
  if stored then
    (engine.registry.recordRead session refresh.family refresh.outcome
      (some refresh.sourceEpoch)).map fun registry =>
        engine.advance session registry
          { refresh with phase := .failing engine.registry.nextAttempt }
  else
    some (engine.abandon session refresh (.raised .failed))

def commit (engine : Engine) (session : Nat) (refresh : RefreshRun) (durable : Bool) : Option Engine :=
  let lost := engine.advance session (engine.registry.close session)
    { refresh with phase := .recovering, raised := true }
  let done := fun finish => engine.advance session (engine.registry.commit session)
    { refresh with phase := .finished finish }
  match refresh.phase with
  | .publishing attemptId => some (if durable then done (.published attemptId) else lost)
  | .superseding attemptId guarded =>
    some (if durable then done (.superseded attemptId)
      else if guarded then lost
      else engine.abandon session refresh (.raised .failed))
  | .reporting attemptId raises =>
    some (if durable then done (.reported raises (.terminal attemptId))
      else engine.abandon session refresh (.reported raises .failed))
  | _ => none

def step : EngineEvent → Engine → Option Engine
  | .start session family outcome sourceEpoch stored, engine =>
    engine.start session family outcome sourceEpoch stored
  | .fence session acquired, engine =>
    (engine.refreshes session).bind fun refresh =>
      match refresh.phase with
      | .recorded attemptId => engine.fence session refresh attemptId acquired
      | _ => none
  | .publish session materialized lost, engine =>
    (engine.refreshes session).bind fun refresh =>
      match refresh.phase with
      | .fenced attemptId => engine.publish session refresh attemptId materialized lost
      | _ => none
  | .report session stored, engine =>
    (engine.refreshes session).bind fun refresh => engine.report session refresh stored
  | .recover session stored, engine =>
    (engine.refreshes session).bind fun refresh =>
      match refresh.phase with
      | .recovering => engine.recover session refresh stored
      | _ => none
  | .commit session durable, engine =>
    (engine.refreshes session).bind fun refresh => engine.commit session refresh durable
  | .rekey nsoInstance nsoDeviceName, engine =>
    (engine.registry.rekey nsoInstance nsoDeviceName).map fun registry => { engine with registry }

def fresh (identity : String × String) : Engine :=
  ⟨.fresh identity, fun _ => none, fun _ _ => none⟩

end Engine

/-- Any interleaving of engine refreshes, of their failures and of re-keys. -/
def engineSystem : TransitionSystem Engine EngineEvent where
  initial engine := ∃ identity, engine = .fresh identity
  step := Engine.step

end NsoAdapter.Refresh
