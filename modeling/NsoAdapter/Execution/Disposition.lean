import NsoAdapter.Execution.Attempt
import NsoAdapter.Projection.Compose

/-! How an attempt ends (`store/execution_attempt_store.py`): a disposition infers the
outcomes from the checkpoints a run left behind, a completion stages certified ones. -/

namespace NsoAdapter.Execution
open Lib Store Projection NsoAdapter.Core StaticRoute

inductive EvidenceKind where
  | attributionFailed | refused | postCommitUnavailable | rejected | unavailable
  deriving DecidableEq

def EvidenceKind.code : EvidenceKind → String
  | .attributionFailed => "attribution_failed"
  | .refused => "refused"
  | .postCommitUnavailable => "post_commit_unavailable"
  | .rejected => "rejected"
  | .unavailable => "unavailable"

structure DispositionEvidence where
  kind : EvidenceKind
  causes : Dict String (List Refusal)
  records : List Json

/-- What the attempt store computes by hashing and by the codec of the refusal catalog. -/
structure EvidenceCodec where
  accepts : Codec
  contentDigest : Json → String
  fingerprint : Row → String

variable (codec : EvidenceCodec)

/-- The causes of one attributed refusal, under the digest of each row it names. -/
def addCauses (causes : Dict String (List Refusal)) (site : AttributedRefusal) : Dict String (List Refusal) :=
  site.logicalRows.foldl (fun causes logical =>
    let key := codec.contentDigest (.obj logical.publicRecord)
    causes.set key ((causes.get? key).getD [] ++ [site.refusal])) causes

def dispositionEvidence (attempt : ApplyExecutionAttempt) : Except AttemptError DispositionEvidence :=
  let phase : SenderPhase :=
    if (attempt.responseClassification.get? (.sender .commit)).isSome then .commit
    else .preCommitDryRun
  match attempt.commitAcknowledged, attempt.responseClassification.get? (.sender phase) with
  | false, some (.refused payload) => do
      let records ← catalogRecords codec.accepts payload
      match resolveRefusals records attempt.safeOrigins with
      | .error _ => pure ⟨.attributionFailed, [], []⟩
      | .ok attributed =>
        pure ⟨.refused, attributed.foldl (addCauses codec) [],
          attributedCatalogRecords attributed phase.name⟩
  | true, _ =>
    match attempt.responseClassification.get? (.sender .postCommitVerification) with
    | some (.refused payload) => do
        let records ← catalogRecords codec.accepts payload
        match resolveRefusals records attempt.safeOrigins with
        | .error _ => pure ⟨.attributionFailed, [], []⟩
        | .ok attributed =>
          pure ⟨.postCommitUnavailable, [],
            attributedCatalogRecords attributed SenderPhase.postCommitVerification.name⟩
    | _ => pure ⟨.postCommitUnavailable, [], []⟩
  | false, some .rejected => pure ⟨.rejected, [], []⟩
  | false, _ => pure ⟨.unavailable, [], []⟩

/-- The checks `_stage_outcome` and the outcome table make on a row's causes. -/
def outcomeCauses (attempt : ApplyExecutionAttempt) (state : Runtime) (logical : LogicalRow)
    (disposition : RowDisposition) (refusals : List Refusal) :
    Except AttemptError (List Refusal) :=
  if !attempt.logicalMembership.contains logical then
    .error (.invalid "Row outcome is outside attempted logical membership")
  else
    match catalogRecords codec.accepts refusals with
    | .error refused => .error refused
    | .ok causes =>
      if !causes.all fun cause => attempt.safeOrigins.bindings.any fun origin =>
          origin.1 == ⟨cause.family, cause.row, cause.field⟩ &&
            origin.2.logicalRows.contains logical then
        .error (.invalid "Refusal site does not belong to this logical outcome")
      else if state.outcomes.any fun outcome =>
          outcome.executionAttemptId == attempt.id && outcome.identity == logical.identity then
        .error (.integrity "uq_row_outcome_logical_identity")
      else if (disposition == .refused) == causes.isEmpty then
        .error (.integrity "ck_row_outcome_refusals")
      else
        .ok causes

def stageOutcome (attempt : ApplyExecutionAttempt) (state : Runtime) (logical : LogicalRow)
    (disposition : RowDisposition) (refusals : List Refusal) :
    Except AttemptError (Runtime × RowOutcome) := do
  let causes ← outcomeCauses codec attempt state logical disposition refusals
  let outcome : RowOutcome :=
    { executionAttemptId := attempt.id, identity := logical.identity
      sourceIdentity := logical.sourceRefs, logicalIdentity := logical.publicRecord
      carrierIdentity := logical.carrier.publicRecord, disposition, refusals := causes }
  pure ({ state with outcomes := state.outcomes ++ [outcome] }, outcome)

/-- One member of the loop that both endings share. -/
def stageMember (attempt : ApplyExecutionAttempt)
    (dispositionOf : LogicalRow → Except AttemptError (RowDisposition × List Refusal))
    (before : Runtime × List RowOutcome) (logical : LogicalRow) :
    Except AttemptError (Runtime × List RowOutcome) := do
  let (disposition, refusals) ← dispositionOf logical
  let (state, outcome) ← stageOutcome codec attempt before.1 logical disposition refusals
  return (state, before.2 ++ [outcome])

def stageOutcomes (attempt : ApplyExecutionAttempt)
    (dispositionOf : LogicalRow → Except AttemptError (RowDisposition × List Refusal))
    (state : Runtime) : Except AttemptError (Runtime × List RowOutcome) :=
  attempt.logicalMembership.foldlM (stageMember codec attempt dispositionOf) (state, [])

/-- The check of `_restore_attempt_bookkeeping`. -/
def restorable (attempt : ApplyExecutionAttempt) (state : Runtime) : Except AttemptError Unit :=
  let staged := (state.outcomes.filter fun outcome =>
    outcome.executionAttemptId == attempt.id).map (·.identity)
  let members := attempt.logicalMembership.map LogicalRow.identity
  if staged.all members.contains && members.all staged.contains then
    .ok ()
  else
    .error (.invalid "Restoration requires the complete staged logical outcome set")

structure OutcomeCounts where
  inSync : Nat
  applyFailed : Nat
  notApplied : Nat
  unavailable : Nat

def OutcomeCounts.zero : OutcomeCounts := ⟨0, 0, 0, 0⟩

/-- A refused carrier counts as `apply_failed`. -/
def OutcomeCounts.add (counts : OutcomeCounts) : RowDisposition → OutcomeCounts
  | .inSync => { counts with inSync := counts.inSync + 1 }
  | .refused => { counts with applyFailed := counts.applyFailed + 1 }
  | .notApplied => { counts with notApplied := counts.notApplied + 1 }
  | .unavailable => { counts with unavailable := counts.unavailable + 1 }

def OutcomeCounts.record (counts : OutcomeCounts) : Json :=
  .obj [("in_sync", .num counts.inSync), ("apply_failed", .num counts.applyFailed),
    ("not_applied", .num counts.notApplied), ("unavailable", .num counts.unavailable)]

def RowDisposition.priority : RowDisposition → Nat
  | .inSync => 0
  | .notApplied => 1
  | .unavailable => 2
  | .refused => 3

def worstDisposition : List RowDisposition → Option RowDisposition
  | [] => none
  | first :: rest => some (rest.foldl (fun worst disposition =>
    if worst.priority < disposition.priority then disposition else worst) first)

def carrierResults (attemptedCarriers : List SettlementOwner) (outcomes : List RowOutcome) :
    Except AttemptError (List Json × Dict String OutcomeCounts) :=
  attemptedCarriers.foldlM (fun (carriers, counts) carrier =>
    match worstDisposition ((outcomes.filter fun outcome =>
        outcome.carrierIdentity == carrier.publicRecord).map (·.disposition)) with
    | none => .error (.invalid "An attempted carrier requires logical outcomes")
    | some disposition =>
      let key := streamResultKey carrier.stream ++ "_count_by_outcome"
      .ok (carriers ++ [.obj (carrier.publicRecord ++
          [("disposition", .str disposition.name)])],
        counts.set key (((counts.get? key).getD .zero).add disposition)))
    ([], DocumentSection.all.flatMap fun (part : DocumentSection) =>
      (resultKeys part).map fun key => (key ++ "_count_by_outcome", .zero))

def outcomeResult (attemptedCarriers : List SettlementOwner) (outcomes : List RowOutcome)
    (refusals : List Json) (commitAcknowledged : Bool) :
    Except AttemptError (List (String × Json)) := do
  let (carriers, counts) ← carrierResults attemptedCarriers outcomes
  pure (counts.map (fun entry => (entry.1, entry.2.record)) ++
    [("row_outcomes", .arr (outcomes.map fun outcome => .obj (outcome.logicalIdentity ++
        [("disposition", .str outcome.disposition.name),
          ("refusals", .arr (outcome.refusals.map fun refusal => .obj refusal.members))]))),
      ("refusals", .arr refusals), ("settlement_owners", .arr carriers),
      ("commit_acknowledged", .bool commitAcknowledged)])

/-- The outcome that names a static-route row; a later one wins. -/
def routeOutcome (outcomes : List RowOutcome) (rowId : Nat) : Option RowOutcome :=
  outcomes.reverse.find? fun outcome => outcome.sourceIdentity.any fun source =>
    source.sourceTable == "static_route_intent" && source.frozenRowIdentity.head? == some rowId

def routeOutcomeResults (generation : DeploymentGeneration) (outcomes : List RowOutcome)
    (error : Option Json) : List Json :=
  let rows := match generation.document.lookup .staticRoute with
    | none => []
    | some body => body.tables.rows .staticRouteIntent
  rows.filterMap fun row => (routeOutcome outcomes (idOf row)).map fun outcome =>
    .obj [("route_id", row.get "route_id"), ("row_id", .num (idOf row)),
      ("key", tripleJson (tripleOf row)), ("fingerprint", .str (codec.fingerprint row)),
      ("generation", row.get "intent_generation"),
      ("outcome", .str (match outcome.disposition with
        | .refused | .notApplied => "apply_failed"
        | _ => "unproven")),
      ("error", match outcome.disposition with
        | .refused => .obj [("code", .str "refused"),
            ("message", .str "The device refused this route"),
            ("detail", .obj [("refusals",
              .arr (outcome.refusals.map fun refusal => .obj refusal.members))])]
        | .notApplied => error.getD .null
        | _ => .null)]

def disposedRow (evidence : DispositionEvidence) (logical : LogicalRow) :
    Except AttemptError (RowDisposition × List Refusal) := do
  let causes := (evidence.causes.get? (codec.contentDigest (.obj logical.publicRecord))).getD []
  let refusals ← catalogRecords codec.accepts causes
  if !causes.isEmpty then
    pure (.refused, refusals)
  else if evidence.kind == .refused || evidence.kind == .rejected then
    pure (.notApplied, refusals)
  else
    pure (.unavailable, refusals)

def disposedError (kind : EvidenceKind) (exitReason : ExitReason) (terminalError : Option Json) : Json :=
  if kind = .attributionFailed then
    .obj [("code", .str "attribution_failed"), ("message", .str "Refusal attribution failed"),
      ("detail", .obj [])]
  else
    match terminalError.filter Json.truthy with
    | some error => error
    | none => .obj [("code", .str kind.code), ("message", .str exitReason.message),
        ("detail", .obj [])]

/-- The checkpoint a disposition leaves where the run never learned what was delivered. -/
def recordUndelivered (state : Runtime) (attempt : ApplyExecutionAttempt) (kind : EvidenceKind)
    (exitReason : ExitReason) : Runtime :=
  if (kind == .unavailable || kind == .attributionFailed) &&
      (attempt.responseClassification.get? .delivery).isNone then
    updateAttempt state attempt.id fun attempt => { attempt with
      responseClassification :=
        attempt.responseClassification.set .delivery (.undelivered exitReason)
      phase := .responseRecorded }
  else
    state

def endAttempt (state : Runtime) (attemptId : Nat) : Runtime :=
  updateAttempt state attemptId fun attempt => { attempt with phase := .terminal }

inductive Disposal where
  | noAttempt | terminal | settled
  deriving DecidableEq

def lockSettlement (state : Runtime) (attempt : ApplyExecutionAttempt) (jobId runAttempt : Nat)
    (claimToken : Option String) : Except AttemptError DeploymentGeneration := do
  let (_, generations, generation) ←
    lockRun state jobId runAttempt claimToken attempt.generationId
  if attempt.jobId == some jobId && claimToken.all (· == attempt.claimToken) &&
      attempt.documentDigest == generation.digest &&
      attempt.generationAuthorities == generations.map authorityOf then
    pure generation
  else
    throw (.ownershipLost "Execution attempt no longer owns this settlement")

/-- The half of `dispose_execution_attempt` that ends a live attempt. -/
def settleAttempt (state : Runtime) (attempt : ApplyExecutionAttempt) (jobId runAttempt : Nat)
    (claimToken : Option String) (exitReason : ExitReason) (terminalError : Option Json) :
    Except AttemptError (Runtime × Disposal) := do
  let generation ← lockSettlement state attempt jobId runAttempt claimToken
  let evidence ← dispositionEvidence codec attempt
  let (staged, outcomes) ← stageOutcomes codec attempt (disposedRow codec evidence)
    (recordUndelivered state attempt evidence.kind exitReason)
  restorable attempt staged
  let result ← outcomeResult attempt.attemptedCarriers outcomes evidence.records
    attempt.commitAcknowledged
  let error := disposedError evidence.kind exitReason terminalError
  let routes := routeOutcomeResults codec generation outcomes (some error)
  match terminalize staged.db jobId
      { status := .failed, expect := .running, runAttempt := some runAttempt
        result := some (.obj (if routes.isEmpty then result
          else result ++ [("static_route_results", .arr routes)]))
        error := some error, setDeviceId := none
        generationOutcome := some (if evidence.kind == .refused || evidence.kind == .rejected
          then .failed else .outcomeUnknown) } with
  | .error refused => throw (.core refused)
  | .ok (_, none) => throw (.ownershipLost "Execution attempt terminal ownership was lost")
  | .ok (db, some _) => pure (endAttempt { staged with db } attempt.id, .settled)

def disposeExecutionAttempt (state : Runtime) (jobId runAttempt : Nat)
    (claimToken : Option String) (exitReason : ExitReason) (terminalError : Option Json) :
    Except AttemptError (Runtime × Disposal) :=
  match state.attempts.find? (fun attempt =>
      attempt.jobCorrelationId == jobId && attempt.runAttempt == runAttempt) with
  | none => .ok (state, .noAttempt)
  | some attempt =>
    if attempt.phase = .terminal then
      .ok (state, .terminal)
    else
      settleAttempt codec state attempt jobId runAttempt claimToken exitReason terminalError

def certifiedRow (dispositions : Dict LogicalIdentity RowDisposition) (logical : LogicalRow) :
    Except AttemptError (RowDisposition × List Refusal) :=
  let disposition := (dispositions.get? logical.identity).getD .unavailable
  if disposition = .refused then
    .error (.invalid "Completion requires a certified logical disposition")
  else
    .ok (disposition, [])

/-- `complete_execution_result`. The caller writes the job's terminal status in the same
transaction. -/
def completeExecutionResult (state : Runtime) (jobId runAttempt : Nat) (token : String)
    (dispositions : Dict LogicalIdentity RowDisposition) :
    Except AttemptError (Runtime × List (String × Json)) :=
  match state.attempts.find? (fun attempt =>
      attempt.jobId == some jobId && attempt.runAttempt == runAttempt) with
  | none => .error (.invalid "Terminal execution requires its prepared attempt")
  | some found => do
      let attempt ← ownedAttempt state found.id jobId runAttempt token
      let (staged, outcomes) ← stageOutcomes codec attempt (certifiedRow dispositions) state
      restorable attempt staged
      let result ← outcomeResult attempt.attemptedCarriers outcomes [] attempt.commitAcknowledged
      pure (endAttempt staged attempt.id, result)

end NsoAdapter.Execution
