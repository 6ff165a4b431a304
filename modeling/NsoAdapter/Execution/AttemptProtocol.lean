import NsoAdapter.Execution.Disposition

/-! The execution attempts as a protocol: any owner, current or stale, calls the four
functions in any order while jobs, generations and claims change around them. -/

namespace NsoAdapter.Execution
open Lib Store Projection NsoAdapter.Core

/-- The calls of the attempt store. `world` stands for every other transaction: it leaves
any jobs, generations and claims behind. -/
inductive AttemptCall where
  | prepare (jobId runAttempt : Nat) (claimToken : String) (generationId : Nat)
      (origins : OriginIndex) (logicals : List LogicalRow)
  | record (attemptId jobId runAttempt : Nat) (claimToken : String)
      (classification : Option ErrorClassification) (senderPhase : SenderPhase)
      (commitAcknowledged : Bool)
  | dispose (jobId runAttempt : Nat) (claimToken : Option String) (exitReason : ExitReason)
      (terminalError : Option Json)
  | complete (jobId runAttempt : Nat) (token : String)
      (dispositions : Dict LogicalIdentity RowDisposition)
  | world (db : Database) (claims : List DeviceClaim)

/-- The completions callers make: a row is in sync or its outcome is unavailable. -/
def AttemptCall.certified : AttemptCall → Bool
  | .complete _ _ _ dispositions =>
    dispositions.all fun entry => entry.2 == .inSync || entry.2 == .unavailable
  | _ => true

variable (codec : EvidenceCodec)

def AttemptCall.run : AttemptCall → Runtime → Option Runtime
  | .prepare jobId runAttempt claimToken generationId origins logicals, state =>
    (prepareExecutionAttempt state jobId runAttempt claimToken generationId origins
      logicals).toOption.map (·.1)
  | .record attemptId jobId runAttempt claimToken classification senderPhase acknowledged, state =>
    (recordClassifiedResponse codec.accepts state attemptId jobId runAttempt claimToken
      classification senderPhase acknowledged).toOption
  | .dispose jobId runAttempt claimToken exitReason terminalError, state =>
    (disposeExecutionAttempt codec state jobId runAttempt claimToken exitReason
      terminalError).toOption.map (·.1)
  | .complete jobId runAttempt token dispositions, state =>
    (completeExecutionResult codec state jobId runAttempt token dispositions).toOption.map (·.1)
  | .world db claims, state => some { state with db, claims }

def attemptProtocol : TransitionSystem Runtime AttemptCall where
  initial state := state.attempts = [] ∧ state.outcomes = []
  step := AttemptCall.run codec

variable {codec}

variable {state after : Runtime} {jobId runAttempt : Nat} {attempt : ApplyExecutionAttempt}

variable {generationId attemptId : Nat} {accepts : Codec}
  {classification : Option ErrorClassification} {senderPhase : SenderPhase} {acknowledged : Bool}
  {logical : LogicalRow} {disposition : RowDisposition} {refusals : List Refusal}
  {evidence : DispositionEvidence} {dispositions : Dict LogicalIdentity RowDisposition}
  {result : List (String × Json)}

theorem lockRun_job {token : Option String} {job : Job} {generations : List DeploymentGeneration} {generation : DeploymentGeneration}
    (locked : lockRun state jobId runAttempt token generationId = .ok (job, generations, generation)) : job.id = jobId := by
  unfold lockRun at locked
  split at locked
  · rename_i owner carried found _
    split at locked
    · cases locked
      have owns := List.find?_some found
      simp only [ownership, Bool.and_eq_true, beq_iff_eq] at owns
      exact owns.1.1
    · cases locked
  · cases locked

variable {token : String} {claimToken : Option String} {exitReason : ExitReason}
  {terminalError : Option Json} {disposal : Disposal}

theorem ownedAttempt_eq (owned : ownedAttempt state attemptId jobId runAttempt token = .ok attempt) :
    attempt ∈ state.attempts ∧ attempt.id = attemptId ∧ attempt.phase ≠ .terminal ∧
      attempt.jobId = some jobId ∧ attempt.runAttempt = runAttempt := by
  unfold ownedAttempt at owned
  split at owned
  · cases owned
  rename_i found present
  obtain ⟨⟨job, generations, generation⟩, locked, checked⟩ := bind_eq_ok.mp owned
  dsimp only at checked
  split at checked
  · rename_i holds
    cases checked
    simp only [Bool.and_eq_true, beq_iff_eq, bne_iff_ne] at holds
    exact ⟨List.mem_of_find?_eq_some present, by simpa using List.find?_some present, holds.2,
      holds.1.1.1.1.1.trans (congrArg some (lockRun_job locked)), holds.1.1.1.1.2⟩
  · cases checked

theorem prepareExecutionAttempt_eq {claimToken : String} {origins : OriginIndex} {logicals : List LogicalRow}
    (prepared : prepareExecutionAttempt state jobId runAttempt claimToken generationId origins logicals = .ok (after, attempt)) :
    after = { state with
      attempts := state.attempts ++ [attempt], nextAttemptId := state.nextAttemptId + 1 } ∧
    attempt.id = state.nextAttemptId ∧ attempt.phase = .prepared ∧
    attempt.responseClassification = [] ∧ attempt.commitAcknowledged = false ∧
    (attempt.logicalMembership.map LogicalRow.identity).Nodup ∧
    attempt.jobId = some attempt.jobCorrelationId := by
  obtain ⟨⟨job, generations, generation⟩, _, rest⟩ := bind_eq_ok.mp prepared
  obtain ⟨_, validated, rest⟩ := bind_eq_ok.mp rest
  obtain ⟨tombstoneIds, _, rest⟩ := bind_eq_ok.mp rest
  obtain ⟨_, _, returned⟩ := bind_eq_ok.mp rest
  cases returned
  refine ⟨rfl, rfl, rfl, rfl, rfl, ?_, rfl⟩
  unfold validateLogicalMembership at validated
  split at validated
  · cases validated
  · rename_i distinct
    exact not_not.mp distinct

theorem checkpointOf_acknowledged (classified : checkpointOf accepts classification senderPhase acknowledged = .ok .acknowledged) :
    classification = none ∧ senderPhase = .commit ∧ acknowledged = true := by
  unfold checkpointOf at classified
  split at classified
  case h_2 =>
    obtain ⟨records, _, other⟩ := map_eq_ok.mp classified
    cases other
  case h_7 =>
    split at classified
    · rename_i acked
      exact ⟨rfl, rfl, acked⟩
    · cases classified
  all_goals cases classified

theorem recordClassifiedResponse_eq {claimToken : String}
    (recorded : recordClassifiedResponse accepts state attemptId jobId runAttempt claimToken
      classification senderPhase acknowledged = .ok after) :
    ∃ attempt ∈ state.attempts, attempt.id = attemptId ∧ attempt.phase ≠ .terminal ∧
      attempt.responseClassification.get? (.sender senderPhase) = none ∧
      (senderPhase = .postCommitVerification → attempt.commitAcknowledged = true) ∧
      ∃ checkpoint, checkpointOf accepts classification senderPhase acknowledged = .ok checkpoint ∧
        (acknowledged = true → checkpoint = .acknowledged) ∧
        after = updateAttempt state attemptId fun attempt => { attempt with
          responseClassification :=
            attempt.responseClassification.set (.sender senderPhase) checkpoint
          responsePhase := some senderPhase
          commitAcknowledged := attempt.commitAcknowledged || acknowledged
          phase := .responseRecorded } := by
  obtain ⟨attempt, owned, rest⟩ := bind_eq_ok.mp recorded
  obtain ⟨checkpoint, classified, rest⟩ := bind_eq_ok.mp rest
  obtain ⟨member, named, live, _⟩ := ownedAttempt_eq owned
  split at rest
  · cases rest
  rename_i fresh
  split at rest
  · cases rest
  rename_i consistent
  split at rest
  · cases rest
  rename_i ordered
  cases rest
  refine ⟨attempt, member, named, live, by simpa using fresh, ?_, checkpoint, classified, ?_, rfl⟩
  · simpa using ordered
  · simpa using consistent

theorem stageOutcome_eq {outcome : RowOutcome}
    (staged : stageOutcome codec attempt state logical disposition refusals = .ok (after, outcome)) :
    after = { state with outcomes := state.outcomes ++ [outcome] } ∧
      outcome.executionAttemptId = attempt.id ∧ outcome.identity = logical.identity ∧
      outcome.disposition = disposition := by
  obtain ⟨causes, _, returned⟩ := bind_eq_ok.mp staged
  cases returned
  exact ⟨rfl, rfl, rfl, rfl⟩

/-- The outcomes an ending stages: one for each member, in order. -/
structure Staged (attempt : ApplyExecutionAttempt)
    (dispositionOf : LogicalRow → Except AttemptError (RowDisposition × List Refusal))
    (members : List LogicalRow) (outcomes : List RowOutcome) : Prop where
  identities : outcomes.map (·.identity) = members.map LogicalRow.identity
  attempt : ∀ outcome ∈ outcomes, outcome.executionAttemptId = attempt.id
  disposition : ∀ outcome ∈ outcomes, ∃ logical ∈ members, ∃ refusals,
    dispositionOf logical = .ok (outcome.disposition, refusals)

theorem stageOutcomes_eq {dispositionOf : LogicalRow → Except AttemptError (RowDisposition × List Refusal)} {outcomes : List RowOutcome}
    (staged : stageOutcomes codec attempt dispositionOf state = .ok (after, outcomes)) :
    after = { state with outcomes := state.outcomes ++ outcomes } ∧
      Staged attempt dispositionOf attempt.logicalMembership outcomes := by
  -- The loop appends to what is staged already, so the statement is about any prefix.
  have loop : ∀ (members : List LogicalRow) (before : Runtime) (earlier : List RowOutcome),
      members.foldlM (stageMember codec attempt dispositionOf) (before, earlier) = .ok (after, outcomes) →
      ∃ later, outcomes = earlier ++ later ∧ after = { before with outcomes := before.outcomes ++ later } ∧
        Staged attempt dispositionOf members later := by
    intro members
    induction members with
    | nil =>
      intro before earlier ran
      cases ran
      refine ⟨[], (List.append_nil _).symm, ?_, rfl, ?_, ?_⟩
      · rw [List.append_nil]
      · exact fun outcome member => absurd member List.not_mem_nil
      · exact fun outcome member => absurd member List.not_mem_nil
    | cons logical members ih =>
      intro before earlier ran
      obtain ⟨⟨middle, longer⟩, first, rest⟩ := bind_eq_ok.mp ran
      obtain ⟨⟨disposition, refusals⟩, chosen, first⟩ := bind_eq_ok.mp first
      obtain ⟨⟨added, outcome⟩, stagedOne, returned⟩ := bind_eq_ok.mp first
      cases returned
      obtain ⟨rfl, ofAttempt, named, disposed⟩ := stageOutcome_eq stagedOne
      obtain ⟨later, rfl, rfl, follows⟩ := ih _ _ rest
      refine ⟨outcome :: later, by simp, by simp, ?_, ?_, ?_⟩
      · rw [List.map_cons, List.map_cons, named, follows.identities]
      · intro other member
        rcases List.mem_cons.mp member with rfl | member
        · exact ofAttempt
        · exact follows.attempt other member
      · intro other member
        rcases List.mem_cons.mp member with rfl | member
        · exact ⟨logical, List.mem_cons_self, refusals, disposed ▸ chosen⟩
        · obtain ⟨row, present, found⟩ := follows.disposition other member
          exact ⟨row, List.mem_cons_of_mem _ present, found⟩
  obtain ⟨later, rfl, shape, follows⟩ := loop _ _ _ staged
  exact ⟨shape, follows⟩

theorem recordUndelivered_eq (state : Runtime) (attempt : ApplyExecutionAttempt) (kind : EvidenceKind) (exitReason : ExitReason) :
    recordUndelivered state attempt kind exitReason = state ∨ attempt.responseClassification.get? .delivery = none ∧
        recordUndelivered state attempt kind exitReason =
          updateAttempt state attempt.id fun row => { row with
            responseClassification :=
              row.responseClassification.set .delivery (.undelivered exitReason)
            phase := .responseRecorded } := by
  unfold recordUndelivered
  split
  · rename_i records
    simp only [Bool.and_eq_true, Option.isNone_iff_eq_none] at records
    exact .inr ⟨records.2, rfl⟩
  · exact .inl rfl

structure FailsRun (request : TerminalRequest) (runAttempt : Nat) : Prop where
  status : request.status = .failed
  expect : request.expect = .running
  runAttempt : request.runAttempt = some runAttempt
  setDeviceId : request.setDeviceId = none

theorem settleAttempt_eq (settled : settleAttempt codec state attempt jobId runAttempt claimToken exitReason
      terminalError = .ok (after, disposal)) :
    disposal = .settled ∧ ∃ evidence staged request db write, dispositionEvidence codec attempt = .ok evidence ∧
      Staged attempt (disposedRow codec evidence) attempt.logicalMembership staged ∧
      FailsRun request runAttempt ∧
      terminalize state.db jobId request = .ok (db, some write) ∧
      after = endAttempt { recordUndelivered state attempt evidence.kind exitReason with
        db, outcomes := state.outcomes ++ staged } attempt.id := by
  obtain ⟨generation, _, rest⟩ := bind_eq_ok.mp settled
  obtain ⟨evidence, found, rest⟩ := bind_eq_ok.mp rest
  obtain ⟨⟨middle, staged⟩, stages, rest⟩ := bind_eq_ok.mp rest
  obtain ⟨_, _, rest⟩ := bind_eq_ok.mp rest
  obtain ⟨result, _, rest⟩ := bind_eq_ok.mp rest
  obtain ⟨rfl, follows⟩ := stageOutcomes_eq stages
  have same : (recordUndelivered state attempt evidence.kind exitReason).db = state.db ∧
      (recordUndelivered state attempt evidence.kind exitReason).outcomes = state.outcomes := by
    rcases recordUndelivered_eq state attempt evidence.kind exitReason with kept | ⟨_, kept⟩
    · rw [kept]
      exact ⟨rfl, rfl⟩
    · rw [kept]
      exact ⟨rfl, rfl⟩
  dsimp only at rest
  split at rest
  · cases rest
  · cases rest
  rename_i db write wrote
  cases rest
  rw [same.1] at wrote
  refine ⟨rfl, evidence, staged, _, db, write, found, follows, ⟨rfl, rfl, rfl, rfl⟩, wrote, ?_⟩
  rw [same.2]

theorem disposeExecutionAttempt_cases (disposed : disposeExecutionAttempt codec state jobId runAttempt claimToken exitReason
      terminalError = .ok (after, disposal)) :
    (after = state ∧ (disposal = .noAttempt ∨ disposal = .terminal ∧
      ∃ attempt ∈ state.attempts, attempt.jobCorrelationId = jobId ∧
        attempt.runAttempt = runAttempt ∧ attempt.phase = .terminal)) ∨
    ∃ attempt ∈ state.attempts, attempt.phase ≠ .terminal ∧
      attempt.jobCorrelationId = jobId ∧ attempt.runAttempt = runAttempt ∧
      settleAttempt codec state attempt jobId runAttempt claimToken exitReason terminalError = .ok (after, disposal) := by
  unfold disposeExecutionAttempt at disposed
  split at disposed
  · cases disposed
    exact .inl ⟨rfl, .inl rfl⟩
  · rename_i attempt found
    have member := List.mem_of_find?_eq_some found
    have names := List.find?_some found
    simp only [Bool.and_eq_true, beq_iff_eq] at names
    split at disposed
    · rename_i ended
      cases disposed
      exact .inl ⟨rfl, .inr ⟨rfl, attempt, member, names.1, names.2, ended⟩⟩
    · rename_i live
      exact .inr ⟨attempt, member, live, names.1, names.2, disposed⟩

/-- An attempt ends: it keeps its checkpoints, gains at most the delivery one, and each member gets
an outcome. -/
structure Ends (certified : Prop) (attempt : ApplyExecutionAttempt) (before after : Runtime) :
    Prop where
  member : attempt ∈ before.attempts
  live : attempt.phase ≠ .terminal
  attempts : ∃ update : ApplyExecutionAttempt → ApplyExecutionAttempt,
    after.attempts = updateWhere (fun row => row.id == attempt.id) update before.attempts ∧
    ((∀ row, update row = { row with phase := .terminal }) ∨
      attempt.responseClassification.get? .delivery = none ∧ ∃ reason, ∀ row,
        update row = { row with
          responseClassification := row.responseClassification.set .delivery (.undelivered reason)
          phase := .terminal })
  outcomes : ∃ staged, after.outcomes = before.outcomes ++ staged ∧
    staged.map (·.identity) = attempt.logicalMembership.map LogicalRow.identity ∧
    (∀ outcome ∈ staged, outcome.executionAttemptId = attempt.id) ∧
    (certified → attempt.commitAcknowledged = true → ∀ outcome ∈ staged,
      outcome.disposition = .inSync ∨ outcome.disposition = .unavailable)
  nextAttemptId : after.nextAttemptId = before.nextAttemptId

theorem dispositionEvidence_acknowledged (acknowledged : attempt.commitAcknowledged = true)
    (found : dispositionEvidence codec attempt = .ok evidence) :
    evidence.causes = [] ∧ evidence.kind ≠ .refused ∧ evidence.kind ≠ .rejected := by
  unfold dispositionEvidence at found
  rw [acknowledged] at found
  dsimp only at found
  split at found
  · obtain ⟨records, _, rest⟩ := bind_eq_ok.mp found
    split at rest
    · cases rest
      simp
    · cases rest
      simp
  · cases found
    simp

theorem disposedRow_acknowledged (acknowledged : attempt.commitAcknowledged = true)
    (found : dispositionEvidence codec attempt = .ok evidence)
    (chosen : disposedRow codec evidence logical = .ok (disposition, refusals)) :
    disposition = .unavailable := by
  obtain ⟨none, notRefused, notRejected⟩ := dispositionEvidence_acknowledged acknowledged found
  unfold disposedRow at chosen
  rw [none] at chosen
  obtain ⟨causes, _, rest⟩ := bind_eq_ok.mp chosen
  simp only [Dict.get?_nil, Option.getD_none, List.isEmpty_nil, Bool.not_true, Bool.false_eq_true,
    if_false, beq_eq_false_iff_ne.mpr notRefused, beq_eq_false_iff_ne.mpr notRejected,
    Bool.or_false] at rest
  cases rest
  rfl

theorem settleAttempt_ends (member : attempt ∈ state.attempts) (live : attempt.phase ≠ .terminal)
    (settled : settleAttempt codec state attempt jobId runAttempt claimToken exitReason
      terminalError = .ok (after, disposal)) (certified : Prop) :
    Ends certified attempt state after := by
  obtain ⟨_, evidence, staged, request, db, write, found, follows, _, _, rfl⟩ := settleAttempt_eq settled
  refine ⟨member, live, ?_, ⟨staged, rfl, follows.identities, follows.attempt, ?_⟩, ?_⟩
  · rcases recordUndelivered_eq state attempt evidence.kind exitReason with kept | ⟨fresh, kept⟩
    · rw [kept]
      exact ⟨_, rfl, .inl fun _ => rfl⟩
    · rw [kept]
      exact ⟨_, updateWhere_updateWhere fun row named => named, .inr ⟨fresh, exitReason, fun _ => rfl⟩⟩
  · intro _ acknowledged outcome present
    obtain ⟨logical, _, refusals, chosen⟩ := follows.disposition outcome present
    exact .inr (disposedRow_acknowledged acknowledged found chosen)
  · rcases recordUndelivered_eq state attempt evidence.kind exitReason with kept | ⟨_, kept⟩
    · rw [kept]
      rfl
    · rw [kept]
      rfl

theorem completeExecutionResult_eq
    (completed : completeExecutionResult codec state jobId runAttempt token dispositions = .ok (after, result)) :
    ∃ found ∈ state.attempts, found.jobId = some jobId ∧ found.runAttempt = runAttempt ∧
      ∃ attempt staged, ownedAttempt state found.id jobId runAttempt token = .ok attempt ∧
        Staged attempt (certifiedRow dispositions) attempt.logicalMembership staged ∧
        after = endAttempt { state with outcomes := state.outcomes ++ staged } attempt.id := by
  unfold completeExecutionResult at completed
  split at completed
  · cases completed
  rename_i found present
  have names := List.find?_some present
  simp only [Bool.and_eq_true, beq_iff_eq] at names
  obtain ⟨attempt, owned, rest⟩ := bind_eq_ok.mp completed
  obtain ⟨⟨middle, staged⟩, stages, rest⟩ := bind_eq_ok.mp rest
  obtain ⟨_, _, rest⟩ := bind_eq_ok.mp rest
  obtain ⟨record, _, returned⟩ := bind_eq_ok.mp rest
  cases returned
  obtain ⟨rfl, follows⟩ := stageOutcomes_eq stages
  exact ⟨found, List.mem_of_find?_eq_some present, names.1, names.2, attempt, staged, owned, follows, rfl⟩

theorem completeExecutionResult_ends
    (completed : completeExecutionResult codec state jobId runAttempt token dispositions = .ok (after, result)) :
    ∃ attempt, Ends ((AttemptCall.complete jobId runAttempt token dispositions).certified = true) attempt state after := by
  obtain ⟨found, _, _, _, attempt, staged, owned, follows, rfl⟩ := completeExecutionResult_eq completed
  obtain ⟨member, _, live, _⟩ := ownedAttempt_eq owned
  refine ⟨attempt, member, live, ⟨_, rfl, .inl fun _ => rfl⟩, ⟨staged, rfl, follows.identities, follows.attempt, ?_⟩, rfl⟩
  intro certified _ outcome present
  obtain ⟨logical, _, refusals, chosen⟩ := follows.disposition outcome present
  unfold certifiedRow at chosen
  dsimp only at chosen
  split at chosen
  · cases chosen
  have shape : (dispositions.get? logical.identity).getD .unavailable = outcome.disposition := congrArg Prod.fst (Except.ok.inj chosen)
  rw [← shape]
  cases listed : dispositions.get? logical.identity with
  | none => exact .inr rfl
  | some disposition =>
    have entry := List.all_eq_true.mp certified _ (Dict.mem_of_get? listed)
    simpa using entry

end NsoAdapter.Execution
