import NsoAdapter.Core.JobHistory
import NsoAdapter.Execution.AttemptHistory
import NsoAdapter.Execution.Claim

/-! Terminal writes over every interleaving of the transactions on a device's jobs: who may
end a run, and in which order the ends are sequenced. -/

namespace NsoAdapter.Execution
open Lib Store Projection NsoAdapter.Core

inductive RuntimeEvent where
  | operation (operation : Operation)
  | terminalizeRunning (reads : RequeueReads) (jobId : Nat) (status : JobStatus)
      (error : Option Json) (expectedAttempt : Option Nat)
  | acquire (deviceId : Nat) (purpose : ClaimPurpose) (jobId : Option Nat) (token : String)
      (now : Nat)
  | release (reg : ClaimRegistration)
  | heartbeat (reg : ClaimRegistration) (now : Nat)
  | startUnderClaim (deviceId : Nat) (reg : ClaimRegistration) (expectedJobId : Option Nat)
  | prepare (jobId runAttempt : Nat) (claimToken : String) (generationId : Nat)
      (origins : OriginIndex) (logicals : List LogicalRow)
  | record (attemptId jobId runAttempt : Nat) (claimToken : String)
      (classification : Option ErrorClassification) (senderPhase : SenderPhase)
      (commitAcknowledged : Bool)
  | dispose (jobId runAttempt : Nat) (claimToken : Option String) (exitReason : ExitReason)
      (terminalError : Option Json)
  | completeRun (jobId runAttempt : Nat) (token : String)
      (dispositions : Dict LogicalIdentity RowDisposition) (status : JobStatus)
      (error : Option Json)
  | markFailedAndRelease (jobId : Nat) (code message : String) (reg : ClaimRegistration)
  | disposeCancelled (jobId : Nat) (jobType : JobType) (reg : ClaimRegistration)
      (exitReason : ExitReason) (reads : RequeueReads)
  | revokeStaleClaims (cutoff : Nat) (observed : DeviceClaim → Option (JobType × Nat))
      (reads : RequeueReads)
  | requeueOrphan (jobId : Nat) (jobType : JobType) (runAttempt : Nat) (reads : RequeueReads)

variable (digestDocument : DocumentDigest) (codec : EvidenceCodec)

/-- Every claim whose heartbeat has gone silent, in one transaction. -/
def revokeStaleClaims (state : Runtime) (cutoff : Nat)
    (observed : DeviceClaim → Option (JobType × Nat)) (reads : RequeueReads) :
    Except AttemptError Runtime :=
  (state.claims.filter fun claim => claim.heartbeatAt < cutoff).foldlM
    (fun state claim => revokeClaim codec state claim (observed claim) reads) state

def RuntimeEvent.run : RuntimeEvent → Runtime → Option Runtime
  | .operation chosen, state =>
    (chosen.run digestDocument state.db).map fun db => { state with db }
  | .terminalizeRunning reads jobId status error expectedAttempt, state =>
    (terminalizeRunningAfter reads state.db jobId status error expectedAttempt).toOption.map
      fun db => { state with db }
  | .acquire deviceId purpose jobId token now, state =>
    some (acquireClaim state deviceId purpose jobId token now).1
  | .release reg, state => some (releaseClaim state reg).1
  | .heartbeat reg now, state => some (Execution.heartbeat state reg now)
  | .startUnderClaim deviceId reg expectedJobId, state =>
    (Execution.startUnderClaim state deviceId reg expectedJobId).map (·.1)
  | .prepare jobId runAttempt claimToken generationId origins logicals, state =>
    (prepareExecutionAttempt state jobId runAttempt claimToken generationId origins
      logicals).toOption.map (·.1)
  | .record attemptId jobId runAttempt claimToken classification senderPhase acknowledged, state =>
    (recordClassifiedResponse codec.accepts state attemptId jobId runAttempt claimToken
      classification senderPhase acknowledged).toOption
  | .dispose jobId runAttempt claimToken exitReason terminalError, state =>
    (disposeExecutionAttempt codec state jobId runAttempt claimToken exitReason
      terminalError).toOption.map (·.1)
  | .completeRun jobId runAttempt token dispositions status error, state =>
    (Execution.completeRun codec state jobId runAttempt token dispositions status error).toOption
  | .markFailedAndRelease jobId code message reg, state =>
    some (Execution.markFailedAndRelease codec state jobId code message reg).1
  | .disposeCancelled jobId jobType reg exitReason reads, state =>
    some (Execution.disposeCancelled codec state jobId jobType reg exitReason reads).1
  | .revokeStaleClaims cutoff observed reads, state =>
    (Execution.revokeStaleClaims codec state cutoff observed reads).toOption
  | .requeueOrphan jobId jobType runAttempt reads, state =>
    (Execution.requeueOrphan codec state jobId jobType runAttempt reads).toOption

/-- The runtime from a store with no job. -/
def runtimeSystem : TransitionSystem Runtime RuntimeEvent where
  initial state := state.db.jobs = [] ∧ state.db.generations = [] ∧ state.claims = [] ∧
    state.attempts = [] ∧ state.outcomes = []
  step := RuntimeEvent.run digestDocument codec

variable {digestDocument codec}

/-- The run of a job that a write names is current: the job is in the expected status at
that attempt. -/
def Owned (db : Database) (jobId : Nat) (expect : JobStatus) (attempt : Nat) : Prop :=
  ∃ job ∈ db.jobs, job.id = jobId ∧ job.status = expect ∧ job.runAttempt = attempt

variable {db : Database} {jobId attempt runAttempt : Nat} {status : JobStatus} {error : Option Json}
  {reads : RequeueReads} {state after : Runtime}

theorem owned_of_ownership {expect : JobStatus} {job : Job} (member : job ∈ db.jobs)
    (owns : ownership jobId expect (some attempt) job = true) :
    Owned db jobId expect attempt := by
  simp only [ownership, Bool.and_eq_true, beq_iff_eq] at owns
  exact ⟨job, member, owns.1.1, owns.1.2, owns.2⟩

variable {request : TerminalRequest} {token : Option String} {reg : ClaimRegistration}
  {claim : DeviceClaim} {observed : Option (JobType × Nat)}

theorem terminalize_owned {after : Database} {write : Option TerminalWrite} (named : request.runAttempt = some attempt)
    (written : terminalize db jobId request = .ok (after, write)) :
    (after = db ∧ write = none) ∨ Owned db jobId request.expect attempt := by
  obtain ⟨_, ⟨missed, kept, _⟩ | ⟨owned, member, owns, _⟩⟩ := terminalize_cases written
  · exact .inl ⟨kept, missed⟩
  · rw [named] at owns
    exact .inr (owned_of_ownership member owns)

variable {expectedAttempt : Option Nat} {outcome : Option GenerationStatus}
  {claimToken : Option String} {exitReason : ExitReason} {terminalError : Option Json}
  {disposal : Disposal}

theorem endRunning_cases {after : Database} (ended : endRunning db jobId status error expectedAttempt outcome = .ok after) :
    ∃ request : TerminalRequest, request.expect = .running ∧
      request.runAttempt = expectedAttempt ∧ request.setDeviceId = none ∧
      ∃ write, terminalize db jobId request = .ok (after, write) := by
  obtain ⟨⟨settled, write⟩, written, rfl⟩ := map_eq_ok.mp ended
  exact ⟨_, rfl, rfl, rfl, write, written⟩

theorem endRunning_owned {after : Database} (ended : endRunning db jobId status error (some attempt) outcome = .ok after) :
    after = db ∨ Owned db jobId .running attempt := by
  obtain ⟨request, expect, named, _, write, written⟩ := endRunning_cases ended
  rcases terminalize_owned named written with ⟨kept, _⟩ | owned
  · exact .inl kept
  · exact .inr (expect ▸ owned)

theorem requeueRunning_owned : (requeueRunning db jobId error (some attempt)).1 = db ∨ Owned db jobId .running attempt := by
  unfold requeueRunning
  split
  · rename_i found
    obtain ⟨job, member, owns⟩ := List.any_eq_true.mp found
    exact .inr (owned_of_ownership member owns)
  · exact .inl rfl

theorem terminalizeRunningAfter_owned {after : Database}
    (ended : terminalizeRunningAfter reads db jobId status error (some attempt) = .ok after) :
    after = db ∨ Owned db jobId .running attempt := by
  unfold terminalizeRunningAfter at ended
  split at ended
  · exact endRunning_owned ended
  · split at ended
    · exact endRunning_owned ended
    · cases ended
      exact requeueRunning_owned
  · exact endRunning_owned ended
  · exact endRunning_owned ended

theorem lockRun_owned {generationId : Nat} {locked : Job × List DeploymentGeneration × DeploymentGeneration}
    (held : lockRun state jobId runAttempt token generationId = .ok locked) :
    Owned state.db jobId .running runAttempt := by
  unfold lockRun at held
  split at held
  · rename_i job generation found _
    exact owned_of_ownership (List.mem_of_find?_eq_some found) (List.find?_some found)
  · cases held

theorem settleAttempt_owned {attempt : ApplyExecutionAttempt}
    (settled : settleAttempt codec state attempt jobId runAttempt claimToken exitReason
      terminalError = .ok (after, disposal)) : Owned state.db jobId .running runAttempt := by
  obtain ⟨generation, locked, _⟩ := bind_eq_ok.mp settled
  obtain ⟨held, run, _⟩ := bind_eq_ok.mp locked
  exact lockRun_owned run

theorem disposeExecutionAttempt_owned (disposed : disposeExecutionAttempt codec state jobId runAttempt claimToken exitReason
      terminalError = .ok (after, disposal)) :
    after = state ∨ Owned state.db jobId .running runAttempt := by
  rcases disposeExecutionAttempt_cases disposed with ⟨kept, _⟩ | ⟨attempt, _, _, _, _, settled⟩
  · exact .inl kept
  · exact .inr (settleAttempt_owned settled)

theorem endRunAndRelease_owned (named : reg.runAttempt = some attempt) (reason : ExitReason)
    (status : JobStatus) (error : Option Json) (reads : RequeueReads) :
    (endRunAndRelease codec state jobId reg reason status error reads).1.db = state.db ∨
      Owned state.db jobId .running attempt := by
  unfold endRunAndRelease
  split
  · exact .inl rfl
  cases disposed : disposeRun codec state jobId reg reason none with
  | error refused => exact .inl rfl
  | ok result =>
    obtain ⟨after, handled⟩ := result
    have owned : after = state ∨ Owned state.db jobId .running attempt := by
      unfold disposeRun at disposed
      rw [named] at disposed
      split at disposed
      · cases disposed
      · obtain ⟨⟨kept, disposal⟩, ran, shape⟩ := map_eq_ok.mp disposed
        cases shape
        exact disposeExecutionAttempt_owned ran
    rcases owned with rfl | owned
    · cases handled with
      | true => exact .inl rfl
      | false =>
        dsimp only
        split
        · exact .inl rfl
        · rename_i db ended
          rw [named] at ended
          exact terminalizeRunningAfter_owned ended
    · exact .inr owned

/-- A transaction of the runtime moves the job rows, and nothing else of them. -/
def Moved (before after : Runtime) : Prop :=
  NumberedJobs before.db → JobMoves before.db after.db

theorem Moved.of_db {before : Runtime} (db : after.db = before.db) : Moved before after := fun _ => db ▸ .refl _

theorem endRunning_moves {after : Database} (numbered : NumberedJobs db)
    (ended : endRunning db jobId status error expectedAttempt outcome = .ok after) :
    JobMoves db after := by
  obtain ⟨request, expect, _, _, write, written⟩ := endRunning_cases ended
  exact .terminalize numbered (by rw [expect]; rfl) written

theorem terminalizeRunningAfter_moves {after : Database} (numbered : NumberedJobs db)
    (ended : terminalizeRunningAfter reads db jobId status error expectedAttempt = .ok after) :
    JobMoves db after := by
  unfold terminalizeRunningAfter at ended
  split at ended
  · exact endRunning_moves numbered ended
  · split at ended
    · exact endRunning_moves numbered ended
    · cases ended
      exact .requeueRunning numbered jobId error expectedAttempt
  · exact endRunning_moves numbered ended
  · exact endRunning_moves numbered ended

theorem disposeExecutionAttempt_moved (disposed : disposeExecutionAttempt codec state jobId runAttempt claimToken exitReason
      terminalError = .ok (after, disposal)) : Moved state after := by
  intro numbered
  rcases disposeExecutionAttempt_cases disposed with ⟨rfl, _⟩ | ⟨attempt, _, _, _, _, settled⟩
  · exact .refl _
  · obtain ⟨_, evidence, staged, request, db, write, _, _, fails, written, rfl⟩ := settleAttempt_eq settled
    exact .terminalize numbered (by rw [fails.expect]; rfl) written

theorem redispose_moved {jobType : JobType} {reason : ExitReason} {message : String}
    (redisposed : redispose codec state jobId jobType runAttempt token reason message reads = .ok after) : Moved state after := by
  intro numbered
  unfold redispose at redisposed
  split at redisposed
  · split at redisposed
    · cases redisposed
    · rename_i db failed
      cases redisposed
      exact endRunning_moves numbered failed
  · cases redisposed
  · rename_i disposed ran
    have first := disposeExecutionAttempt_moved ran numbered
    split at redisposed
    · cases redisposed
    · rename_i db ended
      cases redisposed
      exact first.trans (terminalizeRunningAfter_moves (numbered.moves first) ended)
  · rename_i ran
    cases redisposed
    exact disposeExecutionAttempt_moved ran numbered

theorem redisposeClaimed_moved (redisposed : redisposeClaimed codec state claim observed reads = .ok after) : Moved state after := by
  unfold redisposeClaimed at redisposed
  split at redisposed
  · exact redispose_moved redisposed
  · cases redisposed
    exact .of_db rfl

theorem revokeClaim_moved (revoked : revokeClaim codec state claim observed reads = .ok after) : Moved state after := by
  obtain ⟨middle, redisposed, returned⟩ := bind_eq_ok.mp revoked
  cases returned
  have moved := redisposeClaimed_moved redisposed
  exact fun numbered => moved numbered

theorem revokeStaleClaims_moved {cutoff : Nat} {observed : DeviceClaim → Option (JobType × Nat)}
    (revoked : revokeStaleClaims codec state cutoff observed reads = .ok after) :
    Moved state after := by
  intro numbered
  refine foldlM_ok (fun reached => JobMoves state.db reached.db) ?_ (.refl _) revoked
  intro before claim middle _ moved step
  exact moved.trans (revokeClaim_moved step (numbered.moves moved))

theorem endRunAndRelease_moved (reason : ExitReason) (status : JobStatus) (error : Option Json) (reads : RequeueReads) :
    Moved state (endRunAndRelease codec state jobId reg reason status error reads).1 := by
  intro numbered
  unfold endRunAndRelease
  split
  · exact .refl _
  cases disposed : disposeRun codec state jobId reg reason none with
  | error refused => exact .refl _
  | ok result =>
    obtain ⟨after, handled⟩ := result
    have moved : JobMoves state.db after.db := by
      unfold disposeRun at disposed
      split at disposed
      · cases disposed
      split at disposed
      · cases disposed
        exact .refl _
      · obtain ⟨⟨kept, disposal⟩, ran, shape⟩ := map_eq_ok.mp disposed
        cases shape
        exact disposeExecutionAttempt_moved ran numbered
    cases handled with
    | true => exact moved
    | false =>
      dsimp only
      split
      · exact .refl _
      · rename_i db ended
        exact moved.trans (terminalizeRunningAfter_moves (numbered.moves moved) ended)

theorem completeRun_moved {token : String} {dispositions : Dict LogicalIdentity RowDisposition}
    (completed : completeRun codec state jobId runAttempt token dispositions status error = .ok after) : Moved state after := by
  intro numbered
  obtain ⟨⟨middle, result⟩, ended, rest⟩ := bind_eq_ok.mp completed
  obtain ⟨found, _, _, _, attempt, staged, _, _, rfl⟩ := completeExecutionResult_eq ended
  dsimp only at rest
  split at rest
  · cases rest
  · cases rest
  · rename_i db write written
    cases rest
    exact .terminalize numbered rfl written

theorem RuntimeEvent.run_moved {event : RuntimeEvent} (ran : event.run digestDocument codec state = some after) : Moved state after := by
  cases event with
  | operation chosen =>
    obtain ⟨db, step, rfl⟩ := Option.map_eq_some_iff.mp ran
    exact fun numbered => Operation.run_jobMoves numbered step
  | terminalizeRunning reads jobId status error expectedAttempt =>
    obtain ⟨db, step, rfl⟩ := Option.map_eq_some_iff.mp ran
    exact fun numbered => terminalizeRunningAfter_moves numbered (toOption_eq_some.mp step)
  | acquire deviceId purpose jobId token now =>
    cases ran
    refine .of_db ?_
    unfold acquireClaim
    split <;> rfl
  | release reg =>
    cases ran
    refine .of_db ?_
    unfold releaseClaim
    split
    · rfl
    · split <;> rfl
  | heartbeat reg now =>
    cases ran
    exact .of_db rfl
  | startUnderClaim deviceId reg expectedJobId =>
    obtain ⟨⟨started, registered⟩, step, rfl⟩ := Option.map_eq_some_iff.mp ran
    unfold Execution.startUnderClaim at step
    split at step
    · obtain ⟨⟨db, job⟩, start, shape⟩ := Option.map_eq_some_iff.mp step
      cases shape
      exact fun _ => (JobMoves.startHeadUnderClaim start).1
    · cases step
  | prepare jobId runAttempt claimToken generationId origins logicals =>
    obtain ⟨⟨_, attempt⟩, prepared, rfl⟩ := Option.map_eq_some_iff.mp ran
    obtain ⟨rfl, _⟩ := prepareExecutionAttempt_eq (toOption_eq_some.mp prepared)
    exact .of_db rfl
  | record attemptId jobId runAttempt claimToken classification senderPhase acknowledged =>
    obtain ⟨attempt, _, _, _, _, _, checkpoint, _, _, rfl⟩ := recordClassifiedResponse_eq (toOption_eq_some.mp ran)
    exact .of_db rfl
  | dispose jobId runAttempt claimToken exitReason terminalError =>
    obtain ⟨⟨_, disposal⟩, disposed, rfl⟩ := Option.map_eq_some_iff.mp ran
    exact disposeExecutionAttempt_moved (toOption_eq_some.mp disposed)
  | completeRun jobId runAttempt token dispositions status error =>
    exact completeRun_moved (toOption_eq_some.mp ran)
  | markFailedAndRelease | disposeCancelled =>
    cases ran
    exact endRunAndRelease_moved _ _ _ _
  | revokeStaleClaims cutoff observed reads =>
    exact revokeStaleClaims_moved (toOption_eq_some.mp ran)
  | requeueOrphan jobId jobType runAttempt reads =>
    exact redispose_moved (toOption_eq_some.mp ran)

theorem Sequenced.reachable (reached : (runtimeSystem digestDocument codec).Reachable state) : Sequenced state.db := by
  have initially : ∀ start, (runtimeSystem digestDocument codec).initial start → Sequenced start.db := fun _ starts => .empty starts.1
  refine reached.invariant initially fun _ _ _ sequenced stepped => ?_
  exact sequenced.moves (RuntimeEvent.run_moved stepped sequenced.toNumberedJobs)

theorem Advanced.steps {later : Runtime} (sequenced : Sequenced state.db) (taken : (runtimeSystem digestDocument codec).Steps state later) :
    Sequenced later.db ∧ Advanced state.db later.db := by
  induction taken with
  | refl => exact ⟨sequenced, .refl _⟩
  | tail _ last ih =>
    obtain ⟨event, stepped⟩ := last
    have moves := RuntimeEvent.run_moved stepped ih.1.toNumberedJobs
    have next := ih.1.moves moves
    exact ⟨next, ih.2.trans (moves.advanced ih.1.toNumberedJobs) next.toNumberedJobs⟩

theorem terminalize_sequenced {after : Database} {deviceId : Nat} {write : TerminalWrite}
    (written : terminalize db jobId request = .ok (after, some write))
    (bound : write.deviceId = some deviceId) :
    write.settleSeq = some (db.lastSettleSeq deviceId + 1) ∧
      after.lastSettleSeq = Function.update db.lastSettleSeq deviceId (db.lastSettleSeq deviceId + 1) ∧
      ∃ job ∈ after.jobs, job.id = jobId ∧ job.settleSeq = write.settleSeq := by
  obtain ⟨_, ⟨missed, _⟩ | ⟨owned, member, owns, settled, settles, landed⟩⟩ := terminalize_cases written
  · cases missed
  obtain ⟨jobs, _, counter⟩ := JobMoves.settleJobGenerations settles
  have seq : settled.lastSettleSeq = db.lastSettleSeq := counter
  have named := owns
  simp only [ownership, Bool.and_eq_true, beq_iff_eq] at named
  rcases landed with ⟨_, _, shape⟩ | ⟨device, _, rfl, shape⟩
  · cases shape
    cases bound
  · cases shape
    cases bound
    refine ⟨by rw [seq], by unfold allocateSettleSeq updateJobs; dsimp only; rw [seq], ?_⟩
    have written : landedRow request none owned ∈ settled.jobs := jobs ▸ mem_updateWhere.mpr ⟨owned, member, if_pos owns⟩
    exact ⟨_, mem_updateWhere.mpr ⟨_, written, rfl⟩, by simp [landedRow, named.1.1]⟩

/-- In every reachable state, whatever runs next: a terminal job keeps its status, a write that
names an attempt needs the job in the expected status at it, and landed writes take the device's
sequence numbers in order. -/
theorem terminal_writes_owned_and_ordered {state : Runtime} (reached : (runtimeSystem digestDocument codec).Reachable state) :
    (∀ later, (runtimeSystem digestDocument codec).Steps state later → ∀ job ∈ state.db.jobs,
      job.status.live = false → ∃ kept ∈ later.db.jobs, kept.id = job.id ∧
        kept.status = job.status ∧ kept.settleSeq = job.settleSeq) ∧
    ((∀ jobId request attempt after write, request.runAttempt = some attempt →
        terminalize state.db jobId request = .ok (after, write) →
        ¬ Owned state.db jobId request.expect attempt → after = state.db ∧ write = none) ∧
      (∀ reads jobId status error attempt after, terminalizeRunningAfter reads state.db jobId status error (some attempt) = .ok after →
        ¬ Owned state.db jobId .running attempt → after = state.db) ∧
      (∀ jobId code message reg attempt, reg.runAttempt = some attempt → ¬ Owned state.db jobId .running attempt →
        (markFailedAndRelease codec state jobId code message reg).1.db = state.db) ∧
      ∀ jobId jobType reg exitReason reads attempt, reg.runAttempt = some attempt →
        ¬ Owned state.db jobId .running attempt →
        (disposeCancelled codec state jobId jobType reg exitReason reads).1.db = state.db) ∧
    (∀ jobId request after write deviceId, terminalize state.db jobId request = .ok (after, some write) →
      write.deviceId = some deviceId →
      write.settleSeq = some (state.db.lastSettleSeq deviceId + 1) ∧
        after.lastSettleSeq = Function.update state.db.lastSettleSeq deviceId (state.db.lastSettleSeq deviceId + 1) ∧
        ∃ job ∈ after.jobs, job.id = jobId ∧ job.settleSeq = write.settleSeq) ∧
    (∀ job ∈ state.db.jobs, ∀ deviceId, job.deviceId = some deviceId →
      (job.settleSeq.isSome = true ↔ job.status.live = false)) ∧
    (∀ left ∈ state.db.jobs, ∀ right ∈ state.db.jobs, ∀ deviceId seq, left.deviceId = some deviceId → right.deviceId = some deviceId →
      left.settleSeq = some seq → right.settleSeq = some seq → left = right) ∧
    ∀ later, (runtimeSystem digestDocument codec).Steps state later →
      ∀ early ∈ state.db.jobs, ∀ late ∈ later.db.jobs, ∀ deviceId first, early.deviceId = some deviceId → late.deviceId = some deviceId →
        early.settleSeq = some first → late.status.live = false →
        (∀ job ∈ state.db.jobs, job.id = late.id → job.status.live = true) →
        ∃ second, late.settleSeq = some second ∧ first < second := by
  have sequenced := Sequenced.reachable reached
  refine ⟨?_, ⟨?_, ?_, ?_, ?_⟩, ?_, ?_, ?_, ?_⟩
  · intro later taken job member closed
    obtain ⟨kept, present, stands⟩ := (Advanced.steps sequenced taken).2.jobs job member
    obtain ⟨status, _, seq⟩ := stands.ended closed
    exact ⟨kept, present, stands.id, status, seq⟩
  · intro jobId request attempt after write named written lost
    exact (terminalize_owned named written).resolve_right lost
  · intro reads jobId status error attempt after ended lost
    exact (terminalizeRunningAfter_owned ended).resolve_right lost
  · intro jobId code message reg attempt named lost
    exact (endRunAndRelease_owned named _ _ _ _).resolve_right lost
  · intro jobId jobType reg exitReason reads attempt named lost
    exact (endRunAndRelease_owned named _ _ _ _).resolve_right lost
  · intro jobId request after write deviceId written bound
    exact terminalize_sequenced written bound
  · intro job member deviceId bound
    constructor
    · intro numbered
      by_contra live
      rw [sequenced.live job member (by simpa using live)] at numbered
      cases numbered
    · intro closed
      exact (sequenced.ended job member closed).mpr (by rw [bound]; rfl)
  · intro left leftMember right rightMember deviceId seq leftBound rightBound leftSeq rightSeq
    refine sequenced.eq_of_id leftMember rightMember ?_
    exact sequenced.unique left leftMember right rightMember seq (leftBound.trans rightBound.symm) (by rw [leftBound]; rfl) leftSeq rightSeq
  · intro later taken early earlyMember late lateMember deviceId first earlyBound lateBound earlySeq closed unended
    obtain ⟨second, lateSeq, grows⟩ := (Advanced.steps sequenced taken).2.landed late lateMember closed unended deviceId lateBound
    exact ⟨second, lateSeq, lt_of_le_of_lt (sequenced.bounded early earlyMember deviceId first earlyBound earlySeq) grows⟩

/-- A sync is started, its claim goes silent and is revoked, and the requeued job is started
again under a new claim. -/
def restartedSync : List RuntimeEvent :=
  [.operation (.admitCoalescibleJob 7 .sync none 0),
    .acquire 7 .job none "t1" 1,
    .startUnderClaim 7 ⟨some 7, some "t1", none⟩ none,
    .revokeStaleClaims 5 (fun _ => some (.sync, 1)) ⟨none, none⟩,
    .acquire 7 .job none "t2" 6,
    .startUnderClaim 7 ⟨some 7, some "t2", none⟩ none]

theorem terminal_writes_owned_and_ordered_restarted :
    ∃ state, (runtimeSystem (fun _ _ _ => "d") plainCodec).trace restartedSync emptyRuntime = some state ∧
      state.db.jobs.map (fun job => (job.id, job.status, job.runAttempt)) = [(1, .running, 2)] ∧
      (markFailedAndRelease plainCodec state 1 "late" "late" ⟨some 7, some "t1", some 1⟩).1.db = state.db := by
  have found : ((runtimeSystem (fun _ _ _ => "d") plainCodec).trace restartedSync emptyRuntime).any
      (fun state => state.db.jobs.map (fun job => (job.id, job.status, job.runAttempt)) == [(1, .running, 2)]) = true := by decide +kernel
  obtain ⟨state, executed, shape⟩ := (Option.any_eq_true _ _).mp found
  have jobs := beq_iff_eq.mp shape
  have reached : (runtimeSystem (fun _ _ _ => "d") plainCodec).Reachable state := .trace (.initial ⟨rfl, rfl, rfl, rfl, rfl⟩) executed
  refine ⟨state, executed, jobs, ?_⟩
  refine (terminal_writes_owned_and_ordered reached).2.1.2.2.1 1 "late" "late" _ 1 rfl ?_
  rintro ⟨job, member, _, _, attempt⟩
  have listed := List.mem_map_of_mem (f := fun job => (job.id, job.status, job.runAttempt)) member
  rw [jobs] at listed
  simp [attempt] at listed

end NsoAdapter.Execution
