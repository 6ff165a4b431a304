import NsoAdapter.Execution.TerminalWrites

/-! When a run of a job is over. A run is a job and an attempt number; once it is over it
stays over, whatever happens to the job. -/

namespace NsoAdapter.Execution
open Lib Store Projection NsoAdapter.Core

def Reached (db : Database) (jobId attempt : Nat) : Prop :=
  ∃ job ∈ db.jobs, job.id = jobId ∧ attempt ≤ job.runAttempt

/-- The run is over: the job got as far, and it is not running at that attempt. -/
def Over (db : Database) (jobId attempt : Nat) : Prop :=
  ∃ job ∈ db.jobs, job.id = jobId ∧ attempt ≤ job.runAttempt ∧
    ¬(job.status = .running ∧ job.runAttempt = attempt)

variable {db before after : Database} {jobId attempt : Nat}

theorem Reached.later (reached : Reached before jobId attempt) (advanced : Advanced before after) : Reached after jobId attempt := by
  obtain ⟨job, member, named, grown⟩ := reached
  obtain ⟨later, present, follows⟩ := advanced.jobs job member
  exact ⟨later, present, follows.id.trans named, grown.trans follows.attempt⟩

theorem Over.later (closed : Over before jobId attempt) (advanced : Advanced before after) : Over after jobId attempt := by
  obtain ⟨job, member, named, grown, stopped⟩ := closed
  obtain ⟨later, present, follows⟩ := advanced.jobs job member
  refine ⟨later, present, follows.id.trans named, grown.trans follows.attempt, ?_⟩
  rintro ⟨running, same⟩
  -- The attempt of a job only grows, so it stood still in between.
  have still : job.runAttempt = attempt := le_antisymm (same ▸ follows.attempt) grown
  exact stopped ⟨follows.run running (same.trans still.symm), still⟩

theorem Over.not_owned (numbered : NumberedJobs db) (closed : Over db jobId attempt) : ¬ Owned db jobId .running attempt := by
  obtain ⟨job, member, named, _, stopped⟩ := closed
  rintro ⟨owner, present, same, running, current⟩
  obtain rfl := numbered.eq_of_id present member (same.trans named.symm)
  exact stopped ⟨running, current⟩

theorem Reached.over (reached : Reached db jobId attempt) (lost : ¬ Owned db jobId .running attempt) : Over db jobId attempt := by
  obtain ⟨job, member, named, grown⟩ := reached
  exact ⟨job, member, named, grown, fun current => lost ⟨job, member, named, current⟩⟩

theorem Reached.past {later : Nat} (reached : Reached db jobId later) (lt : attempt < later) : Over db jobId attempt := by
  obtain ⟨job, member, named, grown⟩ := reached
  refine ⟨job, member, named, by omega, ?_⟩
  omega

theorem Owned.reached {expect : JobStatus} (owned : Owned db jobId expect attempt) : Reached db jobId attempt := by
  obtain ⟨job, member, named, _, current⟩ := owned
  exact ⟨job, member, named, current.ge⟩

theorem terminalize_over (reached : Reached db jobId attempt) {request : TerminalRequest}
    {write : Option TerminalWrite} (expect : request.expect = .running)
    (named : request.runAttempt = some attempt)
    (written : terminalize db jobId request = .ok (after, write)) : Over after jobId attempt := by
  obtain ⟨ended, ⟨_, rfl, missed⟩ | ⟨owned, member, owns, settled, settles, landed⟩⟩ := terminalize_cases written
  · refine reached.over ?_
    rintro ⟨job, member, same, running, current⟩
    have refused := missed job member
    simp [ownership, expect, named, same, running, current] at refused
  · obtain ⟨jobs, _, _⟩ := JobMoves.settleJobGenerations settles
    have row : landedRow request none owned ∈ settled.jobs := jobs ▸ mem_updateWhere.mpr ⟨owned, member, if_pos owns⟩
    simp only [ownership, named, Bool.and_eq_true, beq_iff_eq] at owns
    have stopped : request.status ≠ .running := by
      intro running
      rw [running] at ended
      cases ended
    rcases landed with ⟨_, rfl, _⟩ | ⟨deviceId, _, rfl, _⟩
    · exact ⟨_, row, owns.1.1, owns.2.ge, fun current => stopped current.1⟩
    · refine ⟨_, mem_updateWhere.mpr ⟨_, row, rfl⟩, ?_⟩
      rw [if_pos (by simpa [landedRow] using owns.1.1)]
      exact ⟨owns.1.1, owns.2.ge, fun current => stopped current.1⟩

variable {status : JobStatus} {error : Option Json} {reads : RequeueReads} {state : Runtime}
  {runAttempt : Nat}

theorem endRunning_over (reached : Reached db jobId attempt) {outcome : Option GenerationStatus}
    (ended : endRunning db jobId status error (some attempt) outcome = .ok after) :
    Over after jobId attempt := by
  obtain ⟨request, expect, named, _, write, written⟩ := endRunning_cases ended
  exact terminalize_over reached expect named written

theorem requeueRunning_over (reached : Reached db jobId attempt) (error : Option Json) :
    Over (requeueRunning db jobId error (some attempt)).1 jobId attempt := by
  unfold requeueRunning
  split
  · rename_i found
    obtain ⟨job, member, owns⟩ := List.any_eq_true.mp found
    refine ⟨_, mem_updateWhere.mpr ⟨job, member, rfl⟩, ?_⟩
    rw [if_pos owns]
    simp only [ownership, Bool.and_eq_true, beq_iff_eq] at owns
    refine ⟨owns.1.1, owns.2.ge, ?_⟩
    rintro ⟨running, _⟩
    cases running
  · rename_i missed
    refine reached.over ?_
    rintro ⟨job, member, same, running, current⟩
    exact missed (List.any_eq_true.mpr ⟨job, member, by simp [ownership, same, running, current]⟩)

theorem terminalizeRunningAfter_over (reached : Reached db jobId attempt)
    (ended : terminalizeRunningAfter reads db jobId status error (some attempt) = .ok after) :
    Over after jobId attempt := by
  unfold terminalizeRunningAfter at ended
  split at ended
  · exact endRunning_over reached ended
  · split at ended
    · exact endRunning_over reached ended
    · cases ended
      exact requeueRunning_over reached error
  · exact endRunning_over reached ended
  · exact endRunning_over reached ended

/-- What one transaction does to the attempts: nothing, a fresh one, or one row rewritten,
which ends the attempt only together with its run. -/
inductive AttemptsMoved (before after : Runtime) : Prop where
  | same (attempts : after.attempts = before.attempts)
      (nextId : after.nextAttemptId = before.nextAttemptId)
  | prepared (fresh : ApplyExecutionAttempt) (attempts : after.attempts = before.attempts ++ [fresh])
      (nextId : after.nextAttemptId = before.nextAttemptId + 1) (id : fresh.id = before.nextAttemptId)
      (live : fresh.phase = .prepared) (linked : fresh.jobId = some fresh.jobCorrelationId)
  | rewritten (row : ApplyExecutionAttempt)
      (update : ApplyExecutionAttempt → ApplyExecutionAttempt) (member : row ∈ before.attempts)
      (attempts : after.attempts =
        updateWhere (fun other => other.id == row.id) update before.attempts)
      (nextId : after.nextAttemptId = before.nextAttemptId)
      (keeps : ∀ other, (update other).id = other.id ∧ (update other).jobId = other.jobId ∧
        (update other).jobCorrelationId = other.jobCorrelationId ∧
        (update other).runAttempt = other.runAttempt)
      (ends : (update row).phase = .terminal → ∀ jobId, row.jobId = some jobId →
        Over after.db jobId row.runAttempt)

/-- The attempts of the runtime: numbered, bound to their jobs, and ended with their runs. -/
structure Attempted (state : Runtime) : Prop where
  distinct : (state.attempts.map (·.id)).Nodup
  allocated : ∀ row ∈ state.attempts, row.id < state.nextAttemptId
  linked : ∀ row ∈ state.attempts, row.jobId = some row.jobCorrelationId
  ended : ∀ row ∈ state.attempts, row.phase = .terminal →
    Over state.db row.jobCorrelationId row.runAttempt

variable {after : Runtime}

theorem Attempted.moved {before : Runtime} (attempted : Attempted before)
    (advanced : Advanced before.db after.db) (moved : AttemptsMoved before after) :
    Attempted after := by
  cases moved with
  | same attempts nextId =>
    refine ⟨?_, ?_, ?_, fun row present closed => ?_⟩
    · exact attempts ▸ attempted.distinct
    · rw [attempts, nextId]
      exact attempted.allocated
    · exact attempts ▸ attempted.linked
    · exact (attempted.ended row (attempts ▸ present) closed).later advanced
  | prepared fresh attempts nextId id live linked =>
    have split : ∀ row ∈ after.attempts, row ∈ before.attempts ∨ row = fresh := by
      intro row present
      rw [attempts] at present
      exact (List.mem_append.mp present).imp_right List.mem_singleton.mp
    refine ⟨?_, fun row present => ?_, fun row present => ?_, fun row present closed => ?_⟩
    · rw [attempts, List.map_append, List.nodup_append]
      refine ⟨attempted.distinct, by simp, ?_⟩
      intro first listed second new equal
      obtain ⟨row, present, rfl⟩ := List.mem_map.mp listed
      have older := attempted.allocated row present
      simp only [List.map_cons, List.map_nil, List.mem_singleton] at new
      omega
    · rcases split row present with old | rfl
      · have older := attempted.allocated row old
        omega
      · omega
    · rcases split row present with old | rfl
      · exact attempted.linked row old
      · exact linked
    · rcases split row present with old | rfl
      · exact (attempted.ended row old closed).later advanced
      · rw [live] at closed
        cases closed
  | rewritten row update member attempts nextId keeps ends =>
    have split : ∀ other ∈ after.attempts, (other ∈ before.attempts ∧ other.id ≠ row.id) ∨ other = update row := by
      intro other present
      rw [attempts] at present
      obtain ⟨old, listed, rfl⟩ := mem_updateWhere.mp present
      by_cases named : old.id = row.id
      · right
        rw [if_pos (by simpa using named), List.inj_on_of_nodup_map attempted.distinct listed member named]
      · left
        rw [if_neg (by simpa using named)]
        exact ⟨listed, named⟩
    obtain ⟨id, jobId, correlation, run⟩ := keeps row
    refine ⟨?_, fun other present => ?_, fun other present => ?_, fun other present closed => ?_⟩
    · rw [attempts, map_updateWhere fun other => (keeps other).1]
      exact attempted.distinct
    · rw [nextId]
      rcases split other present with ⟨old, _⟩ | rfl
      · exact attempted.allocated other old
      · rw [id]
        exact attempted.allocated row member
    · rcases split other present with ⟨old, _⟩ | rfl
      · exact attempted.linked other old
      · rw [jobId, correlation]
        exact attempted.linked row member
    · rcases split other present with ⟨old, _⟩ | rfl
      · exact (attempted.ended other old closed).later advanced
      · rw [correlation, run]
        exact ends closed _ (attempted.linked row member)

variable {codec : EvidenceCodec}

variable {row : ApplyExecutionAttempt} {claimToken token : Option String}
  {exitReason reason : ExitReason} {terminalError : Option Json} {disposal : Disposal}
  {jobType : JobType} {message : String}

theorem Ends.moved {certified : Prop} {before : Runtime} (ends : Ends certified row before after)
    (closed : ∀ jobId, row.jobId = some jobId → Over after.db jobId row.runAttempt) :
    AttemptsMoved before after := by
  obtain ⟨update, attempts, shape⟩ := ends.attempts
  refine .rewritten row update ends.member attempts ends.nextAttemptId (fun other => ?_) fun _ => closed
  rcases shape with shape | ⟨_, reason, shape⟩ <;> rw [shape other] <;> exact ⟨rfl, rfl, rfl, rfl⟩

theorem settleAttempt_jobId {jobId : Nat} (settled : settleAttempt codec state row jobId runAttempt claimToken exitReason
      terminalError = .ok (after, disposal)) : row.jobId = some jobId := by
  obtain ⟨generation, locked, _⟩ := bind_eq_ok.mp settled
  obtain ⟨⟨job, generations, carried⟩, _, checked⟩ := bind_eq_ok.mp locked
  dsimp only at checked
  split at checked
  · rename_i holds
    simp only [Bool.and_eq_true, beq_iff_eq] at holds
    exact holds.1.1.1
  · cases checked

section

variable (attempted : Attempted state)

include attempted

variable {after : Runtime}

theorem disposeExecutionAttempt_over {jobId : Nat} (disposed : disposeExecutionAttempt codec state jobId runAttempt claimToken exitReason
      terminalError = .ok (after, disposal)) :
    AttemptsMoved state after ∧ after.claims = state.claims ∧ (disposal = .noAttempt → after = state) ∧
      (disposal ≠ .noAttempt → Over after.db jobId runAttempt) := by
  rcases disposeExecutionAttempt_cases disposed with
    ⟨rfl, rfl | ⟨rfl, row, member, named, run, closed⟩⟩ | ⟨row, member, live, named, run, settled⟩
  · exact ⟨.same rfl rfl, rfl, fun _ => rfl, fun found => absurd rfl found⟩
  · exact ⟨.same rfl rfl, rfl, fun _ => rfl, fun _ => named ▸ run ▸ attempted.ended row member closed⟩
  have bound := settleAttempt_jobId settled
  have reached := (settleAttempt_owned settled).reached
  have ends := settleAttempt_ends member live settled True
  obtain ⟨rfl, evidence, staged, request, db, write, _, _, fails, written, rfl⟩ := settleAttempt_eq settled
  have closed : Over db jobId runAttempt := terminalize_over reached fails.expect fails.runAttempt written
  have claims : (recordUndelivered state row evidence.kind exitReason).claims = state.claims := by
    rcases recordUndelivered_eq state row evidence.kind exitReason with kept | ⟨_, kept⟩ <;>
      rw [kept]
    rfl
  refine ⟨ends.moved fun other same => ?_, claims, nofun, fun _ => closed⟩
  obtain rfl := Option.some.inj (bound.symm.trans same)
  exact run ▸ closed

theorem redispose_over (reached : Reached state.db jobId runAttempt)
    (redisposed : redispose codec state jobId jobType runAttempt token reason message reads =
      .ok after) : Over after.db jobId runAttempt := by
  unfold redispose at redisposed
  split at redisposed
  · split at redisposed
    · cases redisposed
    · rename_i db failed
      cases redisposed
      exact endRunning_over reached failed
  · cases redisposed
  · rename_i disposed ran
    obtain ⟨_, _, kept, _⟩ := disposeExecutionAttempt_over attempted ran
    obtain rfl := kept rfl
    split at redisposed
    · cases redisposed
    · rename_i db ended
      cases redisposed
      exact terminalizeRunningAfter_over reached ended
  · rename_i disposed disposal found ran
    cases redisposed
    exact (disposeExecutionAttempt_over attempted ran).2.2.2 found

theorem redispose_attempts (redisposed : redispose codec state jobId jobType runAttempt token reason message reads =
      .ok after) : AttemptsMoved state after ∧ after.claims = state.claims := by
  unfold redispose at redisposed
  split at redisposed
  · split at redisposed
    · cases redisposed
    · cases redisposed
      exact ⟨.same rfl rfl, rfl⟩
  · cases redisposed
  · rename_i disposed ran
    obtain ⟨_, _, kept, _⟩ := disposeExecutionAttempt_over attempted ran
    obtain rfl := kept rfl
    split at redisposed
    · cases redisposed
    · cases redisposed
      exact ⟨.same rfl rfl, rfl⟩
  · rename_i disposed disposal found ran
    cases redisposed
    obtain ⟨moved, claims, _⟩ := disposeExecutionAttempt_over attempted ran
    exact ⟨moved, claims⟩

theorem redisposeClaimed_attempts {claim : DeviceClaim} {observed : Option (JobType × Nat)}
    (redisposed : redisposeClaimed codec state claim observed reads = .ok after) :
    AttemptsMoved state after ∧ after.claims = state.claims := by
  unfold redisposeClaimed at redisposed
  split at redisposed
  · exact redispose_attempts attempted redisposed
  · cases redisposed
    exact ⟨.same rfl rfl, rfl⟩

theorem endRunAndRelease_attempts (jobId : Nat) (reg : ClaimRegistration) (reason : ExitReason)
    (status : JobStatus) (error : Option Json) (reads : RequeueReads) :
    AttemptsMoved state (endRunAndRelease codec state jobId reg reason status error reads).1 ∧
      ((endRunAndRelease codec state jobId reg reason status error reads).1.claims = state.claims ∨
        (endRunAndRelease codec state jobId reg reason status error reads).1.claims = (deleteOwnClaim state reg).claims) := by
  unfold endRunAndRelease
  split
  · exact ⟨.same rfl rfl, .inl rfl⟩
  cases disposed : disposeRun codec state jobId reg reason none with
  | error refused => exact ⟨.same rfl rfl, .inl rfl⟩
  | ok result =>
    obtain ⟨after, handled⟩ := result
    have moved : AttemptsMoved state after ∧ after.claims = state.claims ∧ (handled = false → after = state) := by
      unfold disposeRun at disposed
      split at disposed
      · cases disposed
      split at disposed
      · cases disposed
        exact ⟨.same rfl rfl, rfl, fun _ => rfl⟩
      · obtain ⟨⟨kept, disposal⟩, ran, shape⟩ := map_eq_ok.mp disposed
        cases shape
        obtain ⟨moved, claims, unhandled, _⟩ := disposeExecutionAttempt_over attempted ran
        exact ⟨moved, claims, fun none => unhandled (by simpa using none)⟩
    obtain ⟨moved, claims, unhandled⟩ := moved
    have deleted : ∀ db, (deleteOwnClaim { after with db } reg).claims = (deleteOwnClaim state reg).claims := by
      intro db
      unfold deleteOwnClaim
      rw [claims]
    cases handled with
    | true =>
      refine ⟨?_, .inr (deleted after.db)⟩
      cases moved with
      | same attempts nextId => exact .same attempts nextId
      | prepared fresh attempts nextId id live linked =>
        exact .prepared fresh attempts nextId id live linked
      | rewritten row update member attempts nextId keeps ends =>
        exact .rewritten row update member attempts nextId keeps ends
    | false =>
      obtain rfl := unhandled rfl
      dsimp only
      split
      · exact ⟨.same rfl rfl, .inl rfl⟩
      · exact ⟨.same rfl rfl, .inr (deleted _)⟩

end

theorem completeRun_attempts {token : String} {dispositions : Dict LogicalIdentity RowDisposition}
    (completed : completeRun codec state jobId runAttempt token dispositions status error =
      .ok after) : AttemptsMoved state after ∧ after.claims = state.claims := by
  obtain ⟨⟨middle, result⟩, ended, rest⟩ := bind_eq_ok.mp completed
  obtain ⟨found, _, _, _, row, staged, owned, _, rfl⟩ := completeExecutionResult_eq ended
  obtain ⟨member, _, _, bound, run⟩ := ownedAttempt_eq owned
  dsimp only at rest
  split at rest
  · cases rest
  · cases rest
  rename_i db write written
  cases rest
  refine ⟨.rewritten row _ member rfl rfl (fun _ => ⟨rfl, rfl, rfl, rfl⟩) fun _ other same => ?_, rfl⟩
  obtain rfl := Option.some.inj (bound.symm.trans same)
  have owner : Owned state.db jobId .running runAttempt := (terminalize_owned rfl written).resolve_left fun missed => nomatch missed.2
  exact run ▸ terminalize_over owner.reached rfl rfl written

end NsoAdapter.Execution
