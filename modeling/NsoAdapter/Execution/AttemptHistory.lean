import NsoAdapter.Execution.AttemptProtocol

/-! What the attempt protocol keeps over every run: recorded checkpoints, acknowledgements
and the outcomes of ended attempts. -/

namespace NsoAdapter.Execution
open Lib Store Projection NsoAdapter.Core

def outcomesOf (state : Runtime) (attemptId : Nat) : List RowOutcome :=
  state.outcomes.filter fun outcome => outcome.executionAttemptId == attemptId

def recordedRow (senderPhase : SenderPhase) (checkpoint : Checkpoint) (acknowledged : Bool)
    (attempt : ApplyExecutionAttempt) : ApplyExecutionAttempt :=
  { attempt with
    responseClassification := attempt.responseClassification.set (.sender senderPhase) checkpoint
    responsePhase := some senderPhase
    commitAcknowledged := attempt.commitAcknowledged || acknowledged
    phase := .responseRecorded }

inductive AttemptMove (call : AttemptCall) (before after : Runtime) : Prop where
  | same (attempts : after.attempts = before.attempts) (outcomes : after.outcomes = before.outcomes)
      (nextId : after.nextAttemptId = before.nextAttemptId)
  | prepare (attempt : ApplyExecutionAttempt)
      (attempts : after.attempts = before.attempts ++ [attempt])
      (outcomes : after.outcomes = before.outcomes)
      (nextId : after.nextAttemptId = before.nextAttemptId + 1)
      (id : attempt.id = before.nextAttemptId) (live : attempt.phase = .prepared)
      (empty : attempt.responseClassification = []) (unsent : attempt.commitAcknowledged = false)
      (distinct : (attempt.logicalMembership.map LogicalRow.identity).Nodup)
  | record (attempt : ApplyExecutionAttempt) (senderPhase : SenderPhase) (checkpoint : Checkpoint)
      (acknowledged : Bool) (member : attempt ∈ before.attempts) (live : attempt.phase ≠ .terminal)
      (attempts : after.attempts = updateWhere (fun row => row.id == attempt.id)
        (recordedRow senderPhase checkpoint acknowledged) before.attempts)
      (outcomes : after.outcomes = before.outcomes)
      (nextId : after.nextAttemptId = before.nextAttemptId)
      (fresh : attempt.responseClassification.get? (.sender senderPhase) = none)
      (ordered : senderPhase = .postCommitVerification → attempt.commitAcknowledged = true)
      (commits : acknowledged = true ↔ checkpoint = .acknowledged)
      (phase : checkpoint = .acknowledged → senderPhase = .commit ∧
        ∃ jobId runAttempt claimToken,
          call = .record attempt.id jobId runAttempt claimToken none .commit true)
  | ends (attempt : ApplyExecutionAttempt)
      (ends : Ends (call.certified = true) attempt before after)

variable {codec : EvidenceCodec}

variable {call : AttemptCall} {before : Runtime}

variable {after : Runtime}

theorem AttemptCall.run_cases (ran : call.run codec before = some after) : AttemptMove call before after := by
  cases call with
  | prepare jobId runAttempt claimToken generationId origins logicals =>
    obtain ⟨⟨_, attempt⟩, prepared, rfl⟩ := Option.map_eq_some_iff.mp ran
    obtain ⟨rfl, id, live, empty, unsent, distinct, _⟩ := prepareExecutionAttempt_eq (toOption_eq_some.mp prepared)
    exact .prepare attempt rfl rfl rfl id live empty unsent distinct
  | record attemptId jobId runAttempt claimToken classification senderPhase acknowledged =>
    obtain ⟨attempt, member, rfl, live, fresh, ordered, checkpoint, classified, consistent, rfl⟩ :=
      recordClassifiedResponse_eq (toOption_eq_some.mp ran)
    refine .record attempt senderPhase checkpoint acknowledged member live rfl rfl rfl fresh ordered ⟨consistent, ?_⟩ ?_
    · rintro rfl
      exact (checkpointOf_acknowledged classified).2.2
    · rintro rfl
      obtain ⟨rfl, rfl, rfl⟩ := checkpointOf_acknowledged classified
      exact ⟨rfl, jobId, runAttempt, claimToken, rfl⟩
  | dispose jobId runAttempt claimToken exitReason terminalError =>
    obtain ⟨⟨_, disposal⟩, disposed, rfl⟩ := Option.map_eq_some_iff.mp ran
    rcases disposeExecutionAttempt_cases (toOption_eq_some.mp disposed) with
      ⟨kept, _⟩ | ⟨attempt, member, live, _, _, settled⟩
    · rw [kept]
      exact .same rfl rfl rfl
    · exact .ends attempt (settleAttempt_ends member live settled _)
  | complete jobId runAttempt token dispositions =>
    obtain ⟨⟨_, result⟩, completed, rfl⟩ := Option.map_eq_some_iff.mp ran
    obtain ⟨attempt, ends⟩ := completeExecutionResult_ends (toOption_eq_some.mp completed)
    exact .ends attempt ends
  | world db claims =>
    cases ran
    exact .same rfl rfl rfl

structure Evident (state : Runtime) : Prop where
  distinct : (state.attempts.map (·.id)).Nodup
  allocated : ∀ attempt ∈ state.attempts, attempt.id < state.nextAttemptId
  members : ∀ attempt ∈ state.attempts, (attempt.logicalMembership.map LogicalRow.identity).Nodup
  acknowledged : ∀ attempt ∈ state.attempts, (attempt.commitAcknowledged = true ↔
    attempt.responseClassification.get? (.sender .commit) = some .acknowledged)
  verified : ∀ attempt ∈ state.attempts,
    (attempt.responseClassification.get? (.sender .postCommitVerification)).isSome = true →
      attempt.commitAcknowledged = true
  owned : ∀ outcome ∈ state.outcomes, ∃ attempt ∈ state.attempts,
    attempt.id = outcome.executionAttemptId ∧ attempt.phase = .terminal
  complete : ∀ attempt ∈ state.attempts, attempt.phase = .terminal →
    (outcomesOf state attempt.id).map (·.identity) =
      attempt.logicalMembership.map LogicalRow.identity

namespace Evident

variable {state after : Runtime}

theorem eq_of_id (evident : Evident state) {left right : ApplyExecutionAttempt}
    (first : left ∈ state.attempts) (second : right ∈ state.attempts) (same : left.id = right.id) :
    left = right :=
  List.inj_on_of_nodup_map evident.distinct first second same

variable {attempt : ApplyExecutionAttempt} {update : ApplyExecutionAttempt → ApplyExecutionAttempt}

theorem no_outcome (evident : Evident state) (member : attempt ∈ state.attempts) (live : attempt.phase ≠ .terminal) :
    outcomesOf state attempt.id = [] := by
  refine List.filter_eq_nil_iff.mpr fun outcome present named => live ?_
  obtain ⟨owner, owns, id, ended⟩ := evident.owned outcome present
  have same := evident.eq_of_id owns member (id.trans (by simpa using named))
  exact same ▸ ended

theorem mem_rewritten (evident : Evident state) {row : ApplyExecutionAttempt} (member : attempt ∈ state.attempts)
    (present : row ∈ updateWhere (fun row => row.id == attempt.id) update state.attempts) :
    (row ∈ state.attempts ∧ row.id ≠ attempt.id) ∨ row = update attempt := by
  obtain ⟨old, listed, rfl⟩ := mem_updateWhere.mp present
  by_cases named : old.id = attempt.id
  · right
    rw [if_pos (by simpa using named), evident.eq_of_id listed member named]
  · left
    rw [if_neg (by simpa using named)]
    exact ⟨listed, named⟩

theorem rewritten_mem (member : attempt ∈ state.attempts) :
    update attempt ∈ updateWhere (fun row => row.id == attempt.id) update state.attempts := by
  refine mem_updateWhere.mpr ⟨attempt, member, ?_⟩
  simp

theorem kept_mem {other : ApplyExecutionAttempt} (member : other ∈ state.attempts) (unnamed : other.id ≠ attempt.id) :
    other ∈ updateWhere (fun row => row.id == attempt.id) update state.attempts := by
  refine mem_updateWhere.mpr ⟨other, member, ?_⟩
  rw [if_neg (by simpa using unnamed)]

theorem initial (empty : (attemptProtocol codec).initial state) : Evident state := by
  obtain ⟨attempts, outcomes⟩ := empty
  constructor <;> simp [attempts, outcomes]

section

variable (evident : Evident state)

include evident

theorem prepared (attempts : after.attempts = state.attempts ++ [attempt]) (outcomes : after.outcomes = state.outcomes)
    (nextId : after.nextAttemptId = state.nextAttemptId + 1) (id : attempt.id = state.nextAttemptId)
    (live : attempt.phase = .prepared) (empty : attempt.responseClassification = [])
    (unsent : attempt.commitAcknowledged = false)
    (distinct : (attempt.logicalMembership.map LogicalRow.identity).Nodup) : Evident after := by
  have cases_ : ∀ row ∈ after.attempts, row ∈ state.attempts ∨ row = attempt := by
    intro row present
    rw [attempts] at present
    exact (List.mem_append.mp present).imp_right List.mem_singleton.mp
  constructor
  case distinct =>
    rw [attempts, List.map_append, List.nodup_append]
    refine ⟨evident.distinct, by simp, ?_⟩
    intro first listed second fresh same
    obtain ⟨row, present, rfl⟩ := List.mem_map.mp listed
    have older := evident.allocated row present
    simp only [List.map_cons, List.map_nil, List.mem_singleton] at fresh
    omega
  case allocated =>
    intro row present
    rcases cases_ row present with old | rfl
    · have older := evident.allocated row old
      omega
    · omega
  case members =>
    intro row present
    rcases cases_ row present with old | rfl
    · exact evident.members row old
    · exact distinct
  case acknowledged =>
    intro row present
    rcases cases_ row present with old | rfl
    · exact evident.acknowledged row old
    · simp [unsent, empty]
  case verified =>
    intro row present
    rcases cases_ row present with old | rfl
    · exact evident.verified row old
    · simp [empty]
  case owned =>
    intro outcome present
    rw [outcomes] at present
    obtain ⟨owner, owns, named, ended⟩ := evident.owned outcome present
    exact ⟨owner, attempts ▸ List.mem_append_left _ owns, named, ended⟩
  case complete =>
    intro row present ended
    rcases cases_ row present with old | rfl
    · unfold outcomesOf
      rw [outcomes]
      exact evident.complete row old ended
    · rw [live] at ended
      cases ended

theorem rewritten (member : attempt ∈ state.attempts) (attempts : after.attempts =
      updateWhere (fun row => row.id == attempt.id) update state.attempts)
    (nextId : after.nextAttemptId = state.nextAttemptId) (id : ∀ row, (update row).id = row.id)
    (membership : (update attempt).logicalMembership = attempt.logicalMembership)
    (acknowledged : (update attempt).commitAcknowledged = true ↔
      (update attempt).responseClassification.get? (.sender .commit) = some .acknowledged)
    (verified : ((update attempt).responseClassification.get? (.sender .postCommitVerification)).isSome = true →
      (update attempt).commitAcknowledged = true)
    (owned : ∀ outcome ∈ after.outcomes, ∃ row ∈ after.attempts, row.id = outcome.executionAttemptId ∧ row.phase = .terminal)
    (complete : ∀ row ∈ after.attempts, row.phase = .terminal →
      (outcomesOf after row.id).map (·.identity) = row.logicalMembership.map LogicalRow.identity) : Evident after := by
  constructor
  case distinct =>
    rw [attempts, map_updateWhere id]
    exact evident.distinct
  case allocated =>
    intro row present
    rw [attempts] at present
    rw [nextId]
    rcases evident.mem_rewritten member present with ⟨old, _⟩ | rfl
    · exact evident.allocated row old
    · rw [id]
      exact evident.allocated attempt member
  case members =>
    intro row present
    rw [attempts] at present
    rcases evident.mem_rewritten member present with ⟨old, _⟩ | rfl
    · exact evident.members row old
    · rw [membership]
      exact evident.members attempt member
  case acknowledged =>
    intro row present
    rw [attempts] at present
    rcases evident.mem_rewritten member present with ⟨old, _⟩ | rfl
    · exact evident.acknowledged row old
    · exact acknowledged
  case verified =>
    intro row present
    rw [attempts] at present
    rcases evident.mem_rewritten member present with ⟨old, _⟩ | rfl
    · exact evident.verified row old
    · exact verified
  case owned => exact owned
  case complete => exact complete

theorem recorded {senderPhase : SenderPhase} {checkpoint : Checkpoint} {acknowledged : Bool}
    (member : attempt ∈ state.attempts) (live : attempt.phase ≠ .terminal)
    (attempts : after.attempts = updateWhere (fun row => row.id == attempt.id)
      (recordedRow senderPhase checkpoint acknowledged) state.attempts)
    (outcomes : after.outcomes = state.outcomes)
    (nextId : after.nextAttemptId = state.nextAttemptId)
    (fresh : attempt.responseClassification.get? (.sender senderPhase) = none)
    (ordered : senderPhase = .postCommitVerification → attempt.commitAcknowledged = true)
    (commits : acknowledged = true ↔ checkpoint = .acknowledged)
    (phase : checkpoint = .acknowledged → senderPhase = .commit) : Evident after := by
  have sent := evident.acknowledged attempt member
  have checked := evident.verified attempt member
  refine evident.rewritten member attempts nextId (fun _ => rfl) rfl ?_ ?_ ?_ ?_
  · simp only [recordedRow, Bool.or_eq_true, Dict.get?_set, CheckpointKey.sender.injEq]
    split
    · rename_i commit
      subst commit
      have unsent : ¬attempt.commitAcknowledged = true := by
        rw [sent, fresh]
        simp
      simp [unsent, commits]
    · rename_i other
      have unacknowledged : ¬acknowledged = true := fun set => other (phase (commits.mp set))
      simp [unacknowledged, sent]
  · simp only [recordedRow, Bool.or_eq_true, Dict.get?_set, CheckpointKey.sender.injEq]
    split
    · rename_i verification
      exact fun _ => .inl (ordered verification)
    · exact fun present => .inl (checked present)
  · intro outcome present
    rw [outcomes] at present
    obtain ⟨owner, owns, named, ended⟩ := evident.owned outcome present
    refine ⟨owner, attempts ▸ kept_mem owns fun same => live ?_, named, ended⟩
    exact evident.eq_of_id owns member same ▸ ended
  · intro row present ended
    rw [attempts] at present
    unfold outcomesOf
    rw [outcomes]
    rcases evident.mem_rewritten member present with ⟨old, _⟩ | rfl
    · exact evident.complete row old ended
    · cases ended

theorem ended {certified : Prop} (ends : Ends certified attempt state after) : Evident after := by
  obtain ⟨update, attempts, shape⟩ := ends.attempts
  obtain ⟨staged, outcomes, identities, named, _⟩ := ends.outcomes
  have id : ∀ row, (update row).id = row.id := by
    rcases shape with shape | ⟨_, reason, shape⟩ <;> exact fun row => by rw [shape row]
  have membership : (update attempt).logicalMembership = attempt.logicalMembership := by
    rcases shape with shape | ⟨_, reason, shape⟩ <;> rw [shape attempt]
  have terminal : (update attempt).phase = .terminal := by
    rcases shape with shape | ⟨_, reason, shape⟩ <;> rw [shape attempt]
  refine evident.rewritten ends.member attempts ends.nextAttemptId id membership ?_ ?_ ?_ ?_
  · have sent := evident.acknowledged attempt ends.member
    rcases shape with shape | ⟨_, reason, shape⟩
    · rw [shape attempt]
      exact sent
    · rw [shape attempt]
      simpa [Dict.get?_set] using sent
  · have checked := evident.verified attempt ends.member
    rcases shape with shape | ⟨_, reason, shape⟩
    · rw [shape attempt]
      exact checked
    · rw [shape attempt]
      simpa [Dict.get?_set] using checked
  · intro outcome present
    rw [outcomes] at present
    rcases List.mem_append.mp present with old | fresh
    · obtain ⟨owner, owns, ofOwner, closed⟩ := evident.owned outcome old
      refine ⟨owner, attempts ▸ kept_mem owns fun same => ends.live ?_, ofOwner, closed⟩
      exact evident.eq_of_id owns ends.member same ▸ closed
    · exact ⟨update attempt, attempts ▸ rewritten_mem ends.member, (id attempt).trans (named outcome fresh).symm, terminal⟩
  · intro row present closed
    rw [attempts] at present
    unfold outcomesOf
    rw [outcomes, List.filter_append]
    rcases evident.mem_rewritten ends.member present with ⟨old, other⟩ | rfl
    · have none : staged.filter (fun outcome => outcome.executionAttemptId == row.id) = [] := by
        refine List.filter_eq_nil_iff.mpr fun outcome fresh same => other ?_
        exact (by simpa using same : outcome.executionAttemptId = row.id).symm.trans (named outcome fresh)
      rw [none, List.append_nil]
      exact evident.complete row old closed
    · have none := evident.no_outcome ends.member ends.live
      have all : staged.filter (fun outcome => outcome.executionAttemptId == attempt.id) =
          staged := List.filter_eq_self.mpr fun outcome fresh => by simpa using named outcome fresh
      unfold outcomesOf at none
      rw [id, none, all, List.nil_append, identities, membership]

theorem move {call : AttemptCall} (moved : AttemptMove call state after) : Evident after := by
  cases moved with
  | same attempts outcomes nextId =>
    constructor
    case distinct => exact attempts ▸ evident.distinct
    case allocated => rw [attempts, nextId]; exact evident.allocated
    case members => rw [attempts]; exact evident.members
    case acknowledged => rw [attempts]; exact evident.acknowledged
    case verified => rw [attempts]; exact evident.verified
    case owned => rw [attempts, outcomes]; exact evident.owned
    case complete =>
      unfold outcomesOf
      rw [attempts, outcomes]
      exact evident.complete
  | prepare attempt attempts outcomes nextId id live empty unsent distinct =>
    exact evident.prepared attempts outcomes nextId id live empty unsent distinct
  | record attempt senderPhase checkpoint acknowledged member live attempts outcomes nextId fresh ordered commits phase =>
      exact evident.recorded member live attempts outcomes nextId fresh ordered commits fun acked => (phase acked).1
  | ends attempt ends => exact evident.ended ends

end

theorem reachable {allowed : Runtime → AttemptCall → Prop}
    (reached : (attemptProtocol codec).ReachableUnder allowed state) : Evident state :=
  reached.invariant (fun _ => initial) fun _ _ _ evident _ stepped => evident.move (AttemptCall.run_cases stepped)

end Evident

/-- How the row and the outcomes of an attempt stand in a later state. -/
structure Later (before after : Runtime) (attempt kept : ApplyExecutionAttempt) : Prop where
  id : kept.id = attempt.id
  checkpoints : ∀ key checkpoint, attempt.responseClassification.get? key = some checkpoint →
    kept.responseClassification.get? key = some checkpoint
  acknowledged : attempt.commitAcknowledged = true → kept.commitAcknowledged = true
  terminal : attempt.phase = .terminal →
    kept = attempt ∧ outcomesOf after attempt.id = outcomesOf before attempt.id

theorem Later.unchanged (attempt : ApplyExecutionAttempt) (outcomes : attempt.phase = .terminal →
      outcomesOf after attempt.id = outcomesOf before attempt.id) :
    Later before after attempt attempt :=
  ⟨rfl, fun _ _ found => found, fun acked => acked, fun closed => ⟨rfl, outcomes closed⟩⟩

variable {attempt : ApplyExecutionAttempt}

theorem Later.trans {first second third : Runtime} {kept last : ApplyExecutionAttempt}
    (before : Later first second attempt kept) (after : Later second third kept last) :
    Later first third attempt last := by
  refine ⟨after.id.trans before.id, fun key checkpoint found => ?_, fun acked => ?_, fun closed => ?_⟩
  · exact after.checkpoints key checkpoint (before.checkpoints key checkpoint found)
  · exact after.acknowledged (before.acknowledged acked)
  · obtain ⟨rfl, same⟩ := before.terminal closed
    obtain ⟨rfl, still⟩ := after.terminal closed
    exact ⟨rfl, still.trans same⟩

/-- Every attempt is still there, at most advanced. -/
def Keeps (before after : Runtime) : Prop :=
  ∀ attempt ∈ before.attempts, ∃ kept ∈ after.attempts, Later before after attempt kept

theorem Keeps.refl (state : Runtime) : Keeps state state := fun attempt member => ⟨attempt, member, .unchanged attempt fun _ => rfl⟩

theorem Keeps.trans {first second third : Runtime} (before : Keeps first second) (after : Keeps second third) : Keeps first third := by
  intro attempt member
  obtain ⟨kept, present, later⟩ := before attempt member
  obtain ⟨last, still, latest⟩ := after kept present
  exact ⟨last, still, later.trans latest⟩

theorem AttemptMove.keeps (evident : Evident before) (moved : AttemptMove call before after) : Keeps before after := by
  intro attempt member
  cases moved with
  | same attempts outcomes nextId =>
    refine ⟨attempt, attempts ▸ member, .unchanged attempt fun _ => ?_⟩
    unfold outcomesOf
    rw [outcomes]
  | prepare fresh attempts outcomes nextId id live empty unsent distinct =>
    refine ⟨attempt, attempts ▸ List.mem_append_left _ member, .unchanged attempt fun _ => ?_⟩
    unfold outcomesOf
    rw [outcomes]
  | record target senderPhase checkpoint acknowledged present live attempts outcomes nextId fresh ordered commits phase =>
      by_cases named : attempt.id = target.id
      · obtain rfl := evident.eq_of_id member present named
        have rewritten : recordedRow senderPhase checkpoint acknowledged attempt ∈ after.attempts := attempts ▸ Evident.rewritten_mem member
        refine ⟨_, rewritten, rfl, fun key value found => ?_, fun acked => ?_, fun closed => absurd closed live⟩
        · simp only [recordedRow, Dict.get?_set]
          split
          · rename_i same
            rw [← same, fresh] at found
            cases found
          · exact found
        · simp [recordedRow, acked]
      · refine ⟨attempt, attempts ▸ Evident.kept_mem member named, .unchanged attempt fun _ => ?_⟩
        unfold outcomesOf
        rw [outcomes]
  | ends target ends =>
    obtain ⟨update, attempts, shape⟩ := ends.attempts
    obtain ⟨staged, outcomes, _, stagedFor, _⟩ := ends.outcomes
    by_cases named : attempt.id = target.id
    · obtain rfl := evident.eq_of_id member ends.member named
      have rewritten : update attempt ∈ after.attempts := attempts ▸ Evident.rewritten_mem member
      refine ⟨_, rewritten, ?_⟩
      rcases shape with shape | ⟨fresh, reason, shape⟩
      · rw [shape attempt]
        exact ⟨rfl, fun _ _ found => found, fun acked => acked, fun closed => absurd closed ends.live⟩
      · rw [shape attempt]
        refine ⟨rfl, fun key value found => ?_, fun acked => acked, fun closed => absurd closed ends.live⟩
        rw [Dict.get?_set]
        split
        · rename_i same
          rw [← same, fresh] at found
          cases found
        · exact found
    · refine ⟨attempt, attempts ▸ Evident.kept_mem member named, .unchanged attempt fun _ => ?_⟩
      unfold outcomesOf
      rw [outcomes, List.filter_append]
      refine (congrArg _ (List.filter_eq_nil_iff.mpr fun outcome present same => named ?_)).trans (List.append_nil _)
      exact (by simpa using same : outcome.executionAttemptId = attempt.id).symm.trans (stagedFor outcome present)

theorem AttemptMove.causes (evident : Evident before) (moved : AttemptMove call before after) {kept : ApplyExecutionAttempt}
    (member : attempt ∈ before.attempts) (present : kept ∈ after.attempts)
    (same : kept.id = attempt.id) :
    (attempt.commitAcknowledged = false → kept.commitAcknowledged = true →
      ∃ jobId runAttempt claimToken, call = .record attempt.id jobId runAttempt claimToken none .commit true) ∧
    (attempt.responseClassification.get? (.sender .postCommitVerification) = none →
      (kept.responseClassification.get? (.sender .postCommitVerification)).isSome = true →
        attempt.commitAcknowledged = true) := by
  have still : kept = attempt → (attempt.commitAcknowledged = false → kept.commitAcknowledged = true →
        ∃ jobId runAttempt claimToken, call = .record attempt.id jobId runAttempt claimToken none .commit true) ∧
      (attempt.responseClassification.get? (.sender .postCommitVerification) = none →
        (kept.responseClassification.get? (.sender .postCommitVerification)).isSome = true → attempt.commitAcknowledged = true) := by
    rintro rfl
    refine ⟨fun unsent acked => ?_, fun absent recorded => ?_⟩
    · rw [unsent] at acked
      cases acked
    · rw [absent] at recorded
      cases recorded
  cases moved with
  | same attempts outcomes nextId =>
    exact still (evident.eq_of_id (attempts ▸ present) member same)
  | prepare fresh attempts outcomes nextId id live empty unsent distinct =>
    rw [attempts] at present
    rcases List.mem_append.mp present with old | new
    · exact still (evident.eq_of_id old member same)
    · rw [List.mem_singleton.mp new, id] at same
      exact absurd (evident.allocated attempt member) (by omega)
  | record target senderPhase checkpoint acknowledged targeted live attempts outcomes nextId fresh ordered commits phase =>
      rw [attempts] at present
      rcases evident.mem_rewritten targeted present with ⟨old, _⟩ | rfl
      · exact still (evident.eq_of_id old member same)
      obtain rfl := evident.eq_of_id targeted member same
      refine ⟨fun unsent acked => ?_, fun absent recorded => ?_⟩
      · simp only [recordedRow, unsent, Bool.false_or] at acked
        exact (phase (commits.mp acked)).2
      · simp only [recordedRow, Dict.get?_set, CheckpointKey.sender.injEq] at recorded
        split at recorded
        · rename_i verification
          exact ordered verification
        · rw [absent] at recorded
          cases recorded
  | ends target ends =>
    obtain ⟨update, attempts, shape⟩ := ends.attempts
    rw [attempts] at present
    rcases evident.mem_rewritten ends.member present with ⟨old, _⟩ | rfl
    · exact still (evident.eq_of_id old member same)
    have acked : (update target).commitAcknowledged = target.commitAcknowledged := by
      rcases shape with shape | ⟨_, reason, shape⟩ <;> rw [shape target]
    have checked : (update target).responseClassification.get? (.sender .postCommitVerification) =
          target.responseClassification.get? (.sender .postCommitVerification) := by
      rcases shape with shape | ⟨_, reason, shape⟩
      · rw [shape target]
      · rw [shape target]
        simp [Dict.get?_set]
    have id : (update target).id = target.id := by
      rcases shape with shape | ⟨_, reason, shape⟩ <;> rw [shape target]
    obtain rfl := evident.eq_of_id ends.member member (id.symm.trans same)
    rw [acked, checked]
    exact ⟨fun unsent set => absurd set (by simp [unsent]), fun absent recorded => absurd recorded (by simp [absent])⟩

/-- No outcome of an acknowledged attempt says that the commit was refused or not applied. -/
structure CertifiedEvidence (state : Runtime) : Prop extends Evident state where
  certified : ∀ attempt ∈ state.attempts, attempt.commitAcknowledged = true →
    ∀ outcome ∈ outcomesOf state attempt.id,
      outcome.disposition = .inSync ∨ outcome.disposition = .unavailable

theorem CertifiedEvidence.move (evident : CertifiedEvidence before)
    (certified : call.certified = true) (moved : AttemptMove call before after) :
    CertifiedEvidence after := by
  refine ⟨evident.toEvident.move moved, ?_⟩
  intro attempt present acked
  cases moved with
  | same attempts outcomes nextId =>
    unfold outcomesOf
    rw [outcomes]
    exact evident.certified attempt (attempts ▸ present) acked
  | prepare fresh attempts outcomes nextId id live empty unsent distinct =>
    rw [attempts] at present
    unfold outcomesOf
    rw [outcomes]
    rcases List.mem_append.mp present with old | new
    · exact evident.certified attempt old acked
    · rw [List.mem_singleton.mp new, unsent] at acked
      cases acked
  | record target senderPhase checkpoint acknowledged targeted live attempts outcomes nextId fresh ordered commits phase =>
      rw [attempts] at present
      have same : outcomesOf after attempt.id = outcomesOf before attempt.id := by
        unfold outcomesOf
        rw [outcomes]
      rw [same]
      rcases evident.mem_rewritten targeted present with ⟨old, _⟩ | rfl
      · exact evident.certified attempt old acked
      · have none : outcomesOf before target.id = [] := evident.no_outcome targeted live
        intro outcome staged
        have inside : outcome ∈ outcomesOf before target.id := staged
        rw [none] at inside
        cases inside
  | ends target ends =>
    obtain ⟨update, attempts, shape⟩ := ends.attempts
    obtain ⟨staged, outcomes, _, stagedFor, soft⟩ := ends.outcomes
    rw [attempts] at present
    have split : ∀ outcome ∈ outcomesOf after attempt.id, outcome ∈ outcomesOf before attempt.id ∨
          outcome ∈ staged ∧ outcome.executionAttemptId = attempt.id := by
      intro outcome inside
      unfold outcomesOf at inside ⊢
      rw [outcomes, List.filter_append] at inside
      refine (List.mem_append.mp inside).imp_right fun new => ?_
      have parts := List.mem_filter.mp new
      exact ⟨parts.1, by simpa using parts.2⟩
    intro outcome inside
    rcases evident.mem_rewritten ends.member present with ⟨old, other⟩ | rfl
    · rcases split outcome inside with earlier | ⟨new, named⟩
      · exact evident.certified attempt old acked outcome earlier
      · exact absurd (named.symm.trans (stagedFor outcome new)) other
    · have id : (update target).id = target.id := by
        rcases shape with shape | ⟨_, reason, shape⟩ <;> rw [shape target]
      have sent : target.commitAcknowledged = true := by
        rcases shape with shape | ⟨_, reason, shape⟩ <;> rw [shape target] at acked <;> exact acked
      rcases split outcome inside with earlier | ⟨new, _⟩
      · rw [id, evident.no_outcome ends.member ends.live] at earlier
        cases earlier
      · exact soft certified sent outcome new

theorem CertifiedEvidence.reachable {state : Runtime}
    (reached : (attemptProtocol codec).ReachableUnder (fun _ call => call.certified = true) state) :
    CertifiedEvidence state := by
  refine reached.invariant (fun start empty => ⟨.initial empty, ?_⟩)
    fun _ _ _ evident certified stepped => evident.move certified (AttemptCall.run_cases stepped)
  intro attempt present
  rw [empty.1] at present
  cases present

theorem Evident.outcome_once {state : Runtime} (evident : Evident state) (member : attempt ∈ state.attempts)
    (closed : attempt.phase = .terminal) {logical : LogicalRow}
    (frozen : logical ∈ attempt.logicalMembership) :
    (outcomesOf state attempt.id).countP (fun outcome => outcome.identity == logical.identity) = 1 := by
  have counted : (outcomesOf state attempt.id).countP (fun outcome => outcome.identity == logical.identity) =
        ((outcomesOf state attempt.id).map (·.identity)).count logical.identity := by
    rw [List.count, List.countP_map]
    rfl
  rw [counted, evident.complete attempt member closed]
  exact List.count_eq_one_of_mem (evident.members attempt member) (List.mem_map_of_mem frozen)

/-- Under any owners an acknowledgement is a recorded acknowledged commit, a verification follows
it, and an ended attempt has one outcome for each member, none of which denies an acknowledged
commit. -/
theorem attempt_protocol_evidence {state : Runtime}
    (reached : (attemptProtocol codec).ReachableUnder (fun _ call => call.certified = true) state) :
    (∀ attempt ∈ state.attempts, (attempt.commitAcknowledged = true ↔
        attempt.responseClassification.get? (.sender .commit) = some .acknowledged) ∧
      ((attempt.responseClassification.get? (.sender .postCommitVerification)).isSome = true →
        attempt.commitAcknowledged = true) ∧
      (attempt.phase = .terminal → ∀ logical ∈ attempt.logicalMembership, (outcomesOf state attempt.id).countP
          (fun outcome => outcome.identity == logical.identity) = 1) ∧
      (attempt.commitAcknowledged = true → ∀ outcome ∈ outcomesOf state attempt.id,
        outcome.disposition ≠ .refused ∧ outcome.disposition ≠ .notApplied)) ∧
    (∀ later, (attemptProtocol codec).Steps state later → ∀ attempt ∈ state.attempts, (∃ kept ∈ later.attempts, kept.id = attempt.id) ∧
      ∀ kept ∈ later.attempts, kept.id = attempt.id → Later state later attempt kept) ∧
    ∀ call after, (attemptProtocol codec).step call state = some after →
      ∀ attempt ∈ state.attempts, ∀ kept ∈ after.attempts, kept.id = attempt.id →
        (attempt.commitAcknowledged = false → kept.commitAcknowledged = true →
          ∃ jobId runAttempt claimToken, call = .record attempt.id jobId runAttempt claimToken none .commit true) ∧
        (attempt.responseClassification.get? (.sender .postCommitVerification) = none →
          (kept.responseClassification.get? (.sender .postCommitVerification)).isSome = true →
            attempt.commitAcknowledged = true) := by
  have evident := CertifiedEvidence.reachable reached
  refine ⟨fun attempt member => ⟨evident.acknowledged attempt member,
    evident.verified attempt member, fun closed logical frozen => ?_, fun acked outcome inside => ?_⟩,
    fun later taken attempt member => ?_, fun call after stepped attempt member kept present => ?_⟩
  · exact evident.outcome_once member closed frozen
  · rcases evident.certified attempt member acked outcome inside with soft | soft <;> simp [soft]
  · have lasting : Evident later ∧ Keeps state later := by
      refine ⟨Evident.reachable (reached.reachable.steps taken), ?_⟩
      exact taken.related evident.toEvident (fun _ _ _ valid stepped => valid.move (AttemptCall.run_cases stepped)) Keeps.refl
        (fun _ _ _ => Keeps.trans)
        fun _ _ _ valid stepped => (AttemptCall.run_cases stepped).keeps valid
    obtain ⟨kept, present, follows⟩ := lasting.2 attempt member
    refine ⟨⟨kept, present, follows.id⟩, fun other listed same => ?_⟩
    exact lasting.1.eq_of_id present listed (follows.id.trans same.symm) ▸ follows
  · exact (AttemptCall.run_cases stepped).causes evident.toEvident member present

/-- A codec for concrete runs: every refusal is in the catalog. -/
def plainCodec : EvidenceCodec :=
  ⟨fun _ => true, fun _ => "digest", fun _ => "fingerprint"⟩

def emptyRuntime : Runtime :=
  { db := .empty, claims := [], attempts := [], outcomes := [], nextAttemptId := 1 }

/-- One running apply with one generation of a `vlan` row. -/
def runningApply : Database :=
  { Database.empty with
    jobs := [{ id := 1, jobType := .apply, status := .running, coalescible := true
               deviceId := some 7, result := none, error := none, context := none, createdAt := 0
               runAttempt := 1, settleSeq := none }]
    generations := [{ id := 1, deviceId := 7, seq := 1, mode := .networked, status := .running
                      document := [], digest := "d1", allowedRemovalKeys := []
                      sourcePushSeq := [(.vlan, some 4)], streamRevisions := [(.vlan, 2)]
                      settlementCohort := none, removalContext := none, applyAttemptId := none
                      jobId := some 1, carrier := none, attempts := 1, lastError := none }] }

def vlanRow : LogicalRow :=
  { stream := .vlan, row := ⟨"vlan.vlan", "k1"⟩, sourceRefs := [], sourcePushSeq := some 4
    frozenRevision := some 2, acceptanceIdentity := none, generationId := some 1
    settlementCohort := none
    carrier := { stream := .vlan, sourceTable := "vlan_intent", rootRow := ⟨"vlan.vlan", "k1"⟩
                 sourcePushSeq := some 4, frozenRevision := some 2, acceptedAt := none
                 generationId := some 1, settlementCohort := none, contentIdentity := "c1" } }

def disposedAfterCommit : List AttemptCall :=
  [.world runningApply [⟨7, "t1", .job, some 1, 0⟩],
    .prepare 1 1 "t1" 1 .empty [vlanRow],
    .record 1 1 1 "t1" none .commit true,
    .dispose 1 1 (some "t1") .claimExpired none]

theorem attempt_protocol_evidence_disposed_after_commit : ∃ state, (attemptProtocol plainCodec).traceUnder (fun _ call => call.certified)
        disposedAfterCommit emptyRuntime = some state ∧
      state.attempts.map (fun attempt => (attempt.phase, attempt.commitAcknowledged)) = [(.terminal, true)] ∧
      ∀ attempt ∈ state.attempts, attempt.phase = .terminal →
        ∀ logical ∈ attempt.logicalMembership, (outcomesOf state attempt.id).countP
          (fun outcome => outcome.identity == logical.identity) = 1 := by
  have found : ((attemptProtocol plainCodec).traceUnder (fun _ call => call.certified) disposedAfterCommit emptyRuntime).any (fun state =>
        state.attempts.map (fun attempt => (attempt.phase, attempt.commitAcknowledged)) == [(.terminal, true)]) = true := by decide +kernel
  obtain ⟨state, executed, ended⟩ := (Option.any_eq_true _ _).mp found
  refine ⟨state, executed, beq_iff_eq.mp ended, fun attempt member => ?_⟩
  exact ((attempt_protocol_evidence (.trace (.initial ⟨rfl, rfl⟩) executed)).1 attempt member).2.2.1

end NsoAdapter.Execution
