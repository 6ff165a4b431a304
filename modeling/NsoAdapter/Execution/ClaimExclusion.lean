import NsoAdapter.Execution.ClaimSessions

/-! Exclusion by the device claim: over every interleaving of open transactions at most one
token is valid, a lock that finds its row gone writes nothing, and a revoked run is over. -/

namespace NsoAdapter.Execution
open Lib Store Projection NsoAdapter.Core

variable {digestDocument : DocumentDigest} {codec : EvidenceCodec}

variable {reg : ClaimRegistration} {key : ClaimKey}

theorem ClaimRegistration.key?_eq_some : reg.key? = some key ↔ reg.deviceId = some key.1 ∧ reg.token = some key.2 := by
  obtain ⟨deviceId, token, runAttempt⟩ := reg
  cases deviceId <;> cases token <;> simp [key?, Prod.ext_iff]

theorem ClaimRegistration.names_eq (named : reg.key? = some key) (claim : DeviceClaim) : reg.names claim = (claim.key == key) := by
  obtain ⟨device, token⟩ := key?_eq_some.mp named
  rw [Bool.eq_iff_iff]
  simp only [names, DeviceClaim.key, device, token, Bool.and_eq_true, beq_iff_eq, Option.some.injEq, Prod.ext_iff]
  exact and_congr eq_comm eq_comm

/-- `_start_head_under_claim` selects the claim by the device it starts on. -/
theorem ClaimRegistration.token_eq (named : reg.key? = some key) (claim : DeviceClaim) :
    (claim.deviceId == key.1 && reg.token == some claim.claimToken) = (claim.key == key) := by
  rw [(key?_eq_some.mp named).2, Bool.eq_iff_iff]
  simp only [DeviceClaim.key, Bool.and_eq_true, beq_iff_eq, Option.some.injEq, Prod.ext_iff]
  exact and_congr_right fun _ => eq_comm

theorem ClaimRegistration.names_none (unnamed : reg.key? = none) (claim : DeviceClaim) : reg.names claim = false := by
  obtain ⟨deviceId, token, runAttempt⟩ := reg
  cases deviceId <;> cases token <;> simp_all [names, key?]

theorem ClaimRegistration.registered_of_key (named : reg.key? = some key) : reg.registered = true := by
  simp [registered, (key?_eq_some.mp named).2]

/-- What a permitted write does to the claims and the runs under them: nothing, the deletion of a
locked row, or the association of a job with it. -/
inductive ClaimsMoved (state : ClaimStore) (session : Nat) (event : RuntimeEvent)
    (after : Runtime) : Prop where
  | same (claims : after.claims = state.runtime.claims)
      (started : startedRun state.runtime event = [])
  | deleted (key : ClaimKey) (held : state.holder key = some session)
      (claims : after.claims = state.runtime.claims.filter fun claim => claim.key != key)
      (started : startedRun state.runtime event = [])
  | associated (key : ClaimKey) (jobId runAttempt : Nat) (held : state.holder key = some session)
      (unused : ∀ run ∈ state.runs, run.key ≠ key) (present : key ∈ state.runtime.claimKeys)
      (claims : after.claims = updateWhere (fun claim => claim.key == key)
        (fun claim => { claim with jobId := some jobId }) state.runtime.claims)
      (started : startedRun state.runtime event = [⟨key, jobId, runAttempt⟩])
      (reached : Reached after.db jobId runAttempt)

theorem deleteOwnClaim_claims {state : Runtime} : (∃ key, reg.key? = some key ∧
      (deleteOwnClaim state reg).claims = state.claims.filter fun claim => claim.key != key) ∨
    reg.key? = none ∧ (deleteOwnClaim state reg).claims = state.claims := by
  cases named : reg.key? with
  | none =>
    right
    refine ⟨rfl, List.filter_eq_self.mpr fun claim _ => ?_⟩
    rw [reg.names_none named claim]
    rfl
  | some key =>
    left
    refine ⟨key, rfl, List.filter_congr fun claim _ => ?_⟩
    rw [reg.names_eq named claim]
    rfl

variable {event : RuntimeEvent} {entry : ScannedClaim}

variable {state : ClaimStore} {session : Nat} {after : Runtime}

theorem ClaimsMoved.of_deleted (held : (match reg.key? with
      | none => true
      | some key => state.holder key == some session) = true)
    (claims : after.claims = state.runtime.claims ∨ after.claims = (deleteOwnClaim state.runtime reg).claims)
    (started : startedRun state.runtime event = []) : ClaimsMoved state session event after := by
  rcases claims with claims | claims
  · exact .same claims started
  · rcases deleteOwnClaim_claims with ⟨key, named, filtered⟩ | ⟨_, kept⟩
    · rw [named] at held
      exact .deleted key (by simpa using held) (claims.trans filtered) started
    · exact .same (claims.trans kept) started

theorem startUnderClaim_moved {deviceId : Nat} {expectedJobId : Option Nat} {registered : ClaimRegistration}
    (may : state.permitted session (.startUnderClaim deviceId reg expectedJobId) = true)
    (started : startUnderClaim state.runtime deviceId reg expectedJobId = some (after, registered)) :
    ClaimsMoved state session (.startUnderClaim deviceId reg expectedJobId) after := by
  unfold ClaimStore.permitted at may
  cases named : reg.key? with
  | none => simp [named] at may
  | some key =>
    simp only [named, Bool.and_eq_true, beq_iff_eq, Bool.not_eq_true', List.any_eq_false] at may
    obtain ⟨⟨rfl, held⟩, unused⟩ := may
    unfold startUnderClaim at started
    split at started
    swap
    · cases started
    rename_i locked
    obtain ⟨⟨db, job⟩, start, shape⟩ := Option.map_eq_some_iff.mp started
    cases shape
    obtain ⟨_, member, queued, _, jobs⟩ := JobMoves.startHeadUnderClaim start
    refine .associated key job.id (job.runAttempt + 1) held (fun run listed => unused run listed) ?_ ?_ ?_ ?_
    · unfold lockClaim at locked
      rw [reg.registered_of_key named] at locked
      obtain ⟨claim, listed, names⟩ := List.any_eq_true.mp (by simpa using locked)
      rw [reg.names_eq named] at names
      exact List.mem_map.mpr ⟨claim, listed, by simpa using names⟩
    · dsimp only
      congr 1
      funext claim
      exact reg.token_eq named claim
    · simp [startedRun, named, start]
    · obtain ⟨row, listed, facts⟩ : ∃ row ∈ (startJob state.runtime.db job.id).jobs,
          row.id = job.id ∧ job.runAttempt + 1 ≤ row.runAttempt :=
        ⟨_, mem_updateWhere.mpr ⟨job, member, rfl⟩, by simp⟩
      exact ⟨row, jobs ▸ listed, facts⟩

theorem RuntimeEvent.run_effects (attempted : Attempted state.runtime) (may : state.permitted session event = true)
    (ran : event.run digestDocument codec state.runtime = some after) :
    AttemptsMoved state.runtime after ∧ ClaimsMoved state session event after := by
  cases event with
  | operation | terminalizeRunning =>
    obtain ⟨db, step, rfl⟩ := Option.map_eq_some_iff.mp ran
    exact ⟨.same rfl rfl, .same rfl rfl⟩
  | acquire => cases may
  | release reg =>
    cases ran
    refine ⟨?_, .of_deleted may ?_ rfl⟩
    · unfold releaseClaim
      split
      · exact .same rfl rfl
      · split
        · exact .same rfl rfl
        · exact .same rfl rfl
    · unfold releaseClaim
      split
      · exact .inl rfl
      · split
        · exact .inr rfl
        · exact .inl rfl
  | heartbeat => cases may
  | startUnderClaim deviceId reg expectedJobId =>
    obtain ⟨⟨started, registered⟩, step, rfl⟩ := Option.map_eq_some_iff.mp ran
    refine ⟨?_, startUnderClaim_moved may step⟩
    unfold Execution.startUnderClaim at step
    split at step
    · obtain ⟨⟨db, job⟩, _, shape⟩ := Option.map_eq_some_iff.mp step
      cases shape
      exact .same rfl rfl
    · cases step
  | prepare jobId runAttempt claimToken generationId origins logicals =>
    obtain ⟨⟨_, attempt⟩, prepared, rfl⟩ := Option.map_eq_some_iff.mp ran
    obtain ⟨rfl, id, live, _, _, _, linked⟩ := prepareExecutionAttempt_eq (toOption_eq_some.mp prepared)
    exact ⟨.prepared attempt rfl rfl id live linked, .same rfl rfl⟩
  | record attemptId jobId runAttempt claimToken classification senderPhase acknowledged =>
    obtain ⟨attempt, member, rfl, _, _, _, checkpoint, _, _, rfl⟩ := recordClassifiedResponse_eq (toOption_eq_some.mp ran)
    refine ⟨.rewritten attempt _ member rfl rfl (fun _ => ⟨rfl, rfl, rfl, rfl⟩) nofun, .same rfl rfl⟩
  | dispose jobId runAttempt claimToken exitReason terminalError =>
    obtain ⟨⟨_, disposal⟩, disposed, rfl⟩ := Option.map_eq_some_iff.mp ran
    obtain ⟨moved, claims, _⟩ := disposeExecutionAttempt_over attempted (toOption_eq_some.mp disposed)
    exact ⟨moved, .same claims rfl⟩
  | completeRun jobId runAttempt token dispositions status error =>
    obtain ⟨moved, claims⟩ := completeRun_attempts (toOption_eq_some.mp ran)
    exact ⟨moved, .same claims rfl⟩
  | markFailedAndRelease jobId code message reg =>
    cases ran
    obtain ⟨moved, claims⟩ := endRunAndRelease_attempts attempted jobId reg .runnerFailed .failed _ _
    exact ⟨moved, .of_deleted may claims rfl⟩
  | disposeCancelled jobId jobType reg exitReason reads =>
    cases ran
    obtain ⟨moved, claims⟩ := endRunAndRelease_attempts attempted jobId reg exitReason (dispositionFor jobType) _ reads
    exact ⟨moved, .of_deleted may claims rfl⟩
  | revokeStaleClaims => cases may
  | requeueOrphan jobId jobType runAttempt reads =>
    obtain ⟨moved, claims⟩ := redispose_attempts attempted (toOption_eq_some.mp ran)
    exact ⟨moved, .same claims rfl⟩

/-- What a stale claim in the reaper's hands still says of the runs under it. -/
def Tracks (state : ClaimStore) (entry : ScannedClaim) : Prop :=
  ∀ run ∈ state.runs, run.key = entry.claim.key → entry.claim.jobId = some run.jobId ∧
    ∀ observed, entry.observed = some observed → ∃ jobType attempt,
      observed = some (jobType, attempt) ∧ run.runAttempt ≤ attempt ∧
        Reached state.runtime.db run.jobId attempt

/-- The invariant of claimed work. `committing` may already have deleted the rows it holds. -/
structure Exclusive (committing : Option Nat) (state : ClaimStore) : Prop where
  numbered : NumberedJobs state.runtime.db
  attempted : Attempted state.runtime
  devices : (state.runtime.claimKeys.map Prod.fst).Nodup
  tokens : (state.runtime.claimKeys.map Prod.snd).Nodup
  minted : ∀ key ∈ state.runtime.claimKeys, key.2 ∈ state.minted
  retired : ∀ key ∈ state.retired, key.2 ∈ state.minted ∧
    ∀ live ∈ state.runtime.claimKeys, live.2 ≠ key.2
  held : ∀ key session, state.holder key = some session → committing ≠ some session →
    key ∈ state.runtime.claimKeys
  runs : ∀ run ∈ state.runs, run.key.2 ∈ state.minted ∧
    Reached state.runtime.db run.jobId run.runAttempt ∧
    ∀ claim ∈ state.runtime.claims, claim.key = run.key → claim.jobId = some run.jobId
  scanned : ∀ session entries, state.sessions session = some (.reap entries) →
    ∀ entry ∈ entries, state.holder entry.claim.key = some session ∧
      entry.claim.claimToken ∈ state.minted ∧ Tracks state entry
  revoked : ∀ run ∈ state.revoked, Over state.runtime.db run.jobId run.runAttempt

theorem Tracks.later {after : ClaimStore} (tracks : Tracks state entry) (advanced : Advanced state.runtime.db after.runtime.db)
    (runs : ∀ run ∈ after.runs, run.key = entry.claim.key → run ∈ state.runs) :
    Tracks after entry := by
  intro run listed named
  obtain ⟨bound, observes⟩ := tracks run (runs run listed named) named
  refine ⟨bound, fun observed read => ?_⟩
  obtain ⟨jobType, attempt, shape, le, reached⟩ := observes observed read
  exact ⟨jobType, attempt, shape, le, reached.later advanced⟩

theorem mem_deletedKeys {before : Runtime} : key ∈ deletedKeys before after ↔ key ∈ before.claimKeys ∧ key ∉ after.claimKeys := by
  simp [deletedKeys]

theorem Exclusive.deleted_token {committing : Option Nat} (exclusive : Exclusive committing state)
    (fewer : after.claimKeys ⊆ state.runtime.claimKeys)
    (gone : key ∈ deletedKeys state.runtime after) :
    key.2 ∈ state.minted ∧ ∀ live ∈ after.claimKeys, live.2 ≠ key.2 := by
  obtain ⟨present, absent⟩ := mem_deletedKeys.mp gone
  refine ⟨exclusive.minted key present, fun live listed same => absent ?_⟩
  have equal := List.inj_on_of_nodup_map exclusive.tokens (fewer listed) present same
  exact equal ▸ listed

theorem Exclusive.written (exclusive : Exclusive (some session) state) {runtime : Runtime}
    {runs revoked : List ClaimedRun} (numbered : NumberedJobs runtime.db)
    (advanced : Advanced state.runtime.db runtime.db) (attempted : Attempted runtime)
    (fewer : runtime.claimKeys.Sublist state.runtime.claimKeys)
    (kept : ∀ key ∈ state.runtime.claimKeys, state.holder key ≠ some session → key ∈ runtime.claimKeys)
    (bound : ∀ run ∈ runs, run.key.2 ∈ state.minted ∧ Reached runtime.db run.jobId run.runAttempt ∧
      ∀ claim ∈ runtime.claims, claim.key = run.key → claim.jobId = some run.jobId)
    (fresh : ∀ run ∈ runs, run ∈ state.runs ∨ state.holder run.key = some session ∧
      ∀ entries, state.sessions session ≠ some (.reap entries))
    (closed : ∀ run ∈ revoked, Over runtime.db run.jobId run.runAttempt) :
    Exclusive (some session) { state with
      runtime, runs, revoked, retired := state.retired ++ deletedKeys state.runtime runtime } where
  numbered := numbered
  attempted := attempted
  devices := (exclusive.devices).sublist (fewer.map _)
  tokens := (exclusive.tokens).sublist (fewer.map _)
  minted key listed := exclusive.minted key (fewer.subset listed)
  retired key listed := by
    rcases List.mem_append.mp listed with old | new
    · obtain ⟨known, dead⟩ := exclusive.retired key old
      exact ⟨known, fun live present => dead live (fewer.subset present)⟩
    · exact exclusive.deleted_token fewer.subset new
  held key other holds outside := by
    refine kept key (exclusive.held key other holds outside) fun own => outside ?_
    exact own.symm.trans holds
  runs := bound
  scanned other entries reaps entry listed := by
    obtain ⟨holds, known, tracks⟩ := exclusive.scanned other entries reaps entry listed
    refine ⟨holds, known, tracks.later advanced fun run present named => ?_⟩
    rcases fresh run present with old | ⟨own, working⟩
    · exact old
    · -- The row is locked by one transaction only, and that one is not a reaper.
      have same : some other = some session := holds.symm.trans (named ▸ own)
      cases same
      exact absurd reaps (working entries)
  revoked := closed

theorem Exclusive.perform {after : ClaimStore} (exclusive : Exclusive (some session) state)
    (working : ∀ entries, state.sessions session ≠ some (.reap entries))
    (performed : state.perform digestDocument codec session event = some after) :
    Exclusive (some session) after ∧ after.sessions = state.sessions := by
  unfold ClaimStore.perform at performed
  split at performed
  swap
  · cases performed
  rename_i may
  obtain ⟨runtime, ran, rfl⟩ := Option.map_eq_some_iff.mp performed
  obtain ⟨attempts, claims⟩ := RuntimeEvent.run_effects exclusive.attempted may ran
  have moves := RuntimeEvent.run_moved ran exclusive.numbered
  have advanced := moves.advanced exclusive.numbered
  have before : ∀ run ∈ state.runs, run.key.2 ∈ state.minted ∧ Reached runtime.db run.jobId run.runAttempt := fun run listed =>
    ⟨(exclusive.runs run listed).1, (exclusive.runs run listed).2.1.later advanced⟩
  refine ⟨?_, rfl⟩
  cases claims with
  | same claims started =>
    have keys : runtime.claimKeys = state.runtime.claimKeys := congrArg (List.map DeviceClaim.key) claims
    rw [started, List.append_nil]
    refine exclusive.written (exclusive.numbered.moves moves) advanced
      (exclusive.attempted.moved advanced attempts) (keys ▸ List.Sublist.refl _)
      (fun key listed _ => keys ▸ listed) (fun run listed => ?_) (fun run listed => .inl listed)
      fun run listed => (exclusive.revoked run listed).later advanced
    exact ⟨(before run listed).1, (before run listed).2, claims ▸ (exclusive.runs run listed).2.2⟩
  | deleted key held claims started =>
    have part : runtime.claims.Sublist state.runtime.claims := claims ▸ List.filter_sublist
    rw [started, List.append_nil]
    refine exclusive.written (exclusive.numbered.moves moves) advanced
      (exclusive.attempted.moved advanced attempts) (part.map _) (fun other listed free => ?_)
      (fun run listed => ⟨(before run listed).1, (before run listed).2, fun claim present =>
        (exclusive.runs run listed).2.2 claim (part.subset present)⟩)
      (fun run listed => .inl listed)
      fun run listed => (exclusive.revoked run listed).later advanced
    obtain ⟨claim, present, rfl⟩ := List.mem_map.mp listed
    refine List.mem_map.mpr ⟨claim, claims ▸ List.mem_filter.mpr ⟨present, ?_⟩, rfl⟩
    simp only [bne_iff_ne]
    exact fun same => free (same ▸ held)
  | associated key jobId runAttempt held unused present claims started reached =>
    have keys : runtime.claimKeys = state.runtime.claimKeys := by
      unfold Runtime.claimKeys
      rw [claims, map_updateWhere]
      exact fun _ => rfl
    rw [started]
    refine exclusive.written (exclusive.numbered.moves moves) advanced
      (exclusive.attempted.moved advanced attempts) (keys ▸ List.Sublist.refl _)
      (fun key listed _ => keys ▸ listed) (fun run listed => ?_) (fun run listed => ?_)
      fun run listed => (exclusive.revoked run listed).later advanced
    · rcases List.mem_append.mp listed with old | new
      · refine ⟨(before run old).1, (before run old).2, fun claim member named => ?_⟩
        rw [claims] at member
        obtain ⟨row, original, rfl⟩ := mem_updateWhere.mp member
        split at named
        · rename_i chosen
          exact absurd (named.symm.trans (beq_iff_eq.mp chosen)) (unused run old)
        · rename_i other
          rw [if_neg other]
          exact (exclusive.runs run old).2.2 row original named
      · obtain rfl := List.mem_singleton.mp new
        refine ⟨exclusive.minted key present, reached, fun claim member named => ?_⟩
        rw [claims] at member
        obtain ⟨row, original, rfl⟩ := mem_updateWhere.mp member
        split at named
        · rename_i chosen
          rw [if_pos chosen]
        · rename_i other
          exact absurd (beq_iff_eq.mpr named) other
    · rcases List.mem_append.mp listed with old | new
      · exact .inl old
      · obtain rfl := List.mem_singleton.mp new
        exact .inr ⟨held, working⟩

theorem revokeClaim_cases {state : Runtime} {claim : DeviceClaim} {observed : Option (JobType × Nat)} {reads : RequeueReads}
    (revoked : revokeClaim codec state claim observed reads = .ok after) :
    ∃ middle, redisposeClaimed codec state claim observed reads = .ok middle ∧
      after = { middle with
        claims := middle.claims.filter fun row => row.key != claim.key } := by
  obtain ⟨middle, redisposed, returned⟩ := bind_eq_ok.mp revoked
  cases returned
  refine ⟨middle, redisposed, ?_⟩
  congr 1

theorem Exclusive.revoke {after : ClaimStore} {entries : List ScannedClaim} (exclusive : Exclusive (some session) state)
    (reaping : state.sessions session = some (.reap entries)) (listed : entry ∈ entries)
    {reads : DeviceClaim → RequeueReads} (revoked : state.revoke codec reads entry = some after) :
    Exclusive (some session) after ∧ after.sessions = state.sessions := by
  obtain ⟨held, _, tracks⟩ := exclusive.scanned session entries reaping entry listed
  unfold ClaimStore.revoke at revoked
  split at revoked
  · cases revoked
  rename_i read
  obtain ⟨runtime, ran, rfl⟩ := Option.map_eq_some_iff.mp revoked
  have ran := toOption_eq_some.mp ran
  have moves := revokeClaim_moved ran exclusive.numbered
  have advanced := moves.advanced exclusive.numbered
  obtain ⟨middle, redisposed, rfl⟩ := revokeClaim_cases ran
  obtain ⟨attempts, claims⟩ := redisposeClaimed_attempts exclusive.attempted redisposed
  have attempted : Attempted middle := exclusive.attempted.moved advanced attempts
  have part : (middle.claims.filter fun row => row.key != entry.claim.key).Sublist state.runtime.claims := claims ▸ List.filter_sublist
  refine ⟨?_, rfl⟩
  refine exclusive.written (exclusive.numbered.moves moves) advanced
    ⟨attempted.distinct, attempted.allocated, attempted.linked, attempted.ended⟩ (part.map _)
    (fun key present free => ?_) (fun run known => ?_) (fun run known => .inl known)
    fun run ended => ?_
  · obtain ⟨claim, member, rfl⟩ := List.mem_map.mp present
    refine List.mem_map.mpr ⟨claim, List.mem_filter.mpr ⟨claims ▸ member, ?_⟩, rfl⟩
    simp only [bne_iff_ne]
    exact fun same => free (same ▸ held)
  · obtain ⟨minted, reached, bound⟩ := exclusive.runs run known
    exact ⟨minted, reached.later advanced, fun claim member => bound claim (part.subset member)⟩
  · rcases List.mem_append.mp ended with old | new
    · exact (exclusive.revoked run old).later advanced
    -- The reaper read the attempt after the run had started, so it is at least the run's.
    obtain ⟨known, named⟩ := List.mem_filter.mp new
    obtain ⟨bound, observes⟩ := tracks run known (beq_iff_eq.mp named)
    cases observed : entry.observed with
    | none => simp [bound, observed] at read
    | some value =>
      obtain ⟨jobType, attempt, rfl, le, reached⟩ := observes value observed
      unfold redisposeClaimed at redisposed
      rw [bound, observed] at redisposed
      have closed := redispose_over exclusive.attempted reached redisposed
      rcases Nat.lt_or_eq_of_le le with lt | rfl
      · exact (reached.later advanced).past lt
      · exact closed

namespace Exclusive

variable {state after : ClaimStore} {session : Nat}

theorem committing (exclusive : Exclusive none state) (session : Nat) : Exclusive (some session) state :=
  { exclusive with held := fun key other holds _ => exclusive.held key other holds nofun }

theorem close (exclusive : Exclusive (some session) state) : Exclusive none (state.close session) :=
  { exclusive with
    held := by
      intro key other holds _
      simp only [ClaimStore.close] at holds
      split at holds
      · cases holds
      · rename_i free
        exact exclusive.held key other holds fun same => free (holds.trans same.symm)
    scanned := by
      intro other entries reaps entry listed
      simp only [ClaimStore.close, Function.update_apply] at reaps
      split at reaps
      · cases reaps
      rename_i different
      obtain ⟨holds, known, tracks⟩ := exclusive.scanned other entries reaps entry listed
      refine ⟨?_, known, tracks⟩
      simp only [ClaimStore.close]
      rw [if_neg]
      · exact holds
      · rw [holds]
        exact fun same => different (Option.some.inj same) }

theorem working (exclusive : Exclusive none state) (session : Nat) (staged : List RuntimeEvent) :
    Exclusive none { state with
      sessions := Function.update state.sessions session (some (.work staged)) } :=
  { exclusive with
    scanned := by
      intro other entries reaps
      simp only [Function.update_apply] at reaps
      split at reaps
      · cases reaps
      · exact exclusive.scanned other entries reaps }

variable {deviceId now : Nat} {purpose : ClaimPurpose} {run : Option (Nat × Nat)} {token : String}

section

variable (exclusive : Exclusive none state)

include exclusive

theorem granted (unused : token ∉ state.minted) (free : ∀ claim ∈ state.runtime.claims, claim.deviceId ≠ deviceId)
    (started : ∀ jobId attempt, run = some (jobId, attempt) → Reached state.runtime.db jobId attempt) :
    Exclusive none { state with
      runtime := { state.runtime with
        claims := state.runtime.claims ++ [⟨deviceId, token, purpose, run.map (·.1), now⟩] }
      minted := token :: state.minted
      runs := state.runs ++ run.toList.map fun (jobId, attempt) =>
        ⟨(deviceId, token), jobId, attempt⟩ } := by
  have unknown : ∀ key ∈ state.runtime.claimKeys, key.2 ≠ token := fun key listed same => unused (same ▸ exclusive.minted key listed)
  have keys : (state.runtime.claims ++ [(⟨deviceId, token, purpose, run.map (·.1), now⟩ :
      DeviceClaim)]).map DeviceClaim.key = state.runtime.claimKeys ++ [(deviceId, token)] := by
    simp [Runtime.claimKeys, DeviceClaim.key]
  have newRun : ∀ row ∈ run.toList.map (fun (jobId, attempt) =>
      (⟨(deviceId, token), jobId, attempt⟩ : ClaimedRun)), row.key = (deviceId, token) ∧ run = some (row.jobId, row.runAttempt) := by
    intro row listed
    obtain ⟨⟨jobId, attempt⟩, present, rfl⟩ := List.mem_map.mp listed
    exact ⟨rfl, by simpa using present⟩
  refine { exclusive with
    attempted := ⟨exclusive.attempted.distinct, exclusive.attempted.allocated,
      exclusive.attempted.linked, exclusive.attempted.ended⟩
    devices := ?_, tokens := ?_, minted := ?_, retired := ?_, held := ?_, runs := ?_
    scanned := ?_ }
  · unfold Runtime.claimKeys
    rw [keys, List.map_append, List.nodup_append]
    refine ⟨exclusive.devices, by simp, fun first listed second new same => ?_⟩
    obtain ⟨key, present, rfl⟩ := List.mem_map.mp listed
    obtain ⟨claim, member, rfl⟩ := List.mem_map.mp present
    exact free claim member (same.trans (by simpa using new))
  · unfold Runtime.claimKeys
    rw [keys, List.map_append, List.nodup_append]
    refine ⟨exclusive.tokens, by simp, fun first listed second new same => ?_⟩
    obtain ⟨key, present, rfl⟩ := List.mem_map.mp listed
    exact unknown key present (same.trans (by simpa using new))
  · intro key listed
    unfold Runtime.claimKeys at listed
    rw [keys] at listed
    rcases List.mem_append.mp listed with old | new
    · exact List.mem_cons_of_mem _ (exclusive.minted key old)
    · rw [List.mem_singleton.mp new]
      exact List.mem_cons_self
  · intro key listed
    obtain ⟨known, dead⟩ := exclusive.retired key listed
    refine ⟨List.mem_cons_of_mem _ known, fun live present => ?_⟩
    unfold Runtime.claimKeys at present
    rw [keys] at present
    rcases List.mem_append.mp present with old | new
    · exact dead live old
    · rw [List.mem_singleton.mp new]
      intro same
      rw [← same] at known
      exact unused known
  · intro key other holds outside
    unfold Runtime.claimKeys
    rw [keys]
    exact List.mem_append_left _ (exclusive.held key other holds outside)
  · intro row listed
    rcases List.mem_append.mp listed with old | new
    · obtain ⟨known, reached, bound⟩ := exclusive.runs row old
      refine ⟨List.mem_cons_of_mem _ known, reached, fun claim member named => ?_⟩
      rcases List.mem_append.mp member with before | fresh
      · exact bound claim before named
      · rw [List.mem_singleton.mp fresh] at named
        rw [← named] at known
        exact absurd known unused
    · obtain ⟨key, shape⟩ := newRun row new
      refine ⟨?_, started _ _ shape, fun claim member named => ?_⟩
      · rw [key]
        exact List.mem_cons_self
      · rcases List.mem_append.mp member with before | fresh
        · have stale := unknown claim.key (List.mem_map_of_mem before)
          rw [named, key] at stale
          exact absurd rfl stale
        · rw [List.mem_singleton.mp fresh, shape]
          rfl
  · intro other entries reaps entry listed
    obtain ⟨holds, known, tracks⟩ := exclusive.scanned other entries reaps entry listed
    refine ⟨holds, List.mem_cons_of_mem _ known, tracks.later (.refl _) fun row present named => ?_⟩
    rcases List.mem_append.mp present with old | new
    · exact old
    · have key := (newRun row new).1
      rw [named] at key
      have same : entry.claim.claimToken = token := congrArg Prod.snd key
      exact absurd (same ▸ known) unused

theorem acquire (acquired : state.acquire deviceId purpose run token now = some after) : Exclusive none after := by
  unfold ClaimStore.acquire at acquired
  split at acquired
  · cases acquired
  rename_i fresh
  simp only [Bool.or_eq_true, not_or, List.contains_iff_mem] at fresh
  obtain ⟨unused, named⟩ := fresh
  unfold acquireClaim at acquired
  split at acquired
  · cases acquired
    exact { exclusive with
      minted := fun key listed => List.mem_cons_of_mem _ (exclusive.minted key listed)
      retired := fun key listed => ⟨List.mem_cons_of_mem _ (exclusive.retired key listed).1,
        (exclusive.retired key listed).2⟩
      runs := fun row listed => ⟨List.mem_cons_of_mem _ (exclusive.runs row listed).1,
        (exclusive.runs row listed).2⟩
      scanned := fun other entries reaps entry listed =>
        ⟨(exclusive.scanned other entries reaps entry listed).1,
          List.mem_cons_of_mem _ (exclusive.scanned other entries reaps entry listed).2.1,
          (exclusive.scanned other entries reaps entry listed).2.2⟩ }
  · rename_i runtime registered shape
    cases acquired
    split at shape
    · cases shape
    rename_i free
    cases shape
    refine exclusive.granted unused (fun claim member same => free ?_) ?_
    · exact List.any_eq_true.mpr ⟨claim, member, by simpa using same⟩
    · rintro jobId attempt rfl
      have found : ∃ job ∈ state.runtime.db.jobs, job.id = jobId ∧ attempt ≤ job.runAttempt := by
        simpa using named
      exact found

theorem heartbeat (reg : ClaimRegistration) (now : Nat) :
    Exclusive none { state with runtime := Execution.heartbeat state.runtime reg now } := by
  have keys : (Execution.heartbeat state.runtime reg now).claimKeys = state.runtime.claimKeys := by
    unfold Runtime.claimKeys Execution.heartbeat
    rw [map_updateWhere]
    exact fun _ => rfl
  refine { exclusive with
    attempted := ⟨exclusive.attempted.distinct, exclusive.attempted.allocated,
      exclusive.attempted.linked, exclusive.attempted.ended⟩
    devices := keys ▸ exclusive.devices, tokens := keys ▸ exclusive.tokens
    minted := keys ▸ exclusive.minted, retired := ?_, held := ?_, runs := ?_ }
  · intro key listed
    exact ⟨(exclusive.retired key listed).1, keys ▸ (exclusive.retired key listed).2⟩
  · intro key other holds outside
    exact keys ▸ exclusive.held key other holds outside
  · intro run listed
    obtain ⟨known, reached, bound⟩ := exclusive.runs run listed
    refine ⟨known, reached, fun claim member named => ?_⟩
    obtain ⟨row, original, rfl⟩ := mem_updateWhere.mp member
    split at named
    · rename_i chosen
      rw [if_pos chosen]
      exact bound row original named
    · rename_i other
      rw [if_neg other]
      exact bound row original named

theorem lockClaim {reg : ClaimRegistration} (locked : state.lockClaim session reg = some after) : Exclusive none after := by
  unfold ClaimStore.lockClaim at locked
  split at locked
  · cases locked
  split at locked
  · cases locked
    exact exclusive
  · rename_i registered
    split at locked
    · cases locked
      exact (exclusive.committing session).close
    · rename_i lost
      split at locked
      · cases locked
      rename_i key named
      split at locked
      · rename_i free
        cases locked
        have row : key ∈ state.runtime.claimKeys := by
          unfold Execution.lockClaim at lost
          simp only [registered, Bool.false_or, Bool.not_eq_true', Bool.not_eq_false] at lost
          obtain ⟨claim, member, names⟩ := List.any_eq_true.mp lost
          rw [reg.names_eq named] at names
          exact List.mem_map.mpr ⟨claim, member, beq_iff_eq.mp names⟩
        exact { exclusive with
          held := by
            intro other owner holds outside
            simp only [Function.update_apply] at holds
            split at holds
            · rename_i same
              exact same ▸ row
            · exact exclusive.held other owner holds outside
          scanned := by
            intro other entries reaps entry listed
            obtain ⟨holds, rest⟩ := exclusive.scanned other entries reaps entry listed
            refine ⟨?_, rest⟩
            simp only [Function.update_apply]
            rw [if_neg]
            · exact holds
            · rintro same
              rw [same, free] at holds
              cases holds }
      · split at locked
        · cases locked
          exact exclusive
        · cases locked

theorem scan {cutoff : Nat} (scans : state.scan session cutoff = some after) : Exclusive none after := by
  unfold ClaimStore.scan at scans
  dsimp only at scans
  split at scans
  swap
  · cases scans
  split at scans
  swap
  · cases scans
  rename_i free
  cases scans
  exact { exclusive with
    held := by
      intro key owner holds outside
      dsimp only at holds
      split at holds
      · rename_i chosen
        obtain ⟨claim, listed, named⟩ := List.any_eq_true.mp chosen
        exact List.mem_map.mpr ⟨claim, (List.mem_filter.mp listed).1, beq_iff_eq.mp named⟩
      · exact exclusive.held key owner holds outside
    scanned := by
      intro other entries reaps entry listed
      simp only [Function.update_apply] at reaps
      split at reaps
      · rename_i same
        cases reaps
        obtain ⟨claim, stale, rfl⟩ := List.mem_map.mp listed
        have member := (List.mem_filter.mp stale).1
        refine ⟨?_, exclusive.minted _ (List.mem_map_of_mem member), fun run known named => ?_⟩
        · subst same
          refine if_pos (List.any_eq_true.mpr ⟨claim, stale, ?_⟩)
          exact beq_self_eq_true claim.key
        · exact ⟨(exclusive.runs run known).2.2 claim member named.symm, nofun⟩
      · rename_i different
        obtain ⟨holds, rest⟩ := exclusive.scanned other entries reaps entry listed
        refine ⟨?_, rest⟩
        dsimp only
        rw [if_neg]
        · exact holds
        · intro chosen
          obtain ⟨claim, stale, named⟩ := List.any_eq_true.mp chosen
          have mine := List.all_eq_true.mp free claim stale
          rw [beq_iff_eq.mp named, holds] at mine
          exact different (by simpa using mine) }

theorem observe {key : ClaimKey} (observes : state.observe session key = some after) : Exclusive none after := by
  unfold ClaimStore.observe at observes
  split at observes
  swap
  · cases observes
  rename_i entries reaping
  cases observes
  exact { exclusive with
    scanned := by
      intro other updated reaps entry listed
      simp only [Function.update_apply] at reaps
      split at reaps
      · rename_i same
        subst same
        cases reaps
        obtain ⟨old, present, rfl⟩ := List.mem_map.mp listed
        obtain ⟨holds, known, tracks⟩ := exclusive.scanned other entries reaping old present
        split
        · refine ⟨holds, known, fun run recorded named => ?_⟩
          obtain ⟨bound, _⟩ := tracks run recorded named
          refine ⟨bound, fun observed read => ?_⟩
          obtain ⟨job, member, id, grown⟩ := (exclusive.runs run recorded).2.1
          have found : state.runtime.db.job? run.jobId = some job :=
            id ▸ find?_eq_some_of_unique member fun row listed same =>
              exclusive.numbered.eq_of_id listed member same
          refine ⟨job.jobType, job.runAttempt, ?_, grown, job, member, id, le_refl _⟩
          cases read
          simp [ClaimStore.observedJob, bound, found]
        · exact ⟨holds, known, tracks⟩
      · exact exclusive.scanned other updated reaps entry listed }

theorem commit {reads : DeviceClaim → RequeueReads} (commits : state.commit digestDocument codec session reads = some after) :
    Exclusive none after := by
  unfold ClaimStore.commit at commits
  split at commits
  · cases commits
  · rename_i staged working
    obtain ⟨last, ran, rfl⟩ := Option.map_eq_some_iff.mp commits
    refine (foldlM_some (fun reached => Exclusive (some session) reached ∧
      reached.sessions = state.sessions) ?_ ⟨exclusive.committing session, rfl⟩ ran).1.close
    intro event _ before next holds performed
    obtain ⟨kept, sessions⟩ := holds.1.perform (fun entries reaps => by
      rw [holds.2, working] at reaps
      cases reaps) performed
    exact ⟨kept, sessions.trans holds.2⟩
  · rename_i entries reaping
    obtain ⟨last, ran, rfl⟩ := Option.map_eq_some_iff.mp commits
    refine (foldlM_some (fun reached => Exclusive (some session) reached ∧
      reached.sessions = state.sessions) ?_ ⟨exclusive.committing session, rfl⟩ ran).1.close
    intro entry listed before next holds revoked
    obtain ⟨kept, sessions⟩ := holds.1.revoke (holds.2 ▸ reaping) listed revoked
    exact ⟨kept, sessions.trans holds.2⟩

theorem step {event : ClaimEvent} (stepped : event.run digestDocument codec state = some after) : Exclusive none after := by
  cases event with
  | acquire deviceId purpose run token now => exact exclusive.acquire stepped
  | heartbeat reg now =>
    simp only [ClaimEvent.run] at stepped
    split at stepped
    · cases stepped
      exact exclusive.heartbeat reg now
    · cases stepped
  | «begin» opened =>
    simp only [ClaimEvent.run] at stepped
    split at stepped
    · cases stepped
      exact exclusive.working opened []
    · cases stepped
  | lockClaim opened reg => exact exclusive.lockClaim stepped
  | stage opened event =>
    simp only [ClaimEvent.run] at stepped
    split at stepped
    · cases stepped
      exact exclusive.working opened _
    · cases stepped
  | scan opened cutoff => exact exclusive.scan stepped
  | observe opened key => exact exclusive.observe stepped
  | commit opened reads => exact exclusive.commit stepped
  | rollback opened =>
    cases stepped
    exact (exclusive.committing opened).close

end

end Exclusive

theorem Exclusive.initial (starts : (claimSystem digestDocument codec).initial state) : Exclusive none state := by
  obtain ⟨⟨jobs, _, claims, attempts, _⟩, holder, sessions, retired, runs, revoked⟩ := starts
  have keys : state.runtime.claimKeys = [] := by
    unfold Runtime.claimKeys
    rw [claims]
    rfl
  refine ⟨(Sequenced.empty jobs).toNumberedJobs, ⟨?_, ?_, ?_, ?_⟩, ?_, ?_, ?_, ?_, ?_, ?_, ?_, ?_⟩
  all_goals simp [attempts, keys, holder, sessions, retired, runs, revoked]

theorem Exclusive.reachable (reached : (claimSystem digestDocument codec).Reachable state) : Exclusive none state :=
  reached.invariant (fun _ => Exclusive.initial) fun _ _ _ exclusive stepped =>
    exclusive.step stepped

theorem lockClaim_iff {state : Runtime} (named : reg.key? = some key) : lockClaim state reg = true ↔ key ∈ state.claimKeys := by
  simp only [lockClaim, reg.registered_of_key named, Bool.not_true, Bool.false_or, List.any_eq_true, Runtime.claimKeys, List.mem_map]
  refine exists_congr fun claim => and_congr_right fun _ => ?_
  rw [reg.names_eq named, beq_iff_eq]

/-- At most one token of a device is valid. Nothing holds the lock of a deleted token, a transaction
that locks it ends there, and one that did lock a claim finds it when it commits. The run of a
revoked claim is over, and no terminal write of it changes a row. -/
theorem device_claim_exclusion {state : ClaimStore} (reached : (claimSystem digestDocument codec).Reachable state) :
    (∀ deviceId left right, ∀ first second : ClaimRegistration, first.key? = some (deviceId, left) → second.key? = some (deviceId, right) →
      lockClaim state.runtime first = true → lockClaim state.runtime second = true →
      left = right) ∧
    (∀ key ∈ state.retired, ∀ reg : ClaimRegistration, reg.key? = some key →
      lockClaim state.runtime reg = false ∧ state.holder key = none ∧
      ∀ session, (state.sessions session).isSome = true →
        ∃ after, (ClaimEvent.lockClaim session reg).run digestDocument codec state = some after ∧
          after.runtime = state.runtime ∧ after.sessions session = none) ∧
    (∀ key session, state.holder key = some session → ∀ reg : ClaimRegistration,
      reg.key? = some key → lockClaim state.runtime reg = true ∧ key ∉ state.retired) ∧
    ∀ run ∈ state.revoked, (∀ job ∈ state.runtime.db.jobs, job.id = run.jobId →
        ¬(job.status = .running ∧ job.runAttempt = run.runAttempt)) ∧
      (∀ request after write, request.expect = .running → request.runAttempt = some run.runAttempt →
        terminalize state.runtime.db run.jobId request = .ok (after, write) →
        after = state.runtime.db ∧ write = none) ∧
      (∀ reads status error after, terminalizeRunningAfter reads state.runtime.db run.jobId status error
          (some run.runAttempt) = .ok after → after = state.runtime.db) ∧
      (∀ code message reg, reg.runAttempt = some run.runAttempt →
        (markFailedAndRelease codec state.runtime run.jobId code message reg).1.db = state.runtime.db) ∧
      ∀ jobType reg exitReason reads, reg.runAttempt = some run.runAttempt →
        (disposeCancelled codec state.runtime run.jobId jobType reg exitReason reads).1.db = state.runtime.db := by
  have exclusive := Exclusive.reachable reached
  refine ⟨?_, ?_, ?_, ?_⟩
  · intro deviceId left right first second firstKey secondKey firstValid secondValid
    have equal := List.inj_on_of_nodup_map exclusive.devices
      ((lockClaim_iff firstKey).mp firstValid) ((lockClaim_iff secondKey).mp secondValid) rfl
    exact congrArg Prod.snd equal
  · intro key retired reg named
    have absent : key ∉ state.runtime.claimKeys := fun present => (exclusive.retired key retired).2 key present rfl
    have lost : lockClaim state.runtime reg = false := Bool.eq_false_iff.mpr fun valid => absent ((lockClaim_iff named).mp valid)
    refine ⟨lost, ?_, fun session opened => ⟨state.close session, ?_, rfl, ?_⟩⟩
    · cases holds : state.holder key with
      | none => rfl
      | some session => exact absurd (exclusive.held key session holds nofun) absent
    · have registered : reg.registered = true := by
        have free := lost
        simp only [lockClaim, Bool.or_eq_false_iff, Bool.not_eq_false'] at free
        exact free.1
      have present : ¬(state.sessions session).isNone = true := by
        rw [Option.isNone_iff_eq_none]
        exact Option.isSome_iff_ne_none.mp opened
      simp [ClaimEvent.run, ClaimStore.lockClaim, present, registered, lost]
    · simp [ClaimStore.close]
  · intro key session holds reg named
    have present := exclusive.held key session holds nofun
    exact ⟨(lockClaim_iff named).mpr present, fun retired => (exclusive.retired key retired).2 key present rfl⟩
  · intro run revoked
    have closed := exclusive.revoked run revoked
    have lost := closed.not_owned exclusive.numbered
    refine ⟨?_, ?_, ?_, ?_, ?_⟩
    · intro job member named current
      exact lost ⟨job, member, named, current⟩
    · intro request after write expect named written
      exact (terminalize_owned named written).resolve_right (expect ▸ lost)
    · intro reads status error after ended
      exact (terminalizeRunningAfter_owned ended).resolve_right lost
    · intro code message reg named
      exact (endRunAndRelease_owned named _ _ _ _).resolve_right lost
    · intro jobType reg exitReason reads named
      exact (endRunAndRelease_owned named _ _ _ _).resolve_right lost

def emptyClaimStore : ClaimStore :=
  { runtime := emptyRuntime, holder := fun _ => none, sessions := fun _ => none, minted := []
    retired := [], runs := [], revoked := [] }

/-- The reaper revokes the silent claim of a sync whose next transaction is already open. -/
def revokedSync : List ClaimEvent :=
  [.begin 1, .stage 1 (.operation (.admitCoalescibleJob 7 .sync none 0)),
    .commit 1 fun _ => ⟨none, none⟩,
    .acquire 7 .job none "t1" 1,
    .begin 2, .lockClaim 2 ⟨some 7, some "t1", none⟩,
    .stage 2 (.startUnderClaim 7 ⟨some 7, some "t1", none⟩ none),
    .commit 2 fun _ => ⟨none, none⟩,
    .begin 3, .scan 3 5, .begin 4,
    .stage 4 (.terminalizeRunning ⟨none, none⟩ 1 .succeeded none (some 1)),
    .observe 3 (7, "t1"), .commit 3 fun _ => ⟨none, none⟩]

theorem device_claim_exclusion_revoked :
    ∃ state, (claimSystem (fun _ _ _ => "d") plainCodec).trace revokedSync emptyClaimStore = some state ∧
      state.revoked = [⟨(7, "t1"), 1, 1⟩] ∧ (state.sessions 4).isSome = true ∧
      (∃ after, (ClaimEvent.lockClaim 4 ⟨some 7, some "t1", some 1⟩).run (fun _ _ _ => "d")
          plainCodec state = some after ∧ after.runtime = state.runtime ∧
          after.sessions 4 = none) ∧
      (markFailedAndRelease plainCodec state.runtime 1 "late" "late" ⟨some 7, some "t1", some 1⟩).1.db = state.runtime.db := by
  have found : ((claimSystem (fun _ _ _ => "d") plainCodec).trace revokedSync emptyClaimStore).any
      (fun state => state.revoked == [⟨(7, "t1"), 1, 1⟩] && state.retired == [(7, "t1")] &&
        (state.sessions 4).isSome) = true := by decide +kernel
  obtain ⟨state, executed, shape⟩ := (Option.any_eq_true _ _).mp found
  simp only [Bool.and_eq_true, beq_iff_eq] at shape
  obtain ⟨⟨revoked, retired⟩, opened⟩ := shape
  have reached : (claimSystem (fun _ _ _ => "d") plainCodec).Reachable state :=
    .trace (.initial ⟨⟨rfl, rfl, rfl, rfl, rfl⟩, fun _ => rfl, fun _ => rfl, rfl, rfl, rfl⟩) executed
  obtain ⟨_, gone, _, closed⟩ := device_claim_exclusion reached
  refine ⟨state, executed, revoked, opened, ?_, ?_⟩
  · exact (gone (7, "t1") (by rw [retired]; exact List.mem_cons_self) _ rfl).2.2 4 opened
  · exact (closed ⟨(7, "t1"), 1, 1⟩ (by rw [revoked]; exact List.mem_cons_self)).2.2.2.1 "late" "late" ⟨some 7, some "t1", some 1⟩ rfl

end NsoAdapter.Execution
