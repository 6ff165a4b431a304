import NsoAdapter.Core.JobMoves

/-! What the moves of job rows keep: an ended job stays as it ended, a started run is never
started again, and settlement sequences follow the order in which jobs end. -/

namespace NsoAdapter.Core
open Lib Store

/-- The ended jobs of a device have distinct settlement sequences, below the counter. -/
structure Sequenced (db : Database) : Prop extends NumberedJobs db where
  live : ∀ job ∈ db.jobs, job.status.live = true → job.settleSeq = none
  ended : ∀ job ∈ db.jobs, job.status.live = false →
    (job.settleSeq.isSome = true ↔ job.deviceId.isSome = true)
  bounded : ∀ job ∈ db.jobs, ∀ deviceId seq, job.deviceId = some deviceId →
    job.settleSeq = some seq → seq ≤ db.lastSettleSeq deviceId
  unique : ∀ left ∈ db.jobs, ∀ right ∈ db.jobs, ∀ seq, left.deviceId = right.deviceId →
    left.deviceId.isSome = true → left.settleSeq = some seq → right.settleSeq = some seq →
    left.id = right.id

structure JobLater (job later : Job) : Prop where
  id : later.id = job.id
  ended : job.status.live = false → later.status = job.status ∧
    later.deviceId = job.deviceId ∧ later.settleSeq = job.settleSeq
  attempt : job.runAttempt ≤ later.runAttempt
  run : later.status = .running → later.runAttempt = job.runAttempt → job.status = .running

structure Advanced (before after : Database) : Prop where
  jobs : ∀ job ∈ before.jobs, ∃ later ∈ after.jobs, JobLater job later
  counter : ∀ deviceId, before.lastSettleSeq deviceId ≤ after.lastSettleSeq deviceId
  landed : ∀ later ∈ after.jobs, later.status.live = false →
    (∀ job ∈ before.jobs, job.id = later.id → job.status.live = true) →
    ∀ deviceId, later.deviceId = some deviceId →
      ∃ seq, later.settleSeq = some seq ∧ before.lastSettleSeq deviceId < seq

theorem JobLater.refl (job : Job) : JobLater job job := ⟨rfl, fun _ => ⟨rfl, rfl, rfl⟩, le_refl _, fun running _ => running⟩

theorem JobLater.trans {job middle later : Job} (first : JobLater job middle) (second : JobLater middle later) : JobLater job later := by
  refine ⟨second.id.trans first.id, fun closed => ?_, first.attempt.trans second.attempt, fun running same => ?_⟩
  · obtain ⟨status, device, seq⟩ := first.ended closed
    obtain ⟨lastStatus, lastDevice, lastSeq⟩ := second.ended (status ▸ closed)
    exact ⟨lastStatus.trans status, lastDevice.trans device, lastSeq.trans seq⟩
  · -- The attempt only grows, so it stood still on both halves.
    have still : middle.runAttempt = job.runAttempt := le_antisymm (same ▸ second.attempt) first.attempt
    exact first.run (second.run running (same.trans still.symm)) still

theorem Advanced.refl (db : Database) : Advanced db db := by
  refine ⟨fun job member => ⟨job, member, .refl job⟩, fun _ => le_refl _, ?_⟩
  intro later member closed live
  have running := live later member rfl
  rw [closed] at running
  cases running

theorem Advanced.trans {first second third : Database} (before : Advanced first second)
    (after : Advanced second third) (numbered : NumberedJobs third) : Advanced first third := by
  refine ⟨fun job member => ?_, fun deviceId => ?_, fun later member closed live deviceId bound => ?_⟩
  · obtain ⟨middle, present, follows⟩ := before.jobs job member
    obtain ⟨later, still, last⟩ := after.jobs middle present
    exact ⟨later, still, follows.trans last⟩
  · exact (before.counter deviceId).trans (after.counter deviceId)
  · by_cases fresh : ∀ middle ∈ second.jobs, middle.id = later.id → middle.status.live = true
    · obtain ⟨seq, given, above⟩ := after.landed later member closed fresh deviceId bound
      exact ⟨seq, given, (before.counter deviceId).trans_lt above⟩
    · simp only [not_forall, Bool.not_eq_true] at fresh
      obtain ⟨middle, present, same, done⟩ := fresh
      obtain ⟨kept, still, follows⟩ := after.jobs middle present
      obtain rfl := numbered.eq_of_id still member (follows.id.trans same)
      obtain ⟨_, device, seq⟩ := follows.ended done
      have earlier := before.landed middle present done (fun job listed named =>
        live job listed (named.trans same)) deviceId (device ▸ bound)
      exact seq ▸ earlier

theorem JobChange.later {before after : Nat → Nat} {job moved : Job}
    (change : JobChange before after job moved) (id : moved.id = job.id) : JobLater job moved := by
  cases change with
  | start queued status attempt device seq counter =>
    refine ⟨id, fun closed => ?_, by omega, fun _ same => by omega⟩
    rw [queued] at closed
    cases closed
  | requeue running status attempt device seq counter =>
    refine ⟨id, fun closed => ?_, by omega, fun _ _ => running⟩
    rw [running] at closed
    cases closed
  | detached live ended attempt device seq counter =>
    refine ⟨id, fun closed => ?_, by omega, fun running _ => ?_⟩
    · rw [live] at closed
      cases closed
    · rw [running] at ended
      cases ended
  | land deviceId live ended attempt device seq counter =>
    refine ⟨id, fun closed => ?_, by omega, fun running _ => ?_⟩
    · rw [live] at closed
      cases closed
    · rw [running] at ended
      cases ended

theorem JobChange.counter_le {before after : Nat → Nat} {job moved : Job} (change : JobChange before after job moved) (deviceId : Nat) :
    before deviceId ≤ after deviceId := by
  cases change with
  | start _ _ _ _ _ counter | requeue _ _ _ _ _ counter | detached _ _ _ _ _ counter =>
    rw [counter]
  | land landed _ _ _ _ _ counter =>
    rw [counter, Function.update_apply]
    split
    · rename_i same
      subst same
      exact Nat.le_succ _
    · exact le_refl _

theorem JobMove.advanced {before after : Database} (numbered : NumberedJobs before)
    (moved : JobMove before after) : Advanced before after := by
  cases moved with
  | same jobs nextId counter =>
    have kept := Advanced.refl before
    refine ⟨fun job member => ?_, fun deviceId => by rw [counter], fun later member => ?_⟩
    · exact ⟨job, jobs ▸ member, .refl job⟩
    · exact kept.landed later (jobs ▸ member)
  | insert job jobs id queued seq nextId counter =>
    refine ⟨fun row member => ?_, fun deviceId => by rw [counter], ?_⟩
    · exact ⟨row, jobs ▸ List.mem_append_left _ member, .refl row⟩
    · intro later member closed live
      rw [jobs] at member
      rcases List.mem_append.mp member with old | new
      · have running := live later old rfl
        rw [closed] at running
        cases running
      · rw [List.mem_singleton.mp new, queued] at closed
        cases closed
  | rewrite job update member jobs id nextId change =>
    refine ⟨fun row present => ?_, change.counter_le, ?_⟩
    · by_cases named : row.id = job.id
      · obtain rfl := numbered.eq_of_id present member named
        have rewritten : update row ∈ after.jobs := jobs ▸ mem_updateWhere.mpr ⟨row, present, by simp⟩
        exact ⟨_, rewritten, change.later (id row)⟩
      · have kept : row ∈ after.jobs := jobs ▸ mem_updateWhere.mpr ⟨row, present, by simp [named]⟩
        exact ⟨row, kept, .refl row⟩
    · intro later present closed live deviceId bound
      rw [jobs] at present
      rcases numbered.mem_rewritten member present with ⟨old, _⟩ | rfl
      · have running := live later old rfl
        rw [closed] at running
        cases running
      · cases change with
        | start _ status _ _ _ _ =>
          rw [status] at closed
          cases closed
        | requeue _ status _ _ _ _ =>
          rw [status] at closed
          cases closed
        | detached _ _ _ device _ _ =>
          rw [device] at bound
          cases bound
        | land landed _ _ _ device seq _ =>
          obtain rfl := Option.some.inj (device.symm.trans bound)
          exact ⟨_, seq, Nat.lt_succ_self _⟩

theorem JobMoves.advanced {before after : Database} (numbered : NumberedJobs before)
    (moved : JobMoves before after) : Advanced before after := by
  have both : NumberedJobs after ∧ Advanced before after := by
    induction moved with
    | refl => exact ⟨numbered, .refl before⟩
    | tail _ last ih =>
      exact ⟨ih.1.move last, ih.2.trans (last.advanced ih.1) (ih.1.move last)⟩
  exact both.2

namespace Sequenced

variable {db after : Database}

theorem empty (jobs : db.jobs = []) : Sequenced db := by
  refine ⟨⟨?_, ?_⟩, ?_, ?_, ?_, ?_⟩ <;> simp [jobs]

theorem unsettled (sequenced : Sequenced db) (numbered : NumberedJobs after) {job : Job} {update : Job → Job} (member : job ∈ db.jobs)
    (jobs : after.jobs = updateWhere (fun row => row.id == job.id) update db.jobs)
    (live : job.status.live = true)
    (detached : (update job).status.live = false → (update job).deviceId = none)
    (seq : (update job).settleSeq = job.settleSeq)
    (counter : after.lastSettleSeq = db.lastSettleSeq) : Sequenced after := by
  have split : ∀ row ∈ after.jobs, (row ∈ db.jobs ∧ row.id ≠ job.id) ∨ row = update job :=
    fun row present => sequenced.mem_rewritten member (jobs ▸ present)
  have none : (update job).settleSeq = none := seq.trans (sequenced.live job member live)
  refine ⟨numbered, fun row present running => ?_, fun row present closed => ?_, fun row present deviceId value bound given => ?_,
    fun left first right second value device isSome one two => ?_⟩
  · rcases split row present with ⟨old, _⟩ | rfl
    · exact sequenced.live row old running
    · exact none
  · rcases split row present with ⟨old, _⟩ | rfl
    · exact sequenced.ended row old closed
    · simp [none, detached closed]
  · rw [counter]
    rcases split row present with ⟨old, _⟩ | rfl
    · exact sequenced.bounded row old deviceId value bound given
    · rw [none] at given
      cases given
  · rcases split left first with ⟨oldLeft, _⟩ | rfl
    · rcases split right second with ⟨oldRight, _⟩ | rfl
      · exact sequenced.unique left oldLeft right oldRight value device isSome one two
      · rw [none] at two
        cases two
    · rw [none] at one
      cases one

theorem landed (sequenced : Sequenced db) (numbered : NumberedJobs after) {job : Job}
    {update : Job → Job} {deviceId : Nat} (member : job ∈ db.jobs)
    (jobs : after.jobs = updateWhere (fun row => row.id == job.id) update db.jobs)
    (closed : (update job).status.live = false) (device : (update job).deviceId = some deviceId)
    (seq : (update job).settleSeq = some (db.lastSettleSeq deviceId + 1))
    (counter : after.lastSettleSeq = Function.update db.lastSettleSeq deviceId (db.lastSettleSeq deviceId + 1)) :
    Sequenced after := by
  have split : ∀ row ∈ after.jobs, (row ∈ db.jobs ∧ row.id ≠ job.id) ∨ row = update job :=
    fun row present => sequenced.mem_rewritten member (jobs ▸ present)
  have below : ∀ row ∈ db.jobs, row.deviceId = some deviceId → row.settleSeq ≠ some (db.lastSettleSeq deviceId + 1) := by
    intro row present bound given
    have small := sequenced.bounded row present deviceId _ bound given
    omega
  refine ⟨numbered, fun row present running => ?_, fun row present ended => ?_, fun row present other value bound given => ?_,
    fun left first right second value same isSome one two => ?_⟩
  · rcases split row present with ⟨old, _⟩ | rfl
    · exact sequenced.live row old running
    · rw [closed] at running
      cases running
  · rcases split row present with ⟨old, _⟩ | rfl
    · exact sequenced.ended row old ended
    · simp [seq, device]
  · rw [counter, Function.update_apply]
    rcases split row present with ⟨old, _⟩ | rfl
    · have small := sequenced.bounded row old other value bound given
      split_ifs with equal
      · subst equal
        omega
      · exact small
    · obtain rfl := Option.some.inj (device.symm.trans bound)
      obtain rfl := Option.some.inj (seq.symm.trans given)
      rw [if_pos rfl]
  · rcases split left first with ⟨oldLeft, _⟩ | rfl
    · rcases split right second with ⟨oldRight, _⟩ | rfl
      · exact sequenced.unique left oldLeft right oldRight value same isSome one two
      · exact absurd (one.trans (two.symm.trans seq)) (below left oldLeft (same.trans device))
    · rcases split right second with ⟨oldRight, _⟩ | rfl
      · exact absurd (two.trans (one.symm.trans seq)) (below right oldRight (same.symm.trans device))
      · rfl

theorem move (sequenced : Sequenced db) (moved : JobMove db after) : Sequenced after := by
  have numbered := sequenced.toNumberedJobs.move moved
  cases moved with
  | same jobs nextId counter =>
    refine ⟨numbered, ?_, ?_, ?_, ?_⟩
    · exact jobs ▸ sequenced.live
    · exact jobs ▸ sequenced.ended
    · rw [jobs, counter]
      exact sequenced.bounded
    · exact jobs ▸ sequenced.unique
  | insert job jobs id queued seq nextId counter =>
    have split : ∀ row ∈ after.jobs, row ∈ db.jobs ∨ row = job := by
      intro row present
      rw [jobs] at present
      exact (List.mem_append.mp present).imp_right List.mem_singleton.mp
    refine ⟨numbered, fun row present running => ?_, fun row present closed => ?_, fun row present deviceId value bound given => ?_,
      fun left first right second value device isSome one two => ?_⟩
    · rcases split row present with old | rfl
      · exact sequenced.live row old running
      · exact seq
    · rcases split row present with old | rfl
      · exact sequenced.ended row old closed
      · rw [queued] at closed
        cases closed
    · rw [counter]
      rcases split row present with old | rfl
      · exact sequenced.bounded row old deviceId value bound given
      · rw [seq] at given
        cases given
    · rcases split left first with oldLeft | rfl
      · rcases split right second with oldRight | rfl
        · exact sequenced.unique left oldLeft right oldRight value device isSome one two
        · rw [seq] at two
          cases two
      · rw [seq] at one
        cases one
  | rewrite job update member jobs id nextId change =>
    cases change with
    | start queued status attempt device seq counter =>
      refine sequenced.unsettled numbered member jobs ?_ (fun closed => ?_) seq counter
      · rw [queued]
        rfl
      · rw [status] at closed
        cases closed
    | requeue running status attempt device seq counter =>
      refine sequenced.unsettled numbered member jobs ?_ (fun closed => ?_) seq counter
      · rw [running]
        rfl
      · rw [status] at closed
        cases closed
    | detached live ended attempt device seq counter =>
      exact sequenced.unsettled numbered member jobs live (fun _ => device) seq counter
    | land deviceId live ended attempt device seq counter =>
      exact sequenced.landed numbered member jobs ended device seq counter

theorem moves (sequenced : Sequenced db) (moved : JobMoves db after) : Sequenced after := by
  induction moved with
  | refl => exact sequenced
  | tail _ last ih => exact ih.move last

end Sequenced

end NsoAdapter.Core
