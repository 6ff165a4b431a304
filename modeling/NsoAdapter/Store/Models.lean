import NsoAdapter.Lib.Rows
import NsoAdapter.Projection.Document

/-! The deployment half of the store: jobs, deployment generations, projection
streams, static-route tombstones and the counters that order them. Timestamps
that no modelled function reads are left out. -/

namespace NsoAdapter.Store
open Lib Projection

inductive JobType where
  | sync | detectDrift | connect | apply | removal | provision | syncNow | syncFromNso
  deriving DecidableEq

inductive JobStatus where
  | queued | running | succeeded | failed
  deriving DecidableEq

inductive GenerationMode where
  | networked | detach
  deriving DecidableEq

inductive GenerationStatus where
  | pending | running | settled | failed | outcomeUnknown | abandoned
  deriving DecidableEq

inductive Marking where
  | deleteOrigin | detach
  deriving DecidableEq

namespace GenerationStatus

/-- The statuses a successor may cross. -/
def crossable : GenerationStatus → Bool
  | settled | abandoned => true
  | _ => false

/-- The statuses that preserve the carrier as evidence. -/
def terminal : GenerationStatus → Bool
  | settled | failed | outcomeUnknown | abandoned => true
  | _ => false

/-- `BLOCKED_STATUSES`: a head that never settles without a retry or a reconcile. -/
def blocked : GenerationStatus → Bool
  | failed | outcomeUnknown => true
  | _ => false

end GenerationStatus

namespace JobStatus

/-- `_LIVE_JOB`: a job that is going to run, or is running. -/
def live : JobStatus → Bool
  | queued | running => true
  | _ => false

end JobStatus

namespace JobType

/-- The job types that write to the device. -/
def deviceWriting : JobType → Bool
  | apply | removal => true
  | _ => false

end JobType

/-- `allowed_removal_keys`: per section, per guarded list, the keys a document may drop. -/
abbrev RemovalAuthority := List (DocumentSection × List (String × List Json))

/-- The context a removal's generation keeps so that a retry can rebuild its job. -/
structure RemovalContext where
  scope : DocumentSection
  interfaces : List String
  removed : List (String × List Json)
  vaultRefs : List (String × String)
  retractDeferred : Bool
  force : Bool
  detach : Bool
  tombstoneIds : List Nat
  deriving DecidableEq

/-- `Job.context` as its writers fill it: a removal's context, or the removal a
follow-up sync answers. -/
inductive JobContext where
  | removal (context : RemovalContext)
  | followup (jobId : Nat)

structure Job where
  id : Nat
  jobType : JobType
  status : JobStatus
  coalescible : Bool
  deviceId : Option Nat
  result : Option Json
  error : Option Json
  context : Option JobContext
  createdAt : Nat
  runAttempt : Nat
  settleSeq : Option Nat

structure CarrierEvidence where
  jobId : Nat
  status : JobStatus
  result : Option Json
  error : Option Json
  deriving DecidableEq

structure DeploymentGeneration where
  id : Nat
  deviceId : Nat
  seq : Nat
  mode : GenerationMode
  status : GenerationStatus
  document : Document
  digest : String
  allowedRemovalKeys : RemovalAuthority
  sourcePushSeq : List (ProjectionStream × Option Nat)
  streamRevisions : List (ProjectionStream × Nat)
  settlementCohort : Option Nat
  removalContext : Option RemovalContext
  applyAttemptId : Option Nat
  jobId : Option Nat
  carrier : Option CarrierEvidence
  attempts : Nat
  lastError : Option Json
  deriving DecidableEq

structure PreparedDeletions where
  deleteOrigin : Tables
  ownedContent : Tables
  detach : Tables

/-- One projection stream of a device, with its authorized fragment and its prepared slot. -/
structure DeviceProjectionStream where
  deviceId : Nat
  stream : ProjectionStream
  desiredRevision : Nat
  authorizedRevision : Nat
  appliedRevision : Nat
  sourcePushSeq : Option Nat
  authorizedDocument : Option Fragment
  preparedRevision : Option Nat
  preparedTables : Option Tables
  preparedDeletions : Option PreparedDeletions

structure StaticRouteTombstone where
  id : Nat
  deviceId : Nat
  routeId : Nat
  triple : Triple
  deployedKey : Option Triple
  marking : Marking
  createdAt : String
  jobId : Option Nat
  deriving DecidableEq

/-- The rows the deployment operations read and write, with the counters and the identifier
sequences. -/
structure Database where
  jobs : List Job
  generations : List DeploymentGeneration
  streams : List DeviceProjectionStream
  tombstones : List StaticRouteTombstone
  lastSeq : Nat → Nat
  lastSettleSeq : Nat → Nat
  nextJobId : Nat
  nextGenerationId : Nat

namespace Database

def empty : Database :=
  { jobs := [], generations := [], streams := [], tombstones := [], lastSeq := fun _ => 0,
    lastSettleSeq := fun _ => 0, nextJobId := 1, nextGenerationId := 1 }

/-- The generations a job carries, by `seq`. -/
def jobGenerations (db : Database) (jobId : Nat) : List DeploymentGeneration :=
  orderBy (·.seq) (db.generations.filter fun generation => generation.jobId == some jobId)

def job? (db : Database) (jobId : Nat) : Option Job :=
  db.jobs.find? fun job => job.id == jobId

def generation? (db : Database) (generationId : Nat) : Option DeploymentGeneration :=
  db.generations.find? fun generation => generation.id == generationId

end Database

end NsoAdapter.Store
