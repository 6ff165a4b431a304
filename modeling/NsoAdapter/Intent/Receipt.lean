import NsoAdapter.StaticRoute.Plan
import NsoAdapter.Store.Models

/-! Receipt admission for keyed intent pushes (`core/receipt.py`): one receipt
for each device and stream, replaced as the sequence advances, with the deletion
provenance that survives until a promotion consumes it. -/

namespace NsoAdapter.Intent
open Lib Projection Store StaticRoute

/-- The claim sequence, the body digest and the request mode. -/
structure PushIdentity where
  seq : Nat
  digest : String
  storeOnly : Bool
  deleteOrigin : Bool
  backfillOnly : Bool
  deriving DecidableEq

/-- One record of the private `_promotion_deletions` member. -/
structure DeletionRecord where
  table : IntentTable
  routeId : Option Nat
  key : Option Triple
  id : Option Nat
  marking : Marking
  deriving DecidableEq

inductive DeletionIdentity where
  | routeId (table : IntentTable) (value : Nat)
  | key (table : IntentTable) (value : Triple)
  | id (table : IntentTable) (value : Nat)
  deriving DecidableEq

def DeletionIdentity.table : DeletionIdentity → IntentTable
  | routeId table _ | key table _ | id table _ => table

/-- The route id names a record before its key, and its key before its row id. -/
def promotionDeletionIdentity (record : DeletionRecord) : Option DeletionIdentity :=
  match record.routeId, record.key, record.id with
  | some routeId, _, _ => some (.routeId record.table routeId)
  | none, some key, _ => some (.key record.table key)
  | none, none, some id => some (.id record.table id)
  | none, none, none => none

/-- A stored response: the public members and the private deletion records. -/
structure Response where
  body : List (String × Json)
  deletions : List DeletionRecord
  deriving DecidableEq

/-- `IntentPushReceipt` of one device and stream. -/
structure Receipt where
  identity : PushIdentity
  response : Option Response
  statusCode : Nat
  generationId : Option Nat
  deriving DecidableEq

inductive PushError where
  | notIntentStream (stream : ProjectionStream)
  | sequenceReuse (stream : ProjectionStream) (pushSeq : Nat) (admitted : PushIdentity)
  | stale (stream : ProjectionStream) (pushSeq admittedPushSeq : Nat)
  | noAdmittedReceipt (stream : ProjectionStream) (pushSeq : Nat)
  | provenanceUnexecutable (stream : ProjectionStream)
  | projection (refused : ProjectionError)
  deriving DecidableEq

/-- The deletion records of `_private_response`. -/
def privateDeletions (response : Option Response) : List DeletionRecord :=
  (response.map (·.deletions)).getD []

/-- `admit_push`. The second result is `none` for work to be done and the stored
response and status for a replay. -/
def admitPush (stream : ProjectionStream) (receipt : Option Receipt) (identity : PushIdentity) :
    Except PushError (Receipt × Option (Option Response × Nat)) :=
  if stream.outOfProtocol then
    .error (.notIntentStream stream)
  else
    match receipt with
    | none => .ok (⟨identity, none, 200, none⟩, none)
    | some receipt =>
      if receipt.identity.seq = identity.seq then
        if receipt.identity = identity then
          .ok (receipt, some (receipt.response, receipt.statusCode))
        else
          .error (.sequenceReuse stream identity.seq receipt.identity)
      else if identity.seq < receipt.identity.seq then
        .error (.stale stream identity.seq receipt.identity.seq)
      else
        -- The public replay data belongs to the new push; the provenance survives.
        let carried := privateDeletions receipt.response
        .ok (⟨identity, if carried.isEmpty then none else some ⟨[], carried⟩, 200, none⟩, none)

def recordMatchesRow (identity : DeletionIdentity) (row : Row) : Bool :=
  match identity with
  | .routeId _ value => row.get "route_id" = .num value
  | .key _ value => tripleOf row = value
  | .id _ value => row.get "id" = .num value

/-- Whether the logical row of one accumulated record is desired again. -/
def restoredRecord (authorized desired : Tables) (identity : DeletionIdentity) : Except ProjectionError Bool := do
  let desiredRows ← rowsByIntentIdentity desired identity.table
  let authorizedRows ← rowsByIntentIdentity authorized identity.table
  let rowRecord := match identity with
    | .id _ _ => true
    | _ => false
  if !rowRecord && desiredRows.any fun entry => recordMatchesRow identity entry.2 then
    return true
  match authorizedRows.find? fun entry => recordMatchesRow identity entry.2 with
  | none => return false
  | some previous => return (desiredRows.get? previous.1).isSome

def restoredDeletionIdentities (previous : List DeletionRecord) (authorized desired : Tables) :
    Except ProjectionError (List DeletionIdentity) :=
  (previous.filterMap promotionDeletionIdentity).filterM (restoredRecord authorized desired)

/-- Whether a record of this push names an authorized row, under any of its identities. -/
def namedRow (explicit : Dict DeletionIdentity DeletionRecord) (table : IntentTable) (row : Row) : Bool :=
  (match routeIdOf row with
    | some routeId => (explicit.get? (.routeId table routeId)).isSome
    | none => false) ||
  (explicit.get? (.key table (tripleOf row))).isSome ||
  (explicit.get? (.id table (idOf row))).isSome

/-- One authorized row of `_record_projection_deletions`. -/
def recordMissingRow (table : IntentTable) (desiredRows : Dict Identity Row) (marking : Marking)
    (explicit : Dict DeletionIdentity DeletionRecord) (entry : Identity × Row) :
    Dict DeletionIdentity DeletionRecord :=
  let row := entry.2
  match row.get "id" with
  | .num _ =>
    if !isIntentDeletion table entry.1 desiredRows || namedRow explicit table row then
      explicit
    else
      explicit.set (.id table (idOf row)) ⟨table, none, none, some (idOf row), marking⟩
  | _ => explicit

def recordMissingRows (authorized desired : Tables) (marking : Marking)
    (explicit : Dict DeletionIdentity DeletionRecord) (table : IntentTable) :
    Except ProjectionError (Dict DeletionIdentity DeletionRecord) := do
  let desiredRows ← rowsByIntentIdentity desired table
  let authorizedRows ← rowsByIntentIdentity authorized table
  return authorizedRows.foldl (recordMissingRow table desiredRows marking) explicit

def recordsByIdentity (records : List DeletionRecord) : Dict DeletionIdentity DeletionRecord :=
  records.foldl (fun index record =>
    match promotionDeletionIdentity record with
    | none => index
    | some identity => index.set identity record) []

/-- This push's records, with one for every authorized row that is missing and unnamed, and the
identities that came back. -/
def recordProjectionDeletions (authorized : Option Tables) (desired : Tables)
    (deleteOrigin : Bool) (previous records : List DeletionRecord) :
    Except ProjectionError (List DeletionRecord × List DeletionIdentity) :=
  match authorized with
  | none => .ok (records, [])
  | some authorized => do
      let retired ← restoredDeletionIdentities previous authorized desired
      let marking : Marking := if deleteOrigin then .deleteOrigin else .detach
      let explicit ← (authorized.map (·.1)).foldlM (recordMissingRows authorized desired marking)
        (recordsByIdentity records)
      return (explicit.map (·.2), retired)

/-- The previous records that no restoration retired. -/
def survivingDeletions (previous : List DeletionRecord) (retired : List DeletionIdentity) : List DeletionRecord :=
  previous.filter fun record =>
    match promotionDeletionIdentity record with
    | none => false
    | some identity => !retired.contains identity

/-- The records of `_merge_private_response`: a continuously absent row keeps its
first marking. -/
def mergeDeletions (previous records : List DeletionRecord) (retired : List DeletionIdentity) : List DeletionRecord :=
  let merged := records.foldl (fun index record =>
    match promotionDeletionIdentity record with
    | none => index
    | some identity => Dict.setDefault index identity record)
    (recordsByIdentity (survivingDeletions previous retired))
  merged.map (·.2)

/-- What `record_response` reads of the stream's projection row. -/
structure ProjectionView where
  authorizedTables : Option Tables
  authorizedRevision : Nat
  desiredRevision : Nat

/-- Whether deletion records of earlier pushes are still outstanding. -/
def carriesProvenance (previous : List DeletionRecord) (retired : List DeletionIdentity) : Bool :=
  previous.any fun record =>
    match promotionDeletionIdentity record with
    | none => false
    | some identity => !retired.contains identity

def promotedBy : Option ProjectionView → Bool
  | none => false
  | some view => view.desiredRevision ≤ view.authorizedRevision

/-- `record_response`. `desired` is the snapshot of the stream after the work. -/
def recordResponse (stream : ProjectionStream) (receipt : Receipt) (identity : PushIdentity)
    (response : Response) (statusCode : Nat) (generationId : Option Nat)
    (view : Option ProjectionView) (desired : Tables) : Except PushError Receipt :=
  if receipt.identity.seq ≠ identity.seq then
    .error (.noAdmittedReceipt stream identity.seq)
  else
    let previous := privateDeletions receipt.response
    match recordProjectionDeletions (view.bind (·.authorizedTables)) desired
        receipt.identity.deleteOrigin previous response.deletions with
    | .error refused => .error (.projection refused)
    | .ok (records, retired) =>
      if promotedBy view && carriesProvenance previous retired then
        .error (.provenanceUnexecutable stream)
      else
        let deletions :=
          if promotedBy view then [] else mergeDeletions previous records retired
        .ok ⟨receipt.identity, some ⟨response.body, deletions⟩, statusCode, generationId⟩

def consumePromotionProvenance (receipt : Receipt) : Receipt :=
  { receipt with response := receipt.response.map fun response => { response with deletions := [] } }

end NsoAdapter.Intent
