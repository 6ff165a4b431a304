import NsoAdapter.Projection.Document

/-! Execution evidence: logical rows and the carriers that count for them, refusals, and
their attribution to the origins of the encoded document (`nso/origins.py`,
`store/execution_evidence.py`). -/

namespace NsoAdapter.Execution
open Lib Projection

def streamName : ProjectionStream → String
  | .bfd => "bfd"
  | .bgp => "bgp"
  | .interfaceConfig => "interface_config"
  | .interfaceMtu => "interface_mtu"
  | .ip => "ip"
  | .isis => "isis"
  | .isisFlexAlgo => "isis_flex_algo"
  | .l2Sap => "l2_sap"
  | .lag => "lag"
  | .logging => "logging"
  | .ospf => "ospf"
  | .routePolicy => "route_policy"
  | .snmp => "snmp"
  | .staticRoute => "static_route"
  | .subinterface => "subinterface"
  | .svi => "svi"
  | .switchport => "switchport"
  | .vlan => "vlan"

/-- The counters of a section in a job's result. -/
def resultKeys : DocumentSection → List String
  | .snmp => ["snmp"]
  | .staticRoute => ["static_route"]
  | .logging => ["logging"]
  | .svi => ["svi"]
  | .subinterface => ["subinterface"]
  | .vlan => ["vlan"]
  | .bfd => ["bfd"]
  | .interfaceMtu => ["interface_mtu"]
  | .l2Sap => ["l2_sap"]
  | .isis => ["isis"]
  | .bgp => ["bgp"]
  | .routePolicy => ["route_policy"]
  | .ospf => ["ospf"]
  | .switchport => ["switchport"]
  | .lag => ["lag"]
  | .interfaceConfig => ["attribute", "ip"]

/-- The counter the carriers of a stream count under. -/
def streamResultKey (stream : ProjectionStream) : String :=
  match stream, resultKeys stream.streamSection with
  | .interfaceConfig, _ => "attribute"
  | .ip, _ => "ip"
  | _, key :: _ => key
  | _, [] => ""

def optionalNum (value : Option Nat) : Json :=
  match value with
  | none => .null
  | some number => .num number

def optionalStr (value : Option String) : Json :=
  match value with
  | none => .null
  | some text => .str text

/-- A row identity: the subject and the digest of its natural path. -/
structure RowRef where
  subject : String
  key : String
  deriving DecidableEq

def RowRef.record (row : RowRef) : Json :=
  .obj [("subject", .str row.subject), ("key", .str row.key)]

structure RelatedSite where
  family : String
  row : Option RowRef
  field : Option String
  deriving DecidableEq

structure Refusal where
  family : String
  row : RowRef
  field : Option String
  reason : String
  messageId : String
  message : String
  related : Option RelatedSite
  deriving DecidableEq

/-- `_record` of a refusal, as its members stand in the catalog's message. -/
def Refusal.members (refusal : Refusal) : List (String × Json) :=
  [("family", .str refusal.family), ("row", refusal.row.record),
    ("field", optionalStr refusal.field), ("reason", .str refusal.reason),
    ("message_id", .str refusal.messageId), ("message", .str refusal.message),
    ("related", match refusal.related with
      | none => .null
      | some site => .obj [("family", .str site.family),
          ("row", (site.row.map RowRef.record).getD .null), ("field", optionalStr site.field)])]

/-- A datetime: its text, and whether it carries an offset. -/
structure AcceptedAt where
  text : String
  zoned : Bool
  deriving DecidableEq

structure SourceRef where
  sourceTable : String
  frozenRowIdentity : List Nat
  contentIdentity : String
  frozenRevision : Option Nat
  acceptedAt : Option AcceptedAt
  liveStampJoin : Option (String × Nat)
  deriving DecidableEq

structure SettlementOwner where
  stream : ProjectionStream
  sourceTable : String
  rootRow : RowRef
  sourcePushSeq : Option Nat
  frozenRevision : Option Nat
  acceptedAt : Option AcceptedAt
  generationId : Option Nat
  settlementCohort : Option Nat
  contentIdentity : String
  deriving DecidableEq

def SettlementOwner.publicRecord (owner : SettlementOwner) : List (String × Json) :=
  [("stream", .str (streamName owner.stream)), ("row", owner.rootRow.record),
    ("source_push_seq", optionalNum owner.sourcePushSeq),
    ("frozen_revision", optionalNum owner.frozenRevision),
    ("accepted_at", optionalStr (owner.acceptedAt.map (·.text))),
    ("generation_id", optionalNum owner.generationId),
    ("settlement_cohort", optionalNum owner.settlementCohort)]

structure LogicalRow where
  stream : ProjectionStream
  row : RowRef
  sourceRefs : List SourceRef
  sourcePushSeq : Option Nat
  frozenRevision : Option Nat
  acceptanceIdentity : Option String
  generationId : Option Nat
  settlementCohort : Option Nat
  carrier : SettlementOwner
  deriving DecidableEq

structure LogicalIdentity where
  stream : ProjectionStream
  row : RowRef
  settlementCohort : Option Nat
  deriving DecidableEq

def LogicalRow.identity (logical : LogicalRow) : LogicalIdentity :=
  ⟨logical.stream, logical.row, logical.settlementCohort⟩

def LogicalRow.publicRecord (logical : LogicalRow) : List (String × Json) :=
  [("stream", .str (streamName logical.stream)), ("row", logical.row.record),
    ("source_push_seq", optionalNum logical.sourcePushSeq),
    ("frozen_revision", optionalNum logical.frozenRevision),
    ("acceptance_identity", optionalStr logical.acceptanceIdentity),
    ("generation_id", optionalNum logical.generationId),
    ("settlement_cohort", optionalNum logical.settlementCohort),
    ("carrier", .obj logical.carrier.publicRecord)]

structure OriginKey where
  family : String
  row : RowRef
  field : Option String
  deriving DecidableEq

inductive Provenance where
  | current | retained | prior
  deriving DecidableEq

def Provenance.name : Provenance → String
  | .current => "current"
  | .retained => "retained"
  | .prior => "prior"

inductive OriginOperation where
  | removal | clear
  deriving DecidableEq

structure OriginAuthority where
  generationId : Nat
  stream : ProjectionStream
  frozenRevision : Nat
  operation : OriginOperation
  row : RowRef
  fields : List String

structure OriginBinding where
  stream : ProjectionStream
  sources : List SourceRef
  construct : String
  provenance : Provenance
  logicalRows : List LogicalRow
  baselineAttemptId : Option Nat
  entryFingerprint : Option String
  authority : Option OriginAuthority

inductive FailureReason where
  | missingBinding | mixedStream | missingBaselineProvenance | missingRemovalProvenance
  | missingNaturalKey | invalidSourceIdentity
  deriving DecidableEq

structure RetainedContribution where
  row : RowRef
  entryFingerprint : String

structure PriorContribution where
  family : String
  row : RowRef
  authority : Option OriginAuthority

structure OriginIndex where
  bindings : Dict OriginKey OriginBinding
  unsupported : Dict OriginKey FailureReason
  unsupportedSubjects : Dict String FailureReason
  retained : List RetainedContribution
  omitted : List PriorContribution

def OriginIndex.empty : OriginIndex :=
  ⟨[], [], [], [], []⟩

structure AttributedRefusal where
  refusal : Refusal
  sources : List SourceRef
  logicalRows : List LogicalRow
  provenance : Provenance

structure AttributionFailure where
  reason : FailureReason
  key : OriginKey

def validSource (source : SourceRef) : Bool :=
  source.sourceTable != "" &&
    (match source.frozenRowIdentity with
      | [identity] => 0 < identity
      | _ => false) &&
    source.contentIdentity.length == 64 &&
    source.contentIdentity.toList.all (fun char => "0123456789abcdef".toList.contains char) &&
    (match source.acceptedAt with
      | none => true
      | some accepted => accepted.zoned)

def resolveRefusal (origins : OriginIndex) (refusal : Refusal) : Except AttributionFailure AttributedRefusal :=
  let key : OriginKey := ⟨refusal.family, refusal.row, refusal.field⟩
  match origins.unsupported.get? key, origins.bindings.get? key with
  | some reason, _ => .error ⟨reason, key⟩
  | none, none =>
    .error ⟨(origins.unsupportedSubjects.get? key.row.subject).getD .missingBinding, key⟩
  | none, some binding =>
    if binding.provenance = .retained ∧
        (binding.baselineAttemptId.isNone ∨ binding.entryFingerprint.isNone) then
      .error ⟨.missingBaselineProvenance, key⟩
    else if binding.provenance = .prior ∧
        (binding.baselineAttemptId.isNone ∨ binding.authority.isNone) then
      .error ⟨.missingRemovalProvenance, key⟩
    else if binding.logicalRows.isEmpty || binding.sources.isEmpty ||
        binding.sources.any (fun source => !validSource source) then
      .error ⟨.invalidSourceIdentity, key⟩
    else if binding.logicalRows.any fun logical =>
        logical.sourceRefs.isEmpty || logical.sourceRefs.any fun source => !validSource source then
      .error ⟨.invalidSourceIdentity, key⟩
    else if binding.logicalRows.any fun logical =>
        logical.stream != binding.stream || logical.carrier.stream != binding.stream then
      .error ⟨.mixedStream, key⟩
    else
      .ok ⟨refusal, binding.sources, binding.logicalRows, binding.provenance⟩

/-- Every refusal is attributed or none is. -/
def resolveRefusals (refusals : List Refusal) (origins : OriginIndex) :
    Except AttributionFailure (List AttributedRefusal) :=
  refusals.mapM (resolveRefusal origins)

def attributedCatalogRecords (attributed : List AttributedRefusal) (senderPhase : String) : List Json :=
  attributed.map fun site => .obj (site.refusal.members ++
    [("logical_rows", .arr (site.logicalRows.map fun logical => .obj logical.publicRecord)),
      ("provenance", .str site.provenance.name), ("sender_phase", .str senderPhase)])

end NsoAdapter.Execution
