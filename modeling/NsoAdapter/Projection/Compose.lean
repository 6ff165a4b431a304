import NsoAdapter.StaticRoute.Plan

/-! The rows a stream owns, serialized from the live store and frozen with the encoding context and
the proof they must be executed with, and the outbound document composed of them: a section's
tables are the union of its streams' tables, its context is the owner's, and its
proof is merged row by row (`core/projection.py`, `core/generation.py`). -/

namespace NsoAdapter.Projection
open Lib StaticRoute

/-- The state of one interface attribute. -/
inductive SyncState where
  | imported | changed | error | unknown | accepted | deploying | inSync | applyFailed | drifted
  deriving DecidableEq

namespace SyncState

/-- `INTERFACE_ATTRIBUTE_ELIGIBLE_STATES`. -/
def eligible : SyncState → Bool
  | accepted | applyFailed | drifted | inSync => true
  | _ => false

end SyncState

/-- The live rows of one device that a freeze may read: its intent tables and the
non-intent facts beside them. -/
structure LiveDevice where
  nedId : Option String
  rows : IntentTable → List Row
  interfaces : List InterfaceRecord
  attributeStates : List ((Nat × String) × SyncState)

def communityDialectFor (nedId : Option String) : Dialect :=
  match nedId with
  | some ned => if "timos-nc".toList.isPrefixOf ned.toList then .nokiaTimos else .identity
  | none => .identity

def discriminator (stream : ProjectionStream) (table : IntentTable) : Option Json :=
  match table, stream with
  | .redistributionIntent, .isis => some (.str "isis")
  | .redistributionIntent, .bgp => some (.str "bgp")
  | .redistributionIntent, .ospf => some (.str "ospf")
  | _, _ => none

/-- The rows of one table that belong to a stream, by id. -/
def rowsFor (live : LiveDevice) (stream : ProjectionStream) (table : IntentTable) : List Row :=
  orderBy idOf ((live.rows table).filter fun row =>
    match discriminator stream table with
    | none => true
    | some protocol => row.get "dest_protocol" = protocol)

/-- The tables a stream owns, serialized. -/
def snapshotStream (live : LiveDevice) (stream : ProjectionStream) : Except ProjectionError Tables := do
  let tables : Tables := stream.streamTables.map fun table => (table, rowsFor live stream table)
  tables.forM fun entry => validateAsnRows entry.1 entry.2 (some live.nedId)
  return tables

theorem snapshotStream_tables {live : LiveDevice} {stream : ProjectionStream} {tables : Tables}
    (snapshot : snapshotStream live stream = .ok tables) :
    tables = stream.streamTables.map fun table => (table, rowsFor live stream table) := by
  obtain ⟨_, _, returned⟩ := bind_eq_ok.mp snapshot
  exact (Except.ok.inj returned).symm

def interfaceIdOf (row : Row) : Nat :=
  match row.get "interface_id" with
  | .num value => value.toNat
  | _ => 0

def attributeKeyOf (row : Row) : Nat × String :=
  (interfaceIdOf row, textOr (row.get "attribute"))

/-- Interface records for every referenced interface and, for attribute rows, one explicit decision
each. -/
def buildInterfaceProof (stream : ProjectionStream) (tables : Tables)
    (interfaces : List InterfaceRecord) (decisions : Dict (Nat × String) Bool) :
    Except ProjectionError SectionProof :=
  let attributeRows := tables.rows .interfaceIntent
  let interfaceIds := orderBy id
    ((attributeRows ++ tables.rows .interfaceIpIntent).map interfaceIdOf).dedup
  let record := fun interfaceId => interfaces.find? fun entry => entry.id == interfaceId
  let missing := interfaceIds.filter fun interfaceId => (record interfaceId).isNone
  if !missing.isEmpty then
    .error (.interfacesMissing missing)
  else
    let records := interfaceIds.filterMap fun interfaceId =>
      (record interfaceId).map fun entry => (interfaceId, entry)
    if attributeRows.isEmpty && stream != .interfaceConfig then
      .ok { interfaces := some records, attributeEligibility := none, apply := none }
    else
      let keys := orderBy (fun key => toLex key) (attributeRows.map attributeKeyOf).dedup
      let unresolved := keys.filter fun key => (decisions.get? key).isNone
      if !unresolved.isEmpty then
        .error (.eligibilityMissing unresolved)
      else
        .ok
          { interfaces := some records
            attributeEligibility := some (keys.filterMap fun key =>
              (decisions.get? key).map fun eligible => (key, eligible))
            apply := none }

/-- Resolve the live facts the section's own rows need. -/
def freezeInterfaceProof (live : LiveDevice) (stream : ProjectionStream) (tables : Tables) :
    Except ProjectionError SectionProof :=
  buildInterfaceProof stream tables live.interfaces
    (live.attributeStates.map fun entry => (entry.1, entry.2.eligible))

def freezeProof (live : LiveDevice) (stream : ProjectionStream) (tables : Tables) :
    Except ProjectionError (Option SectionProof) :=
  match stream with
  | .interfaceConfig | .ip => (freezeInterfaceProof live stream tables).map some
  | .staticRoute => .ok (some (freezeStaticRouteProof tables))
  | _ => .ok none

/-- The one authorization-time fragment producer. -/
def freezeFragment (live : LiveDevice) (stream : ProjectionStream) (tables : Tables) :
    Except ProjectionError Fragment := do
  let proof ← freezeProof live stream tables
  return { tables, context := ⟨live.nedId, communityDialectFor live.nedId⟩, proof }

/-! ### Composition -/

/-- The fragments of a device by stream; an unpromoted lane has none. -/
abbrev Fragments := ProjectionStream → Option Fragment

/-- Every stream, in the order `sorted` gives their names. -/
def ProjectionStream.all : List ProjectionStream :=
  [.bfd, .bgp, .interfaceConfig, .interfaceMtu, .ip, .isis, .isisFlexAlgo, .l2Sap, .lag,
    .logging, .ospf, .routePolicy, .snmp, .staticRoute, .subinterface, .svi, .switchport, .vlan]

/-- Every section, in the order of the first stream that contributes to it. -/
def DocumentSection.all : List DocumentSection :=
  [.bfd, .bgp, .interfaceConfig, .interfaceMtu, .isis, .l2Sap, .lag, .logging, .ospf,
    .routePolicy, .snmp, .staticRoute, .subinterface, .svi, .switchport, .vlan]

/-- One nullable field of two interface records; two different values conflict. -/
def mergeField (streams : List ProjectionStream) (interfaceId : Nat) (field : String)
    (previous value : Option String) : Except ProjectionError (Option String) :=
  match previous, value with
  | none, value => .ok value
  | some previous, none => .ok (some previous)
  | some previous, some value =>
    if value = previous then .ok (some previous)
    else .error (.interfaceProofConflict streams interfaceId field)

/-- `_merge_interface_records` of one interface, field by field. -/
def mergeRecord (streams : List ProjectionStream) (existing record : InterfaceRecord) :
    Except ProjectionError InterfaceRecord := do
  let name ← mergeField streams existing.id "name" (some existing.name) (some record.name)
  let kind ← mergeField streams existing.id "kind" existing.kind record.kind
  let parentBinding ← mergeField streams existing.id "parent_binding" existing.parentBinding
    record.parentBinding
  let encapTag ← mergeField streams existing.id "encap_tag" existing.encapTag record.encapTag
  let vrf ← mergeField streams existing.id "vrf" existing.vrf record.vrf
  let service ← mergeField streams existing.id "service" existing.service record.service
  return { id := existing.id, name := name.getD existing.name, kind, parentBinding, encapTag, vrf, service }

def recordingStreams (contributions : List (ProjectionStream × Fragment)) (interfaceId : Nat) : List ProjectionStream :=
  (contributions.filter fun contribution =>
    ((contribution.2.proof.bind (·.interfaces)).bind fun records =>
      Dict.get? records interfaceId).isSome).map (·.1)

/-- `_merge_interface_records`; a conflict over an interface names its streams. -/
def mergeInterfaceRecords (streamsOf : Nat → List ProjectionStream)
    (into : Dict Nat InterfaceRecord) (entry : Nat × InterfaceRecord) :
    Except ProjectionError (Dict Nat InterfaceRecord) :=
  match into.get? entry.1 with
  | none => .ok (into.set entry.1 entry.2)
  | some existing =>
    (mergeRecord (streamsOf entry.1) existing entry.2).map fun merged => into.set entry.1 merged

/-- The proof with no member. -/
def SectionProof.empty : SectionProof :=
  { interfaces := none, attributeEligibility := none, apply := none }

/-- One contribution of `compose_section_execution` to the section's proof. -/
def mergeProof (contributions : List (ProjectionStream × Fragment)) (proof : SectionProof)
    (contribution : ProjectionStream × Fragment) : Except ProjectionError SectionProof :=
  match contribution.2.proof with
  | none => .ok proof
  | some frozen => do
      let interfaces ← match frozen.interfaces with
        | none => pure proof.interfaces
        | some records => do
            let merged ← records.foldlM (mergeInterfaceRecords (recordingStreams contributions))
              (proof.interfaces.getD [])
            pure (some merged)
      let decisions := match frozen.attributeEligibility with
        | none => proof.attributeEligibility
        | some decisions => some (Dict.update (proof.attributeEligibility.getD []) decisions)
      return ⟨interfaces, decisions, frozen.apply.or proof.apply⟩

/-- The context of a section: the owner's, or the only contributor's. -/
def sectionContext (documentSection : DocumentSection)
    (contributions : List (ProjectionStream × Fragment)) : Except ProjectionError SectionContext :=
  match contributions.find? fun entry => entry.1 == documentSection.contextOwner with
  | some owner => .ok owner.2.context
  | none =>
    match contributions with
    | [only] => .ok only.2.context
    | _ => .error (.contextOwnerAbsent documentSection)

/-- The context and the merged proof of a section. -/
def composeSectionExecution (documentSection : DocumentSection) (contributions : List (ProjectionStream × Fragment)) :
    Except ProjectionError (SectionContext × Option SectionProof) := do
  let proof ← contributions.foldlM (mergeProof contributions) .empty
  let context ← sectionContext documentSection contributions
  return (context, if proof = .empty then none else some proof)

def contributionsTo (fragments : Fragments) (documentSection : DocumentSection) : List (ProjectionStream × Fragment) :=
  ProjectionStream.all.filterMap fun stream =>
    if stream.streamSection = documentSection then
      (fragments stream).map fun fragment => (stream, fragment)
    else
      none

/-- The tables of a section: the union of its streams' tables. -/
def sectionTables (contributions : List (ProjectionStream × Fragment)) : Tables :=
  contributions.foldl (fun tables entry => Dict.update tables entry.2.tables) []

/-- One section of `_compose_document`. -/
def composeSection (documentSection : DocumentSection) (contributions : List (ProjectionStream × Fragment)) :
    Except ProjectionError (DocumentSection × SectionBody) := do
  let (context, proof) ← composeSectionExecution documentSection contributions
  return (documentSection,
    { tables := sectionTables contributions, context, proof, operation := none })

def contributors (fragments : Fragments) (documentSection : DocumentSection) :
    Option (List (ProjectionStream × Fragment)) :=
  match contributionsTo fragments documentSection with
  | [] => none
  | contributions => some contributions

/-- A section is present when some stream contributes to it. -/
def composeDocument (fragments : Fragments) : Except ProjectionError Document :=
  (DocumentSection.all.filterMap fun documentSection =>
    (contributors fragments documentSection).map fun contributions =>
      (documentSection, contributions)).mapM fun entry => composeSection entry.1 entry.2

/-- Overlay some streams' fragments on the others'. -/
def Fragments.overlay (authorized promoted : Fragments) : Fragments :=
  fun stream => (promoted stream).or (authorized stream)

/-- The interface lanes of `retained_proof`: retained rows keep their frozen records. -/
def retainInterface (stream : ProjectionStream) (origin : Dict Nat InterfaceRecord)
    (interfaces : Dict Nat InterfaceRecord) (row : Row) :
    Except ProjectionError (Dict Nat InterfaceRecord) :=
  match origin.get? (interfaceIdOf row) with
  | none => .error (.retainedInterfaceUnrecorded (row.get "interface_id"))
  | some record => mergeInterfaceRecords (fun _ => [stream]) interfaces (interfaceIdOf row, record)

def retainEligibility (origin : Dict (Nat × String) Bool) (eligibility : Dict (Nat × String) Bool) (row : Row) :
    Except ProjectionError (Dict (Nat × String) Bool) :=
  if (eligibility.get? (attributeKeyOf row)).isSome then
    .ok eligibility
  else
    match origin.get? (attributeKeyOf row) with
    | none => .error (.retainedEligibilityUnrecorded (row.get "interface_id") (row.get "attribute"))
    | some decision => .ok (eligibility.set (attributeKeyOf row) decision)

/-- Extend the desired proof with what the retained rows carried in the fragment they were retained
from. -/
def retainedProof (stream : ProjectionStream) (desired source : Option SectionProof)
    (retained : Tables) : Except ProjectionError (Option SectionProof) :=
  if retained.all fun entry => entry.2.isEmpty then
    .ok desired
  else
    let result := desired.getD .empty
    let origin := source.getD .empty
    match stream with
    | .interfaceConfig => do
        let interfaces ← (retained.flatMap (·.2)).foldlM
          (retainInterface stream (origin.interfaces.getD [])) (result.interfaces.getD [])
        let eligibility ← (retained.rows .interfaceIntent).foldlM
          (retainEligibility (origin.attributeEligibility.getD []))
          (result.attributeEligibility.getD [])
        return some { result with
          interfaces := some interfaces, attributeEligibility := some eligibility }
    | .ip => do
        let interfaces ← (retained.flatMap (·.2)).foldlM
          (retainInterface stream (origin.interfaces.getD [])) (result.interfaces.getD [])
        return some { result with interfaces := some interfaces }
    | .staticRoute => do
        let plan ← extendApplyPlan result.apply origin.apply (retained.rows .staticRouteIntent)
        return some { result with apply := some plan }
    | _ => .ok (some result)

/-- Drop the carriers that no longer exist. -/
def pruneConsumedCarriers (fragment : Fragment) (existing : List Nat) : Fragment :=
  let consumed := fragment.tables.any fun entry =>
    entry.1.lifecycle && entry.2.any fun row => !existing.contains (idOf row)
  if consumed then
    let tables : Tables := fragment.tables.map fun entry =>
      if entry.1.lifecycle then
        (entry.1, entry.2.filter fun row => existing.contains (idOf row))
      else
        entry
    { fragment with
      tables
      proof := fragment.proof.map fun proof =>
        { proof with
          apply := proof.apply.map fun plan =>
            pruneApplyPlan plan (tables.rows .staticRouteIntent)
              (tables.rows .staticRouteTombstone) } }
  else
    fragment

end NsoAdapter.Projection
