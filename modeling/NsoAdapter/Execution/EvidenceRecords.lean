import NsoAdapter.Execution.OriginProperties
import NsoAdapter.Lib.JsonStore

/-! The durable form of execution evidence (`store/execution_evidence.py`): the origins of an
attempt and its logical rows as JSON records, and their readers. -/

namespace NsoAdapter.Execution
open Lib Projection Json

theorem optionalNum_eq (value : Option Nat) : optionalNum value = nullable (fun number : Nat => .num number) value := by
  cases value <;> rfl

theorem optionalStr_eq (value : Option String) : optionalStr value = nullable .str value := by
  cases value <;> rfl

/-! ### Records -/

def joinRecord (join : String × Nat) : Json :=
  .arr [.str join.1, .num join.2]

def sourceRecord (source : SourceRef) : Json :=
  .obj [("source_table", .str source.sourceTable),
    ("frozen_row_identity", .arr (source.frozenRowIdentity.map fun rowId => .num (rowId : Nat))),
    ("content_identity", .str source.contentIdentity),
    ("frozen_revision", optionalNum source.frozenRevision),
    ("accepted_at", optionalStr (source.acceptedAt.map (·.text))),
    ("live_stamp_join", nullable joinRecord source.liveStampJoin)]

def logicalRecord (logical : LogicalRow) : Json :=
  .obj (logical.publicRecord ++
    [("sources", .arr (logical.sourceRefs.map sourceRecord)),
      ("carrier_content_identity", .str logical.carrier.contentIdentity),
      ("carrier_source_table", .str logical.carrier.sourceTable)])

def OriginOperation.name : OriginOperation → String
  | .removal => "removal"
  | .clear => "clear"

def FailureReason.name : FailureReason → String
  | .missingBinding => "missing_binding"
  | .mixedStream => "mixed_stream"
  | .missingBaselineProvenance => "missing_baseline_provenance"
  | .missingRemovalProvenance => "missing_removal_provenance"
  | .missingNaturalKey => "missing_natural_key"
  | .invalidSourceIdentity => "invalid_source_identity"

def authorityRecord (authority : OriginAuthority) : Json :=
  .obj [("generation_id", .num authority.generationId),
    ("stream", .str (streamName authority.stream)),
    ("frozen_revision", .num authority.frozenRevision),
    ("operation", .str authority.operation.name), ("row", authority.row.record),
    ("fields", .arr (authority.fields.map .str))]

def keyMembers (key : OriginKey) : List (String × Json) :=
  [("family", .str key.family), ("row", key.row.record), ("field", optionalStr key.field)]

def bindingRecord (entry : OriginKey × OriginBinding) : Json :=
  .obj (keyMembers entry.1 ++
    [("stream", .str (streamName entry.2.stream)), ("construct", .str entry.2.construct),
      ("provenance", .str entry.2.provenance.name),
      ("sources", .arr (entry.2.sources.map sourceRecord)),
      ("logical_rows", .arr (entry.2.logicalRows.map logicalRecord)),
      ("baseline_attempt_id", optionalNum entry.2.baselineAttemptId),
      ("entry_fingerprint", optionalStr entry.2.entryFingerprint),
      ("authority", nullable authorityRecord entry.2.authority)])

def unsupportedRecord (entry : OriginKey × FailureReason) : Json :=
  .obj (keyMembers entry.1 ++
    [("unsupported_reason", .str entry.2.name), ("logical_rows", .arr [])])

def unsupportedSubjectRecord (entry : String × FailureReason) : Json :=
  .obj [("subject", .str entry.1), ("unsupported_reason", .str entry.2.name),
    ("logical_rows", .arr [])]

def originRecords (origins : OriginIndex) : List Json :=
  origins.bindings.map bindingRecord ++ (origins.unsupported.map unsupportedRecord ++
    origins.unsupportedSubjects.map unsupportedSubjectRecord)

/-! ### Readers -/

variable (fromisoformat : String → Option AcceptedAt)

def rowFromRecord (record : Json) : Option RowRef := do
  return ⟨← (record.member "subject").text?, ← (record.member "key").text?⟩

def streams : List ProjectionStream :=
  [.bfd, .bgp, .interfaceConfig, .interfaceMtu, .ip, .isis, .isisFlexAlgo, .l2Sap, .lag,
    .logging, .ospf, .routePolicy, .snmp, .staticRoute, .subinterface, .svi, .switchport, .vlan]

def failureReasons : List FailureReason :=
  [.missingBinding, .mixedStream, .missingBaselineProvenance, .missingRemovalProvenance,
    .missingNaturalKey, .invalidSourceIdentity]

def acceptedFromRecord (record : Json) : Option AcceptedAt :=
  record.text?.bind fromisoformat

def joinFromRecord : Json → Option (String × Nat)
  | .arr [table, rowId] => do return (← table.text?, ← rowId.nat?)
  | _ => none

def sourceFromRecord (record : Json) : Option SourceRef := do
  return ⟨← (record.member "source_table").text?,
    ← (record.member "frozen_row_identity").items? nat?,
    ← (record.member "content_identity").text?,
    ← (record.member "frozen_revision").nullable? nat?,
    ← (record.member "accepted_at").truthy? (acceptedFromRecord fromisoformat),
    ← (record.member "live_stamp_join").truthy? joinFromRecord⟩

/-- The carrier of `logical_from_record`, from the row's record and its public part. -/
def ownerFromRecord (record carrier : Json) : Option SettlementOwner := do
  return ⟨← (carrier.member "stream").named? streamName streams,
    ← (record.member "carrier_source_table").text?,
    ← rowFromRecord (carrier.member "row"),
    ← (carrier.member "source_push_seq").nullable? nat?,
    ← (carrier.member "frozen_revision").nullable? nat?,
    ← (carrier.member "accepted_at").truthy? (acceptedFromRecord fromisoformat),
    ← (carrier.member "generation_id").nullable? nat?,
    ← (carrier.member "settlement_cohort").nullable? nat?,
    ← (record.member "carrier_content_identity").text?⟩

def logicalFromRecord (record : Json) : Option LogicalRow := do
  return ⟨← (record.member "stream").named? streamName streams,
    ← rowFromRecord (record.member "row"),
    ← (record.member "sources").items? (sourceFromRecord fromisoformat),
    ← (record.member "source_push_seq").nullable? nat?,
    ← (record.member "frozen_revision").nullable? nat?,
    ← (record.member "acceptance_identity").nullable? text?,
    ← (record.member "generation_id").nullable? nat?,
    ← (record.member "settlement_cohort").nullable? nat?,
    ← ownerFromRecord fromisoformat record (record.member "carrier")⟩

def authorityFromRecord (record : Json) : Option OriginAuthority := do
  return ⟨← (record.member "generation_id").nat?,
    ← (record.member "stream").named? streamName streams,
    ← (record.member "frozen_revision").nat?,
    ← (record.member "operation").named? OriginOperation.name [.removal, .clear],
    ← rowFromRecord (record.member "row"),
    ← (record.member "fields").items? text?⟩

def bindingFromRecord (record : Json) : Option OriginBinding := do
  return ⟨← (record.member "stream").named? streamName streams,
    ← (record.member "sources").items? (sourceFromRecord fromisoformat),
    ← (record.member "construct").text?,
    ← (record.member "provenance").named? Provenance.name [.current, .retained, .prior],
    ← (record.member "logical_rows").items? (logicalFromRecord fromisoformat),
    ← (record.member "baseline_attempt_id").nullable? nat?,
    ← (record.member "entry_fingerprint").nullable? text?,
    ← (record.member "authority").nullable? authorityFromRecord⟩

def keyFromRecord (record : Json) : Option OriginKey := do
  return ⟨← (record.member "family").text?, ← rowFromRecord (record.member "row"),
    ← (record.member "field").nullable? text?⟩

def reasonFromRecord (record : Json) : Option FailureReason :=
  (record.member "unsupported_reason").named? FailureReason.name failureReasons

def addRecord (origins : OriginIndex) (record : Json) : Option OriginIndex :=
  if !record.has "family" then do
    let subject ← (record.member "subject").text?
    let reason ← reasonFromRecord record
    return { origins with unsupportedSubjects := origins.unsupportedSubjects.set subject reason }
  else if record.has "unsupported_reason" then do
    let key ← keyFromRecord record
    let reason ← reasonFromRecord record
    return { origins with unsupported := origins.unsupported.set key reason }
  else do
    let key ← keyFromRecord record
    let binding ← bindingFromRecord fromisoformat record
    return { origins with bindings := origins.bindings.set key binding }

def originsFromRecords (records : List Json) : Option OriginIndex :=
  records.foldlM (addRecord fromisoformat) .empty

/-! ### Round trips -/

variable {fromisoformat}

theorem RowRef.record_distinct (row : RowRef) : row.record.Distinct := by
  simp [RowRef.record]

@[simp] theorem optionalNum_distinct (value : Option Nat) : (optionalNum value).Distinct := by
  cases value <;> exact trivial

@[simp] theorem optionalStr_distinct (value : Option String) : (optionalStr value).Distinct := by
  cases value <;> exact trivial

theorem sourceRecord_distinct (source : SourceRef) : (sourceRecord source).Distinct := by
  have join : (nullable joinRecord source.liveStampJoin).Distinct := distinct_nullable fun _ _ => by simp [joinRecord]
  simp [sourceRecord, join]

theorem SettlementOwner.publicRecord_distinct (owner : SettlementOwner) : Distinct (.obj owner.publicRecord) := by
  simp [SettlementOwner.publicRecord, owner.rootRow.record_distinct]

theorem logicalRecord_distinct (logical : LogicalRow) : (logicalRecord logical).Distinct := by
  have carrier := distinct_obj.mp logical.carrier.publicRecord_distinct
  simpa [logicalRecord, LogicalRow.publicRecord, logical.row.record_distinct, sourceRecord_distinct] using carrier

theorem authorityRecord_distinct (authority : OriginAuthority) : (authorityRecord authority).Distinct := by
  simp [authorityRecord, authority.row.record_distinct]

theorem bindingRecord_distinct (entry : OriginKey × OriginBinding) : (bindingRecord entry).Distinct := by
  have authority : (nullable authorityRecord entry.2.authority).Distinct :=
    distinct_nullable fun authority _ => authorityRecord_distinct authority
  simp [bindingRecord, keyMembers, entry.1.row.record_distinct, sourceRecord_distinct, logicalRecord_distinct, authority]

theorem unsupportedRecord_distinct (entry : OriginKey × FailureReason) : (unsupportedRecord entry).Distinct := by
  simp [unsupportedRecord, keyMembers, entry.1.row.record_distinct]

theorem unsupportedSubjectRecord_distinct (entry : String × FailureReason) : (unsupportedSubjectRecord entry).Distinct := by
  simp [unsupportedSubjectRecord]

/-- A datetime that `fromisoformat` reads back from its text. -/
structure AcceptedAt.Dated (fromisoformat : String → Option AcceptedAt) (accepted : AcceptedAt) :
    Prop where
  text : accepted.text ≠ ""
  read : fromisoformat accepted.text = some accepted

def SourceRef.Dated (fromisoformat : String → Option AcceptedAt) (source : SourceRef) : Prop :=
  ∀ accepted ∈ source.acceptedAt, accepted.Dated fromisoformat

structure LogicalRow.Dated (fromisoformat : String → Option AcceptedAt) (logical : LogicalRow) :
    Prop where
  sources : ∀ source ∈ logical.sourceRefs, source.Dated fromisoformat
  carrier : ∀ accepted ∈ logical.carrier.acceptedAt, accepted.Dated fromisoformat

structure OriginBinding.Dated (fromisoformat : String → Option AcceptedAt)
    (binding : OriginBinding) : Prop where
  sources : ∀ source ∈ binding.sources, source.Dated fromisoformat
  rows : ∀ logical ∈ binding.logicalRows, logical.Dated fromisoformat

theorem reads_optionalNum (value : Option Nat) : Reads optionalNum (nullable? nat?) value := by
  rw [show optionalNum = nullable fun number : Nat => .num number from funext optionalNum_eq]
  exact .nullable nofun fun number _ => reads_nat number

theorem reads_optionalStr (value : Option String) : Reads optionalStr (nullable? text?) value := by
  rw [show optionalStr = nullable .str from funext optionalStr_eq]
  exact .nullable nofun fun text _ => reads_text text

theorem reads_accepted {value : Option AcceptedAt} (dated : ∀ accepted ∈ value, accepted.Dated fromisoformat) :
    Reads (fun value => optionalStr (value.map (·.text))) (truthy? (acceptedFromRecord fromisoformat)) value := by
  rw [show (fun value : Option AcceptedAt => optionalStr (value.map (·.text))) =
    nullable fun accepted => .str accepted.text from funext fun value => by cases value <;> rfl]
  refine .truthy ?_ ?_
  · intro accepted present loaded stored
    rw [stored.str]
    simpa [Json.truthy] using (dated accepted present).text
  · intro accepted present loaded stored
    rw [stored.str]
    exact (dated accepted present).read

theorem reads_join (value : Option (String × Nat)) : Reads (nullable joinRecord) (truthy? joinFromRecord) value := by
  refine .truthy ?_ ?_
  · rintro ⟨table, rowId⟩ - loaded stored
    obtain ⟨loads, rfl, related⟩ := stored.arr
    cases related
    rfl
  · rintro ⟨table, rowId⟩ - loaded stored
    obtain ⟨loads, rfl, related⟩ := stored.arr
    cases related with
    | cons first rest =>
      cases rest with
      | cons second last =>
        cases last
        rw [first.str, second.num]
        rfl

theorem reads_row (row : RowRef) : Reads RowRef.record rowFromRecord row := by
  intro loaded stored
  have part := stored.member row.record_distinct
  have subject := reads_text row.subject _ (part "subject")
  have key := reads_text row.key _ (part "key")
  unfold rowFromRecord
  rw [subject, key]
  rfl

theorem reads_stream (stream : ProjectionStream) : Reads (fun stream => .str (streamName stream)) (named? streamName streams) stream :=
  reads_named (by cases stream <;> decide)

theorem reads_reason (reason : FailureReason) :
    Reads (fun reason => .str (FailureReason.name reason)) (named? FailureReason.name failureReasons) reason :=
  reads_named (by cases reason <;> decide)

theorem reads_source {source : SourceRef} (dated : source.Dated fromisoformat) :
    Reads sourceRecord (sourceFromRecord fromisoformat) source := by
  intro loaded stored
  have part := stored.member (sourceRecord_distinct source)
  have table := reads_text source.sourceTable _ (part "source_table")
  have identity := Reads.items (fun rowId _ => reads_nat rowId) _ (part "frozen_row_identity")
  have content := reads_text source.contentIdentity _ (part "content_identity")
  have revision := reads_optionalNum source.frozenRevision _ (part "frozen_revision")
  have accepted := reads_accepted dated _ (part "accepted_at")
  have join := reads_join source.liveStampJoin _ (part "live_stamp_join")
  unfold sourceFromRecord
  rw [table, identity, content, revision, accepted, join]
  rfl

variable {logical : LogicalRow} {loaded : Json}

theorem reads_owner (dated : logical.Dated fromisoformat) (stored : Stored (logicalRecord logical) loaded) :
    ownerFromRecord fromisoformat loaded (loaded.member "carrier") = some logical.carrier := by
  have whole := stored.member (logicalRecord_distinct logical)
  have part := (whole "carrier").member logical.carrier.publicRecord_distinct
  have stream := reads_stream logical.carrier.stream _ (part "stream")
  have table := reads_text logical.carrier.sourceTable _ (whole "carrier_source_table")
  have row := reads_row logical.carrier.rootRow _ (part "row")
  have push := reads_optionalNum logical.carrier.sourcePushSeq _ (part "source_push_seq")
  have revision := reads_optionalNum logical.carrier.frozenRevision _ (part "frozen_revision")
  have accepted := reads_accepted dated.carrier _ (part "accepted_at")
  have generation := reads_optionalNum logical.carrier.generationId _ (part "generation_id")
  have cohort := reads_optionalNum logical.carrier.settlementCohort _ (part "settlement_cohort")
  have content := reads_text logical.carrier.contentIdentity _ (whole "carrier_content_identity")
  unfold ownerFromRecord
  rw [stream, table, row, push, revision, accepted, generation, cohort, content]
  rfl

theorem reads_logical (dated : logical.Dated fromisoformat) : Reads logicalRecord (logicalFromRecord fromisoformat) logical := by
  intro loaded stored
  have part := stored.member (logicalRecord_distinct logical)
  have stream := reads_stream logical.stream _ (part "stream")
  have row := reads_row logical.row _ (part "row")
  have sources := Reads.items (fun source member => reads_source (dated.sources source member)) _ (part "sources")
  have push := reads_optionalNum logical.sourcePushSeq _ (part "source_push_seq")
  have revision := reads_optionalNum logical.frozenRevision _ (part "frozen_revision")
  have acceptance := reads_optionalStr logical.acceptanceIdentity _ (part "acceptance_identity")
  have generation := reads_optionalNum logical.generationId _ (part "generation_id")
  have cohort := reads_optionalNum logical.settlementCohort _ (part "settlement_cohort")
  have owner := reads_owner dated stored
  unfold logicalFromRecord
  rw [stream, row, sources, push, revision, acceptance, generation, cohort, owner]
  rfl

theorem reads_authority (authority : OriginAuthority) : Reads authorityRecord authorityFromRecord authority := by
  intro loaded stored
  have part := stored.member (authorityRecord_distinct authority)
  have generation := reads_nat authority.generationId _ (part "generation_id")
  have stream := reads_stream authority.stream _ (part "stream")
  have revision := reads_nat authority.frozenRevision _ (part "frozen_revision")
  have operation : (loaded.member "operation").named? OriginOperation.name [.removal, .clear] = some authority.operation :=
    reads_named (by cases authority.operation <;> decide) _ (part "operation")
  have row := reads_row authority.row _ (part "row")
  have fields := Reads.items (fun field _ => reads_text field) _ (part "fields")
  unfold authorityFromRecord
  rw [generation, stream, revision, operation, row, fields]
  rfl

theorem reads_key {key : OriginKey} {rest : List (String × Json)} (distinct : Distinct (.obj (keyMembers key ++ rest)))
    (stored : Stored (.obj (keyMembers key ++ rest)) loaded) :
    keyFromRecord loaded = some key := by
  have part := stored.member distinct
  have family := reads_text key.family _ (part "family")
  have row := reads_row key.row _ (part "row")
  have field := reads_optionalStr key.field _ (part "field")
  unfold keyFromRecord
  rw [family, row, field]
  rfl

theorem reads_binding {entry : OriginKey × OriginBinding} (dated : entry.2.Dated fromisoformat)
    (stored : Stored (bindingRecord entry) loaded) :
    bindingFromRecord fromisoformat loaded = some entry.2 := by
  have part := stored.member (bindingRecord_distinct entry)
  have stream := reads_stream entry.2.stream _ (part "stream")
  have sources := Reads.items (fun source member => reads_source (dated.sources source member)) _ (part "sources")
  have construct := reads_text entry.2.construct _ (part "construct")
  have provenance : (loaded.member "provenance").named? Provenance.name [.current, .retained, .prior] = some entry.2.provenance :=
    reads_named (by cases entry.2.provenance <;> decide) _ (part "provenance")
  have rows := Reads.items (fun logical member => reads_logical (dated.rows logical member)) _ (part "logical_rows")
  have baseline := reads_optionalNum entry.2.baselineAttemptId _ (part "baseline_attempt_id")
  have fingerprint := reads_optionalStr entry.2.entryFingerprint _ (part "entry_fingerprint")
  have authority : (loaded.member "authority").nullable? authorityFromRecord = some entry.2.authority :=
    Reads.nullable (fun _ found => by cases found) (fun authority _ => reads_authority authority) _ (part "authority")
  unfold bindingFromRecord
  rw [stream, sources, construct, provenance, rows, baseline, fingerprint, authority]
  rfl

/-! One loaded record adds the entry that it was written for. -/

theorem addRecord_binding {entry : OriginKey × OriginBinding} (dated : entry.2.Dated fromisoformat)
    (stored : Stored (bindingRecord entry) loaded) (origins : OriginIndex) :
    addRecord fromisoformat origins loaded = some { origins with bindings := origins.bindings.set entry.1 entry.2 } := by
  have distinct := bindingRecord_distinct entry
  have family : loaded.has "family" = true := stored.has distinct "family"
  have reason : loaded.has "unsupported_reason" = false := stored.has distinct "unsupported_reason"
  unfold addRecord
  rw [family, reason, reads_key distinct stored, reads_binding dated stored]
  rfl

theorem addRecord_unsupported {entry : OriginKey × FailureReason}
    (stored : Stored (unsupportedRecord entry) loaded) (origins : OriginIndex) :
    addRecord fromisoformat origins loaded = some { origins with unsupported := origins.unsupported.set entry.1 entry.2 } := by
  have distinct := unsupportedRecord_distinct entry
  have family : loaded.has "family" = true := stored.has distinct "family"
  have present : loaded.has "unsupported_reason" = true := stored.has distinct "unsupported_reason"
  have reason : reasonFromRecord loaded = some entry.2 := reads_reason entry.2 _ (stored.member distinct "unsupported_reason")
  unfold addRecord
  rw [family, present, reads_key distinct stored, reason]
  rfl

theorem addRecord_unsupportedSubject {entry : String × FailureReason}
    (stored : Stored (unsupportedSubjectRecord entry) loaded) (origins : OriginIndex) :
    addRecord fromisoformat origins loaded =
      some { origins with
        unsupportedSubjects := origins.unsupportedSubjects.set entry.1 entry.2 } := by
  have distinct := unsupportedSubjectRecord_distinct entry
  have family : loaded.has "family" = false := stored.has distinct "family"
  have subject := reads_text entry.1 _ (stored.member distinct "subject")
  have reason : reasonFromRecord loaded = some entry.2 := reads_reason entry.2 _ (stored.member distinct "unsupported_reason")
  unfold addRecord
  rw [family, subject, reason]
  rfl

theorem foldl_bindings (origins : OriginIndex) (entries : Dict OriginKey OriginBinding) :
    entries.foldl (fun (origins : OriginIndex) entry =>
      { origins with bindings := origins.bindings.set entry.1 entry.2 }) origins =
      { origins with bindings := origins.bindings.update entries } :=
  List.foldl_hom (fun bindings => { origins with bindings }) fun _ _ => rfl

theorem foldl_unsupported (origins : OriginIndex) (entries : Dict OriginKey FailureReason) :
    entries.foldl (fun (origins : OriginIndex) entry =>
      { origins with unsupported := origins.unsupported.set entry.1 entry.2 }) origins =
      { origins with unsupported := origins.unsupported.update entries } :=
  List.foldl_hom (fun unsupported => { origins with unsupported }) fun _ _ => rfl

theorem foldl_unsupportedSubjects (origins : OriginIndex) (entries : Dict String FailureReason) :
    entries.foldl (fun (origins : OriginIndex) entry =>
      { origins with
        unsupportedSubjects := origins.unsupportedSubjects.set entry.1 entry.2 }) origins =
      { origins with unsupportedSubjects := origins.unsupportedSubjects.update entries } :=
  List.foldl_hom (fun unsupportedSubjects => { origins with unsupportedSubjects }) fun _ _ => rfl

theorem originsFromRecords_stored {origins : OriginIndex} (keyed : origins.Keyed)
    (dated : ∀ entry ∈ origins.bindings, entry.2.Dated fromisoformat) {loads : List Json}
    (stored : Stored (.arr (originRecords origins)) (.arr loads)) :
    originsFromRecords fromisoformat loads = some { origins with retained := [], omitted := [] } := by
  obtain ⟨_, ⟨⟩, related⟩ := stored.arr
  obtain ⟨first, others, rfl, bindings, rest⟩ := forall₂_append_left related
  obtain ⟨second, third, rfl, unsupported, subjects⟩ := forall₂_append_left rest
  rw [List.forall₂_map_left_iff] at bindings unsupported subjects
  have readBindings := foldlM_of_forall₂ (fun entry member _ own => addRecord_binding (dated entry member) own) bindings
  have readUnsupported := foldlM_of_forall₂ (fun _ _ _ own => @addRecord_unsupported fromisoformat _ _ own) unsupported
  have readSubjects := foldlM_of_forall₂ (fun _ _ _ own => @addRecord_unsupportedSubject fromisoformat _ _ own) subjects
  unfold originsFromRecords
  rw [List.foldlM_append, readBindings, foldl_bindings, Option.bind_eq_bind, Option.bind_some,
    List.foldlM_append, readUnsupported, foldl_unsupported, Option.bind_eq_bind, Option.bind_some,
    readSubjects, foldl_unsupportedSubjects]
  -- each part is written into an empty dictionary, so its entries keep their order
  unfold OriginIndex.empty
  rw [Dict.update_of_nodup_append keyed.bindings, Dict.update_of_nodup_append keyed.unsupported,
    Dict.update_of_nodup_append keyed.subjects, List.nil_append, List.nil_append, List.nil_append]

theorem Emission.yields_true (emission : Emission) (context : OriginContext) : emission.Yields context fun _ => True := by
  rcases emission with ⟨_, _, _ | _, _⟩ | _ | _ | _ <;> simp [Emission.Yields]

theorem mem_currentMembership {origins : OriginIndex} {context : OriginContext} (member : logical ∈ currentMembership origins context) :
    ∃ entry ∈ origins.bindings, logical ∈ entry.2.logicalRows := by
  obtain ⟨entry, kept, own⟩ := List.mem_flatMap.mp (List.mem_eraseDups.mp member)
  exact ⟨entry, List.mem_of_mem_filter kept, List.mem_of_mem_filter own⟩

/-- What the store returns for the origins of a document attributes refusals as the origins do, with
every logical row. -/
theorem persisted_evidence_loses_nothing (protocol : RefusalProtocol)
    (fromisoformat : String → Option AcceptedAt) (run : EncoderRun) (origins : OriginIndex)
    (encoded : run.origins protocol = .ok origins)
    (dated : ∀ entry ∈ origins.bindings, entry.2.Dated fromisoformat) :
    (∀ loaded, Stored (.arr (originRecords origins)) loaded → ∃ records restored, loaded = .arr records ∧
        originsFromRecords fromisoformat records = some restored ∧
        ∀ refusals, resolveRefusals refusals restored = resolveRefusals refusals origins) ∧
      ∀ context, ∀ logical ∈ currentMembership origins context, ∀ loaded, Stored (logicalRecord logical) loaded →
          logicalFromRecord fromisoformat loaded = some logical := by
  obtain ⟨rows, recorded, _⟩ := run.recorded (fun _ _ emission _ => emission.yields_true _) encoded
  refine ⟨fun loaded stored => ?_, fun context logical member loaded stored => ?_⟩
  · obtain ⟨records, rfl, _⟩ := stored.arr
    exact ⟨records, _, rfl, originsFromRecords_stored recorded.toKeyed dated stored, fun _ => rfl⟩
  · obtain ⟨entry, bound, own⟩ := mem_currentMembership member
    exact reads_logical ((dated entry bound).rows logical own) loaded stored

section Scenario

def vlanProtocol : RefusalProtocol where
  subjects := fun subject =>
    if subject = "vlan" then some ⟨"vlan", []⟩
    else if subject = "vlan.vlan" then some ⟨"vlan", ["name"]⟩ else none
  familyKey := id

def vlanStamp : AcceptedAt := ⟨"2026-01-01T00:00:00+00:00", true⟩

/-- Two VLANs, of which the second has no binding. -/
def vlanRun : EncoderRun where
  context := ⟨⟨some 4, [(.vlan, some 9)], [(.vlan, 2)], some 4⟩, []⟩
  sections := [⟨"vlan",
    [.logical ⟨"vlan.vlan", "10"⟩ ⟨.vlan, "vlan_intent", some 1, "c10", some vlanStamp, true⟩ none [],
      .emit ⟨"vlan.vlan", "10"⟩ [0] none none none, .markUnsupported ⟨"vlan.vlan", "20"⟩]⟩]
  retained := []
  omitted := []

theorem vlan_evidence_survives : ∃ origins, vlanRun.origins vlanProtocol = .ok origins ∧
    origins.bindings.length = 3 ∧ ∀ loaded, Stored (.arr (originRecords origins)) loaded →
      ∃ records restored, loaded = .arr records ∧ originsFromRecords (fun _ => some vlanStamp) records = some restored ∧
        ∀ refusals, resolveRefusals refusals restored = resolveRefusals refusals origins := by
  have found : (vlanRun.origins vlanProtocol).toOption.any (fun origins =>
      origins.bindings.length == 3 && origins.bindings.all fun entry =>
        entry.2.sources.all (·.acceptedAt == some vlanStamp) && entry.2.logicalRows.all fun logical =>
            logical.sourceRefs.all (·.acceptedAt == some vlanStamp) && logical.carrier.acceptedAt == some vlanStamp) = true := by
    decide +kernel
  obtain ⟨origins, encoded, holds⟩ := toOption_any_eq_true found
  simp only [Bool.and_eq_true, beq_iff_eq, List.all_eq_true] at holds
  have stamped : ∀ {value : Option AcceptedAt}, value = some vlanStamp → ∀ accepted ∈ value, accepted.Dated fun _ => some vlanStamp := by
    rintro _ rfl accepted ⟨⟩
    exact ⟨by decide, rfl⟩
  refine ⟨origins, encoded, holds.1, (persisted_evidence_loses_nothing vlanProtocol
    (fun _ => some vlanStamp) vlanRun origins encoded fun entry member => ?_).1⟩
  obtain ⟨sources, rows⟩ := holds.2 entry member
  exact ⟨fun source own => stamped (sources source own), fun logical own =>
    ⟨fun source inner => stamped ((rows logical own).1 source inner), stamped (rows logical own).2⟩⟩

end Scenario

end NsoAdapter.Execution
