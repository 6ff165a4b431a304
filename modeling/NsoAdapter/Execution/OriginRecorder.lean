import NsoAdapter.Execution.Evidence
import NsoAdapter.Lib.Outcome

/-! The origins of an encoded document (`nso/origins.py`). A section's encoder records each row
it reads and binds the constructs it emits to those rows, and the sections are merged into the
index of the device's document. -/

namespace NsoAdapter.Execution
open Lib Projection

structure FrozenContext where
  generationId : Option Nat
  sourcePushSeq : Dict ProjectionStream (Option Nat)
  streamRevisions : Dict ProjectionStream Nat
  settlementCohort : Option Nat

/-- The executed generation, and the one each carried stream has its authority from. -/
structure OriginContext extends FrozenContext where
  streamContexts : Dict ProjectionStream FrozenContext

def OriginContext.forStream (context : OriginContext) (stream : ProjectionStream) : FrozenContext :=
  (context.streamContexts.get? stream).getD context.toFrozenContext

structure Subject where
  family : String
  fields : List String

/-- What the refusal protocol declares: its subjects, and the key of a family's own row. -/
structure RefusalProtocol where
  subjects : String → Option Subject
  familyKey : String → String

inductive OriginError where
  | duplicateOrigin
  | unknownSubject (subject : String)

/-- What `source_ref` reads of a row; the content is hashed with the content of its children. -/
structure SourceFacts where
  stream : ProjectionStream
  table : String
  rowId : Option Nat
  contentIdentity : String
  acceptedAt : Option AcceptedAt
  stampable : Bool

def sourceRef (context : OriginContext) (facts : SourceFacts) : SourceRef where
  sourceTable := facts.table
  frozenRowIdentity := facts.rowId.toList
  contentIdentity := facts.contentIdentity
  frozenRevision := context.streamRevisions.get? facts.stream
  acceptedAt := facts.acceptedAt
  liveStampJoin := if facts.stampable then facts.rowId.map fun rowId => (facts.table, rowId) else none

def OriginContext.owner (context : OriginContext) (row : RowRef) (stream : ProjectionStream)
    (source : SourceRef) : SettlementOwner :=
  let frozen := context.forStream stream
  { stream, sourceTable := source.sourceTable, rootRow := row
    sourcePushSeq := (frozen.sourcePushSeq.get? stream).join
    frozenRevision := source.frozenRevision, acceptedAt := source.acceptedAt
    generationId := frozen.generationId, settlementCohort := frozen.settlementCohort
    contentIdentity := source.contentIdentity }

/-- The logical row of a source row, carried by itself unless it has a carrier. -/
def OriginContext.contributor (context : OriginContext) (row : RowRef) (facts : SourceFacts)
    (carrier : Option SettlementOwner) (children : List SourceFacts) : LogicalRow :=
  let frozen := context.forStream facts.stream
  let source := sourceRef context facts
  let carrier := carrier.getD (context.owner row facts.stream source)
  let acceptance := source.acceptedAt.or carrier.acceptedAt
  { stream := facts.stream, row, sourceRefs := source :: children.map (sourceRef context)
    sourcePushSeq := (frozen.sourcePushSeq.get? facts.stream).join
    frozenRevision := source.frozenRevision
    acceptanceIdentity := acceptance.map (·.text)
    generationId := frozen.generationId, settlementCohort := frozen.settlementCohort
    carrier }

structure OriginRecorder where
  family : String
  context : OriginContext
  index : OriginIndex
  contributors : List LogicalRow

variable (protocol : RefusalProtocol)

def subjectOf (family subject : String) : Except OriginError Subject :=
  match protocol.subjects subject with
  | some declared => if declared.family = family then .ok declared else .error (.unknownSubject subject)
  | none => .error (.unknownSubject subject)

namespace OriginIndex

/-- `mark_unsupported` of one construct or field. -/
def markKey (preserveCurrent : Bool) (reason : FailureReason) (index : OriginIndex) (key : OriginKey) : OriginIndex :=
  if preserveCurrent && (index.bindings.get? key).any (·.provenance == .current) then index
  else { index with
    bindings := index.bindings.filter fun entry => entry.1 != key
    unsupported := index.unsupported.set key reason }

def markUnsupported (index : OriginIndex) (family : String) (row : RowRef) (reason : FailureReason)
    (preserveCurrent : Bool) : Except OriginError OriginIndex :=
  match protocol.subjects row.subject with
  | none => .error (.unknownSubject row.subject)
  | some declared =>
    .ok ((none :: declared.fields.map some).foldl (fun index field =>
      index.markKey preserveCurrent reason ⟨family, row, field⟩) index)

/-- `record_retained`, of an entry's row and fingerprint. -/
def recordRetained (index : OriginIndex) (contribution : RetainedContribution) : Except OriginError OriginIndex := do
  let marked ← markUnsupported protocol
    { index with retained := index.retained ++ [contribution] } "static-route" contribution.row
    .missingBaselineProvenance false
  markUnsupported protocol marked "static-route"
    ⟨"static-route", protocol.familyKey "static-route"⟩ .missingBaselineProvenance false

def recordOmission (index : OriginIndex) (contribution : PriorContribution) : Except OriginError OriginIndex :=
  markUnsupported protocol { index with omitted := index.omitted ++ [contribution] }
    contribution.family contribution.row .missingRemovalProvenance true

def keys (index : OriginIndex) : List OriginKey :=
  index.bindings.map (·.1) ++ index.unsupported.map (·.1)

def merge (index other : OriginIndex) : Except OriginError OriginIndex :=
  if index.keys.any other.keys.contains then .error .duplicateOrigin
  else .ok
    { bindings := index.bindings.update other.bindings
      unsupported := index.unsupported.update other.unsupported
      unsupportedSubjects := index.unsupportedSubjects.update other.unsupportedSubjects
      retained := index.retained ++ other.retained
      omitted := index.omitted ++ other.omitted }

end OriginIndex

namespace OriginRecorder

def logical (recorder : OriginRecorder) (row : RowRef) (facts : SourceFacts)
    (carrier : Option SettlementOwner) (children : List SourceFacts) :
    Except OriginError OriginRecorder := do
  let _ ← subjectOf protocol recorder.family row.subject
  if recorder.contributors.any fun known => known.stream == facts.stream && known.row == row then
    throw .duplicateOrigin
  else
    return { recorder with
      contributors := recorder.contributors ++ [recorder.context.contributor row facts carrier children] }

def bind (recorder : OriginRecorder) (key : OriginKey) (logicals : List LogicalRow)
    (construct : String) (sources : Option (List SourceRef)) : Except OriginError OriginRecorder :=
  let index := recorder.index
  if (index.bindings.get? key).isSome || (index.unsupported.get? key).isSome then
    .error .duplicateOrigin
  else
    match logicals with
    | [] => .ok { recorder with
        index := { index with unsupported := index.unsupported.set key .missingBinding } }
    | first :: rest =>
      if rest.all fun other => other.stream == first.stream then
        .ok { recorder with
          index := { index with
            bindings := index.bindings.set key
              { stream := first.stream
                sources := sources.getD (logicals.flatMap (·.sourceRefs)).eraseDups
                construct, provenance := .current, logicalRows := logicals
                baselineAttemptId := none, entryFingerprint := none, authority := none } } }
      else
        .ok { recorder with
          index := { index with unsupported := index.unsupported.set key .mixedStream } }

def emitField (row : RowRef) (logicals : List LogicalRow)
    (fieldRows : Option (Dict String (List LogicalRow))) (sources : Option (List SourceRef))
    (fieldSources : Option (Dict String (List SourceRef))) (recorder : OriginRecorder)
    (declared : String) : Except OriginError OriginRecorder :=
  let owners := ((fieldRows.bind (·.get? declared)).map List.eraseDups).getD logicals
  let refs := match fieldSources with
    | some sources => sources.get? declared
    | none => if owners = logicals then sources else none
  recorder.bind ⟨recorder.family, row, some declared⟩ owners row.subject refs

def emit (recorder : OriginRecorder) (row : RowRef) (logicalRows : List LogicalRow)
    (fieldRows : Option (Dict String (List LogicalRow))) (sources : Option (List SourceRef))
    (fieldSources : Option (Dict String (List SourceRef))) : Except OriginError OriginRecorder := do
  let subject ← subjectOf protocol recorder.family row.subject
  let logicals := logicalRows.eraseDups
  let bound ← recorder.bind ⟨recorder.family, row, none⟩ logicals row.subject sources
  subject.fields.foldlM (emitField row logicals fieldRows sources fieldSources) bound

/-- The family itself is bound to every row. -/
def finish (recorder : OriginRecorder) : Except OriginError OriginRecorder :=
  if recorder.contributors.isEmpty then .ok recorder
  else emit protocol recorder ⟨recorder.family, protocol.familyKey recorder.family⟩
    recorder.contributors none none none

end OriginRecorder

/-! ### Encoder runs -/

/-- One call of an encoder. Rows are named by their place among the rows it has recorded. -/
inductive Emission where
  | logical (row : RowRef) (facts : SourceFacts) (carrier : Option Nat)
      (children : List SourceFacts)
  | emit (row : RowRef) (rows : List Nat) (fieldRows : Option (Dict String (List Nat)))
      (sources : Option (List SourceFacts)) (fieldSources : Option (Dict String (List SourceFacts)))
  | unsupportedSubject (subject : String)
  | markUnsupported (row : RowRef)

namespace OriginRecorder

def rowsAt (recorder : OriginRecorder) (places : List Nat) : List LogicalRow :=
  places.filterMap fun place => recorder.contributors[place]?

/-- One call of an encoder. Peers, address families and LAG members are carried by another row; an
unknown place records nothing. -/
def perform (recorder : OriginRecorder) : Emission → Except OriginError OriginRecorder
  | .logical row facts none children => logical protocol recorder row facts none children
  | .logical row facts (some place) children =>
    match recorder.contributors[place]? with
    | none => .ok recorder
    | some known => logical protocol recorder row facts (some known.carrier) children
  | .emit row rows fieldRows sources fieldSources =>
    let refs := List.map (sourceRef recorder.context)
    emit protocol recorder row (recorder.rowsAt rows)
      (fieldRows.map (List.map fun entry => (entry.1, recorder.rowsAt entry.2)))
      (sources.map refs) (fieldSources.map (List.map fun entry => (entry.1, refs entry.2)))
  | .unsupportedSubject subject => .ok { recorder with
      index := { recorder.index with
        unsupportedSubjects := recorder.index.unsupportedSubjects.set subject .missingNaturalKey } }
  | .markUnsupported row => do
      let index ← recorder.index.markUnsupported protocol recorder.family row .missingBinding false
      return { recorder with index }

end OriginRecorder

structure SectionRun where
  family : String
  emissions : List Emission

def SectionRun.record (run : SectionRun) (context : OriginContext) : Except OriginError OriginRecorder := do
  let recorder ← run.emissions.foldlM (OriginRecorder.perform protocol)
    ⟨run.family, context, .empty, []⟩
  recorder.finish protocol

/-- The run that encodes a document: its sections, and the route entries that the body retains or
leaves out. -/
structure EncoderRun where
  context : OriginContext
  sections : List SectionRun
  retained : List RetainedContribution
  omitted : List PriorContribution

/-- `encode_device_document` and what `build_device_containers` records beside it. -/
def EncoderRun.origins (run : EncoderRun) : Except OriginError OriginIndex := do
  let merged ← run.sections.foldlM (fun (index : OriginIndex) encoder => do
    let recorder ← encoder.record protocol run.context
    index.merge recorder.index) .empty
  let kept ← run.retained.foldlM (OriginIndex.recordRetained protocol) merged
  run.omitted.foldlM (OriginIndex.recordOmission protocol) kept

def currentMembership (origins : OriginIndex) (context : OriginContext) : List LogicalRow :=
  ((origins.bindings.filter fun entry => entry.2.provenance == .current).flatMap fun entry =>
    entry.2.logicalRows.filter fun logical =>
      match context.streamContexts.get? logical.stream with
      | none => false
      | some carried =>
        logical.generationId == carried.generationId &&
          logical.frozenRevision == carried.streamRevisions.get? logical.stream &&
          logical.sourcePushSeq == (carried.sourcePushSeq.get? logical.stream).join).eraseDups

end NsoAdapter.Execution
