import NsoAdapter.Lib.Json
import NsoAdapter.Lib.Outcome

/-! The outcome store of read-mirror refreshes: an attempt is recorded before the mirror is
written and terminalized after, and a pointer for each family names the newest terminal
attempt. -/

namespace NsoAdapter.Refresh
open Lib

/-- `ALL_FAMILY_KEYS`. -/
inductive ReadFamily where
  | lag
  | logging
  | snmp
  | bgp
  | svi
  | subinterface
  | interfaceIp
  | isis
  | vlan
  | switchport
  | bfd
  | l2Service
  | staticRoute
  | interfaceMtu
  | lagConfig
  | ospf
  | routePolicy
  | redistribution
  | interfaceAttributes
  deriving DecidableEq

/-- The keys of `OBSERVERS`. -/
def observers : List ReadFamily :=
  [.interfaceAttributes, .interfaceIp, .vlan, .redistribution, .routePolicy, .lagConfig, .lag,
    .switchport, .interfaceMtu, .svi, .subinterface, .bfd, .l2Service, .logging, .snmp,
    .staticRoute, .bgp, .isis, .ospf]

inductive UnavailableReason where
  | exportDown
  | readError
  | notAuthoritative
  | unsupported
  | notReady
  | notCovered

inductive ReadOutcome where
  | present (data : Json)
  | absentAuthoritative
  | unavailable (reason : UnavailableReason)

/-- The `read_outcome` column. -/
inductive ReadColumn where
  | present
  | absentAuthoritative
  | unavailable
  deriving DecidableEq

/-- `_decompose`. -/
def ReadOutcome.column : ReadOutcome → ReadColumn
  | .present _ => .present
  | .absentAuthoritative => .absentAuthoritative
  | .unavailable _ => .unavailable

inductive RefreshResult where
  | replaced
  | cleared
  | kept
  | error
  | superseded
  deriving DecidableEq

/-- One refresh attempt; it is terminal once it has a result. -/
structure RefreshOutcome where
  id : Nat
  family : ReadFamily
  sourceEpoch : Nat
  readOutcome : ReadColumn
  result : Option RefreshResult
  succeeded : Option Bool
  rowCount : Option Nat

structure RefreshOutcomePointer where
  attemptId : Nat
  payloadRevision : Option Nat
  deriving DecidableEq

structure ReadObservation where
  revision : Nat
  sourceEpoch : Nat
  coverage : Json
  document : Json

structure ObservationDocument where
  family : ReadFamily
  coverage : Json
  document : Json

structure Publication where
  pointer : Option RefreshOutcomePointer
  observations : List ReadObservation
  mirror : List Json

def Publication.empty : Publication := ⟨none, [], []⟩

def Publication.payload (publication : Publication) : Option Nat :=
  publication.pointer.bind (·.payloadRevision)

/-- The row of a new attempt. -/
def recordReadOutcome (attemptId : Nat) (family : ReadFamily) (outcome : ReadOutcome)
    (sourceEpoch : Nat) : RefreshOutcome :=
  ⟨attemptId, family, sourceEpoch, outcome.column, none, none, none⟩

/-- The arguments of `stage_result`. -/
structure StageRequest where
  result : RefreshResult
  succeeded : Bool
  rowCount : Option Nat := none
  publishPayload : Option Bool := none
  observation : Option ObservationDocument := none

def RefreshResult.authoritative : RefreshResult → Bool
  | .replaced | .cleared => true
  | .kept | .error | .superseded => false

def StageRequest.publishes (request : StageRequest) : Bool :=
  request.publishPayload.getD request.result.authoritative

inductive StageError where
  | noObserver (family : ReadFamily)
  | observationRequired (family : ReadFamily)
  | familyMismatch
  | publicationNotAuthoritative
  | revisionTaken

/-- The refusals of `stage_result`. -/
def checkObservation (row : RefreshOutcome) (request : StageRequest) : Except StageError Unit :=
  match request.observation with
  | none =>
    if row.family ∈ observers ∧ request.publishes = true then
      .error (.observationRequired row.family)
    else
      .ok ()
  | some observation =>
    if row.family ∉ observers then
      .error (.noObserver row.family)
    else if observation.family ≠ row.family then
      .error .familyMismatch
    else if request.publishes && (!request.succeeded || !request.result.authoritative ||
        row.readOutcome == .unavailable) then
      .error .publicationNotAuthoritative
    else
      .ok ()

def superseded (epoch : Nat) (pointer : Option RefreshOutcomePointer) (row : RefreshOutcome) : Bool :=
  epoch != row.sourceEpoch || pointer.any fun current => decide (row.id < current.attemptId)

def publicationIsCurrent (epoch : Nat) (publication : Publication) (row : RefreshOutcome) : Bool :=
  epoch == row.sourceEpoch && publication.pointer.all fun current =>
    decide (current.attemptId ≤ row.id)

/-- `_pointer_advance_stmt`: the upsert, and the attempt id it returns if it wrote. -/
def pointerAdvance (pointer : Option RefreshOutcomePointer) (attemptId : Nat) (publish : Bool) :
    RefreshOutcomePointer × Option Nat :=
  match pointer with
  | none => (⟨attemptId, if publish then some attemptId else none⟩, some attemptId)
  | some current =>
    if current.attemptId < attemptId then
      (⟨attemptId, if publish then some attemptId else current.payloadRevision⟩, some attemptId)
    else
      (current, none)

def observationRow (row : RefreshOutcome) (observation : ObservationDocument) : ReadObservation :=
  ⟨row.id, row.sourceEpoch, observation.coverage, observation.document⟩

/-- The new observation is inserted, then every other revision is deleted. -/
def publishObservation (row : RefreshOutcome) (observation : ObservationDocument)
    (observations : List ReadObservation) : Except StageError (List ReadObservation) :=
  if observations.any fun stored => stored.revision == row.id then
    .error .revisionTaken
  else
    .ok ((observations ++ [observationRow row observation]).filter fun stored =>
      stored.revision == row.id)

def stageObservation (row : RefreshOutcome) (request : StageRequest) (selected : Bool)
    (observations : List ReadObservation) : Except StageError (List ReadObservation) :=
  match request.observation with
  | none => .ok observations
  | some observation =>
    if selected && request.publishes then publishObservation row observation observations
    else .ok observations

/-- What `stage_result` leaves in the transaction, and whether it selected the pointer. -/
structure StagedResult where
  row : RefreshOutcome
  publication : Publication
  selected : Bool

def RefreshOutcome.supersede (row : RefreshOutcome) : RefreshOutcome :=
  { row with result := some .superseded, succeeded := some true, rowCount := none }

def RefreshOutcome.finish (row : RefreshOutcome) (request : StageRequest) : RefreshOutcome :=
  { row with result := some request.result, succeeded := some request.succeeded,
             rowCount := request.rowCount }

/-- `stage_result`, in a transaction that holds the family fence. -/
def stageResult (epoch : Nat) (publication : Publication) (row : RefreshOutcome)
    (request : StageRequest) : Except StageError StagedResult := do
  checkObservation row request
  if superseded epoch publication.pointer row then
    return ⟨row.supersede, publication, false⟩
  else
    let advanced := pointerAdvance publication.pointer row.id request.publishes
    let selected := advanced.2 == some row.id
    let observations ← stageObservation row request selected publication.observations
    return ⟨row.finish request, { publication with pointer := some advanced.1, observations },
      selected⟩

inductive PublicationError where
  | multipleRows
  | noMatchingObservation

/-- The pointed attempt, its payload revision and the observation at that revision and epoch. -/
def getCurrentPublication (attempts : Nat → Option RefreshOutcome) (publication : Publication) (sourceEpoch : Nat) :
    Except PublicationError (Option (RefreshOutcome × Option Nat × Option ReadObservation)) :=
  match publication.pointer with
  | none => .ok none
  | some pointer =>
    match attempts pointer.attemptId with
    | none => .ok none
    | some row =>
      match publication.observations.filter fun stored =>
          some stored.revision == pointer.payloadRevision && stored.sourceEpoch == sourceEpoch with
      | [] =>
        if pointer.payloadRevision.isSome then .error .noMatchingObservation
        else .ok (some (row, none, none))
      | [observation] => .ok (some (row, pointer.payloadRevision, some observation))
      | _ => .error .multipleRows

/-! ### One call of `stage_result` -/

theorem pointerAdvance_cases (pointer : Option RefreshOutcomePointer) (attemptId : Nat) (publish : Bool) :
    (pointerAdvance pointer attemptId publish =
        (⟨attemptId, if publish then some attemptId else pointer.bind (·.payloadRevision)⟩, some attemptId) ∧
      ∀ current, pointer = some current → current.attemptId < attemptId) ∨
    ∃ current, pointer = some current ∧ attemptId ≤ current.attemptId ∧
      pointerAdvance pointer attemptId publish = (current, none) := by
  cases pointer with
  | none => exact .inl ⟨rfl, by simp⟩
  | some current =>
    by_cases newer : current.attemptId < attemptId
    · refine .inl ⟨?_, ?_⟩
      · simp [pointerAdvance, newer]
      · simp [newer]
    · exact .inr ⟨current, rfl, Nat.le_of_not_lt newer, by simp [pointerAdvance, newer]⟩

variable {row : RefreshOutcome}

theorem publishObservation_ok {observation : ObservationDocument} {before after : List ReadObservation}
    (published : publishObservation row observation before = .ok after) :
    after = [observationRow row observation] := by
  unfold publishObservation at published
  split at published
  · cases published
  rename_i free
  cases published
  have others : before.filter (fun stored => stored.revision == row.id) = [] := by
    simpa using free
  rw [List.filter_append, others]
  simp [observationRow]

variable {request : StageRequest}

theorem stageObservation_cases {selected : Bool} {before after : List ReadObservation}
    (staged : stageObservation row request selected before = .ok after) :
    (∃ observation, request.observation = some observation ∧ selected = true ∧ request.publishes = true ∧
      after = [observationRow row observation]) ∨
    after = before ∧ (request.observation = none ∨ selected = false ∨ request.publishes = false) := by
  unfold stageObservation at staged
  cases given : request.observation with
  | none =>
    rw [given] at staged
    cases staged
    exact .inr ⟨rfl, .inl rfl⟩
  | some observation =>
    rw [given] at staged
    dsimp only at staged
    split at staged
    · rename_i publishes
      obtain ⟨chosen, publishes⟩ := by simpa using publishes
      exact .inl ⟨observation, rfl, chosen, publishes, publishObservation_ok staged⟩
    · rename_i withheld
      cases staged
      refine .inr ⟨rfl, .inr ?_⟩
      cases selected with
      | false => exact .inl rfl
      | true => exact .inr (by simpa using withheld)

theorem checkObservation_required (checked : checkObservation row request = .ok ()) (observed : row.family ∈ observers)
    (publishes : request.publishes = true) : ∃ observation, request.observation = some observation := by
  unfold checkObservation at checked
  cases given : request.observation with
  | none =>
    rw [given] at checked
    simp [observed, publishes] at checked
  | some observation => exact ⟨observation, rfl⟩

/-- `stage_result` supersedes the attempt, advances the pointer to it, or terminalizes the pointed
attempt once more. -/
theorem stageResult_cases {epoch : Nat} {publication : Publication} {staged : StagedResult}
    (run : stageResult epoch publication row request = .ok staged) :
    (superseded epoch publication.pointer row = true ∧ staged = ⟨row.supersede, publication, false⟩) ∨
    (superseded epoch publication.pointer row = false ∧ staged.row = row.finish request ∧
      staged.selected = true ∧ staged.publication.mirror = publication.mirror ∧
      (∀ current, publication.pointer = some current → current.attemptId < row.id) ∧
      ((request.publishes = true ∧ staged.publication.pointer = some ⟨row.id, some row.id⟩ ∧
          ((row.family ∈ observers → request.observation.isSome = true) ∧
          ((request.observation = none ∧ staged.publication.observations = publication.observations) ∨
            ∃ observation, staged.publication.observations = [observationRow row observation]))) ∨
        (request.publishes = false ∧ staged.publication.pointer = some ⟨row.id, publication.payload⟩ ∧
          staged.publication.observations = publication.observations))) ∨
    (superseded epoch publication.pointer row = false ∧ staged.row = row.finish request ∧
      staged.selected = false ∧ staged.publication = publication ∧
      ∃ current, publication.pointer = some current ∧ current.attemptId = row.id) := by
  obtain ⟨_, checked, run⟩ := bind_eq_ok.mp run
  by_cases old : superseded epoch publication.pointer row = true
  · rw [if_pos old] at run
    cases run
    exact .inl ⟨old, rfl⟩
  · rw [if_neg old] at run
    have live : superseded epoch publication.pointer row = false := by simpa using old
    obtain ⟨observations, observes, returned⟩ := bind_eq_ok.mp run
    cases returned
    rcases pointerAdvance_cases publication.pointer row.id request.publishes with
      ⟨advanced, newer⟩ | ⟨current, pointed, notNewer, kept⟩
    · rw [advanced] at observes ⊢
      refine .inr (.inl ⟨live, rfl, by simp, rfl, newer, ?_⟩)
      cases publishes : request.publishes with
      | true =>
        refine .inl ⟨rfl, by simp, fun observed => ?_, ?_⟩
        · obtain ⟨observation, given⟩ := checkObservation_required checked observed publishes
          rw [given]
          rfl
        · rcases stageObservation_cases observes with
            ⟨observation, _, _, _, after⟩ | ⟨after, absent | unselected | withheld⟩
          · exact .inr ⟨observation, after⟩
          · exact .inl ⟨absent, after⟩
          · simp at unselected
          · rw [publishes] at withheld
            cases withheld
      | false =>
        refine .inr ⟨rfl, by simp [Publication.payload], ?_⟩
        rcases stageObservation_cases observes with ⟨_, _, _, published, _⟩ | ⟨after, _⟩
        · rw [publishes] at published
          cases published
        · exact after
    · rw [kept] at observes ⊢
      have equal : current.attemptId = row.id := by
        simp [superseded, pointed] at live
        omega
      refine .inr (.inr ⟨live, rfl, by simp, ?_, current, pointed, equal⟩)
      rcases stageObservation_cases observes with ⟨_, _, chosen, _⟩ | ⟨after, _⟩
      · simp at chosen
      · rw [after, ← pointed]

end NsoAdapter.Refresh
