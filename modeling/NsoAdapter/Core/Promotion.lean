import NsoAdapter.Core.Content
import NsoAdapter.Intent.Receipt
import NsoAdapter.Projection.Compose

/-! What the promotion of a stream must deliver (`core/generation.py`): its
deletions by marking, its content-losing and positive edits, and the links of the
ordered chain they are scheduled on. -/

namespace NsoAdapter.Core
open Lib Projection Store StaticRoute
open Intent

/-- The tables of an authorized document; a stream never promoted has none. -/
def fragmentTables (fragment : Option Fragment) : Tables :=
  (fragment.map (·.tables)).getD []

def explicitDeletionMarkings (records : List DeletionRecord) : Dict DeletionIdentity Marking :=
  records.foldl (fun markings record =>
    match promotionDeletionIdentity record with
    | none => markings
    | some identity => markings.set identity record.marking) []

/-- The marking of one deleted row: its key's record wins over its route id's, and
that over its row id's. -/
def deletionMarking (explicit : Dict DeletionIdentity Marking) (default : Marking)
    (table : IntentTable) (row : Row) : Marking :=
  let byId := match row.get "id" with
    | .num _ => (explicit.get? (.id table (idOf row))).getD default
    | _ => default
  let byRouteId := match routeIdOf row with
    | some routeId => (explicit.get? (.routeId table routeId)).getD byId
    | none => byId
  (explicit.get? (.key table (tripleOf row))).getD byRouteId

/-- The route ids the desired rows still correlate. -/
def successorRouteIds (table : IntentTable) (desiredRows : Dict Identity Row) : List Nat :=
  match table with
  | .staticRouteIntent => desiredRows.filterMap fun entry => routeIdOf entry.2
  | _ => []

/-- Whether a correlated key move keeps the row, which is then no removal. -/
def movedKey (successors : List Nat) (row : Row) : Bool :=
  match routeIdOf row with
  | some routeId => successors.contains routeId
  | none => false

def deletedRows (table : IntentTable) (oldRows desiredRows : Dict Identity Row) : List Row :=
  (oldRows.filter fun entry => isIntentDeletion table entry.1 desiredRows &&
    !movedKey (successorRouteIds table desiredRows) entry.2).map (·.2)

/-- `target.setdefault(table, []).append(row)` for the rows of one table. -/
def group (table : IntentTable) (rows : List Row) : Tables :=
  if rows.isEmpty then [] else [(table, rows)]

/-- One table of `_fragment_deletions`: the networked and the detached rows. -/
def tableDeletions (oldTables desiredTables : Tables) (explicit : Dict DeletionIdentity Marking)
    (default : Marking) (table : IntentTable) : Except ProjectionError (Tables × Tables) := do
  let desiredRows ← rowsByIntentIdentity desiredTables table
  let oldRows ← rowsByIntentIdentity oldTables table
  let deleted := deletedRows table oldRows desiredRows
  let networked := fun row => deletionMarking explicit default table row == .deleteOrigin
  return (group table (deleted.filter networked),
    group table (deleted.filter fun row => !networked row))

/-- Removed rows split into networked and detach groups. -/
def fragmentDeletions (old : Option Fragment) (desired : Tables) (records : List DeletionRecord)
    (deleteOrigin : Bool) : Except ProjectionError (Tables × Tables) := do
  let oldTables := fragmentTables old
  let groups ← (oldTables.map (·.1)).mapM (tableDeletions oldTables desired
    (explicitDeletionMarkings records) (if deleteOrigin then .deleteOrigin else .detach))
  return (groups.flatMap (·.1), groups.flatMap (·.2))

/-- One table of `_retain_rows`. -/
def retainTable (stream : ProjectionStream) (tables : Tables) (retained : IntentTable × List Row) :
    Except ProjectionError Tables :=
  let combined := tables.rows retained.1 ++ retained.2
  if (combined.map idOf).Nodup then
    .ok (Dict.set tables retained.1 (orderBy idOf combined))
  else
    .error (.retainedDuplicateId stream retained.1)

/-- Overlay the detached rows on the desired fragment. -/
def retainRows (desired : Fragment) (retained : Tables) (stream : ProjectionStream)
    (source : Option Fragment) : Except ProjectionError Fragment := do
  let tables ← retained.foldlM (retainTable stream) desired.tables
  let proof ← retainedProof stream desired.proof (source.bind (·.proof)) retained
  return { tables, context := desired.context, proof := proof.or desired.proof }

def editSatisfies (edit : Json → Json → Bool) (table : IntentTable) (before after : Row) :
    Except ProjectionError Bool := do
  let previous ← projectionRowState table before
  let next ← projectionRowState table after
  return edit (.obj previous) (.obj next)

/-- The old rows of one table that `_content_losing_rows` returns. -/
def losingRows (oldTables desiredTables : Tables) (table : IntentTable) : Except ProjectionError Tables := do
  let desiredRows ← rowsByIntentIdentity desiredTables table
  let oldRows ← rowsByIntentIdentity oldTables table
  let losing ← oldRows.filterM fun entry =>
    match desiredRows.get? entry.1 with
    | none => .ok false
    | some after => editSatisfies lostContent table entry.2 after
  return group table (losing.map (·.2))

def contentLosingRows (oldTables desiredTables : Tables) : Except ProjectionError Tables := do
  let groups ← (oldTables.map (·.1)).mapM (losingRows oldTables desiredTables)
  return groups.flatten

/-- One table of `_has_positive_delta`. -/
def positiveTable (oldTables desiredTables : Tables) (table : IntentTable) : Except ProjectionError Bool := do
  let oldRows ← rowsByIntentIdentity oldTables table
  let desiredRows ← rowsByIntentIdentity desiredTables table
  desiredRows.anyM fun entry =>
    match oldRows.get? entry.1 with
    | none => .ok true
    | some before => editSatisfies hasPositiveContent table before entry.2

def hasPositiveDelta (oldTables desiredTables : Tables) : Except ProjectionError Bool :=
  ((oldTables.map (·.1) ++ desiredTables.map (·.1)).dedup).anyM
    (positiveTable oldTables desiredTables)

/-- The identities and states of one table of `_logical_table_state`. -/
def logicalRows (tables : Tables) (table : IntentTable) : Except ProjectionError (Dict Identity Row) := do
  let rows ← rowsByIntentIdentity tables table
  rows.mapM fun entry => do
    let state ← projectionRowState table entry.2
    return (entry.1, state)

/-- Durable identity to intent values, table by table. -/
def logicalTableState (tables : Tables) : Except ProjectionError (Dict IntentTable (Dict Identity Row)) :=
  (tables.map (·.1)).mapM fun table => do
    let rows ← logicalRows tables table
    return (table, rows)

/-- Whether two indexed tables hold the same states under the same identities. -/
def sameRows (left right : Dict Identity Row) : Bool :=
  (left ++ right).all fun entry =>
    match left.get? entry.1, right.get? entry.1 with
    | some before, some after => before.same after
    | _, _ => false

def tablesUnchanged (oldTables desiredTables : Tables) : Except ProjectionError Bool := do
  let before ← logicalTableState oldTables
  let after ← logicalTableState desiredTables
  return (before ++ after).all fun entry =>
    match before.get? entry.1, after.get? entry.1 with
    | some left, some right => sameRows left right
    | _, _ => false

/-- Some identity of both fragments has another state. -/
def retainedTablesChanged (oldTables desiredTables : Tables) : Except ProjectionError Bool := do
  let before ← logicalTableState oldTables
  let after ← logicalTableState desiredTables
  return after.any fun table => table.2.any fun entry =>
    match ((Dict.get? before table.1).getD []).get? entry.1 with
    | none => false
    | some state => !state.same entry.2

end NsoAdapter.Core
