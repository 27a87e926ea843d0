import LogPipe.Proofs.Engine.Invariant
import LogPipe.Proofs.Query.Agreement

/-!
# Ledgers trace runs

A run records a directive when the directive has ended and its table has been admitted.  So
the records are those of the segments before the one that fails, or of all segments; they are
numbered as the segments are, and each starts with the rows that the one before it left.
-/

namespace LogPipe

open LogPipe.Query

/-- The segments are numbered from `first` on. -/
def Query.NumberedFrom (first : Nat) (segments : List Segment) : Prop :=
  ∀ place segment, segments[place]? = some segment → segment.index = first + place

theorem Query.NumberedFrom.head {first : Nat} {segment : Segment} {segments : List Segment}
    (numbered : NumberedFrom first (segment :: segments)) : segment.index = first :=
  numbered 0 segment rfl

theorem Query.NumberedFrom.tail {first : Nat} {segment : Segment} {segments : List Segment}
    (numbered : NumberedFrom first (segment :: segments)) : NumberedFrom (first + 1) segments := by
  intro place other found
  have index := numbered (place + 1) other found
  omega

/-- The segments of a query are numbered from zero on. -/
theorem Query.numberedFrom_splitQuery {query : String} {parts : SplitQuery}
    (parted : splitQuery query = .ok parts) : NumberedFrom 0 parts.segments := by
  intro place segment found
  obtain ⟨pieces, split, -⟩ := Except.bind_eq_ok_iff.mp parted
  have numbered := congrArg (fun seen => seen[place]?) (splitQuery_numbered split parted)
  simp only [List.getElem?_map, found, List.getElem?_zipIdx, Option.map_some] at numbered
  cases piece : pieces.tail[place]? with
  | none =>
      rw [piece] at numbered
      cases numbered
  | some entry =>
      rw [piece] at numbered
      exact (Prod.ext_iff.mp (Option.some.inj numbered)).1

namespace Ledger

/-- Records of the segments of a run that starts with some rows and finishes with some. -/
inductive Records : Nat → Nat → List Segment → List LedgerEntry → Nat → Prop where
  | nothing (place rows : Nat) : Records place rows [] [] rows
  | next {place rows between finish : Nat} {segment : Segment} {segments : List Segment}
      {entries : List LedgerEntry} {invocation : Invocation}
      (resolved : Invocation.ofSegment? segment = some invocation)
      (later : Records (place + 1) between segments entries finish) :
      Records place rows (segment :: segments)
        (⟨place, invocation.directive.name, rows, between⟩ :: entries) finish

/-- What it means that records trace the segments of a run. -/
structure Traces (start : Nat) (segments : List Segment) (entries : List LedgerEntry)
    (finish : Nat) : Prop where
  length : entries.length = segments.length
  index : ∀ {place : Nat} {entry : LedgerEntry}, entries[place]? = some entry → entry.index = place
  directive : ∀ {place : Nat} {entry : LedgerEntry}, entries[place]? = some entry →
    ∃ segment invocation, segments[place]? = some segment ∧
      Invocation.ofSegment? segment = some invocation ∧
      entry.directive = invocation.directive.name
  starts : ∀ {entry : LedgerEntry}, entries[0]? = some entry → entry.rowsIn = start
  chained : ∀ {place : Nat} {entry after : LedgerEntry}, entries[place]? = some entry →
    entries[place + 1]? = some after → after.rowsIn = entry.rowsOut
  finishes : ∀ {entry : LedgerEntry}, entries.getLast? = some entry → entry.rowsOut = finish
  unchanged : entries = [] → start = finish

namespace Records

variable {place start finish : Nat} {segments : List Segment} {entries : List LedgerEntry}

theorem length (records : Records place start segments entries finish) :
    entries.length = segments.length := by
  induction records with
  | nothing => rfl
  | next _ _ induction => rw [List.length_cons, List.length_cons, induction]

theorem index (records : Records place start segments entries finish) {i : Nat}
    {entry : LedgerEntry} (found : entries[i]? = some entry) : entry.index = place + i := by
  induction records generalizing i with
  | nothing => cases found
  | next _ _ induction =>
      cases i with
      | zero =>
          cases found
          rfl
      | succ i =>
          have later := induction found
          omega

theorem directive (records : Records place start segments entries finish) {i : Nat}
    {entry : LedgerEntry} (found : entries[i]? = some entry) :
    ∃ segment invocation, segments[i]? = some segment ∧
      Invocation.ofSegment? segment = some invocation ∧
      entry.directive = invocation.directive.name := by
  induction records generalizing i with
  | nothing => cases found
  | next resolved _ induction =>
      cases i with
      | zero =>
          cases found
          exact ⟨_, _, rfl, resolved, rfl⟩
      | succ i => exact induction found

theorem starts (records : Records place start segments entries finish) {entry : LedgerEntry}
    (found : entries[0]? = some entry) : entry.rowsIn = start := by
  cases records with
  | nothing => cases found
  | next =>
      cases found
      rfl

theorem chained (records : Records place start segments entries finish) {i : Nat}
    {entry after : LedgerEntry} (found : entries[i]? = some entry)
    (follows : entries[i + 1]? = some after) : after.rowsIn = entry.rowsOut := by
  induction records generalizing i with
  | nothing => cases found
  | next _ later induction =>
      cases i with
      | zero =>
          cases found
          exact later.starts follows
      | succ i => exact induction found follows

theorem finishes (records : Records place start segments entries finish) {entry : LedgerEntry}
    (found : entries.getLast? = some entry) : entry.rowsOut = finish := by
  induction records with
  | nothing => cases found
  | next _ later induction =>
      cases later with
      | nothing =>
          cases found
          rfl
      | next => exact induction (by simpa using found)

theorem traces (records : Records 0 start segments entries finish) :
    Traces start segments entries finish where
  length := records.length
  index := fun found => by simpa using records.index found
  directive := records.directive
  starts := records.starts
  chained := records.chained
  finishes := records.finishes
  unchanged := by
    rintro rfl
    cases records
    rfl

end Records

/-- Recording entries one after the other adds them at the end. -/
theorem entries_foldl_record (ledger : Ledger) (entries : List LedgerEntry) :
    (entries.foldl record ledger).entries = ledger.entries ++ entries := by
  induction entries generalizing ledger with
  | nil => simp
  | cons entry entries induction => simp [induction, record]

end Ledger

namespace Engine

variable {σ : Type} [LookupStore σ] {engine : Engine} {nested : NestedRun σ}

/-- What the records of a run of some segments are, by its result. -/
inductive Recorded (place start : Nat) (segments : List Segment) (outcome : Outcome σ) : Prop where
  | finished {table : Table} (done : outcome.result = .ok table)
      (records : Ledger.Records place start segments outcome.entries table.rows)
  | stopped {i finish : Nat} {segment : Segment} {error : DirectiveError}
      (failed : outcome.result = .error (.directive (place + i) segment.keywordText error))
      (found : segments[i]? = some segment)
      (records : Ledger.Records place start (segments.take i) outcome.entries finish)

/-- A segment is recorded when it has ended, and nothing is recorded of one that fails. -/
theorem recorded_runSegments {place : Nat} {segments : List Segment}
    (numbered : NumberedFrom place segments) (table : Table) (store : σ) :
    Recorded place table.rows segments (engine.runSegments nested table store segments) := by
  induction segments generalizing place table store with
  | nil => exact .finished rfl (.nothing place table.rows)
  | cons segment segments induction =>
      rw [runSegments]
      rcases ran : engine.runSegment nested segment table store with ⟨result, left⟩
      cases result with
      | error error =>
          have failed : (⟨.error (.directive segment.index segment.keywordText error), [], left⟩ :
              Outcome σ).result = .error (.directive (place + 0) segment.keywordText error) := by
            simp only [numbered.head, Nat.add_zero]
          exact .stopped failed rfl (.nothing place table.rows)
      | ok made =>
          obtain ⟨name, next⟩ := made
          obtain ⟨invocation, resolved, rfl, -, -⟩ := runSegment_eq_ok_iff.mp ran
          simp only [numbered.head]
          cases induction numbered.tail next left with
          | finished done records => exact .finished done (.next resolved records)
          | @stopped i _ _ error failed found records =>
              rw [Nat.add_right_comm, Nat.add_assoc] at failed
              exact .stopped (i := i + 1) failed found (.next resolved records)

theorem directive?_of_startTable {split : SplitQuery} {error : QueryError}
    (failed : engine.startTable split = .error error) : error.directive? = none := by
  rw [startTable] at failed
  split at failed
  · next unselected =>
      cases failed
      split at unselected
      · cases unselected
      · obtain ⟨_, -, rfl⟩ := Except.mapError_eq_error_iff.mp unselected
        rfl
  · split at failed
    · cases failed
      rfl
    · cases failed

/-- A query fails before its first directive and records nothing, or its segments are run. -/
theorem recorded_execute (engine : Engine) (query : String) (store : σ) :
    (∃ error, (engine.execute query store).result = .error error ∧ error.directive? = none ∧
      (engine.execute query store).entries = []) ∨
    ∃ parts start, splitQuery query = .ok parts ∧ engine.startTable parts = .ok start ∧
      Recorded 0 start.rows parts.segments (engine.execute query store) := by
  rw [execute, runQuery]
  cases parted : splitQuery query with
  | error error => exact .inl ⟨_, rfl, rfl, rfl⟩
  | ok parts =>
      simp only
      cases started : engine.startTable parts with
      | error error => exact .inl ⟨error, rfl, directive?_of_startTable started, rfl⟩
      | ok start =>
          exact .inr ⟨parts, start, rfl, started,
            recorded_runSegments (numberedFrom_splitQuery parted) start store⟩

/-- The ledger of a query traces it.  With a fresh ledger, a query that ends with a table has
one record for each of its segments, from the rows of its first table to those of its last.
One that fails in a directive has those of the segments before it.  One that fails before its
first directive has none.  Queries inside directives record nothing. -/
theorem ledger_traces_execute {σ : Type} [LookupStore σ] (engine : Engine) (query : String)
    (store : σ) (requestId : Option String) :
    let outcome := engine.execute query store
    let records := (outcome.entries.foldl Ledger.record ⟨requestId, []⟩).entries
    (∀ table, outcome.result = .ok table →
      ∃ parts start, splitQuery query = .ok parts ∧ engine.startTable parts = .ok start ∧
        Ledger.Traces start.rows parts.segments records table.rows) ∧
    (∀ error place keyword, outcome.result = .error error →
      error.directive? = some (place, keyword) →
      ∃ parts start segment finish, splitQuery query = .ok parts ∧
        engine.startTable parts = .ok start ∧ parts.segments[place]? = some segment ∧
        segment.keywordText = keyword ∧ records.length = place ∧
        Ledger.Traces start.rows (parts.segments.take place) records finish) ∧
    ∀ error, outcome.result = .error error → error.directive? = none → records = [] := by
  intro outcome records
  have kept : records = outcome.entries := Ledger.entries_foldl_record _ _
  rw [kept]
  obtain ⟨error, failed, early, nothing⟩ | ⟨parts, start, parted, started, recorded⟩ :=
    engine.recorded_execute query store
  · refine ⟨fun table done => ?_, fun other place keyword same late => ?_, fun _ _ _ => nothing⟩
    · rw [failed] at done
      cases done
    · rw [failed] at same
      cases same
      rw [early] at late
      cases late
  · cases recorded with
    | @finished table done records =>
        refine ⟨fun other same => ?_, fun error _ _ failed _ => ?_, fun error failed _ => ?_⟩
        · rw [done] at same
          cases same
          exact ⟨parts, start, parted, started, records.traces⟩
        · rw [done] at failed
          cases failed
        · rw [done] at failed
          cases failed
    | @stopped i finish segment source stopped found records =>
        rw [Nat.zero_add] at stopped
        refine ⟨fun table done => ?_, fun error place keyword failed named => ?_,
          fun error failed unnamed => ?_⟩
        · rw [stopped] at done
          cases done
        · rw [stopped] at failed
          cases failed
          cases named
          have short : min i parts.segments.length = i :=
            Nat.min_eq_left (Nat.le_of_lt (List.getElem?_eq_some_iff.mp found).1)
          exact ⟨parts, start, segment, finish, parted, started, found, rfl,
            by rw [records.length, List.length_take, short], records.traces⟩
        · rw [stopped] at failed
          cases failed
          cases unnamed

/-- A query that runs a query inside it and then fails. -/
def failingQuery : String :=
  "index=web | append [index=web | head 1] | fields absent"

/-- The query inside records nothing, and neither does the stage that fails. -/
theorem ledger_traces_execute_failing :
    ∃ parts start finish, splitQuery failingQuery = .ok parts ∧
      webEngine.startTable parts = .ok start ∧
      Ledger.Traces start.rows (parts.segments.take 1) [⟨0, "append", 2, 3⟩] finish := by
  let outcome := webEngine.execute failingQuery hostOwners
  have recorded : (outcome.result.mapError QueryError.directive?).map Table.rows =
        .error (some (1, "fields")) ∧
      (outcome.entries.foldl Ledger.record ⟨none, []⟩).entries = [⟨0, "append", 2, 3⟩] := by
    decide +kernel
  obtain ⟨error, failed, named⟩ :=
    Except.mapError_eq_error_iff.mp (Except.map_eq_error_iff.mp recorded.1)
  obtain ⟨-, fails, -⟩ := ledger_traces_execute webEngine failingQuery hostOwners none
  obtain ⟨parts, start, _, finish, parted, started, -, -, -, traces⟩ :=
    fails error 1 "fields" failed named
  rw [recorded.2] at traces
  exact ⟨parts, start, finish, parted, started, traces⟩

end Engine

end LogPipe
