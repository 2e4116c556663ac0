import ClpCore.TimestampPattern.Defs
import Mathlib.Algebra.Order.BigOperators.Group.List

/-!
# `SQLiteDB`: the handle of one SQLite database

`SQLiteDB` holds the handle `m_db_handle` of the database it opened, `nullptr` where it holds
none. `open` hands the handle to `sqlite3_open` to write; where that does not return `SQLITE_OK`,
it closes the object again and throws `OperationFailed` with `ErrorCode_Failure`. `close` hands
the handle to `sqlite3_close` and clears it, unless that answers `SQLITE_BUSY` (statements of the
database are not finalised yet): then it keeps the handle and returns false. `prepare_statement`
throws `OperationFailed` with `ErrorCode_NotInit` where the object holds no handle.

The SQLite library is not part of this model: `sqlite3_open` and `sqlite3_close` are parameters,
over a library state of their own, and the results hold for every choice of them. What the
library does with its connections (`sqlite3_open` opens the one whose handle it writes,
`sqlite3_close` closes the one it is handed unless it answers `SQLITE_BUSY`) is `Sqlite3.Sound`,
a hypothesis of the results that count connections.

## Main definitions

- `Sqlite3` — `sqlite3_open` and `sqlite3_close`
- `SQLiteDB.open`, `SQLiteDB.close`, `SQLiteDB.prepareStatement` — the three methods
- `SQLiteDB.Call`, `SQLiteDB.run` — a sequence of calls on one object

## Main results

- `SQLiteDB.run_connections` — on every run that opens only an object holding no handle, the
  library has open exactly the connection the object holds
- `SQLiteDB.open_loses_connection` — `open` on an object that holds a connection loses it: the
  connection stays open, and no later call of the object closes it
-/

namespace ClpCore

/-- `SQLITE_OK`. -/
def sqliteOk : Int := 0

/-- `SQLITE_BUSY`. -/
def sqliteBusy : Int := 5

/-- The SQLite library as `SQLiteDB` calls it, over the library's state `L`, with handles `H`:
`sqlite3_open` returns a result code and writes a handle (`none` for `nullptr`), and
`sqlite3_close` returns a result code. -/
structure Sqlite3 (L H : Type) where
  sqlite3Open : L → String → (Int × Option H) × L
  sqlite3Close : L → Option H → Int × L

/-- What the library does with its connections, `connections l` being those it has open in state
`l`: `sqlite3_open` opens the one whose handle it writes, and `sqlite3_close` closes the one it is
handed unless it answers `SQLITE_BUSY` (closing `nullptr` closes none). -/
structure Sqlite3.Sound {L H : Type} [DecidableEq H] (lib : Sqlite3 L H)
    (connections : L → List H) : Prop where
  open_connections : ∀ l path, connections (lib.sqlite3Open l path).2 =
    connections l ++ (lib.sqlite3Open l path).1.2.toList
  close_connections : ∀ l dbHandle, connections (lib.sqlite3Close l dbHandle).2 =
    if sqliteBusy = (lib.sqlite3Close l dbHandle).1 then connections l
    else (connections l).filter (fun h => some h ≠ dbHandle)

/-- A library whose connections are numbered: `sqlite3_open` opens the one numbered one past the
sum of those open, and fails (`SQLITE_CANTOPEN`) on an empty path after writing its handle;
`sqlite3_close` closes the one it is handed. -/
def referenceLibrary : Sqlite3 (List Nat) Nat where
  sqlite3Open connections path :=
    ((if path = "" then 14 else sqliteOk, some (connections.sum + 1)),
      connections ++ [connections.sum + 1])
  sqlite3Close connections dbHandle := (sqliteOk, connections.filter (fun h => some h ≠ dbHandle))

theorem referenceLibrary_sound : referenceLibrary.Sound id :=
  ⟨fun _ _ => rfl, fun _ _ => by simp [referenceLibrary, sqliteOk, sqliteBusy]⟩

/-- The reference library never writes the handle of a connection that is open. -/
theorem referenceLibrary_fresh (l : List Nat) (path : String) (h : Nat) (hl : h ∈ l) :
    (referenceLibrary.sqlite3Open l path).1.2 ≠ some h := by
  have := List.le_sum_of_mem hl
  simp only [referenceLibrary, ne_eq, Option.some.injEq]
  omega

/-- `SQLiteDB`: the handle `m_db_handle` of the database it opened, `none` for `nullptr`. -/
structure SQLiteDB (H : Type) where
  dbHandle : Option H
  deriving DecidableEq, Repr

namespace SQLiteDB

variable {L H : Type} (lib : Sqlite3 L H)

/-- `SQLiteDB::close`: `sqlite3_close` on the handle; where it answers `SQLITE_BUSY`, the handle
is kept and the result is false, otherwise the handle is cleared. -/
def close (db : SQLiteDB H) (l : L) : (Bool × SQLiteDB H) × L :=
  let returnValue := lib.sqlite3Close l db.dbHandle
  if sqliteBusy = returnValue.1 then ((false, db), returnValue.2)
  else ((true, ⟨none⟩), returnValue.2)

/-- `SQLiteDB::open`: `sqlite3_open` writes the handle of the database at `path` into
`m_db_handle`; where it does not return `SQLITE_OK`, `close` is called and `OperationFailed`
thrown with `ErrorCode_Failure`. The exception leaves the object as `close` left it. -/
def «open» (path : String) (db : SQLiteDB H) (l : L) : (Except ErrorCode Unit × SQLiteDB H) × L :=
  let returnValue := lib.sqlite3Open l path
  let db : SQLiteDB H := { db with dbHandle := returnValue.1.2 }
  if sqliteOk ≠ returnValue.1.1 then
    let closed := db.close lib returnValue.2
    ((.error .failure, closed.1.2), closed.2)
  else ((.ok (), db), returnValue.2)

/-- `SQLiteDB::prepare_statement`: `OperationFailed` with `ErrorCode_NotInit` where the object
holds no handle; otherwise the `SQLitePreparedStatement` of `statement` on the handle, given by
the two arguments its constructor is called with. -/
def prepareStatement (statement : String) (db : SQLiteDB H) : Except ErrorCode (String × H) :=
  match db.dbHandle with
  | none => .error .notInit
  | some dbHandle => .ok (statement, dbHandle)

theorem prepareStatement_eq_error_iff {statement : String} {db : SQLiteDB H} {e : ErrorCode} :
    db.prepareStatement statement = .error e ↔ db.dbHandle = none ∧ e = .notInit := by
  unfold prepareStatement
  split <;> simp_all [eq_comm]

/-- A call of one of `SQLiteDB`'s methods. -/
inductive Call
  | «open» (path : String)
  | close
  | prepareStatement (statement : String)
  deriving DecidableEq, Repr

/-- The object and the library after a call; a thrown exception leaves both as the call left
them. -/
def Call.step : Call → SQLiteDB H × L → SQLiteDB H × L
  | .open path, (db, l) => let r := db.open lib path l; (r.1.2, r.2)
  | .close, (db, l) => let r := db.close lib l; (r.1.2, r.2)
  | .prepareStatement _, s => s

/-- A sequence of calls on one object. -/
def run : List Call → SQLiteDB H × L → SQLiteDB H × L
  | [], s => s
  | c :: cs, s => run cs (c.step lib s)

/-- Whether every `open` of the run is called on an object that holds no handle. -/
def opensClosed : List Call → SQLiteDB H × L → Bool
  | [], _ => true
  | .open path :: cs, s => s.1.dbHandle.isNone && opensClosed cs (Call.step lib (.open path) s)
  | .close :: cs, s => opensClosed cs (Call.step lib .close s)
  | .prepareStatement statement :: cs, s =>
    opensClosed cs (Call.step lib (.prepareStatement statement) s)

/-- The library has open exactly the connection the object holds. -/
def HoldsConnections (connections : L → List H) (s : SQLiteDB H × L) : Prop :=
  connections s.2 = s.1.dbHandle.toList

/-- The connection `h` is open in the library, and the object does not hold it. -/
def Lost (connections : L → List H) (h : H) (s : SQLiteDB H × L) : Prop :=
  h ∈ connections s.2 ∧ s.1.dbHandle ≠ some h

/-- Where the library has open exactly the connection the object holds, `prepare_statement`
throws `ErrorCode_NotInit` exactly when the library has no connection open. -/
theorem prepareStatement_eq_error_iff_connections {connections : L → List H} {s : SQLiteDB H × L}
    (hs : HoldsConnections connections s) {statement : String} {e : ErrorCode} :
    s.1.prepareStatement statement = .error e ↔ connections s.2 = [] ∧ e = .notInit := by
  rw [prepareStatement_eq_error_iff, hs]
  cases s.1.dbHandle <;> simp

theorem opensClosed_cons {c : Call} {cs : List Call} {s : SQLiteDB H × L} :
    opensClosed lib (c :: cs) s = true ↔
      (∀ path, c = .open path → s.1.dbHandle = none) ∧ opensClosed lib cs (c.step lib s) = true := by
  cases c <;> simp [opensClosed]

/-- What every call keeps holds after every run. -/
theorem run_invariant (P : SQLiteDB H × L → Prop) (hstep : ∀ c s, P s → P (Call.step lib c s))
    (calls : List Call) {s : SQLiteDB H × L} (hs : P s) : P (run lib calls s) := by
  induction calls generalizing s with
  | nil => exact hs
  | cons c cs ih => exact ih (hstep c s hs)

section Connections

variable {lib} [DecidableEq H] {connections : L → List H} (hlib : lib.Sound connections)
include hlib

/-- `close` returns false and keeps the handle where `sqlite3_close` answers `SQLITE_BUSY`, and
the library keeps its connections; otherwise it returns true and clears the handle, and the
library closes the connection the object held. -/
theorem close_connections (db : SQLiteDB H) (l : L) :
    (db.close lib l).1 = (false, db) ∧ connections (db.close lib l).2 = connections l ∨
      (db.close lib l).1 = (true, ⟨none⟩) ∧
        connections (db.close lib l).2 = (connections l).filter (fun h => some h ≠ db.dbHandle) := by
  have hc := hlib.close_connections l db.dbHandle
  unfold close
  dsimp only
  split_ifs at hc ⊢
  · exact .inl ⟨rfl, hc⟩
  · exact .inr ⟨rfl, hc⟩

theorem close_holdsConnections {s : SQLiteDB H × L} (hs : HoldsConnections connections s) :
    HoldsConnections connections (Call.step lib .close s) := by
  obtain ⟨db, l⟩ := s
  unfold HoldsConnections at hs ⊢
  rcases close_connections hlib db l with ⟨hdb, hc⟩ | ⟨hdb, hc⟩
  · simp only [Call.step, hc, hdb, hs]
  · simp only [Call.step, hc, hdb, hs]
    cases db.dbHandle <;> simp

theorem open_holdsConnections {s : SQLiteDB H × L} (path : String)
    (hs : HoldsConnections connections s) (hnone : s.1.dbHandle = none) :
    HoldsConnections connections (Call.step lib (.open path) s) := by
  obtain ⟨db, l⟩ := s
  have hopened : HoldsConnections connections
      (({ dbHandle := (lib.sqlite3Open l path).1.2 } : SQLiteDB H), (lib.sqlite3Open l path).2) := by
    unfold HoldsConnections at hs ⊢
    dsimp only at hs hnone ⊢
    rw [hlib.open_connections, hs, hnone, Option.toList_none, List.nil_append]
  dsimp only [Call.step, SQLiteDB.open]
  split_ifs
  · exact close_holdsConnections hlib hopened
  · exact hopened

/-- One call keeps the library's connections those of the object, where an `open` is only called
on an object that holds no handle. -/
theorem step_holdsConnections (c : Call) {s : SQLiteDB H × L}
    (hs : HoldsConnections connections s) (hopen : ∀ path, c = .open path → s.1.dbHandle = none) :
    HoldsConnections connections (c.step lib s) := by
  cases c with
  | «open» path => exact open_holdsConnections hlib path hs (hopen path rfl)
  | close => exact close_holdsConnections hlib hs
  | prepareStatement _ => exact hs

/-- **`SQLiteDB` loses no connection.** On every run in which `open` is only called on an object
that holds no handle, from a state where the library has open exactly the connection the object
holds (none, for a new object), that stays so after the run: each connection `sqlite3_open` opens
is closed by a failed `open`, or by a `close` that returns true. -/
theorem run_connections (calls : List Call) {s : SQLiteDB H × L}
    (hs : HoldsConnections connections s) (hopen : opensClosed lib calls s = true) :
    HoldsConnections connections (run lib calls s) := by
  induction calls generalizing s with
  | nil => exact hs
  | cons c cs ih =>
    obtain ⟨hc, hcs⟩ := (opensClosed_cons lib).mp hopen
    exact ih (step_holdsConnections hlib c hs hc) hcs

end Connections

/-- A failed `open` and then a successful one, a statement and a `close`, on the reference
library. -/
theorem run_connections_reopen :
    referenceLibrary.Sound id ∧ HoldsConnections id ((⟨none⟩ : SQLiteDB Nat), ([] : List Nat)) ∧
      opensClosed referenceLibrary [.open "", .open "main.db", .prepareStatement "SELECT 1", .close]
        (⟨none⟩, []) = true ∧
      HoldsConnections id (run referenceLibrary
        [.open "", .open "main.db", .prepareStatement "SELECT 1", .close] (⟨none⟩, [])) :=
  ⟨referenceLibrary_sound, rfl, by decide,
    run_connections referenceLibrary_sound _ rfl (by decide)⟩

section Lost

variable {lib} [DecidableEq H] {connections : L → List H} (hlib : lib.Sound connections)
include hlib

/-- `close` keeps open a connection the object does not hold. -/
theorem close_lost {h : H} {s : SQLiteDB H × L} (hs : Lost connections h s) :
    Lost connections h (Call.step lib .close s) := by
  obtain ⟨db, l⟩ := s
  obtain ⟨hmem, hne⟩ := hs
  rcases close_connections hlib db l with ⟨hdb, hc⟩ | ⟨hdb, hc⟩
  · exact ⟨by simpa only [Call.step, hc] using hmem, by simpa only [Call.step, hdb] using hne⟩
  · refine ⟨?_, by simp only [Call.step, hdb]; exact Option.noConfusion⟩
    simp only [Call.step, hc, List.mem_filter, decide_eq_true_eq]
    exact ⟨hmem, fun heq => hne heq.symm⟩

/-- `open` writes its new handle over the object's: a connection that is open, and that
`sqlite3_open` does not hand out again, is afterwards open and not held. -/
theorem open_lost {h : H} (path : String) {s : SQLiteDB H × L} (hmem : h ∈ connections s.2)
    (hfresh : (lib.sqlite3Open s.2 path).1.2 ≠ some h) :
    Lost connections h (Call.step lib (.open path) s) := by
  obtain ⟨db, l⟩ := s
  have hopened : Lost connections h
      (({ dbHandle := (lib.sqlite3Open l path).1.2 } : SQLiteDB H), (lib.sqlite3Open l path).2) :=
    ⟨by simp only [hlib.open_connections, List.mem_append]; exact .inl hmem, hfresh⟩
  dsimp only [Call.step, SQLiteDB.open]
  split_ifs
  · exact close_lost hlib hopened
  · exact hopened

/-- No call of the object closes a connection it does not hold, where the library never writes
the handle of a connection that is open. -/
theorem step_lost (hfresh : ∀ l path h, h ∈ connections l → (lib.sqlite3Open l path).1.2 ≠ some h)
    {h : H} (c : Call) {s : SQLiteDB H × L} (hs : Lost connections h s) :
    Lost connections h (c.step lib s) := by
  cases c with
  | «open» path => exact open_lost hlib path hs.1 (hfresh _ _ _ hs.1)
  | close => exact close_lost hlib hs
  | prepareStatement _ => exact hs

/-- **`open` on an object that holds a connection loses it.** `SQLiteDB::open` writes the new
handle over `m_db_handle` without closing the connection the object held. Where the library never
writes the handle of a connection that is open, that connection stays open through the `open` and
every call after it, and the object never holds it again: nothing the object does closes it. -/
theorem open_loses_connection
    (hfresh : ∀ l path h, h ∈ connections l → (lib.sqlite3Open l path).1.2 ≠ some h)
    (path : String) (calls : List Call) {db : SQLiteDB H} {l : L}
    (hheld : ∀ h ∈ db.dbHandle, h ∈ connections l) :
    ∀ h ∈ db.dbHandle, Lost connections h (run lib (.open path :: calls) (db, l)) := fun h hh =>
  run_invariant lib _ (fun c _ => step_lost hlib hfresh c) calls
    (open_lost hlib path (hheld h hh) (hfresh _ _ _ (hheld h hh)))

end Lost

/-- An object holding connection 1 opens another database and closes it: connection 1 stays open
on the reference library. -/
theorem open_loses_connection_reopen :
    referenceLibrary.Sound id ∧
      (∀ l path h, h ∈ id l → (referenceLibrary.sqlite3Open l path).1.2 ≠ some h) ∧
      (∀ h ∈ (⟨some 1⟩ : SQLiteDB Nat).dbHandle, h ∈ id [1]) ∧
      ∀ h ∈ (⟨some 1⟩ : SQLiteDB Nat).dbHandle,
        Lost id h (run referenceLibrary [.open "other.db", .close] (⟨some 1⟩, [1])) :=
  ⟨referenceLibrary_sound, referenceLibrary_fresh, by simp,
    open_loses_connection referenceLibrary_sound referenceLibrary_fresh "other.db" [.close]
      (by simp)⟩

end SQLiteDB

end ClpCore
