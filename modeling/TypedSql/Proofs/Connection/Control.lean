import TypedSql.Proofs.Connection.Act
import TypedSql.Proofs.Engine.Laws
import TypedSql.Proofs.Sql.Control
import TypedSql.Script.Run

/-!
Statements about transactions, run on a connection, and brackets made of them. Such a text is traced
as it is and does to the store what `Store.control` says; nothing else of the connection changes. So
what a bracket does around a body is decided by three steps of the store.
-/

namespace TypedSql

namespace Connection

def withStore (c : Connection) (s : Store) : Connection :=
  { c with engine := { c.engine with store := s } }

def untraced (c : Connection) : Connection := { c with traced := [] }

/-- How a statement about transactions goes, and the connection after it. -/
def control (c : Connection) (sql : String) (ctl : Sql.Control) :
    Except Failure Unit × Connection :=
  match c.engine.store.control ctl with
  | .ok s => (.ok (), (c.trace sql).withStore s)
  | .error e => (.error (.executing sql (.ofError e)), c.trace sql)

variable (c : Connection) (sql : String) (s : Store)

@[simp] theorem trace_engine : (c.trace sql).engine = c.engine := by
  unfold trace
  split <;> rfl

@[simp] theorem trace_tracing : (c.trace sql).tracing = c.tracing := by
  unfold trace
  split <;> rfl

@[simp] theorem trace_savepoints : (c.trace sql).savepoints = c.savepoints := by
  unfold trace
  split <;> rfl

@[simp] theorem trace_inserted : (c.trace sql).inserted = c.inserted := by
  unfold trace
  split <;> rfl

@[simp] theorem trace_status : (c.trace sql).status = c.status := by
  unfold trace
  split <;> rfl

@[simp] theorem trace_untraced : (c.trace sql).untraced = c.untraced := by
  unfold trace
  split <;> rfl

@[simp] theorem withStore_store : (c.withStore s).engine.store = s := rfl

@[simp] theorem withStore_tracing : (c.withStore s).tracing = c.tracing := rfl

@[simp] theorem untraced_engine : c.untraced.engine = c.engine := rfl

@[simp] theorem untraced_savepoints : c.untraced.savepoints = c.savepoints := rfl

@[simp] theorem untraced_tracing : c.untraced.tracing = c.tracing := rfl

theorem noteInsert_of_noInsert {c : Connection} {sql : String} {before : Int64}
    (h : isInsert sql = false) (hrow : c.engine.lastRowid = before) :
    c.noteInsert sql before = c := by
  simp [noteInsert, h, hrow]

end Connection

/-! ## One statement -/

section
variable {sql : String} {ctl : Sql.Control} (h : Sql.ControlText sql ctl)
include h

theorem Engine.prepare_control (e : Engine) :
    e.prepare sql = .ok (⟨.control ctl, {}, []⟩, e) := by
  rw [Engine.prepare, h.read]
  rfl

/-- A prepared statement about transactions has no parameters left to bind. -/
theorem prepareBound_control (c : Connection) :
    Connection.prepareBound sql .none c =
      (.ok { Prepared.ofStatement sql ⟨.control ctl, {}, []⟩ with isBound := true }, c) := by
  have htext : Connection.prepareText sql c =
      (.ok (.ofStatement sql ⟨.control ctl, {}, []⟩), c) := by
    rw [Connection.prepareText, Engine.prepare_control h]
  rw [Connection.prepareBound, Act.bind_apply, htext]
  rfl

/-- Running a statement about transactions is doing it. -/
theorem run_control (c : Connection) :
    (Connection.run sql .none).attempt c = c.control sql ctl := by
  have hexp (s : EngineStatement) :
      ({ Prepared.ofStatement sql s with isBound := true } : Prepared).expanded = sql := by
    simp [Prepared.expanded, Prepared.ofStatement, Bindings.inline, Bindings.none, h.unbound]
  have hexec (d : Connection) :
      ({ Prepared.ofStatement sql ⟨.control ctl, {}, []⟩ with isBound := true } : Prepared).execute
          d =
        match d.engine.store.control ctl with
        | .ok s => ({}, d.withStore s)
        | .error e => (.failed e, d) := by
    let statement : EngineStatement := ⟨.control ctl, {}, []⟩
    show ((d.engine.execute statement []).2,
      { d with engine := (d.engine.execute statement []).1 }) = _
    have hstatement : statement.statement = .control ctl := rfl
    rw [Engine.laws.control d.engine [] hstatement]
    cases d.engine.store.control ctl <;> rfl
  rw [Act.attempt_apply, Connection.run, Act.bind_apply, prepareBound_control h]
  simp only [Prepared.run_apply, hexp, hexec, Connection.trace_engine, Connection.control]
  cases c.engine.store.control ctl with
  | ok s =>
      have hrow : ((c.trace sql).withStore s).engine.lastRowid = c.engine.lastRowid := by
        simp [Connection.withStore]
      exact congrArg (Prod.mk _) (Connection.noteInsert_of_noInsert h.noInsert hrow)
  | error e => rfl

end

/-- A statement that cannot be read is not executed, and changes nothing. -/
theorem run_unreadable {sql : String} {fault : Fault}
    (h : Sql.parse (Sql.tokens sql) = .error fault) (c : Connection) :
    (Connection.run sql .none).attempt c = (.error (.preparing sql fault), c) := by
  have hprep : c.engine.prepare sql = .error fault := by
    rw [Engine.prepare, h]
    rfl
  have htext : Connection.prepareText sql c = (.error (.preparing sql fault), c) := by
    rw [Connection.prepareText, hprep]
  rw [Act.attempt_apply, Connection.run, Act.bind_apply, Connection.prepareBound, Act.bind_apply,
    htext]

/-! ## Brackets -/

/-- The statements that a bracket consists of. -/
structure Bracket.Controls (b : Bracket) (enter leave undo : Sql.Control) : Prop where
  enter : Sql.ControlText b.enter enter
  leave : Sql.ControlText b.leave leave
  undo : Sql.ControlText b.undo undo

theorem Bracket.controls_transaction (mode : Sql.TransactionMode) :
    (transaction mode).Controls (.begin mode) .commit .rollback :=
  ⟨Sql.controlText_begin mode, Sql.controlText_commit, Sql.controlText_rollback⟩

theorem Bracket.controls_savepoint {name : String} (h : '\x00' ∉ name.toList) :
    (savepoint name).Controls (.savepoint name) (.release name) (.rollbackTo name) :=
  ⟨Sql.controlText_savepoint h, Sql.controlText_release h, Sql.controlText_rollbackTo h⟩

namespace Bracket

variable {b : Bracket} {enter leave undo : Sql.Control}

/-- Undoing gives the failure that it answers, unless it is refused itself. -/
theorem rollBack_apply (h : b.Controls enter leave undo) (cause : Failure) (c : Connection) :
    b.rollBack cause c =
      match c.engine.store.control undo with
      | .ok s => (cause, (c.trace b.undo).withStore s)
      | .error e => (.rollback cause (.executing b.undo (.ofError e)), c.trace b.undo) := by
  rw [rollBack, StateM.bind_apply, run_control h.undo, Connection.control]
  cases c.engine.store.control undo <;> rfl

theorem close_error {α : Type} (cause : Failure) (c : Connection) :
    b.close (.error cause : Except Failure α) c =
      (.error (b.rollBack cause c).1, (b.rollBack cause c).2) := rfl

/-- A body that went well is followed by the statement that keeps its work. -/
theorem close_ok {α : Type} (h : b.Controls enter leave undo) (a : α) (c : Connection) :
    b.close (.ok a) c =
      match c.engine.store.control leave with
      | .ok s => (.ok a, (c.trace b.leave).withStore s)
      | .error e =>
          b.close (.error (.executing b.leave (.ofError e))) (c.trace b.leave) := by
  rw [close, StateM.bind_apply, run_control h.leave, Connection.control]
  cases c.engine.store.control leave <;> rfl

/-- Closing a bracket changes the store by one of its two statements, or not at all. -/
theorem close_store {α : Type} (h : b.Controls enter leave undo) (r : Except Failure α)
    (c : Connection) :
    (b.close r c).2.engine.store = c.engine.store ∨
      c.engine.store.control leave = .ok (b.close r c).2.engine.store ∨
      c.engine.store.control undo = .ok (b.close r c).2.engine.store := by
  have hundo (cause : Failure) (d : Connection) (hd : d.engine.store = c.engine.store) :
      (b.rollBack cause d).2.engine.store = c.engine.store ∨
        c.engine.store.control undo = .ok (b.rollBack cause d).2.engine.store := by
    rw [rollBack_apply h, hd]
    cases hc : c.engine.store.control undo with
    | ok s => exact .inr rfl
    | error e => exact .inl (by simp [hd])
  cases r with
  | error cause =>
      rw [close_error]
      exact (hundo cause c rfl).imp_right .inr
  | ok a =>
      rw [close_ok h]
      cases hc : c.engine.store.control leave with
      | ok s => exact .inr (.inl rfl)
      | error e => exact (hundo _ (c.trace b.leave) (by simp)).imp_right .inr

end Bracket

end TypedSql
