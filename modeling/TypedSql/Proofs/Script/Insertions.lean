import TypedSql.Proofs.Connection.Insertions
import TypedSql.Proofs.Script.Body
import TypedSql.Proofs.Script.Calls

/-!
What is inserted in the course of a script. The accounts of all calls, in brackets and of prepared
statements too, tell which row was inserted last and whether a connection knows of one. What it says
is the last row there was; that it knows of none may be wrong, where no call took note of a row.
-/

namespace TypedSql

open Connection (Rests rests_passive)
open Insertions (placed)

theorem Connection.Logs.untraced {c d : Connection} {log : List Insertions} (h : Logs c d log) :
    Logs c d.untraced log := by
  rw [← List.append_nil log]
  exact h.trans (.of_rests (rests_passive.takeTraced d))

theorem Connection.opened_bare (settings : Settings) {content : Content} (h : content.Bare) :
    (opened settings content).engine.Bare := ⟨Store.bare_settled h, rfl⟩

section
variable {c d : Connection} {log : List Insertions} (h : Connection.Logs c d log)
  (hc : c.inserted = false)
include h hc

end

/-! ## Prepared statements -/

namespace StatementCall

/-- The accounts of a call on a statement that is ready. -/
def actInsertions (s : Prepared) : StatementCall → Connection → List Insertions
  | .run _, c => [s.insertions c.engine (·.all.isOk)]
  | .scalar _ _, c => [s.insertions c.engine (·.first.isOk)]
  | .rows _ limit, c => if limit = some 0 then [] else [s.insertions c.engine fun _ => false]
  | .bind _, _ | .expanded, _ => []

/-- The accounts of a call, which has none if it is refused. -/
def insertions (call : StatementCall) (s : Prepared) (c : Connection) : List Insertions :=
  match call.prepared s with
  | .ok t => call.actInsertions t c
  | .error _ => []

/-- The accounts of calls that are made one after another. -/
def allInsertions : List StatementCall → Prepared → Connection → List Insertions
  | [], _, _ => []
  | call :: rest, s, c =>
      call.insertions s c ++ allInsertions rest (leave s call) (call.make s c).2

theorem prepared_byVerb {call : StatementCall} {s t : Prepared} (hs : s.ByVerb)
    (h : call.prepared s = .ok t) : t.ByVerb := by
  obtain ⟨hstatement, hsql⟩ := prepared_statement h
  rwa [Prepared.ByVerb, hstatement, hsql]

theorem leave_byVerb {s : Prepared} (hs : s.ByVerb) (call : StatementCall) :
    (leave s call).ByVerb := by
  unfold leave
  cases h : call.prepared s with
  | ok t => exact prepared_byVerb hs h
  | error f => exact hs

theorem logged_act (call : StatementCall) {s : Prepared} (hs : s.ByVerb) :
    Logged (call.act s) (call.actInsertions s) := by
  cases call with
  | bind given => exact .of_still (rests_passive.act_pure _)
  | run given => exact (Prepared.logged_run hs).act_map _
  | scalar type given => exact (Prepared.logged_scalar hs type).act_map _
  | rows given limit => exact (s.logged_rows limit).act_map _
  | expanded => exact .of_still (rests_passive.act_pure _)

theorem logged_make (call : StatementCall) {s : Prepared} (hs : s.ByVerb) :
    Logged (call.make s) (call.insertions s) := by
  intro c
  unfold insertions
  cases h : call.prepared s with
  | error f =>
      rw [make_refused h]
      exact .untraced (.of_rests (rests_passive.refl c))
  | ok t =>
      rw [make_prepared h]
      exact (logged_act call (prepared_byVerb hs h) c).untraced

theorem logged_makeAll (calls : List StatementCall) {s : Prepared} (hs : s.ByVerb) :
    Logged (makeAll calls s) (allInsertions calls s) := by
  induction calls generalizing s with
  | nil => exact .of_still (rests_passive.pure _)
  | cons call rest ih =>
      intro c
      rw [makeAll_cons]
      exact (logged_make call hs c).trans (ih (leave_byVerb hs call) _)

end StatementCall

/-- Nothing is inserted by the statement that enters a bracket. -/
theorem Bracket.entered?_logs {b : Bracket} {enter leave undo : Sql.Control} {c d : Connection}
    (h : b.Controls enter leave undo) (henter : b.entered? c = some d) :
    Connection.Logs c d [] := by
  have hlogs := Connection.Logs.control c b.enter enter
  rw [entered?, run_control h.enter] at henter
  generalize c.control b.enter enter = outcome at henter hlogs
  obtain ⟨result, e⟩ := outcome
  cases result with
  | error f => cases henter
  | ok a =>
      cases henter
      exact hlogs.untraced

namespace Step

/-! ## Steps -/

/-- The accounts of what a step without a body does. -/
def actInsertions : Step → Connection → List Insertions
  | .run sql given | .query sql given => boundInsertions sql given (·.all.isOk)
  | .batch sql => batchInsertions sql
  | .scalar _ sql given => boundInsertions sql given (·.first.isOk)
  | .inlined x => inlinedInsertions x
  | .statement sql given calls =>
      (Connection.prepare sql given).andThen (StatementCall.allInsertions calls)
  | .userVersion => boundInsertions ("PRAGMA " ++ Sql.Pragma.userVersion.name) .none (·.first.isOk)
  | .foreignKeys => boundInsertions ("PRAGMA " ++ Sql.Pragma.foreignKeys.name) .none (·.first.isOk)
  | .setUserVersion n =>
      inlinedInsertions
        ⟨"PRAGMA " ++ Sql.Pragma.userVersion.name ++ " = ?", [some (.integer n.toInt64)]⟩
  | .setForeignKeys b =>
      inlinedInsertions
        ⟨"PRAGMA " ++ Sql.Pragma.foreignKeys.name ++ " = ?", [some (.integer (if b then 1 else 0))]⟩
  | _ => fun _ => []

theorem logged_act (s : Step) : Logged s.act s.actInsertions := by
  cases s with
  | run sql given => exact (logged_run sql given).act_map _
  | batch sql => exact (logged_batch sql).act_map _
  | scalar type sql given => exact (logged_scalar sql given type).act_map _
  | query sql given => exact (logged_query sql given).act_map _
  | inlined x => exact (logged_runInlined x).act_map _
  | statement sql given calls =>
      exact .still_act_bind (rests_passive.prepare sql given) (prepare_byVerb sql given) fun _ ht =>
        (StatementCall.logged_makeAll calls ht).act_lift.act_bind_still fun _ =>
          rests_passive.act_pure _
  | userVersion =>
      exact ((logged_scalar _ .none _).act_bind_still fun _ => rests_passive.act_pure _).act_map _
  | setUserVersion n => exact (logged_runInlined _).act_map _
  | foreignKeys =>
      exact ((logged_scalar _ .none _).act_bind_still fun _ => rests_passive.act_pure _).act_map _
  | setForeignKeys b => exact (logged_runInlined _).act_map _
  | function name arguments f =>
      exact (Logged.of_still (rests_passive.registerFunction name arguments f)).act_map _
  | collation name compareText =>
      exact (Logged.of_still (rests_passive.registerCollation name compareText)).act_map _
  | tracing b => exact .of_still fun c => ⟨⟨rfl, rfl, rfl⟩, rfl⟩
  | fail reason => exact .of_still (rests_passive.act_throw _)
  | transaction mode body => exact .of_still (rests_passive.act_pure _)
  | savepoint name body => exact .of_still (rests_passive.act_pure _)
  | attempt s => exact .of_still (rests_passive.act_pure _)

/-! ## Bodies -/

/-- The accounts of a bracket are those of its body, if it is entered. -/
def bracketInsertions (b : Bracket) (body : Connection → List Insertions) (c : Connection) :
    List Insertions :=
  match b.entered? c with
  | some d => body d
  | none => []

variable {b : Bracket} {body : StateM Connection (List Report × Except Failure Unit)}
  {log : Connection → List Insertions}

theorem logs_savepointBracket (name : Option String) (c : Connection) :
    Connection.Logs c (Connection.savepointBracket name c).2 [] := by
  cases name <;> exact .of_rests ⟨⟨rfl, rfl, rfl⟩, rfl⟩

/-- A bracket that is not entered, for a name that cannot be prepared. -/
theorem logs_unentered {fault : Fault} {c : Connection}
    (h : (Connection.run b.enter .none).attempt c = (.error (.preparing b.enter fault), c)) :
    Connection.Logs c (bracketed b body c).2 (bracketInsertions b log c) := by
  rw [bracketed_refused h, bracketInsertions, Bracket.entered?, h]
  exact .untraced (.of_rests (rests_passive.refl c))

theorem logged_bracketed {enter leave undo : Sql.Control} (h : b.Controls enter leave undo)
    (hbody : Logged body log) : Logged (bracketed b body) (bracketInsertions b log) := by
  intro c
  have henter := run_control h.enter c
  have hlogs := Connection.Logs.control c b.enter enter
  rw [bracketInsertions, Bracket.entered?, henter]
  generalize c.control b.enter enter = outcome at henter hlogs ⊢
  obtain ⟨result, d⟩ := outcome
  cases result with
  | error f =>
      rw [bracketed_refused henter]
      exact hlogs.untraced
  | ok a =>
      rw [bracketed_entered henter]
      have hall := hlogs.untraced.trans
        ((hbody d.untraced).trans (Bracket.close_logs h (body d.untraced).1.2 _))
      rw [List.nil_append, List.append_nil] at hall
      exact hall.untraced

mutual

/-- The accounts of a step. -/
def insertions : Step → Connection → List Insertions
  | .transaction mode body, c => bracketInsertions (.transaction mode) (bodyInsertions body) c
  | .savepoint name body, c =>
      bracketInsertions (.savepoint (c.savepointName name)) (bodyInsertions body)
        (Connection.savepointBracket name c).2
  | .attempt s, c => insertions s c
  | s, c => s.actInsertions c

/-- The accounts of a body, as far as its steps are taken. -/
def bodyInsertions : List Step → Connection → List Insertions
  | [], _ => []
  | s :: rest, c =>
      insertions s c ++
        if (take s c).1.failure? = none ∨ s.isAttempt = true then
          bodyInsertions rest (take s c).2
        else []

end

/-- The accounts of a script, all of whose steps are taken. -/
def allInsertions : List Step → Connection → List Insertions
  | [], _ => []
  | s :: rest, c => insertions s c ++ allInsertions rest (take s c).2

mutual

theorem logged_take (s : Step) : Logged (take s) (insertions s) := by
  cases s with
  | transaction mode body =>
      intro c
      rw [take, insertions]
      exact logged_bracketed (Bracket.controls_transaction mode) (logged_takeBody body) c
  | savepoint name body =>
      intro c
      rw [take, insertions, StateM.bind_apply, savepointBracket_bracket]
      refine (logs_savepointBracket name c).trans ?_
      -- Only a name with a NUL character in it has a bracket that is not about transactions.
      by_cases hname : '\x00' ∈ (c.savepointName name).toList
      · obtain ⟨fault, hfault⟩ := Sql.parse_savepoint_nul hname
        exact logs_unentered (run_unreadable hfault _)
      · exact logged_bracketed (Bracket.controls_savepoint hname) (logged_takeBody body) _
  | attempt s =>
      intro c
      rw [take, insertions]
      exact logged_take s c
  | _ =>
      intro c
      rw [take_act (by rw [take] <;> simp) c, insertions]
      · exact (logged_act _ c).untraced
      all_goals simp

theorem logged_takeBody (steps : List Step) : Logged (takeBody steps) (bodyInsertions steps) := by
  cases steps with
  | nil => exact .of_still (rests_passive.pure _)
  | cons s rest =>
      intro c
      have hs := logged_take s c
      have hall := hs.trans (logged_takeBody rest (take s c).2)
      rw [takeBody_cons, bodyInsertions]
      cases (take s c).1.failure? with
      | none =>
          rw [if_pos (.inl rfl)]
          exact hall
      | some failure =>
          cases s.isAttempt with
          | true =>
              rw [if_pos (.inr rfl)]
              exact hall
          | false =>
              rw [if_neg (by simp), List.append_nil]
              exact hs

end

/-! ## What a connection says -/

/-- A connection that there is in the course of steps, with the accounts of all calls before it:
between two steps, in the body of a bracket or between calls on a prepared statement. Nothing ends
the steps here, so what comes after a failure is among it, whether the failure ends a body or not. -/
inductive Reaches : List Step → Connection → List Insertions → Connection → Prop where
  | here {steps : List Step} {c : Connection} : Reaches steps c [] c
  | next {s : Step} {rest : List Step} {c d : Connection} {log : List Insertions}
      (h : Reaches rest (take s c).2 log d) : Reaches (s :: rest) c (insertions s c ++ log) d
  | transaction {mode : Sql.TransactionMode} {body rest : List Step} {c e d : Connection}
      {log : List Insertions} (henter : (Bracket.transaction mode).entered? c = some e)
      (h : Reaches body e log d) : Reaches (.transaction mode body :: rest) c log d
  | savepoint {name : Option String} {body rest : List Step} {c e d : Connection}
      {log : List Insertions}
      (henter : (Bracket.savepoint (c.savepointName name)).entered?
        (Connection.savepointBracket name c).2 = some e)
      (h : Reaches body e log d) : Reaches (.savepoint name body :: rest) c log d
  | attempt {s : Step} {rest : List Step} {c d : Connection} {log : List Insertions}
      (h : Reaches [s] c log d) : Reaches (.attempt s :: rest) c log d
  | calls {sql : String} {given : Bindings} {calls later : List StatementCall} {rest : List Step}
      {c d : Connection} {s : Prepared} (h : Connection.prepare sql given c = (.ok s, d)) :
      Reaches (.statement sql given (calls ++ later) :: rest) c
        (StatementCall.allInsertions calls s d) (StatementCall.makeAll calls s d).2

variable {steps : List Step} {c d : Connection} {log : List Insertions}

theorem Reaches.logs (h : Reaches steps c log d) : Connection.Logs c d log := by
  induction h with
  | here => exact .of_rests (rests_passive.refl _)
  | next h ih => exact (logged_take _ _).trans ih
  | transaction henter h ih =>
      exact (Bracket.entered?_logs (Bracket.controls_transaction _) henter).trans ih
  | @savepoint name body rest c e d log henter h ih =>
      have hname : '\x00' ∉ (c.savepointName name).toList := fun hname => by
        obtain ⟨fault, hfault⟩ := Sql.parse_savepoint_nul hname
        rw [Bracket.entered?, run_unreadable hfault] at henter
        cases henter
      exact (logs_savepointBracket name c).trans
        ((Bracket.entered?_logs (Bracket.controls_savepoint hname) henter).trans ih)
  | attempt h ih => exact ih
  | @calls sql given calls later rest c d s h =>
      have hrests : Rests c (Connection.prepare sql given c).2 := rests_passive.prepare sql given c
      rw [h] at hrests
      have hcalls := StatementCall.logged_makeAll calls (prepare_byVerb _ _ _ _ _ h) d
      exact (Connection.Logs.of_rests hrests).trans hcalls

end Step

end TypedSql
