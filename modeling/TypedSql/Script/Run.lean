import TypedSql.Script.Basic

namespace TypedSql

namespace StatementCall

def given : StatementCall → Bindings
  | .bind given | .run given | .scalar _ given | .rows given _ => given
  | .expanded => .none

/-- The statement as a call leaves it, or why the call is refused. -/
def prepared (call : StatementCall) (s : Prepared) : Except Failure Prepared :=
  match call with
  | .bind given => s.bind given
  | .expanded => .ok s
  | _ => s.ready call.given

/-- What a call does with a statement that is ready. -/
def act (s : Prepared) : StatementCall → Act StatementResult
  | .bind _ => pure .done
  | .run _ => (fun _ => .done) <$> s.run
  | .scalar type _ => .value <$> s.scalar type
  | .rows _ limit => .rows s.columns <$> s.rows limit
  | .expanded => pure (.text s.expanded)

def make (call : StatementCall) (s : Prepared) : StateM Connection (StatementReport × Prepared) := do
  let (result, s) ← match call.prepared s with
    | .error failure => pure (.error failure, s)
    | .ok s => (·, s) <$> (call.act s).attempt
  pure (⟨result, s.expanded, ← Connection.takeTraced⟩, s)

def makeAll : List StatementCall → Prepared → StateM Connection (List StatementReport)
  | [], _ => pure []
  | call :: rest, s => do
      let (report, s) ← call.make s
      pure (report :: (← makeAll rest s))

end StatementCall

namespace Step

/-- What a step without a body does. -/
def act : Step → Act StepResult
  | .run sql given => (fun _ => .done) <$> Connection.run sql given
  | .batch sql => (fun _ => .done) <$> Connection.batch sql
  | .scalar type sql given => .value <$> Connection.scalar type sql given
  | .query sql given => .rows <$> Connection.query sql given
  | .inlined x => (fun _ => .done) <$> Connection.runInlined x
  | .statement sql given calls => do
      let s ← Connection.prepare sql given
      pure (.statement s (← StatementCall.makeAll calls s))
  | .userVersion => .value <$> Connection.userVersion
  | .setUserVersion n => (fun _ => .done) <$> Connection.setUserVersion n
  | .foreignKeys => .value <$> Connection.foreignKeys
  | .setForeignKeys b => (fun _ => .done) <$> Connection.setForeignKeys b
  | .function name arguments f => (fun _ => .done) <$> Connection.registerFunction name arguments f
  | .collation name compareText => (fun _ => .done) <$> Connection.registerCollation name compareText
  | .tracing b => do
      modify fun c => { c with tracing := b }
      pure .done
  | .fail reason => throw (.configuration (.other reason))
  | .transaction _ _ | .savepoint _ _ | .attempt _ => pure .done

/-- Whether a failure of the step is passed over. -/
def isAttempt : Step → Bool
  | .attempt _ => true
  | _ => false

/-- What was traced since the last report, and the counters. -/
def afterwards : StateM Connection Afterwards := do
  let traced ← Connection.takeTraced
  pure ⟨traced, (← get).status⟩

/-- A bracket around a body that gives reports. -/
def bracketed (b : Bracket) (body : StateM Connection (List Report × Except Failure Unit)) :
    StateM Connection Report := do
  let (account, result) ← b.around do
    let before ← Connection.takeTraced
    let (reports, result) ← body
    pure ((before, reports), result)
  let (before, reports) := account.getD ([], [])
  let failure := match result with
    | .error failure => some failure
    | .ok () => none
  pure (.bracket before reports failure (← afterwards))

mutual

def take : Step → StateM Connection Report
  | .transaction mode body => bracketed (.transaction mode) (takeBody body)
  | .savepoint name body => do
      bracketed (← Connection.savepointBracket name) (takeBody body)
  | .attempt s => take s
  | s => do
      let result ← s.act.attempt
      pure (.simple result (← afterwards))

def takeBody : List Step → StateM Connection (List Report × Except Failure Unit)
  | [] => pure ([], .ok ())
  | s :: rest => do
      let report ← take s
      match report.failure?, s.isAttempt with
      | some failure, false => pure ([report], .error failure)
      | _, _ => do
          let (reports, result) ← takeBody rest
          pure (report :: reports, result)

end

def takeAll (steps : List Step) : StateM Connection (List Report) := steps.mapM take

end Step

end TypedSql
