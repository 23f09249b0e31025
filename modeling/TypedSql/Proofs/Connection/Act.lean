import TypedSql.Connection.Bracket

namespace TypedSql

/-- What comes after a check was reached because the check went well. -/
theorem ok_of_bind {ε α β : Type} {x : Except ε α} {f : α → Except ε β} {b : β}
    (h : (x >>= f) = .ok b) : ∃ a, x = .ok a ∧ f a = .ok b := by
  cases x with
  | error e => cases h
  | ok a => exact ⟨a, rfl, h⟩

namespace Act

variable {α β : Type}

theorem bind_apply (x : Act α) (f : α → Act β) (c : Connection) :
    (x >>= f) c =
      match x c with
      | (.ok a, d) => f a d
      | (.error e, d) => (.error e, d) := by
  show (match x c with | (r, d) => ExceptT.bindCont f r d) = _
  rcases x c with ⟨_ | _, _⟩ <;> rfl

theorem pure_apply (a : α) (c : Connection) : (pure a : Act α) c = (.ok a, c) := rfl

theorem get_apply (c : Connection) : (get : Act Connection) c = (.ok c, c) := rfl

theorem modify_apply (f : Connection → Connection) (c : Connection) :
    (modify f : Act Unit) c = (.ok (), f c) := rfl

/-- What cannot fail, done where things can. -/
theorem lift_apply (x : StateM Connection α) (c : Connection) :
    (liftM x : Act α) c = (.ok (x c).1, (x c).2) := rfl

theorem attempt_apply (x : Act α) (c : Connection) : x.attempt c = x c := rfl

end Act

theorem StateM.bind_apply {σ α β : Type} (x : StateM σ α) (f : α → StateM σ β) (c : σ) :
    (x >>= f) c = f (x c).1 (x c).2 := rfl

namespace Prepared

/-- Executing a prepared statement traces it, has the engine execute it and takes note of an
insertion if that went well. -/
theorem run_apply (s : Prepared) (c : Connection) :
    s.run c =
      match (s.execute (c.trace s.expanded)).1.all with
      | .ok _ =>
          (.ok (),
            (s.execute (c.trace s.expanded)).2.noteInsert s.sql
              (c.trace s.expanded).engine.lastRowid)
      | .error e =>
          (.error (.executing s.sql (.ofError e)), (s.execute (c.trace s.expanded)).2) := by
  have hannounce : s.announce c = (.ok (), c.trace s.expanded) := rfl
  simp only [run, Act.bind_apply, hannounce, Act.get_apply, Act.lift_apply]
  cases (s.execute (c.trace s.expanded)).1.all <;> rfl

/-- Reading a first cell takes note of an insertion whether the cell can be decoded or not. -/
theorem scalar_connection (s : Prepared) (type : ValueType) (c : Connection) :
    (s.scalar type c).2 =
      match (s.execute (c.trace s.expanded)).1.first with
      | .ok _ =>
          (s.execute (c.trace s.expanded)).2.noteInsert s.sql
            (c.trace s.expanded).engine.lastRowid
      | .error _ => (s.execute (c.trace s.expanded)).2 := by
  have hannounce : s.announce c = (.ok (), c.trace s.expanded) := rfl
  simp only [scalar, Act.bind_apply, hannounce, Act.get_apply, Act.lift_apply]
  cases (s.execute (c.trace s.expanded)).1.first with
  | error e => rfl
  | ok row =>
      simp only [orRefused, Act.pure_apply, Act.modify_apply]
      cases type.readCell true ((row.bind List.head?).bind Datum.cell) <;> rfl

theorem orRefused_apply {α : Type} (s : Prepared) (r : Except EngineError α) (c : Connection) :
    s.orRefused r c = (r.mapError fun e => Failure.executing s.sql (.ofError e), c) := by
  cases r <;> rfl

/-- Asking for rows executes the statement, unless none are wanted, and takes note of nothing. -/
theorem rows_apply (s : Prepared) (limit : Option Nat) (c : Connection) :
    s.rows limit c =
      if limit = some 0 then (.ok [], c.trace s.expanded)
      else
        match (match limit with
          | some n => (s.execute (c.trace s.expanded)).1.take n
          | none => (s.execute (c.trace s.expanded)).1.all) with
        | .ok rows => (.ok (rows.map s.resultRow), (s.execute (c.trace s.expanded)).2)
        | .error e =>
            (.error (.executing s.sql (.ofError e)), (s.execute (c.trace s.expanded)).2) := by
  have hannounce : s.announce c = (.ok (), c.trace s.expanded) := rfl
  simp only [rows, Act.bind_apply, hannounce]
  split
  · rfl
  · simp only [Act.bind_apply, Act.lift_apply, orRefused_apply]
    cases limit with
    | none => cases (s.execute (c.trace s.expanded)).1.all <;> rfl
    | some n =>
        dsimp only
        cases (s.execute (c.trace s.expanded)).1.take n <;> rfl

end Prepared

end TypedSql
