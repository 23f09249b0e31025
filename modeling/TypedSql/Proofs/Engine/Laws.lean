import TypedSql.Proofs.Engine.Moves
import TypedSql.Proofs.Sql.Kind

/-!
The laws of the engine. A statement about transactions is a step of the store, and any other one
leaves the transaction as it is or goes back to where it began. What is said elsewhere of
transactions, savepoints and the texts that are traced around them takes nothing else from executing
a statement. So it does not depend on how much of SQL the engine has: whatever a statement does to
rows, by triggers or constraints that are not here, it goes by these laws.
-/

namespace TypedSql

def Sql.Statement.isControl : Sql.Statement → Bool
  | .control _ => true
  | _ => false

theorem Sql.Statement.isControl_of_isQuiet {s : Sql.Statement} (h : s.isQuiet = true) :
    s.isControl = false := by
  cases s with
  | control c => cases h
  | _ => rfl

namespace Engine

variable {e f : Engine} {t : Transaction}

/-- An execution that ends a transaction only by undoing it. -/
def Undoes (e f : Engine) : Prop :=
  ∀ t, e.store.transaction = some t → f.isAutocommit = true → f.store = .settled t.start

/-- Whatever leaves the transaction as it is undoes none. -/
theorem KeepsTransaction.undoes (h : KeepsTransaction e f) : Undoes e f := by
  intro t ht hf
  rw [isAutocommit, Store.isAutocommit, h, ht] at hf
  cases hf

/-- From one engine to another the transaction that was open is undone. -/
def Undone (e f : Engine) : Prop :=
  ∃ t, e.store.transaction = some t ∧ f.store = .settled t.start

/-- How statements may be executed. -/
structure Laws (execute : Engine → EngineStatement → List Datum → Engine × Outcome) : Prop where
  control : ∀ (e : Engine) {s : EngineStatement} {ctl : Sql.Control} (parameters : List Datum),
    s.statement = .control ctl → execute e s parameters =
      match e.store.control ctl with
      | .ok store => ({ e with store }, {})
      | .error error => (e, .failed error)
  other : ∀ (e : Engine) {s : EngineStatement} (parameters : List Datum),
    s.statement.isControl = false →
      KeepsTransaction e (execute e s parameters).1 ∨
        (s.statement.isQuiet = false ∧ Undone e (execute e s parameters).1)

/-! ## What follows from the laws -/

namespace Laws

variable {execute : Engine → EngineStatement → List Datum → Engine × Outcome}
  {s : EngineStatement} {parameters : List Datum} (h : Laws execute)
include h

/-- A quiet statement leaves the transaction as it is. -/
theorem keepsTransaction (hs : s.statement.isQuiet = true) :
    KeepsTransaction e (execute e s parameters).1 := by
  rcases h.other e parameters (Sql.Statement.isControl_of_isQuiet hs) with hkeeps | ⟨hloud, -⟩
  · exact hkeeps
  · rw [hs] at hloud
    cases hloud

/-- A statement that is not about transactions ends one only by undoing it. -/
theorem undoes (hs : s.statement.isControl = false) : Undoes e (execute e s parameters).1 := by
  rcases h.other e parameters hs with hkeeps | ⟨-, u, hu, hstore⟩
  · exact hkeeps.undoes
  · intro t ht _
    rw [hu] at ht
    cases ht
    exact hstore

/-- A transaction that is open when a statement is executed is ended by it, or continues. -/
theorem within (ht : e.store.transaction = some t) (s : EngineStatement)
    (parameters : List Datum) :
    (execute e s parameters).1.store.transaction = none ∨
      (execute e s parameters).1.store.Within t := by
  cases hs : s.statement.isControl with
  | true =>
      cases hctl : s.statement with
      | control ctl =>
          rw [h.control e parameters hctl]
          cases hstore : e.store.control ctl with
          | ok store => exact Store.control_within ht hstore
          | error error => exact .inr ⟨t, ht, .refl t⟩
      | _ =>
          rw [hctl] at hs
          cases hs
  | false =>
      rcases h.other e parameters hs with hkeeps | ⟨-, u, -, hstore⟩
      · exact .inr ⟨t, hkeeps.trans ht, .refl t⟩
      · rw [hstore]
        exact .inl rfl

/-- A transaction that a statement does not end continues. -/
theorem within_of_staysOpen (hopen : StaysOpen e (execute e s parameters).1)
    (he : e.store.Within t) : (execute e s parameters).1.store.Within t := by
  obtain ⟨u, hu, htu⟩ := he
  have hafter := hopen (by simp [isAutocommit, Store.isAutocommit, hu])
  rcases h.within hu s parameters with hnone | ⟨v, hv, huv⟩
  · simp [isAutocommit, Store.isAutocommit, hnone] at hafter
  · exact ⟨v, hv, htu.trans huv⟩

end Laws

/-! ## The engine -/

theorem ended_transaction (e : Engine) : KeepsTransaction e e.ended ∨ Undone e e.ended := by
  unfold ended Store.rollback
  cases h : e.store.transaction with
  | none => exact .inl rfl
  | some t => exact .inr ⟨t, h, rfl⟩

/-- A change of rows leaves the transaction as it is, unless a conflict undoes it. -/
theorem settle_transaction (e : Engine) (conflict : Conflict) (result : Except EngineError Unit)
    (w : Writing) :
    KeepsTransaction e (e.settle conflict result w).1 ∨
      (conflict = .rollback ∧ Undone e (e.settle conflict result w).1) := by
  unfold settle
  split
  · left
    split
    · rfl
    · split <;> rfl
  · left
    split <;> rfl
  · exact (ended_transaction e).imp_right fun h => ⟨rfl, h⟩
  · exact .inl rfl

theorem write_transaction (e : Engine) (conflict : Conflict) (work : Write Unit) :
    KeepsTransaction e (e.write conflict work).1 ∨
      (conflict = .rollback ∧ Undone e (e.write conflict work).1) := by
  unfold write
  split
  · exact .inl rfl
  · exact settle_transaction { e with lastRowid := _ } conflict _ _

theorem write_abort_transaction (e : Engine) (work : Write Unit) :
    KeepsTransaction e (e.write .abort work).1 :=
  (write_transaction e .abort work).resolve_right fun h => Conflict.noConfusion h.1

theorem replaceContent_transaction (e : Engine) (content : Content) :
    KeepsTransaction e (e.replaceContent content).1 := by
  unfold replaceContent
  split <;> rfl

/-- Only statements about transactions, and insertions that say so, end a transaction or begin
one. -/
theorem perform_transaction (e : Engine) (parameters : List Datum) {p : Plan}
    (h : ∀ ctl, p ≠ .control ctl) :
    KeepsTransaction e (e.perform parameters p).1 ∨
      (p.isQuiet = false ∧ Undone e (e.perform parameters p).1) := by
  cases p with
  | control ctl => exact absurd rfl (h ctl)
  | insert i =>
      refine (write_transaction e i.conflict _).imp_right fun hundone => ⟨?_, hundone.2⟩
      rw [Plan.isQuiet, hundone.1]
      rfl
  | update u => exact .inl (write_abort_transaction e _)
  | delete d => exact .inl (write_abort_transaction e _)
  | select source q =>
      left
      simp only [perform]
      split <;> rfl
  | createTable t => exact .inl (replaceContent_transaction e _)
  | pragma p value =>
      left
      cases p <;> cases value <;> first | rfl | exact replaceContent_transaction e _
  | nothing => exact .inl rfl
  | empty => exact .inl rfl

theorem laws : Laws execute where
  control e s ctl parameters hs := by
    have hplan : e.plan s.statement = .ok (.control ctl) := by
      rw [hs]
      rfl
    rw [execute, hplan]
    rfl
  other e s parameters hs := by
    cases hplan : e.plan s.statement with
    | error fault =>
        rw [execute, hplan]
        exact .inl rfl
    | ok p =>
        rw [execute, hplan]
        have hcontrol : ∀ ctl, p ≠ .control ctl := by
          rintro ctl rfl
          rw [(plan_serves _ _ _ hplan).control ctl rfl] at hs
          cases hs
        refine (perform_transaction e parameters hcontrol).imp_right fun hundone =>
          ⟨?_, hundone.2⟩
        rw [Bool.eq_false_iff]
        intro hquiet
        rw [plan_isQuiet _ hquiet p hplan] at hundone
        cases hundone.1

end Engine

end TypedSql
