import TypedSql.Proofs.Engine.Transaction

/-!
What can be done to an engine: statements are executed, and settings change between them.
`Moves keep e f` says that this leads from `e` to `f`, and that each execution on the way is one
that `keep` allows.
-/

namespace TypedSql

namespace Engine

/-- A way from one engine to another by executions of statements, each of them as allowed, and by
changes of settings. -/
inductive Moves (keep : Engine → Engine → Prop) : Engine → Engine → Prop where
  | refl (e : Engine) : Moves keep e e
  | configure {e f g : Engine} : Moves keep e f → g.store = f.store → Moves keep e g
  | execute {e f : Engine} (s : EngineStatement) (parameters : List Datum) :
      Moves keep e f → keep f (f.execute s parameters).1 → Moves keep e (f.execute s parameters).1

variable {keep : Engine → Engine → Prop} {e f g : Engine}

theorem Moves.trans (h : Moves keep e f) (h' : Moves keep f g) : Moves keep e g := by
  induction h' with
  | refl => exact h
  | configure _ hg ih => exact ih.configure hg
  | execute s parameters _ hk ih => exact ih.execute s parameters hk

/-- What each allowed execution preserves, and is about the store, is preserved. -/
theorem Moves.preserves {P : Store → Prop}
    (hkeep : ∀ f s parameters, keep f (f.execute s parameters).1 → P f.store →
      P (f.execute s parameters).1.store)
    (h : Moves keep e f) (he : P e.store) : P f.store := by
  induction h with
  | refl => exact he
  | configure _ hg ih => exact hg ▸ ih
  | execute s parameters _ hk ih => exact hkeep _ s parameters hk ih

/-- An execution that ends no transaction. -/
def StaysOpen (e f : Engine) : Prop := e.isAutocommit = false → f.isAutocommit = false

/-- An execution that takes none of some savepoints off the stack. -/
def KeepsSavepoints (base : List Savepoint) (e f : Engine) : Prop :=
  base <:+ e.store.savepoints → base <:+ f.store.savepoints

/-- An execution that leaves the transaction and its savepoints as they are. -/
def KeepsTransaction (e f : Engine) : Prop := f.store.transaction = e.store.transaction

theorem KeepsTransaction.savepoints (h : KeepsTransaction e f) :
    f.store.savepoints = e.store.savepoints := by
  rw [Store.savepoints, h]
  rfl

theorem KeepsTransaction.staysOpen (h : KeepsTransaction e f) : StaysOpen e f := by
  intro hopen
  rwa [isAutocommit, Store.isAutocommit, h]

theorem KeepsTransaction.keepsSavepoints (h : KeepsTransaction e f) (base : List Savepoint) :
    KeepsSavepoints base e f := by
  intro hbase
  rwa [h.savepoints]

end Engine

end TypedSql
