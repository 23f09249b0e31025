import TypedSql.Proofs.Connection.Along
import TypedSql.Proofs.Engine.Moves

namespace TypedSql

open Connection

/-- A connection moves to another one: the engine by allowed executions only, and no savepoint is
given a number. -/
structure Connection.Goes (keep : Engine → Engine → Prop) (c d : Connection) : Prop where
  moves : Engine.Moves keep c.engine d.engine
  savepoints : d.savepoints = c.savepoints

namespace Connection.Goes

variable {keep : Engine → Engine → Prop} {c d f : Connection}

theorem refl (c : Connection) : Goes keep c c := ⟨.refl _, rfl⟩

theorem trans (h : Goes keep c d) (h' : Goes keep d f) : Goes keep c f :=
  ⟨h.moves.trans h'.moves, h'.savepoints.trans h.savepoints⟩

/-- Whatever else changes, the store is the same. -/
theorem of_store_eq (hstore : d.engine.store = c.engine.store)
    (hsavepoints : d.savepoints = c.savepoints) : Goes keep c d :=
  ⟨(Engine.Moves.refl c.engine).configure hstore, hsavepoints⟩

end Connection.Goes

/-- Something done on a connection that moves the engine by allowed executions only. -/
def Drives (keep : Engine → Engine → Prop) {α : Type} (x : StateM Connection α) : Prop :=
  ∀ c, Connection.Goes keep c (x c).2

theorem Connection.Goes.active {keep : Engine → Engine → Prop} {kind : Sql.Statement → Prop}
    (hkeep : ∀ e s parameters, kind s.statement → keep e (e.execute s parameters).1) :
    Connection.Active kind (Connection.Goes keep) where
  refl := .refl
  trans := .trans
  engine h := .of_store_eq h.store rfl
  traced _ _ := .of_store_eq rfl rfl
  noted _ := .of_store_eq rfl rfl
  execute c s parameters hs :=
    ⟨(Engine.Moves.refl c.engine).execute s parameters (hkeep _ _ _ hs), rfl⟩

/-- A step without a body moves the engine as far as its statements do. -/
theorem drives_act {keep : Engine → Engine → Prop} {kind : Sql.Statement → Prop}
    (hkeep : ∀ e s parameters, kind s.statement → keep e (e.execute s parameters).1)
    (hset : ∀ setting value, kind (.pragma setting value)) {s : Step} (hs : s.Reads kind) :
    Drives keep s.act :=
  (Connection.Goes.active hkeep).act hset hs fun _ _ _ => .of_store_eq rfl rfl

/-! ## Numbers of savepoints -/

/-- Only entering a savepoint gives one a number. -/
theorem Step.act_savepoints (s : Step) (c : Connection) :
    (s.act c).2.savepoints = c.savepoints := by
  have hdrives : Drives (fun _ _ => True) s.act :=
    drives_act (fun _ _ _ _ => trivial) (fun _ _ => trivial) s.reads_any
  exact (hdrives c).savepoints

theorem Connection.run_savepoints (sql : String) (given : Bindings) (c : Connection) :
    (Connection.run sql given c).2.savepoints = c.savepoints := by
  have hactive : Active (fun _ => True) (Goes fun _ _ => True) := Goes.active fun _ _ _ _ => trivial
  have hdrives : Drives (fun _ _ => True) (Connection.run sql given) :=
    hactive.run (fun _ _ => trivial) given
  exact (hdrives c).savepoints

end TypedSql
