import TypedSql.Proofs.Script.Body

/-!
Quiet bodies. What the statements of a body do cannot be seen before they are executed, but what its
texts are read as can. Where every text of a body is read as statements that are not about
transactions and do not roll one back when a row conflicts, no execution ends the transaction or
touches the savepoints, whatever the tables are and however it goes.
-/

namespace TypedSql

namespace Step

mutual

/-- A step with every text of it, in the bodies within it too, read as statements of a kind. -/
def ReadsThroughout (kind : Sql.Statement → Prop) : Step → Prop
  | .transaction _ body => AllRead kind body
  | .savepoint _ body => AllRead kind body
  | .attempt s => ReadsThroughout kind s
  | s => s.Reads kind

/-- The same of the steps of a body. -/
def AllRead (kind : Sql.Statement → Prop) : List Step → Prop
  | [] => True
  | s :: rest => ReadsThroughout kind s ∧ AllRead kind rest

end

variable {kind : Sql.Statement → Prop} {keep : List Savepoint → Engine → Engine → Prop}

/-- Whatever execution of a statement of the kind is allowed. -/
def Permits (kind : Sql.Statement → Prop) (keep : List Savepoint → Engine → Engine → Prop) : Prop :=
  (∀ setting value, kind (.pragma setting value)) ∧
    ∀ base e s parameters, kind s.statement → keep base e (Engine.execute e s parameters).1

mutual

/-- What a step executes is allowed if all that it reads is. -/
theorem allowed_of_reads (hkind : Permits kind keep) (s : Step) (base : List Savepoint)
    (c : Connection) (h : ReadsThroughout kind s) : Allowed keep base s c := by
  cases s with
  | transaction mode body =>
      rw [Allowed]
      intro d _
      exact allAllowed_of_reads hkind body d.engine.store.savepoints d h
  | savepoint name body =>
      rw [Allowed]
      intro d _
      exact allAllowed_of_reads hkind body d.engine.store.savepoints d h
  | attempt s =>
      rw [Allowed]
      exact allowed_of_reads hkind s base c h
  | _ => exact (drives_act (hkind.2 base) hkind.1 h c).moves

/-- The same of the steps of a body. -/
theorem allAllowed_of_reads (hkind : Permits kind keep) (steps : List Step) (base : List Savepoint)
    (c : Connection) (h : AllRead kind steps) : AllAllowed keep base steps c := by
  cases steps with
  | nil => trivial
  | cons s rest =>
      rw [AllRead] at h
      rw [AllAllowed]
      exact ⟨allowed_of_reads hkind s base c h.1, fun _ =>
        allAllowed_of_reads hkind rest base (take s c).2 h.2⟩

end

theorem Permits.mono {keep' : List Savepoint → Engine → Engine → Prop} (h : Permits kind keep)
    (hkeep : ∀ base e f, keep base e f → keep' base e f) : Permits kind keep' :=
  ⟨h.1, fun base e s parameters hs => hkeep base e _ (h.2 base e s parameters hs)⟩

theorem permits_keepsTransaction :
    Permits (·.isQuiet = true) fun _ => Engine.KeepsTransaction :=
  ⟨fun _ _ => rfl, fun _ _ _ _ hs => Engine.laws.keepsTransaction hs⟩

/-- What is read as quiet leaves every transaction as it is; so it ends none, and takes no savepoint
off the stack. -/
theorem quiet_allowed {s : Step} (h : ReadsThroughout (·.isQuiet = true) s) (base : List Savepoint)
    (c : Connection) :
    Allowed (fun _ => Engine.KeepsTransaction) base s c ∧
      Allowed (fun _ => Engine.StaysOpen) base s c ∧
      Allowed Engine.KeepsSavepoints base s c := by
  have hkeeps := permits_keepsTransaction
  have hopen : Permits (·.isQuiet = true) fun _ => Engine.StaysOpen :=
    hkeeps.mono fun _ _ _ hkeep => hkeep.staysOpen
  have hsavepoints : Permits (·.isQuiet = true) Engine.KeepsSavepoints :=
    hkeeps.mono fun base _ _ hkeep => hkeep.keepsSavepoints base
  exact ⟨allowed_of_reads hkeeps s base c h, allowed_of_reads hopen s base c h,
    allowed_of_reads hsavepoints s base c h⟩

end Step

end TypedSql
