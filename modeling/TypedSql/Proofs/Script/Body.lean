import TypedSql.Proofs.Connection.Control
import TypedSql.Proofs.Connection.Moves
import TypedSql.Proofs.Engine.Savepoint

/-!
Bodies of steps. A bracket that is entered runs its body and then changes the store at most once.
`Step.Allowed` says of the statements that are executed in the course of a step, in the bodies
within it too, that each is one that is allowed; what allowed statements and brackets preserve, a
whole body preserves. What brackets preserve may depend on the names of their savepoints, where
those that are given a number have one that was never given before.
-/

namespace TypedSql

/-! ## Brackets around bodies -/

/-- The connection that the body of a bracket starts with, if the bracket is entered. -/
def Bracket.entered? (b : Bracket) (c : Connection) : Option Connection :=
  match (Connection.run b.enter .none).attempt c with
  | (.ok (), d) => some d.untraced
  | (.error _, _) => none

namespace Step

variable {b : Bracket} {body : StateM Connection (List Report × Except Failure Unit)}
  {c d : Connection}

/-- A bracket that is not entered does not run its body. -/
theorem bracketed_refused {f : Failure}
    (h : (Connection.run b.enter .none).attempt c = (.error f, d)) :
    bracketed b body c = (.bracket [] [] (some f) ⟨d.traced, d.status⟩, d.untraced) := by
  have haround (acc : StateM Connection ((List String × List Report) × Except Failure Unit)) :
      b.around acc c = ((none, .error f), d) := by
    rw [Bracket.around, StateM.bind_apply, h]
    rfl
  rw [bracketed, StateM.bind_apply, haround]
  rfl

/-- A bracket that is entered runs its body and is closed. -/
theorem bracketed_entered (h : (Connection.run b.enter .none).attempt c = (.ok (), d)) :
    bracketed b body c =
      (.bracket d.traced (body d.untraced).1.1
        (match (b.close (body d.untraced).1.2 (body d.untraced).2).1 with
          | .error failure => some failure
          | .ok () => none)
        ⟨(b.close (body d.untraced).1.2 (body d.untraced).2).2.traced,
          (b.close (body d.untraced).1.2 (body d.untraced).2).2.status⟩,
        (b.close (body d.untraced).1.2 (body d.untraced).2).2.untraced) := by
  rw [bracketed, StateM.bind_apply, Bracket.around, StateM.bind_apply, h]
  rfl

/-! ## What the statements of a body do -/

mutual

/-- Every statement that is executed in the course of a step is allowed. What is allowed may depend
on the savepoints that were there when the innermost body around the statement began. -/
def Allowed (keep : List Savepoint → Engine → Engine → Prop) (base : List Savepoint) :
    Step → Connection → Prop
  | .transaction mode body, c =>
      ∀ d, (Bracket.transaction mode).entered? c = some d →
        AllAllowed keep d.engine.store.savepoints body d
  | .savepoint name body, c =>
      ∀ d, (Connection.savepointBracket name c).1.entered?
          (Connection.savepointBracket name c).2 = some d →
        AllAllowed keep d.engine.store.savepoints body d
  | .attempt s, c => Allowed keep base s c
  | s, c => Engine.Moves (keep base) c.engine (s.act c).2.engine

/-- The same of the steps of a body, as far as they are taken. -/
def AllAllowed (keep : List Savepoint → Engine → Engine → Prop) (base : List Savepoint) :
    List Step → Connection → Prop
  | [], _ => True
  | s :: rest, c =>
      Allowed keep base s c ∧
        ((take s c).1.failure? = none ∨ s.isAttempt = true →
          AllAllowed keep base rest (take s c).2)

end

theorem takeBody_cons (s : Step) (rest : List Step) (c : Connection) :
    takeBody (s :: rest) c =
      match (take s c).1.failure?, s.isAttempt with
      | some failure, false => (([(take s c).1], .error failure), (take s c).2)
      | _, _ =>
          (((take s c).1 :: (takeBody rest (take s c).2).1.1, (takeBody rest (take s c).2).1.2),
            (takeBody rest (take s c).2).2) := by
  rw [takeBody, StateM.bind_apply]
  cases (take s c).1.failure? with
  | none => rfl
  | some failure => cases s.isAttempt <;> rfl

end Step

/-- A property of the store that holds through brackets: a transaction is open, so only savepoints
are entered, and what their bodies keep of it, relative to the savepoints they began with, is enough
to have it back when they are left. It may depend on which names they have. -/
structure Store.Nests (named : String → Prop) (P : List Savepoint → Store → Prop) : Prop where
  isOpen : ∀ {base s}, P base s → ∃ t, s.transaction = some t
  enter : ∀ {base s name}, named name → P base s →
    P (s.savepoint name).savepoints (s.savepoint name)
  stay : ∀ {base s name u}, named name → P base s → P (s.savepoint name).savepoints u → P base u
  leave : ∀ {base s name u v}, named name → P base s → P (s.savepoint name).savepoints u →
    u.release name = .ok v → P base v
  undo : ∀ {base s name u v}, named name → P base s → P (s.savepoint name).savepoints u →
    u.rollbackTo name = .ok v → P base v

namespace Bracket

theorem entered?_ok {b : Bracket} {c d : Connection}
    (h : (Connection.run b.enter .none).attempt c = (.ok (), d)) :
    b.entered? c = some d.untraced := by
  rw [entered?, h]

/-- Entering a bracket gives no number. -/
theorem entered?_savepoints {b : Bracket} {c d : Connection} (h : b.entered? c = some d) :
    d.savepoints = c.savepoints := by
  have hrun := Connection.run_savepoints b.enter .none c
  unfold entered? at h
  split at h
  next d' henter =>
    rw [Act.attempt_apply] at henter
    cases h
    rw [henter] at hrun
    exact hrun
  next => cases h

/-- Where a transaction is open, none is begun. -/
theorem entered?_transaction {c : Connection} {t : Transaction}
    (h : c.engine.store.transaction = some t) (mode : Sql.TransactionMode) :
    (Connection.run (transaction mode).enter .none).attempt c =
      (.error (.executing (transaction mode).enter (.ofError .nestedTransaction)),
        c.trace (transaction mode).enter) := by
  rw [run_control (controls_transaction mode).enter, Connection.control, Store.control, Store.begin,
    h]

/-- A savepoint is entered unless its name has a NUL character in it, in which case nothing
happens. -/
theorem enter_savepoint (name : String) (c : Connection) :
    (∃ fault, (Connection.run (savepoint name).enter .none).attempt c =
      (.error (.preparing (savepoint name).enter fault), c)) ∨
    ('\x00' ∉ name.toList ∧ (Connection.run (savepoint name).enter .none).attempt c =
      (.ok (), (c.trace (savepoint name).enter).withStore (c.engine.store.savepoint name))) := by
  by_cases h : '\x00' ∈ name.toList
  · obtain ⟨fault, hfault⟩ := Sql.parse_savepoint_nul h
    exact .inl ⟨fault, run_unreadable hfault c⟩
  · exact .inr ⟨h, run_control (controls_savepoint h).enter c⟩

end Bracket

/-- The name that a savepoint gets: the given one, or the next number. -/
def Connection.savepointName (c : Connection) (name : Option String) : String :=
  name.getD (toString (c.savepoints + 1))

namespace Step

variable {c : Connection}

/-- A transaction within a transaction leaves the store as it is. -/
theorem bracketed_transaction_store {t : Transaction} (h : c.engine.store.transaction = some t)
    (mode : Sql.TransactionMode) (body : StateM Connection (List Report × Except Failure Unit)) :
    (bracketed (.transaction mode) body c).2.engine.store = c.engine.store := by
  rw [bracketed_refused (Bracket.entered?_transaction h mode)]
  simp

/-- What a savepoint does to the store: nothing, or its body does something to the store with the
savepoint and one more step follows. -/
theorem bracketed_savepoint_store (name : String)
    (body : StateM Connection (List Report × Except Failure Unit)) (c : Connection) :
    (bracketed (.savepoint name) body c).2.engine.store = c.engine.store ∨
      ∃ d, (Bracket.savepoint name).entered? c = some d ∧
        d.engine.store = c.engine.store.savepoint name ∧
        ((bracketed (.savepoint name) body c).2.engine.store = (body d).2.engine.store ∨
          (body d).2.engine.store.release name =
            .ok (bracketed (.savepoint name) body c).2.engine.store ∨
          (body d).2.engine.store.rollbackTo name =
            .ok (bracketed (.savepoint name) body c).2.engine.store) := by
  rcases Bracket.enter_savepoint name c with ⟨fault, h⟩ | ⟨hname, h⟩
  · left
    rw [bracketed_refused h]
    rfl
  · right
    refine ⟨_, Bracket.entered?_ok h, rfl, ?_⟩
    rw [bracketed_entered h]
    exact Bracket.close_store (Bracket.controls_savepoint hname) _ _

theorem savepointBracket_bracket (name : Option String) (c : Connection) :
    (Connection.savepointBracket name c).1 = .savepoint (c.savepointName name) := by
  cases name <;> rfl

theorem savepointBracket_engine (name : Option String) (c : Connection) :
    (Connection.savepointBracket name c).2.engine = c.engine := by
  cases name <;> rfl

/-- A step without a body reports what its act gave. -/
theorem take_simple {s : Step} (h : take s = do
      let result ← s.act.attempt
      pure (.simple result (← afterwards))) (c : Connection) :
    take s c =
      (.simple (s.act c).1 ⟨(s.act c).2.traced, (s.act c).2.status⟩, (s.act c).2.untraced) := by
  rw [h]
  rfl

/-- A step without a body leaves the connection as its act does. -/
theorem take_act {s : Step} (h : take s = do
      let result ← s.act.attempt
      pure (.simple result (← afterwards))) (c : Connection) :
    (take s c).2 = (s.act c).2.untraced := by
  rw [take_simple h]

/-! ## Names and numbers -/

mutual

/-- A step with each savepoint in it that is given a name given one of a kind. -/
def Named (named : String → Prop) : Step → Prop
  | .transaction _ body => AllNamed named body
  | .savepoint name body => (∀ n ∈ name, named n) ∧ AllNamed named body
  | .attempt s => Named named s
  | _ => True

/-- The same of the steps of a body. -/
def AllNamed (named : String → Prop) : List Step → Prop
  | [] => True
  | s :: rest => Named named s ∧ AllNamed named rest

end

mutual

theorem named_any (s : Step) : Named (fun _ => True) s := by
  cases s with
  | transaction mode body => exact allNamed_any body
  | savepoint name body => exact ⟨fun _ _ => trivial, allNamed_any body⟩
  | attempt s => exact named_any s
  | _ => trivial

theorem allNamed_any (steps : List Step) : AllNamed (fun _ => True) steps := by
  cases steps with
  | nil => trivial
  | cons s rest => exact ⟨named_any s, allNamed_any rest⟩

end

theorem rollBack_savepoints (b : Bracket) (cause : Failure) (c : Connection) :
    (b.rollBack cause c).2.savepoints = c.savepoints := by
  have hrun := Connection.run_savepoints b.undo .none c
  rw [Bracket.rollBack, StateM.bind_apply, Act.attempt_apply]
  generalize Connection.run b.undo .none c = outcome at hrun ⊢
  obtain ⟨_ | _, d⟩ := outcome <;> exact hrun

theorem close_savepoints (b : Bracket) (result : Except Failure Unit) (c : Connection) :
    (b.close result c).2.savepoints = c.savepoints := by
  cases result with
  | error cause =>
      rw [Bracket.close_error]
      exact rollBack_savepoints b cause c
  | ok a =>
      have hrun := Connection.run_savepoints b.leave .none c
      rw [Bracket.close, StateM.bind_apply, Act.attempt_apply]
      generalize Connection.run b.leave .none c = outcome at hrun ⊢
      obtain ⟨cause | _, d⟩ := outcome
      · exact (rollBack_savepoints b cause d).trans hrun
      · exact hrun

/-- The numbers that were given grow in a bracket as they do in its body. -/
theorem bracketed_savepoints (b : Bracket) (hbody : ∀ d, d.savepoints ≤ (body d).2.savepoints)
    (c : Connection) : c.savepoints ≤ (bracketed b body c).2.savepoints := by
  have hrun := Connection.run_savepoints b.enter .none c
  cases h : (Connection.run b.enter .none).attempt c with
  | mk result d =>
      rw [Act.attempt_apply] at h
      rw [h] at hrun
      cases result with
      | error f =>
          rw [bracketed_refused h]
          exact Nat.le_of_eq hrun.symm
      | ok _ =>
          rw [bracketed_entered h]
          have hclose := close_savepoints b (body d.untraced).1.2 (body d.untraced).2
          calc c.savepoints = d.untraced.savepoints := hrun.symm
            _ ≤ (body d.untraced).2.savepoints := hbody _
            _ = _ := hclose.symm

theorem savepointBracket_savepoints (name : Option String) (c : Connection) :
    c.savepoints ≤ (Connection.savepointBracket name c).2.savepoints := by
  cases name with
  | some n => exact Nat.le_refl _
  | none => exact Nat.le_succ _

mutual

/-- No number is taken back. -/
theorem take_savepoints (s : Step) (c : Connection) :
    c.savepoints ≤ (take s c).2.savepoints := by
  cases s with
  | transaction mode body =>
      rw [take]
      exact bracketed_savepoints _ (takeBody_savepoints body) c
  | savepoint name body =>
      rw [take, StateM.bind_apply]
      exact Nat.le_trans (savepointBracket_savepoints name c)
        (bracketed_savepoints _ (takeBody_savepoints body) _)
  | attempt s =>
      rw [take]
      exact take_savepoints s c
  | _ =>
      apply Nat.le_of_eq
      rw [take_act (by rw [take] <;> simp) c, Connection.untraced_savepoints, act_savepoints]

theorem takeBody_savepoints (steps : List Step) (c : Connection) :
    c.savepoints ≤ (takeBody steps c).2.savepoints := by
  cases steps with
  | nil => exact Nat.le_refl _
  | cons s rest =>
      have hs := take_savepoints s c
      have hrest := Nat.le_trans hs (takeBody_savepoints rest (take s c).2)
      rw [takeBody_cons]
      cases (take s c).1.failure? with
      | none => exact hrest
      | some failure =>
          cases s.isAttempt with
          | false => exact hs
          | true => exact hrest

end

/-! ## What a body preserves -/

/-- What statements that are allowed preserve, and brackets too whose names are of a kind. So are
the numbers above one of them. -/
structure Preserves (named : String → Prop) (highest : Nat)
    (keep : List Savepoint → Engine → Engine → Prop) (P : List Savepoint → Store → Prop) : Prop where
  nests : Store.Nests named P
  numbers : ∀ n, highest < n → named (toString n)
  execute : ∀ base e s parameters, keep base e (Engine.execute e s parameters).1 →
    P base e.store → P base (Engine.execute e s parameters).1.store

variable {named : String → Prop} {highest : Nat}
  {keep : List Savepoint → Engine → Engine → Prop} {P : List Savepoint → Store → Prop}

theorem Preserves.savepointName (hP : Preserves named highest keep P) (hc : highest ≤ c.savepoints)
    {name : Option String} (hname : ∀ n ∈ name, named n) : named (c.savepointName name) := by
  cases name with
  | some n => exact hname n rfl
  | none => exact hP.numbers _ (Nat.lt_succ_of_le hc)

mutual

/-- What allowed statements keep, and what holds through brackets, a step keeps. -/
theorem take_preserves (hP : Preserves named highest keep P) (s : Step) (base : List Savepoint)
    (c : Connection) (hnamed : Named named s) (hcount : highest ≤ c.savepoints)
    (h : Allowed keep base s c) (hc : P base c.engine.store) :
    P base (take s c).2.engine.store := by
  cases s with
  | transaction mode body =>
      obtain ⟨t, ht⟩ := hP.nests.isOpen hc
      have hstore := bracketed_transaction_store ht mode (takeBody body)
      rw [take, hstore]
      exact hc
  | savepoint name body =>
      have hc' : P base (Connection.savepointBracket name c).2.engine.store := by
        rwa [savepointBracket_engine]
      rw [Named] at hnamed
      rw [Allowed, savepointBracket_bracket] at h
      rw [take, StateM.bind_apply, savepointBracket_bracket]
      have hname := hP.savepointName hcount hnamed.1
      rcases bracketed_savepoint_store (c.savepointName name) (takeBody body)
        (Connection.savepointBracket name c).2 with hsame | ⟨d, hd, hstore, hlast⟩
      · rwa [hsame]
      · have hcount' : highest ≤ d.savepoints :=
          calc highest ≤ c.savepoints := hcount
            _ ≤ (Connection.savepointBracket name c).2.savepoints :=
              savepointBracket_savepoints name c
            _ = d.savepoints := (Bracket.entered?_savepoints hd).symm
        have hbody : P d.engine.store.savepoints (takeBody body d).2.engine.store :=
          takeBody_preserves hP body d.engine.store.savepoints d hnamed.2 hcount' (h d hd)
            (by rw [hstore]; exact hP.nests.enter hname hc')
        rw [hstore] at hbody
        rcases hlast with hstay | hleave | hundo
        · rw [hstay]
          exact hP.nests.stay hname hc' hbody
        · exact hP.nests.leave hname hc' hbody hleave
        · exact hP.nests.undo hname hc' hbody hundo
  | attempt s =>
      rw [take]
      exact take_preserves hP s base c hnamed hcount h hc
  | _ =>
      rw [take_act (by rw [take] <;> simp) c, Connection.untraced_engine]
      exact h.preserves (hP.execute base) hc

/-- What a step keeps, a body keeps. -/
theorem takeBody_preserves (hP : Preserves named highest keep P) (steps : List Step)
    (base : List Savepoint) (c : Connection) (hnamed : AllNamed named steps)
    (hcount : highest ≤ c.savepoints) (h : AllAllowed keep base steps c)
    (hc : P base c.engine.store) :
    P base (takeBody steps c).2.engine.store := by
  cases steps with
  | nil => exact hc
  | cons s rest =>
      rw [AllAllowed] at h
      rw [AllNamed] at hnamed
      have hs := take_preserves hP s base c hnamed.1 hcount h.1 hc
      have hrest (hgo : (take s c).1.failure? = none ∨ s.isAttempt = true) :=
        takeBody_preserves hP rest base (take s c).2 hnamed.2
          (Nat.le_trans hcount (take_savepoints s c)) (h.2 hgo) hs
      rw [takeBody_cons]
      cases hfailure : (take s c).1.failure? with
      | none => exact hrest (.inl hfailure)
      | some failure =>
          cases hattempt : s.isAttempt with
          | false => exact hs
          | true => exact hrest (.inr hattempt)

end

end Step

end TypedSql
