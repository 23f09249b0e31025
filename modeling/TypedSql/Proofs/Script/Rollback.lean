import TypedSql.Proofs.Script.Transaction

/-!
Undoing a transaction that is gone. A failure is answered by rolling back, whatever the body did. A
conflict under `OR ROLLBACK` has the engine end the transaction itself; rolling back is then refused,
and its refusal is given as a failure of undoing although everything was undone. So whether a failure
of undoing is given depends only on whether the body left a transaction open, and it is given exactly
where none is left.
-/

namespace TypedSql

namespace Step

theorem permits_undoes : Permits (·.isControl = false) fun _ => Engine.Undoes :=
  ⟨fun _ _ => rfl, fun _ _ _ _ hs => Engine.laws.undoes hs⟩

/-! ## Transactions -/

variable {c d : Connection}

/-- Why the work of a body is to be undone, if it is: the body failed, or else the commit. -/
def undoing? (d : Connection) : Except Failure Unit → Option Failure
  | .error f => some f
  | .ok () =>
      match d.engine.store.commit with
      | .ok _ => none
      | .error e => some (.executing "COMMIT TRANSACTION" (.ofError e))

/-- The failure that is given where there is nothing to roll back. -/
def unanswered (cause : Failure) : Failure :=
  .rollback cause (.executing "ROLLBACK TRANSACTION" (.ofError .nothingToRollBack))

/-- What is given at the end of a transaction, by whether the body left one open, and the store
then: no transaction is open in it, and where none was before it is as the body left it. -/
theorem close_answer (mode : Sql.TransactionMode) (result : Except Failure Unit) (d : Connection) :
    (match ((Bracket.transaction mode).close result d).1 with
      | .error failure => some failure
      | .ok () => none) =
        (if d.isAutocommit then (undoing? d result).map unanswered else undoing? d result) ∧
      ((Bracket.transaction mode).close result d).2.isAutocommit = true ∧
      (d.isAutocommit = true →
        ((Bracket.transaction mode).close result d).2.engine.store = d.engine.store ∧
          (undoing? d result).isSome = true) := by
  have hcontrols := Bracket.controls_transaction mode
  cases hopen : d.engine.store.transaction with
  | none =>
      have hauto : d.isAutocommit = true := by
        rw [Connection.isAutocommit, Engine.isAutocommit, Store.isAutocommit, hopen]
        rfl
      have hrollback (cause : Failure) (d' : Connection) (hd : d'.engine.store = d.engine.store) :
          (Bracket.transaction mode).rollBack cause d' =
            (unanswered cause, d'.trace (Bracket.transaction mode).undo) := by
        rw [Bracket.rollBack_apply hcontrols, hd, Store.control, Store.rollback, hopen]
        rfl
      rw [if_pos hauto]
      cases result with
      | error f =>
          rw [Bracket.close_error, hrollback f d rfl]
          refine ⟨rfl, ?_, fun _ => ⟨by simp, rfl⟩⟩
          rwa [Connection.isAutocommit, Connection.trace_engine]
      | ok a =>
          have hcommit : d.engine.store.commit = .error .nothingToCommit := by
            rw [Store.commit, hopen]
          rw [Bracket.close_ok hcontrols, Store.control, undoing?, hcommit]
          dsimp only
          rw [Bracket.close_error, hrollback _ _ (by simp)]
          refine ⟨rfl, ?_, fun _ => ⟨by simp, rfl⟩⟩
          rwa [Connection.isAutocommit, Connection.trace_engine, Connection.trace_engine]
  | some t =>
      have hauto : ¬d.isAutocommit = true := by
        rw [Connection.isAutocommit, Engine.isAutocommit, Store.isAutocommit, hopen]
        exact Bool.false_ne_true
      have hwithin : d.engine.store.Within t := ⟨t, hopen, .refl t⟩
      obtain ⟨failure, sqls, content, hending, hfailure, -, hstore⟩ :=
        close_transaction mode result hwithin
      rw [if_neg hauto]
      refine ⟨hfailure.trans ?_, ?_, fun h => absurd h hauto⟩
      · cases hending with
        | kept hcommit => rw [undoing?, hcommit]
        | refused hcommit => rw [undoing?, hcommit]
        | failed f => rfl
      · rw [Connection.isAutocommit, Engine.isAutocommit, hstore]
        rfl

/-- A transaction that begins is over after its call, whatever its body does. A failure of undoing is
given exactly where the body left no transaction open: nothing is open then that could have been
undone, and the store is as the body left it. Everywhere else the failure is that of the body or of
the commit. A body without statements about transactions has ended its transaction only where one of
them undid it; and if none says that a conflict ends the transaction, it has not. -/
theorem transaction_answer (mode : Sql.TransactionMode) (body : List Step)
    (hc : c.isAutocommit = true) :
    ∃ s, c.engine.store.begin = .ok s ∧
      (take (.transaction mode body) c).2.isAutocommit = true ∧
      ((takeBody body (begun mode c s)).2.isAutocommit = true →
        (take (.transaction mode body) c).2.engine.store =
            (takeBody body (begun mode c s)).2.engine.store ∧
          ∃ cause,
            undoing? (takeBody body (begun mode c s)).2 (takeBody body (begun mode c s)).1.2 =
              some cause ∧
            (take (.transaction mode body) c).1.failure? = some (unanswered cause)) ∧
      ((takeBody body (begun mode c s)).2.isAutocommit = false →
        (take (.transaction mode body) c).1.failure? =
          undoing? (takeBody body (begun mode c s)).2 (takeBody body (begun mode c s)).1.2) ∧
      (AllRead (·.isControl = false) body → ∀ base,
        AllAllowed (fun _ => Engine.Undoes) base body (begun mode c s)) ∧
      (AllRead (·.isQuiet = true) body →
        (takeBody body (begun mode c s)).2.isAutocommit = false) := by
  have hnone : c.engine.store.transaction = none := Option.isNone_iff_eq_none.mp hc
  let s : Store := { c.engine.store with transaction := some { start := c.engine.store.content } }
  have hs : c.engine.store.begin = .ok s := by
    rw [Store.begin, hnone]
  have hrun := run_control (Bracket.controls_transaction mode).enter c
  rw [Connection.control, Store.control, hs] at hrun
  have htake : take (.transaction mode body) c =
      bracketed (.transaction mode) (takeBody body) c := by rw [take]
  rw [bracketed_entered hrun] at htake
  obtain ⟨hfailure, hover, hgone⟩ := close_answer mode (takeBody body (begun mode c s)).1.2
    (takeBody body (begun mode c s)).2
  refine ⟨s, hs, ?_, fun hauto => ?_, fun hauto => ?_, fun hread base => ?_, fun hread => ?_⟩
  · rw [htake]
    exact hover
  · obtain ⟨hstore, hcause⟩ := hgone hauto
    obtain ⟨cause, hcause⟩ := Option.isSome_iff_exists.mp hcause
    rw [if_pos hauto, hcause] at hfailure
    refine ⟨?_, cause, hcause, ?_⟩
    · rw [htake]
      exact hstore
    · rw [htake]
      exact hfailure
  · rw [htake]
    rw [hauto] at hfailure
    exact hfailure
  · exact allAllowed_of_reads permits_undoes body base _ hread
  · have hquiet : ReadsThroughout (·.isQuiet = true) (.transaction mode body) := by
      rwa [ReadsThroughout]
    have hallowed := (quiet_allowed hquiet [] c).2.1
    rw [Allowed] at hallowed
    have hopen : (takeBody body (begun mode c s)).2.engine.store.Within
        { start := c.engine.store.content } :=
      takeBody_preserves (preserves_within rfl) body _ _ (allNamed_any body) (Nat.zero_le _)
        (hallowed _ (Bracket.entered?_ok hrun)) ⟨_, rfl, .refl _⟩
    obtain ⟨u, hu, -⟩ := hopen
    exact Option.isNone_eq_false_iff.mpr (by rw [hu]; rfl)

/-- A row that is there already, inserted under `OR ROLLBACK`: the store is as before the
transaction, and a failure of undoing is given. -/
theorem transaction_answer_conflict :
    let sql := "INSERT OR ROLLBACK INTO t DEFAULT VALUES"
    let t : Table :=
      { name := "t", columns := [{ name := "k", unique := true, default := .integer 0 }]
        rows := [⟨1, [.integer 0]⟩] }
    let c : Connection := { engine := { store := { content := { tables := [t] } } } }
    c.isAutocommit = true ∧
      (take (.transaction .deferred [.run sql .none]) c).2.engine.store = c.engine.store ∧
      (take (.transaction .deferred [.run sql .none]) c).1.failure? =
        some (unanswered (.executing sql (.ofError (.uniqueViolation "t" "k" false)))) := by
  intro sql t c
  let s : Store := { c.engine.store with transaction := some { start := c.engine.store.content } }
  have htokens : Sql.tokens sql =
      [⟨.word, "INSERT".toList, [' '], 0⟩, ⟨.word, "OR".toList, [' '], 7⟩,
        ⟨.word, "ROLLBACK".toList, [' '], 10⟩, ⟨.word, "INTO".toList, [' '], 19⟩,
        ⟨.word, "t".toList, [' '], 24⟩, ⟨.word, "DEFAULT".toList, [' '], 26⟩,
        ⟨.word, "VALUES".toList, [], 34⟩] := by
    have htext : sql.toList.takeWhile (· != '\x00') =
        'I' :: ("NSERT".toList ++ ' ' :: 'O' :: ("R".toList ++ ' ' :: 'R' :: ("OLLBACK".toList ++
          ' ' :: 'I' :: ("NTO".toList ++ ' ' :: 't' :: ([] ++ ' ' :: 'D' :: ("EFAULT".toList ++
            ' ' :: 'V' :: "ALUES".toList)))))) := by
      dsimp only [sql]
      rfl
    rw [Sql.tokens, htext, Sql.lexemes_word rfl rfl, Sql.lexemes_word rfl rfl,
      Sql.lexemes_word rfl rfl, Sql.lexemes_word rfl rfl, Sql.lexemes_word rfl rfl,
      Sql.lexemes_word rfl rfl, Sql.lexemes_last rfl]
    rfl
  let cause : Failure := .executing sql (.ofError (.uniqueViolation "t" "k" false))
  have hrun : Connection.run sql .none (begun .deferred c s) = (.error cause, c) := by
    rw [Connection.run, Act.bind_apply, Connection.prepareBound, Act.bind_apply,
      Connection.prepareText, Engine.prepare, htokens]
    dsimp only [s, c, t]
    rfl
  have hact : act (.run sql .none) (begun .deferred c s) = (.error cause, c) := by
    rw [act, map_eq_pure_bind, Act.bind_apply, hrun]
  have hbody : takeBody [.run sql .none] (begun .deferred c s) =
      (([.simple (.error cause) ⟨[], c.status⟩], .error cause), c) := by
    rw [takeBody_cons, take_simple (by rw [take] <;> simp), hact]
    rfl
  obtain ⟨s', hs, hanswer⟩ := transaction_answer (c := c) .deferred [.run sql .none] rfl
  cases hs
  rw [hbody] at hanswer
  obtain ⟨hstore, f, hf, hfailure⟩ := hanswer.2.1 rfl
  cases hf
  exact ⟨rfl, hstore, hfailure⟩

end Step

end TypedSql
