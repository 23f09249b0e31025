import TypedSql.Proofs.Script.Quiet

/-!
Transactions around bodies. As long as no statement of the body ends it, the transaction that is
open after the body is the one that was begun before it, whatever savepoints the body leaves behind.
So the one statement that ends it keeps all of the work or none.
-/

namespace TypedSql

/-- The texts that are added to the trace when they are executed. -/
def Connection.texts (c : Connection) (sqls : List String) : List String :=
  if c.tracing then sqls else []

theorem Connection.trace_traced (c : Connection) (sql : String) :
    (c.trace sql).traced = c.traced ++ c.texts [sql] := by
  unfold trace texts
  split <;> simp

theorem Connection.trace_trace_traced (c : Connection) (first second : String) :
    ((c.trace first).trace second).traced = c.traced ++ c.texts [first, second] := by
  rw [trace_traced, trace_traced, List.append_assoc, texts, texts, texts, trace_tracing]
  split <;> rfl

theorem Store.begin_transaction {s s' : Store} (h : s.begin = .ok s') :
    s.transaction = none ∧ s'.transaction = some { start := s.content } := by
  unfold Store.begin at h
  split at h
  · cases h
  next hnone =>
    cases h
    exact ⟨hnone, rfl⟩

theorem Store.commit_settled {s s' : Store} (h : s.commit = .ok s') : s' = .settled s.content := by
  unfold Store.commit at h
  split at h
  · cases h
  · split at h
    · cases h
    · cases h
      rfl

/-- Within a transaction that was not opened by a savepoint, brackets leave it open. -/
theorem Store.nests_within {t : Transaction} (ht : t.bySavepoint = false) :
    Store.Nests (fun _ => True) fun _ s => s.Within t where
  isOpen h := by
    obtain ⟨u, hu, _⟩ := h
    exact ⟨u, hu⟩
  enter _ h := h.trans fun u hu => savepoint_within hu _
  stay _ _ h := h
  leave _ _ h hleave := by
    obtain ⟨u, hu, htu⟩ := h
    rcases release_within hu hleave with ⟨v, hv, huv⟩ | ⟨hby, _⟩
    · exact ⟨v, hv, htu.trans huv⟩
    · rw [htu.bySavepoint, ht] at hby
      cases hby
  undo _ _ h hundo := h.trans fun u hu => rollbackTo_within hu hundo

namespace Step

variable {c d : Connection}

theorem preserves_within {t : Transaction} (ht : t.bySavepoint = false) :
    Preserves (fun _ => True) 0 (fun _ => Engine.StaysOpen) fun _ s => s.Within t where
  nests := Store.nests_within ht
  numbers _ _ := trivial
  execute _ _ _ _ hkeep h := Engine.laws.within_of_staysOpen hkeep h

/-- Nothing that was traced during a step is left after it. -/
theorem take_traced (s : Step) (c : Connection) : (take s c).2.traced = [] := by
  cases s with
  | transaction mode body => rw [take]; rfl
  | savepoint name body => rw [take]; rfl
  | attempt s =>
      rw [take]
      exact take_traced s c
  | _ => rfl

theorem takeBody_traced (steps : List Step) (hc : c.traced = []) :
    (takeBody steps c).2.traced = [] := by
  induction steps generalizing c with
  | nil => exact hc
  | cons s rest ih =>
      have hrest := ih (take_traced s c)
      rw [takeBody_cons]
      cases (take s c).1.failure? with
      | none => exact hrest
      | some failure =>
          cases s.isAttempt with
          | false => exact take_traced s c
          | true => exact hrest

/-- A transaction that cannot begin does nothing: its body is not run, no other statement is
executed, and the failure is that of beginning it. -/
theorem take_transaction_refused {mode : Sql.TransactionMode} {body : List Step} {e : EngineError}
    (h : c.engine.store.begin = .error e) :
    take (.transaction mode body) c =
      (.bracket [] [] (some (.executing (Bracket.transaction mode).enter (.ofError e)))
        ⟨c.traced ++ c.texts [(Bracket.transaction mode).enter], c.status⟩, c.untraced) := by
  have hrun := run_control (Bracket.controls_transaction mode).enter c
  rw [Connection.control, Store.control, h] at hrun
  rw [take, bracketed_refused hrun, Connection.trace_traced, Connection.trace_status,
    Connection.trace_untraced]

/-- The connection that the body of a transaction starts with. -/
def begun (mode : Sql.TransactionMode) (c : Connection) (s : Store) : Connection :=
  ((c.trace (Bracket.transaction mode).enter).withStore s).untraced

/-- How a transaction ends after a body with a result, on a connection as the body left it: what the
failure is, which statements end it, and which content is there then. The content before the
transaction is `entry`. -/
inductive Ending (entry : Content) (d : Connection) :
    Except Failure Unit → Option Failure → List String → Content → Prop where
  | kept {s : Store} (h : d.engine.store.commit = .ok s) :
      Ending entry d (.ok ()) none ["COMMIT TRANSACTION"] d.engine.store.content
  | refused {e : EngineError} (h : d.engine.store.commit = .error e) :
      Ending entry d (.ok ()) (some (.executing "COMMIT TRANSACTION" (.ofError e)))
        ["COMMIT TRANSACTION", "ROLLBACK TRANSACTION"] entry
  | failed (f : Failure) :
      Ending entry d (.error f) (some f) ["ROLLBACK TRANSACTION"] entry

/-- Closing a transaction that continues one which began with a content. -/
theorem close_transaction {t : Transaction} (mode : Sql.TransactionMode)
    (result : Except Failure Unit) (hd : d.engine.store.Within t) :
    ∃ failure sqls content, Ending t.start d result failure sqls content ∧
      (match ((Bracket.transaction mode).close result d).1 with
        | .error failure => some failure
        | .ok () => none) = failure ∧
      ((Bracket.transaction mode).close result d).2.traced = d.traced ++ d.texts sqls ∧
      ((Bracket.transaction mode).close result d).2.engine.store = .settled content := by
  obtain ⟨u, hu, htu⟩ := hd
  have hcontrols := Bracket.controls_transaction mode
  have hundo : ∀ d' : Connection, d'.engine.store = d.engine.store →
      d'.engine.store.control .rollback = .ok (.settled t.start) := by
    intro d' hd'
    rw [hd', Store.control, Store.rollback, hu, ← htu.start]
  cases result with
  | error f =>
      refine ⟨_, _, _, .failed f, ?_⟩
      rw [Bracket.close_error, Bracket.rollBack_apply hcontrols, hundo d rfl]
      exact ⟨rfl, d.trace_traced _, rfl⟩
  | ok a =>
      rw [Bracket.close_ok hcontrols, Store.control]
      cases hcommit : d.engine.store.commit with
      | ok s =>
          refine ⟨_, _, _, .kept hcommit, ?_⟩
          exact ⟨rfl, d.trace_traced _, Store.commit_settled hcommit⟩
      | error e =>
          refine ⟨_, _, _, .refused hcommit, ?_⟩
          dsimp only
          rw [Bracket.close_error, Bracket.rollBack_apply hcontrols, hundo _ (by simp)]
          exact ⟨rfl, d.trace_trace_traced _ _, rfl⟩

/-- A transaction that begins is ended, with the work of its body or with none of it. -/
theorem take_transaction_begun {mode : Sql.TransactionMode} {body : List Step} {s : Store}
    {base : List Savepoint} (hs : c.engine.store.begin = .ok s)
    (h : Allowed (fun _ => Engine.StaysOpen) base (.transaction mode body) c) :
    ∃ failure sqls content,
      Ending c.engine.store.content (takeBody body (begun mode c s)).2
        (takeBody body (begun mode c s)).1.2 failure sqls content ∧
      (take (.transaction mode body) c).1 =
        .bracket (c.traced ++ c.texts [(Bracket.transaction mode).enter])
          (takeBody body (begun mode c s)).1.1 failure
          ⟨(takeBody body (begun mode c s)).2.texts sqls,
            (take (.transaction mode body) c).2.status⟩ ∧
      (take (.transaction mode body) c).2.engine.store = .settled content := by
  have hrun := run_control (Bracket.controls_transaction mode).enter c
  rw [Connection.control, Store.control, hs] at hrun
  obtain ⟨hnone, hbegun⟩ := Store.begin_transaction hs
  rw [Allowed] at h
  have hbody : (takeBody body (begun mode c s)).2.engine.store.Within
      { start := c.engine.store.content } :=
    takeBody_preserves (preserves_within rfl) body _ _ (allNamed_any body) (Nat.zero_le _)
      (h _ (Bracket.entered?_ok hrun)) ⟨_, hbegun, .refl _⟩
  obtain ⟨failure, sqls, content, hending, hfailure, htraced, hstore⟩ :=
    close_transaction mode (takeBody body (begun mode c s)).1.2 hbody
  refine ⟨failure, sqls, content, hending, ?_, ?_⟩
  · have hbefore : ((c.trace (Bracket.transaction mode).enter).withStore s).traced = _ :=
      c.trace_traced _
    have hnothing : (takeBody body (begun mode c s)).2.traced = [] := takeBody_traced body rfl
    rw [hnothing, List.nil_append] at htraced
    rw [take, bracketed_entered hrun, ← hfailure, ← htraced, ← hbefore]
    rfl
  · rw [take, bracketed_entered hrun]
    exact hstore

/-- A transaction is all or nothing. Where it cannot begin, nothing is done at all. Where it begins,
and no statement of its body ends it, its work is kept exactly if the body and the commit go well;
otherwise the content is as before, and the failure is the body's or else that of the commit. Either
way no transaction and no savepoint is left open, and around what the body traces stand the texts of
beginning and ending it. -/
theorem transaction_atomic (mode : Sql.TransactionMode) (body : List Step) (c : Connection)
    (base : List Savepoint)
    (h : Allowed (fun _ => Engine.StaysOpen) base (.transaction mode body) c) :
    (∀ e, c.engine.store.begin = .error e →
      take (.transaction mode body) c =
        (.bracket [] [] (some (.executing (Bracket.transaction mode).enter (.ofError e)))
          ⟨c.traced ++ c.texts [(Bracket.transaction mode).enter], c.status⟩, c.untraced)) ∧
    (∀ s, c.engine.store.begin = .ok s →
      ∃ failure sqls content,
        Ending c.engine.store.content (takeBody body (begun mode c s)).2
          (takeBody body (begun mode c s)).1.2 failure sqls content ∧
        (take (.transaction mode body) c).1 =
          .bracket (c.traced ++ c.texts [(Bracket.transaction mode).enter])
            (takeBody body (begun mode c s)).1.1 failure
            ⟨(takeBody body (begun mode c s)).2.texts sqls,
              (take (.transaction mode body) c).2.status⟩ ∧
        (take (.transaction mode body) c).2.engine.store.content = content ∧
        (take (.transaction mode body) c).2.isAutocommit = true ∧
        (take (.transaction mode body) c).2.engine.store.savepoints = []) := by
  refine ⟨fun e he => take_transaction_refused he, fun s hs => ?_⟩
  obtain ⟨failure, sqls, content, hending, hreport, hstore⟩ := take_transaction_begun hs h
  refine ⟨failure, sqls, content, hending, hreport, ?_, ?_, ?_⟩
  · rw [hstore]
    rfl
  · rw [Connection.isAutocommit, Engine.isAutocommit, hstore]
    rfl
  · rw [hstore]
    rfl

/-- A body that swallows the failure of a savepoint, leaves it open, goes on and then fails. -/
theorem transaction_atomic_swallowed :
    let body : List Step :=
      [.attempt (.savepoint (some "a") [.setUserVersion 7, .fail "x"]), .setUserVersion 8,
        .fail "y"]
    let c : Connection := { engine := {}, tracing := true }
    (take (.transaction .deferred body) c).2.isAutocommit = true ∧
      (take (.transaction .deferred body) c).2.engine.store.savepoints = [] := by
  intro body c
  have hquiet : ReadsThroughout (·.isQuiet = true) (.transaction .deferred body) :=
    ⟨⟨trivial, trivial, trivial⟩, trivial, trivial, trivial⟩
  obtain ⟨_, _, _, _, _, _, hend⟩ :=
    (transaction_atomic .deferred body c [] (quiet_allowed hquiet [] c).2.1).2 _ rfl
  exact hend

end Step

end TypedSql
