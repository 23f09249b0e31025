import TypedSql.Proofs.Connection.Along
import TypedSql.Proofs.Connection.Control
import TypedSql.Proofs.Engine.Bare
import TypedSql.Proofs.Sql.Verb

/-!
What is inserted through a connection, call by call. `Insertions` is the account of one call: the
rows that it inserted or updated instead, and what the connection can see of that. An account is
given for every call that executes something, whether it went well or not, so the ids in all accounts
are those of all rows that were ever inserted. `c.Logs d log` says what accounts tell of the way from
one connection to another.
-/

namespace TypedSql

/-- What a call inserted, and what can be seen of it. -/
structure Insertions where
  /-- The last row before the call. -/
  before : Int64
  /-- The ids of the rows that the call inserted, in order. -/
  ids : List Int64
  /-- The ids of the rows that an insertion updated instead. -/
  updates : List Int64
  /-- Whether the first word of the text is one for insertions. -/
  leads : Bool
  /-- Whether the call went well and is one that takes note of insertions. -/
  watched : Bool
  /-- Whether the engine met no failure. -/
  whole : Bool
deriving DecidableEq, Repr

namespace Insertions

/-- The last row after the call. -/
def last (i : Insertions) : Int64 := (i.ids.getLast?).getD i.before

/-- Whether the connection takes note of an insertion: the last row is another one, or the text is
one for insertions and there were rows for it that were inserted or updated. -/
def noticed (i : Insertions) : Bool :=
  i.watched && decide (i.last ≠ i.before ∨
    (i.leads = true ∧ i.whole = true ∧ (i.ids ≠ [] ∨ i.updates ≠ [])))

/-- The ids of all rows that were inserted. -/
def placed (log : List Insertions) : List Int64 := log.flatMap ids

/-- The ids of all rows that were updated instead. -/
def updated (log : List Insertions) : List Int64 := log.flatMap updates

@[simp] theorem placed_nil : placed [] = [] := rfl

@[simp] theorem placed_cons (i : Insertions) (log : List Insertions) :
    placed (i :: log) = i.ids ++ placed log := rfl

@[simp] theorem placed_append (log log' : List Insertions) :
    placed (log ++ log') = placed log ++ placed log' := List.flatMap_append

theorem updated_append (log log' : List Insertions) :
    updated (log ++ log') = updated log ++ updated log' := List.flatMap_append

variable {i : Insertions} {log : List Insertions}

end Insertions

open Insertions (placed updated)

/-! ## Engines -/

theorem Engine.Same.bare {e f : Engine} (h : e.Same f) (he : e.Bare) : f.Bare :=
  ⟨h.store ▸ he.store, h.changes.trans he.changes⟩

/-! ## Connections -/

namespace Connection

/-- From one connection to another nothing is executed. -/
structure Rests (c d : Connection) : Prop where
  engine : c.engine.Same d.engine
  inserted : d.inserted = c.inserted

theorem rests_passive : Passive Rests where
  refl _ := ⟨⟨rfl, rfl, rfl⟩, rfl⟩
  trans h h' :=
    ⟨⟨h'.engine.store.trans h.engine.store, h'.engine.lastRowid.trans h.engine.lastRowid,
      h'.engine.changes.trans h.engine.changes⟩, h'.inserted.trans h.inserted⟩
  engine h := ⟨h, rfl⟩
  traced _ _ := ⟨⟨rfl, rfl, rfl⟩, rfl⟩

/-- What the accounts of some calls tell of the connection before and after them. -/
structure Logs (c d : Connection) (log : List Insertions) : Prop where
  last : d.engine.lastRowid = ((placed log).getLast?).getD c.engine.lastRowid
  inserted : d.inserted = (c.inserted || log.any Insertions.noticed)
  /-- Where there were no rows and none was inserted there are none, so none was updated either. -/
  bare : c.engine.Bare → placed log = [] → d.engine.Bare ∧ updated log = []

variable {c d f : Connection} {log log' : List Insertions}

theorem Logs.of_rests (h : Rests c d) : Logs c d [] where
  last := h.engine.lastRowid
  inserted := by simp [h.inserted]
  bare hc _ := ⟨h.engine.bare hc, rfl⟩

theorem Logs.traced (c : Connection) (sql : String) : Logs c (c.trace sql) [] :=
  .of_rests (rests_passive.trace sql c)

theorem Logs.trans (h : Logs c d log) (h' : Logs d f log') : Logs c f (log ++ log') where
  last := by
    rw [h'.last, h.last, Insertions.placed_append, List.getLast?_append]
    cases (placed log').getLast? <;> rfl
  inserted := by rw [h'.inserted, h.inserted, List.any_append, Bool.or_assoc]
  bare hc hnone := by
    rw [Insertions.placed_append, List.append_eq_nil_iff] at hnone
    obtain ⟨hd, hfirst⟩ := h.bare hc hnone.1
    obtain ⟨hf, hsecond⟩ := h'.bare hd hnone.2
    exact ⟨hf, by rw [Insertions.updated_append, hfirst, hsecond]; rfl⟩

/-- A single call. -/
theorem Logs.call {i : Insertions} (hbefore : i.before = c.engine.lastRowid)
    (hlast : d.engine.lastRowid = i.last) (hinserted : d.inserted = (c.inserted || i.noticed))
    (hbare : c.engine.Bare → i.ids = [] → d.engine.Bare ∧ i.updates = []) : Logs c d [i] where
  last := by
    rw [hlast, Insertions.last, hbefore, Insertions.placed_cons, Insertions.placed_nil,
      List.append_nil]
  inserted := by simp [hinserted]
  bare hc hnone := by
    rw [Insertions.placed_cons, Insertions.placed_nil, List.append_nil] at hnone
    obtain ⟨hd, hupdates⟩ := hbare hc hnone
    exact ⟨hd, by simp [updated, hupdates]⟩

/-- A text whose first word is one for insertions is read as an insertion, if it can be read. -/
theorem leads_of_isInsert {sql : String} (h : isInsert sql = true) :
    Sql.Leads Sql.Statement.IsInsertion sql := by
  simp only [isInsert, sameName, Bool.or_eq_true, beq_iff_eq, String.toList_ofList] at h
  rcases h with h | h
  · exact Sql.leads_insertion (.inl rfl) h
  · exact Sql.leads_insertion (.inr rfl) h

end Connection

open Connection (Rests rests_passive)

/-! ## Things done on a connection -/

/-- Something done on a connection that goes as its accounts tell. -/
def Logged {α : Type} (x : StateM Connection α) (log : Connection → List Insertions) : Prop :=
  ∀ c, Connection.Logs c (x c).2 (log c)

/-- The accounts of what is done after an act that went well. -/
def Act.andThen {α : Type} (x : Act α) (log : α → Connection → List Insertions) (c : Connection) :
    List Insertions :=
  match x c with
  | (.ok a, d) => log a d
  | (.error _, _) => []

theorem Act.andThen_ok {α : Type} {x : Act α} {log : α → Connection → List Insertions}
    {c d : Connection} {a : α} (h : x c = (.ok a, d)) : x.andThen log c = log a d := by
  unfold andThen
  rw [h]

theorem Act.andThen_error {α : Type} {x : Act α} {log : α → Connection → List Insertions}
    {c d : Connection} {e : Failure} (h : x c = (.error e, d)) : x.andThen log c = [] := by
  unfold andThen
  rw [h]

namespace Logged

variable {α β : Type} {log log' : Connection → List Insertions}

theorem of_still {x : StateM Connection α} (h : Along Rests x) : Logged x fun _ => [] := fun c =>
  .of_rests (h c)

/-- What is done after something that executes nothing, and that gave it something with a
property. -/
theorem still_act_bind {x : Act α} {f : α → Act β} {logs : α → Connection → List Insertions}
    {P : α → Prop} (hx : Along Rests x) (hP : ∀ c a d, x c = (.ok a, d) → P a)
    (hf : ∀ a, P a → Logged (f a) (logs a)) : Logged (x >>= f : Act β) (x.andThen logs) := by
  intro c
  have hc := hx c
  rw [Act.bind_apply]
  split
  next a d h =>
    rw [h] at hc
    rw [Act.andThen_ok h, ← List.nil_append (logs a d)]
    exact (Connection.Logs.of_rests hc).trans (hf a (hP c a d h) d)
  next e d h =>
    rw [h] at hc
    rw [Act.andThen_error h]
    exact .of_rests hc

/-- What executes nothing needs no account. -/
theorem act_bind_still {x : Act α} {f : α → Act β} (hx : Logged x log)
    (hf : ∀ a, Along Rests (f a)) :
    Logged (x >>= f : Act β) log := by
  intro c
  have hc := hx c
  rw [Act.bind_apply]
  split
  next a d h =>
    rw [h] at hc
    rw [← List.append_nil (log c)]
    exact hc.trans (.of_rests (hf a d))
  next e d h =>
    rw [h] at hc
    exact hc

theorem act_map {x : Act α} (f : α → β) (hx : Logged x log) : Logged (f <$> x : Act β) log :=
  act_bind_still hx fun a => rests_passive.act_pure (f a)

theorem act_lift {x : StateM Connection α} (hx : Logged x log) : Logged (liftM x : Act α) log := by
  intro c
  rw [Act.lift_apply]
  exact hx c

end Logged

/-! ## Calls -/

/-- The account of an execution, by whether an insertion is watched for after an outcome. -/
def Engine.insertions (e : Engine) (s : EngineStatement) (parameters : List Datum) (leads : Bool)
    (watched : Outcome → Bool) : Insertions :=
  { before := e.lastRowid
    ids := e.inserts s parameters
    updates := e.updates s parameters
    leads
    watched := watched (e.execute s parameters).2
    whole := (e.execute s parameters).2.failure.isNone }

/-- An execution goes as its account tells, if an insertion is noted where it is watched for. -/
theorem Connection.Logs.execute {c d : Connection} {s : EngineStatement} {parameters : List Datum}
    {leads : Bool} {watched : Outcome → Bool}
    (hd : d.engine = (c.engine.execute s parameters).1)
    (hinserted : d.inserted =
      (c.inserted || (c.engine.insertions s parameters leads watched).noticed)) :
    Logs c d [c.engine.insertions s parameters leads watched] := by
  refine .call rfl ?_ hinserted fun hc hnone => ?_
  · rw [hd]
    exact c.engine.execute_lastRowid s parameters
  · rw [hd]
    exact ⟨hc.execute hnone, hc.updates hnone⟩

namespace Prepared

def insertions (s : Prepared) (e : Engine) (watched : Outcome → Bool) : Insertions :=
  e.insertions s.statement s.slots (Connection.isInsert s.sql) watched

/-- A statement that is an insertion if the first word of its text is one for insertions. -/
def ByVerb (s : Prepared) : Prop :=
  Connection.isInsert s.sql = true → s.statement.statement.IsInsertion

theorem ByVerb.of_parse {s : Prepared} {sql : String} (hsql : s.sql = sql)
    (h : ∃ p, Sql.parse (Sql.tokens sql) = .ok p ∧ s.statement.statement = p.statement) :
    s.ByVerb := by
  intro hinsert
  obtain ⟨p, hparse, hp⟩ := h
  rw [hsql] at hinsert
  exact hp ▸ Connection.leads_of_isInsert hinsert p hparse

variable (s : Prepared) (c d : Connection) (watched : Outcome → Bool)

/-- An execution that nothing is noted of. -/
theorem logs_unwatched (h : watched (c.engine.execute s.statement s.slots).2 = false) :
    Connection.Logs c (s.execute (c.trace s.expanded)).2 [s.insertions c.engine watched] := by
  refine .execute ?_ ?_
  · simp [execute]
  · simp [execute, Insertions.noticed, Engine.insertions, h]

variable {s} (hs : s.ByVerb)
include hs

/-- Changes are counted after an insertion that gives what it is asked for exactly if it inserted or
updated rows, and met no failure after that. -/
theorem changes_pos_iff (e : Engine) (hinsert : Connection.isInsert s.sql = true)
    (hfirst : (e.execute s.statement s.slots).2.first.isOk = true) :
    0 < (e.execute s.statement s.slots).1.changes ↔
      (e.execute s.statement s.slots).2.failure.isNone = true ∧
        (e.inserts s.statement s.slots ≠ [] ∨ e.updates s.statement s.slots ≠ []) := by
  obtain ⟨i, hi⟩ := hs hinsert
  rw [Engine.execute_changes hi hfirst, ← List.length_pos_iff, ← List.length_pos_iff]
  split
  next hnone =>
    simp only [hnone, true_and]
    omega
  next hsome => simp [hsome]

/-- An execution after which an insertion is noted. -/
theorem logs_watched (h : watched (c.engine.execute s.statement s.slots).2 = true)
    (hfirst : (c.engine.execute s.statement s.slots).2.first.isOk = true)
    (sql : String) (hsql : sql = s.sql) :
    Connection.Logs c
      ((s.execute (c.trace s.expanded)).2.noteInsert sql (c.trace s.expanded).engine.lastRowid)
      [s.insertions c.engine watched] := by
  refine .execute ?_ ?_
  · unfold Connection.noteInsert
    split <;> simp [execute]
  · have hnoticed : (c.engine.insertions s.statement s.slots (Connection.isInsert s.sql)
        watched).noticed =
        decide ((c.engine.execute s.statement s.slots).1.lastRowid ≠ c.engine.lastRowid ∨
          (Connection.isInsert sql = true ∧
            0 < (c.engine.execute s.statement s.slots).1.changes)) := by
      simp only [Insertions.noticed, Insertions.last, Engine.insertions, h, Bool.true_and,
        Engine.execute_lastRowid, hsql]
      exact decide_eq_decide.mpr (or_congr_right (and_congr_right fun hinsert =>
        (changes_pos_iff hs c.engine hinsert hfirst).symm))
    rw [hnoticed]
    unfold Connection.noteInsert
    split <;> rename_i hcase <;> simp_all [execute]

omit hs in
theorem execute_trace (sql : String) :
    (s.execute (c.trace sql)).1 = (c.engine.execute s.statement s.slots).2 := by
  simp [execute]

theorem logged_run : Logged s.run fun c => [s.insertions c.engine (·.all.isOk)] := by
  intro c
  rw [run_apply, execute_trace]
  cases h : (c.engine.execute s.statement s.slots).2.all with
  | ok rows =>
      exact logs_watched c _ hs (by simp [h, Except.isOk, Except.toBool])
        (Outcome.first_isOk_of_all h) _ rfl
  | error e => exact s.logs_unwatched c _ (by simp [h, Except.isOk, Except.toBool])

theorem logged_scalar (type : ValueType) :
    Logged (s.scalar type) fun c => [s.insertions c.engine (·.first.isOk)] := by
  intro c
  rw [scalar_connection, execute_trace]
  cases h : (c.engine.execute s.statement s.slots).2.first with
  | ok row =>
      have hfirst : (c.engine.execute s.statement s.slots).2.first.isOk = true := by
        rw [h]
        rfl
      exact logs_watched c _ hs hfirst hfirst _ rfl
  | error e => exact s.logs_unwatched c _ (by simp [h, Except.isOk, Except.toBool])

omit hs in
/-- Rows are executed unwatched, if any are asked for. -/
theorem logged_rows (limit : Option Nat) :
    Logged (s.rows limit) fun c =>
      if limit = some 0 then [] else [s.insertions c.engine fun _ => false] := by
  intro c
  have hunwatched := s.logs_unwatched c (fun _ => false) rfl
  rw [rows_apply]
  dsimp only
  split
  · exact .traced c s.expanded
  · split <;> exact hunwatched

end Prepared

section
variable (sql : String) (given : Bindings)

theorem prepareBound_byVerb (c : Connection) (s : Prepared) (d : Connection)
    (h : Connection.prepareBound sql given c = (.ok s, d)) : s.ByVerb :=
  .of_parse (prepareBound_ok h).1 (prepareBound_ok h).2

theorem prepare_byVerb (c : Connection) (s : Prepared) (d : Connection)
    (h : Connection.prepare sql given c = (.ok s, d)) : s.ByVerb :=
  .of_parse (prepare_ok h).1 (prepare_ok h).2

/-- The account of a call that prepares a text and executes it once. -/
def boundInsertions (watched : Outcome → Bool) : Connection → List Insertions :=
  (Connection.prepareBound sql given).andThen fun s d => [s.insertions d.engine watched]

theorem logged_run : Logged (Connection.run sql given) (boundInsertions sql given (·.all.isOk)) :=
  .still_act_bind (rests_passive.prepareBound sql given) (prepareBound_byVerb sql given)
    fun _ => Prepared.logged_run

theorem logged_scalar (type : ValueType) :
    Logged (Connection.scalar type sql given) (boundInsertions sql given (·.first.isOk)) :=
  .still_act_bind (rests_passive.prepareBound sql given) (prepareBound_byVerb sql given)
    fun _ hs => Prepared.logged_scalar hs type

theorem logged_query :
    Logged (Connection.query sql given) (boundInsertions sql given (·.all.isOk)) := by
  intro c
  have hrests := rests_passive.prepareBound sql given c
  rw [Connection.query, Act.bind_apply, Act.get_apply]
  dsimp only
  rw [Act.bind_apply]
  unfold boundInsertions
  cases hprepared : Connection.prepareBound sql given c with
  | mk r d =>
      rw [hprepared] at hrests
      cases r with
      | error f =>
          rw [Act.andThen_error hprepared]
          exact .of_rests hrests
      | ok s =>
          rw [Act.andThen_ok hprepared]
          refine (Connection.Logs.of_rests hrests).trans ?_
          have hbefore : c.engine.lastRowid = (d.trace s.expanded).engine.lastRowid := by
            rw [Connection.trace_engine]
            exact hrests.engine.lastRowid.symm
          dsimp only
          rw [Act.bind_apply, Prepared.rows_apply, if_neg (by simp), Prepared.execute_trace,
            hbefore]
          cases h : (d.engine.execute s.statement s.slots).2.all with
          | ok rows =>
              exact Prepared.logs_watched d _ (prepareBound_byVerb sql given c s d hprepared)
                (by simp [h, Except.isOk, Except.toBool]) (Outcome.first_isOk_of_all h) sql
                (prepareBound_ok hprepared).1.symm
          | error e => exact s.logs_unwatched d _ (by simp [h, Except.isOk, Except.toBool])

/-- The account of a fragment that is executed with its values inlined. -/
def inlinedInsertions (x : Fragment) (c : Connection) : List Insertions :=
  match x.compile with
  | .ok text => boundInsertions text .none (·.all.isOk) c
  | .error _ => []

theorem logged_runInlined (x : Fragment) :
    Logged (Connection.runInlined x) (inlinedInsertions x) := by
  unfold Connection.runInlined inlinedInsertions
  cases x.compile with
  | ok text => exact logged_run text .none
  | error e => exact .of_still (rests_passive.act_throw _)

end

/-! ## Batches -/

/-- Several calls that noticed nothing, as one. -/
theorem Connection.Logs.merge {c d f : Connection} {log : List Insertions} {i : Insertions}
    (h : Logs c d log) (hunwatched : log.any Insertions.noticed = false)
    (hbefore : i.before = c.engine.lastRowid) (hids : i.ids = placed log)
    (hupdates : i.updates = updated log) (hf : f.engine = d.engine)
    (hinserted : f.inserted = (d.inserted || i.noticed)) : Logs c f [i] := by
  refine .call hbefore ?_ ?_ fun hc hnone => ?_
  · rw [hf, h.last, Insertions.last, hids, hbefore]
  · rw [hinserted, h.inserted, hunwatched, Bool.or_false]
  · rw [hf, hupdates]
    exact h.bare hc (hids ▸ hnone)

/-- The accounts of statements that are executed one after another, none of them watched. -/
def statementsInsertions : List (Except Fault Sql.Parsed) → Engine → List Insertions
  | [], _ => []
  | .error _ :: _, _ => []
  | .ok parsed :: rest, e =>
      match e.compile parsed with
      | .error _ => []
      | .ok (s, f) =>
          f.insertions s [] false (fun _ => false) ::
            match (f.execute s []).2.first with
            | .error _ => []
            | .ok _ => statementsInsertions rest (f.execute s []).1

theorem logged_runStatements (sql : String) (ps : List (Except Fault Sql.Parsed)) :
    Logged (Connection.runStatements sql ps) fun c => statementsInsertions ps c.engine := by
  induction ps with
  | nil => exact .of_still (rests_passive.act_pure ())
  | cons p rest ih =>
      cases p with
      | error fault => exact .of_still (rests_passive.act_throw _)
      | ok parsed =>
          intro c
          rw [Connection.runStatements, Act.bind_apply, Act.get_apply]
          dsimp only
          rw [statementsInsertions]
          cases hcompile : c.engine.compile parsed with
          | error fault => exact Logged.of_still (rests_passive.act_throw _) c
          | ok r =>
              obtain ⟨s, f⟩ := r
              dsimp only
              rw [Act.bind_apply, Act.modify_apply]
              dsimp only
              have hset : Connection.Logs c { c with engine := f } [] :=
                .of_rests ⟨(Engine.compile_ok hcompile).2, rfl⟩
              have hexec : Connection.Logs { c with engine := f }
                  { c with engine := (f.execute s []).1 }
                  [f.insertions s [] false fun _ => false] :=
                .execute rfl (by simp [Insertions.noticed, Engine.insertions])
              cases (f.execute s []).2.first with
              | error e => exact hset.trans hexec
              | ok row =>
                  exact (hset.trans hexec).trans (ih { c with engine := (f.execute s []).1 })

theorem statementsInsertions_unwatched (ps : List (Except Fault Sql.Parsed)) (e : Engine) :
    (statementsInsertions ps e).any Insertions.noticed = false := by
  induction ps generalizing e with
  | nil => rfl
  | cons p rest ih =>
      cases p with
      | error fault => rfl
      | ok parsed =>
          rw [statementsInsertions]
          split
          · rfl
          · rw [List.any_cons]
            split
            · simp [Insertions.noticed, Engine.insertions]
            · simp [ih, Insertions.noticed, Engine.insertions]

/-- The account of a batch, which is watched as a whole and by the last row only. -/
def batchInsertions (sql : String) (c : Connection) : List Insertions :=
  let ps := Sql.statements (Sql.tokens sql)
  let outcome := Connection.runStatements sql ps (c.trace sql)
  [{ before := c.engine.lastRowid
     ids := placed (statementsInsertions ps c.engine)
     updates := updated (statementsInsertions ps c.engine)
     leads := false
     watched := outcome.1.isOk
     whole := outcome.1.isOk }]

theorem logged_batch (sql : String) : Logged (Connection.batch sql) (batchInsertions sql) := by
  intro c
  have hstatements := logged_runStatements sql (Sql.statements (Sql.tokens sql)) (c.trace sql)
  have hall := (Connection.Logs.traced c sql).trans hstatements
  dsimp only at hall
  rw [List.nil_append, Connection.trace_engine] at hall
  have hunwatched := statementsInsertions_unwatched (Sql.statements (Sql.tokens sql)) c.engine
  rw [Connection.batch, Act.bind_apply, Act.modify_apply]
  dsimp only
  rw [Act.bind_apply, Act.get_apply]
  dsimp only
  rw [Act.bind_apply, batchInsertions]
  have hlast := hall.last
  generalize Connection.runStatements sql (Sql.statements (Sql.tokens sql)) (c.trace sql) = outcome
    at hall hlast ⊢
  obtain ⟨r, d⟩ := outcome
  cases r with
  | error f =>
      exact hall.merge hunwatched rfl rfl rfl rfl
        (by simp [Insertions.noticed, Except.isOk, Except.toBool])
  | ok a =>
      dsimp only
      rw [Act.modify_apply, Connection.trace_engine]
      refine hall.merge hunwatched rfl rfl rfl ?_ ?_
      · dsimp only
        split <;> rfl
      · dsimp only at hlast ⊢
        split <;> rename_i hcase <;> rw [hlast] at hcase <;>
          simp [Insertions.noticed, Insertions.last, Except.isOk, Except.toBool, hcase]

/-! ## Statements about transactions -/

/-- Nothing is inserted by a statement about transactions, though it may bring back other rows. -/
theorem Connection.Logs.control (c : Connection) (sql : String) (ctl : Sql.Control) :
    Logs c (c.control sql ctl).2 [] := by
  unfold Connection.control
  cases h : c.engine.store.control ctl with
  | error e => exact .traced c sql
  | ok s =>
      exact
        { last := by simp [Connection.withStore]
          inserted := by simp [Connection.withStore]
          bare := fun hc _ => ⟨⟨hc.store.control h, by simp [Connection.withStore, hc.changes]⟩, rfl⟩ }

/-- Nothing is inserted while a bracket is closed. -/
theorem Bracket.close_logs {b : Bracket} {enter leave undo : Sql.Control}
    (h : b.Controls enter leave undo) (result : Except Failure Unit) (c : Connection) :
    Connection.Logs c (b.close result c).2 [] := by
  have hundo (cause : Failure) (d : Connection) : Connection.Logs d (b.rollBack cause d).2 [] := by
    have hd := Connection.Logs.control d b.undo undo
    rw [Connection.control] at hd
    rw [Bracket.rollBack_apply h]
    cases hcontrol : d.engine.store.control undo <;> rw [hcontrol] at hd <;> exact hd
  cases result with
  | error cause => exact hundo cause c
  | ok a =>
      have hleave := Connection.Logs.control c b.leave leave
      rw [Connection.control] at hleave
      rw [Bracket.close_ok h]
      cases hcontrol : c.engine.store.control leave with
      | ok s =>
          rw [hcontrol] at hleave
          exact hleave
      | error e =>
          rw [hcontrol] at hleave
          exact hleave.trans (hundo _ _)

end TypedSql
