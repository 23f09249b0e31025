import TypedSql.Proofs.Connection.Act
import TypedSql.Proofs.Fragment
import TypedSql.Proofs.Sql.Kind
import TypedSql.Script.Run

/-!
What holds between a connection and what becomes of it. All that is done on a connection comes down
to statements that the engine executes, settings that change in between, texts that are traced and
insertions that are noted. A relation that holds over each of these holds over every step without a
body, if each text of the step is read as statements whose executions it holds over.
-/

namespace TypedSql

open Connection

/-- Two engines that differ in settings only. -/
structure Engine.Same (e f : Engine) : Prop where
  store : f.store = e.store
  lastRowid : f.lastRowid = e.lastRowid
  changes : f.changes = e.changes

/-- Something done on a connection that leaves it related to what it was. -/
def Along (R : Connection → Connection → Prop) {α : Type} (x : StateM Connection α) : Prop :=
  ∀ c, R c (x c).2

namespace Along

variable {R : Connection → Connection → Prop}

theorem act_lift {α : Type} {x : StateM Connection α} (hx : Along R x) :
    Along R (liftM x : Act α) := fun c => by
  rw [Act.lift_apply]
  exact hx c

theorem act_modify {f : Connection → Connection} (hf : ∀ c, R c (f c)) :
    Along R (modify f : Act Unit) := hf

end Along

namespace Connection

/-- A relation that holds over everything that executes nothing. -/
structure Passive (R : Connection → Connection → Prop) : Prop where
  refl : ∀ c, R c c
  trans : ∀ {c d f}, R c d → R d f → R c f
  engine : ∀ {c : Connection} {e}, c.engine.Same e → R c { c with engine := e }
  traced : ∀ (c : Connection) texts, R c { c with traced := texts }

/-- A relation that holds over executions too, of statements of a kind. -/
structure Active (kind : Sql.Statement → Prop) (R : Connection → Connection → Prop) : Prop
    extends Passive R where
  noted : ∀ c : Connection, R c { c with inserted := true }
  execute : ∀ (c : Connection) {s : EngineStatement} parameters, kind s.statement →
    R c { c with engine := (c.engine.execute s parameters).1 }

end Connection

/-! ## Statements -/

theorem Engine.preparing_same (e : Engine) (s : Sql.Statement) : e.Same (e.preparing s) := by
  unfold Engine.preparing
  split
  · split <;> exact ⟨rfl, rfl, rfl⟩
  · exact ⟨rfl, rfl, rfl⟩

/-- Preparing what was read changes settings only, and keeps what was read. -/
theorem Engine.compile_ok {e f : Engine} {p : Sql.Parsed} {s : EngineStatement}
    (h : e.compile p = .ok (s, f)) : s.statement = p.statement ∧ e.Same f := by
  obtain ⟨plan, -, hf⟩ := ok_of_bind h
  cases hf
  exact ⟨rfl, e.preparing_same _⟩

theorem Engine.prepare_ok {e f : Engine} {sql : String} {s : EngineStatement}
    (h : e.prepare sql = .ok (s, f)) :
    (∃ p, Sql.parse (Sql.tokens sql) = .ok p ∧ s.statement = p.statement) ∧ e.Same f := by
  obtain ⟨p, hparse, hcompile⟩ := ok_of_bind h
  obtain ⟨hs, hf⟩ := Engine.compile_ok hcompile
  exact ⟨⟨p, hparse, hs⟩, hf⟩

/-! ## Prepared statements -/

theorem Prepared.bind_statement {s t : Prepared} {given : Bindings} (h : s.bind given = .ok t) :
    t.statement = s.statement ∧ t.sql = s.sql := by
  obtain ⟨slots, -, ht⟩ := ok_of_bind h
  cases ht
  exact ⟨rfl, rfl⟩

theorem Prepared.ready_statement {s t : Prepared} {given : Bindings} (h : s.ready given = .ok t) :
    t.statement = s.statement ∧ t.sql = s.sql := by
  unfold Prepared.ready at h
  split at h
  · exact Prepared.bind_statement h
  · split at h
    · cases h
    · cases h
      exact ⟨rfl, rfl⟩

theorem StatementCall.prepared_statement {call : StatementCall} {s t : Prepared}
    (h : call.prepared s = .ok t) : t.statement = s.statement ∧ t.sql = s.sql := by
  cases call with
  | bind given => exact Prepared.bind_statement h
  | expanded =>
      cases h
      exact ⟨rfl, rfl⟩
  | _ => exact Prepared.ready_statement h

/-- A call leaves the statement what it is. -/
theorem StatementCall.make_statement (call : StatementCall) (s : Prepared) (c : Connection) :
    (call.make s c).1.2.statement = s.statement := by
  unfold make
  cases h : call.prepared s with
  | error f => rfl
  | ok t => exact (prepared_statement h).1

section
variable {kind : Sql.Statement → Prop} {sql : String} {given : Bindings} {c d : Connection}
  {s : Prepared}

/-- What a text is prepared into is what it is read as, and knows the text. -/
theorem prepareText_ok (h : prepareText sql c = (.ok s, d)) :
    s.sql = sql ∧
      ∃ p, Sql.parse (Sql.tokens sql) = .ok p ∧ s.statement.statement = p.statement := by
  unfold prepareText at h
  split at h
  next t f hprepare =>
    cases h
    exact ⟨rfl, (Engine.prepare_ok hprepare).1⟩
  next => cases h

theorem prepare_ok (h : prepare sql given c = (.ok s, d)) :
    s.sql = sql ∧
      ∃ p, Sql.parse (Sql.tokens sql) = .ok p ∧ s.statement.statement = p.statement := by
  rw [prepare, Act.bind_apply] at h
  split at h
  next t d' ht =>
    obtain ⟨htext, p, hparse, hp⟩ := prepareText_ok ht
    split at h
    · cases h
      exact ⟨htext, p, hparse, hp⟩
    · cases hbind : t.bind given with
      | error f =>
          rw [hbind] at h
          cases h
      | ok u =>
          rw [hbind] at h
          cases h
          obtain ⟨hstatement, hsql⟩ := Prepared.bind_statement hbind
          exact ⟨by rw [hsql, htext], p, hparse, by rw [hstatement, hp]⟩
  · cases h

theorem prepare_kind (hsql : Sql.Leads kind sql) (h : prepare sql given c = (.ok s, d)) :
    kind s.statement.statement := by
  obtain ⟨-, p, hparse, hp⟩ := prepare_ok h
  exact hp ▸ hsql p hparse

theorem prepareBound_ok (h : prepareBound sql given c = (.ok s, d)) :
    s.sql = sql ∧
      ∃ p, Sql.parse (Sql.tokens sql) = .ok p ∧ s.statement.statement = p.statement := by
  rw [prepareBound, Act.bind_apply] at h
  split at h
  next t d' ht =>
    obtain ⟨htext, p, hparse, hp⟩ := prepareText_ok ht
    cases hready : (t.bind given >>= fun u => u.ready .none) with
    | error f =>
        rw [hready] at h
        cases h
    | ok v =>
        rw [hready] at h
        cases h
        obtain ⟨u, hbind, hv⟩ := ok_of_bind hready
        obtain ⟨hstatement, hsql⟩ := Prepared.bind_statement hbind
        obtain ⟨hstatement', hsql'⟩ := Prepared.ready_statement hv
        exact ⟨by rw [hsql', hsql, htext], p, hparse, by rw [hstatement', hstatement, hp]⟩
  · cases h

theorem prepareBound_kind (hsql : Sql.Leads kind sql) (h : prepareBound sql given c = (.ok s, d)) :
    kind s.statement.statement := by
  obtain ⟨-, p, hparse, hp⟩ := prepareBound_ok h
  exact hp ▸ hsql p hparse

end

/-! ## What executes nothing -/

namespace Connection.Passive

variable {R : Connection → Connection → Prop} (h : Passive R) {α β : Type}
include h

theorem bind {x : StateM Connection α} {f : α → StateM Connection β} (hx : Along R x)
    (hf : ∀ a, Along R (f a)) : Along R (x >>= f) := fun c => h.trans (hx c) (hf _ _)

theorem pure (a : α) : Along R (Pure.pure a : StateM Connection α) := fun c => h.refl c

theorem takeTraced : Along R Connection.takeTraced := fun c => h.traced c []

/-- An act after another one that gave it something with a property. -/
theorem act_bind_of {x : Act α} {f : α → Act β} {P : α → Prop} (hx : Along R x)
    (hP : ∀ c a d, x c = (.ok a, d) → P a) (hf : ∀ a, P a → Along R (f a)) :
    Along R (x >>= f : Act β) := by
  intro c
  have hc := hx c
  rw [Act.bind_apply]
  split
  next a d hcase =>
    rw [hcase] at hc
    exact h.trans hc (hf a (hP c a d hcase) d)
  next e d hcase =>
    rw [hcase] at hc
    exact hc

theorem act_bind {x : Act α} {f : α → Act β} (hx : Along R x) (hf : ∀ a, Along R (f a)) :
    Along R (x >>= f : Act β) :=
  h.act_bind_of hx (fun _ _ _ _ => trivial) fun a (_ : True) => hf a

theorem act_pure (a : α) : Along R (Pure.pure a : Act α) := fun c => h.refl c

theorem act_throw (f : Failure) : Along R (throw f : Act α) := fun c => h.refl c

theorem act_map {x : Act α} (f : α → β) (hx : Along R x) : Along R (f <$> x : Act β) :=
  h.act_bind hx fun a => h.act_pure (f a)

theorem act_get : Along R (get : Act Connection) := fun c => h.refl c

theorem ofExcept (r : Except Failure α) : Along R (Act.ofExcept r) := by
  cases r with
  | ok a => exact h.act_pure a
  | error f => exact h.act_throw f

theorem orRefused (s : Prepared) (r : Except EngineError α) : Along R (s.orRefused r) := by
  cases r with
  | ok a => exact h.act_pure a
  | error e => exact h.act_throw _

theorem trace (sql : String) : Along R (modify (·.trace sql) : Act Unit)  :=
  .act_modify fun c => by
    unfold Connection.trace
    split
    · exact h.traced c _
    · exact h.refl c

theorem prepareText (sql : String) : Along R (Connection.prepareText sql) := by
  intro c
  unfold Connection.prepareText
  split
  next s f hprepare => exact h.engine (Engine.prepare_ok hprepare).2
  next => exact h.refl c

theorem prepare (sql : String) (given : Bindings) : Along R (Connection.prepare sql given) := by
  apply h.act_bind (h.prepareText sql)
  intro s
  split
  · exact h.act_pure s
  · exact h.ofExcept _

theorem prepareBound (sql : String) (given : Bindings) :
    Along R (Connection.prepareBound sql given) :=
  h.act_bind (h.prepareText sql) fun _ => h.ofExcept _

theorem register {change : Except ConfigurationError (Engine → Engine)}
    (hchange : ∀ f, change = .ok f → ∀ e : Engine, e.Same (f e)) :
    Along R (Connection.register change) := by
  cases change with
  | ok f => exact .act_modify fun c => h.engine (hchange f rfl c.engine)
  | error e => exact h.act_throw _

theorem registerFunction (name : String) (arguments : Int) (f : List Cell → Cell) :
    Along R (Connection.registerFunction name arguments f) :=
  h.register fun g hg e => by
    obtain ⟨_, -, harity⟩ := ok_of_bind hg
    obtain ⟨arity, -, hchange⟩ := ok_of_bind harity
    cases hchange
    exact ⟨rfl, rfl, rfl⟩

theorem registerCollation (name : String) (compareText : String → String → Ordering) :
    Along R (Connection.registerCollation name compareText) :=
  h.register fun g hg e => by
    obtain ⟨_, -, hchange⟩ := ok_of_bind hg
    cases hchange
    exact ⟨rfl, rfl, rfl⟩

end Connection.Passive

/-! ## Steps -/

theorem leads_read {kind : Sql.Statement → Prop} (h : ∀ setting value, kind (.pragma setting value))
    (setting : Sql.Pragma) : Sql.Leads kind ("PRAGMA " ++ setting.name) := by
  have hread := Sql.leads_setting h setting ""
  rwa [String.append_empty] at hread

/-- The text that sets a setting has its number in it. -/
theorem compile_setPragma (setting : Sql.Pragma) (cell : Cell) :
    Fragment.compile ⟨"PRAGMA " ++ setting.name ++ " = ?", [cell]⟩ =
      .ok ("PRAGMA " ++ setting.name ++ (" = " ++ cell.literal)) := by
  have hword : Word 0 0 ("PRAGMA " ++ setting.name ++ " = ") := by
    cases setting <;> decide
  have hmark : "PRAGMA " ++ setting.name ++ " = ?" =
      "PRAGMA " ++ setting.name ++ " = " ++ "?" := by
    cases setting <;> rfl
  rw [hmark, ← String.append_assoc]
  exact (Fragment.InlinesTo.word_append hword (.bound_raw cell)).compile

/-- A step without a body, each of whose texts is read as statements of a kind. -/
def Step.Reads (kind : Sql.Statement → Prop) : Step → Prop
  | .run sql _ | .scalar _ sql _ | .query sql _ | .statement sql _ _ => Sql.Leads kind sql
  | .batch sql => ∀ p, .ok p ∈ Sql.statements (Sql.tokens sql) → kind p.statement
  | .inlined x => ∀ sql, x.compile = .ok sql → Sql.Leads kind sql
  | _ => True

theorem Step.reads_any (s : Step) : s.Reads fun _ => True := by
  cases s with
  | batch sql => exact fun _ _ => trivial
  | inlined x => exact fun _ _ _ _ => trivial
  | run | scalar | query | statement => exact fun _ _ => trivial
  | _ => trivial

namespace Connection.Active

variable {R : Connection → Connection → Prop} {kind : Sql.Statement → Prop} (h : Active kind R)
include h

theorem noteInsert (sql : String) (before : Int64) :
    Along R (modify (·.noteInsert sql before) : Act Unit)  :=
  .act_modify fun c => by
    unfold Connection.noteInsert
    split
    · exact h.noted c
    · exact h.refl c

section
variable {s : Prepared} (hs : kind s.statement.statement)
include hs

theorem executed : Along R s.execute := fun c => h.execute c s.slots hs

theorem statement_run : Along R s.run := by
  apply h.act_bind (h.trace _)
  intro _
  apply h.act_bind h.act_get
  intro c
  apply h.act_bind (h.executed hs).act_lift
  intro outcome
  apply h.act_bind (h.orRefused s _)
  intro _
  exact h.noteInsert _ _

theorem statement_scalar (type : ValueType) : Along R (s.scalar type) := by
  apply h.act_bind (h.trace _)
  intro _
  apply h.act_bind h.act_get
  intro c
  apply h.act_bind (h.executed hs).act_lift
  intro outcome
  apply h.act_bind (h.orRefused s _)
  intro row
  apply h.act_bind (h.noteInsert _ _)
  intro _
  split
  · exact h.act_pure _
  · exact h.act_throw _

theorem statement_rows (limit : Option Nat) : Along R (s.rows limit) := by
  apply h.act_bind (h.trace _)
  intro _
  split
  · exact h.act_pure []
  · apply h.act_bind (h.executed hs).act_lift
    intro outcome
    exact h.act_bind (h.orRefused s _) fun rows => h.act_pure _

end

section
variable {sql : String} (hsql : Sql.Leads kind sql) (given : Bindings)
include hsql

theorem run : Along R (Connection.run sql given) :=
  h.act_bind_of (h.prepareBound sql given) (fun _ _ _ hs => prepareBound_kind hsql hs)
    fun _ hs => h.statement_run hs

theorem scalar (type : ValueType) : Along R (Connection.scalar type sql given) :=
  h.act_bind_of (h.prepareBound sql given) (fun _ _ _ hs => prepareBound_kind hsql hs)
    fun _ hs => h.statement_scalar hs type

theorem query : Along R (Connection.query sql given) := by
  apply h.act_bind h.act_get
  intro c
  apply h.act_bind_of (h.prepareBound sql given) (fun _ _ _ hs => prepareBound_kind hsql hs)
  intro s hs
  apply h.act_bind (h.statement_rows hs none)
  intro rows
  exact h.act_bind (h.noteInsert _ _) fun _ => h.act_pure rows

end

theorem runInlined {x : Fragment} (hx : ∀ sql, x.compile = .ok sql → Sql.Leads kind sql) :
    Along R (Connection.runInlined x) := by
  unfold Connection.runInlined
  split
  next sql hsql => exact h.run (hx sql hsql) .none
  next => exact h.act_throw _

/-- Each statement of a text is prepared and executed before the next. -/
theorem runStatements (sql : String) {ps : List (Except Fault Sql.Parsed)}
    (hps : ∀ p, .ok p ∈ ps → kind p.statement) : Along R (Connection.runStatements sql ps) := by
  induction ps with
  | nil => exact h.act_pure ()
  | cons p rest ih =>
      cases p with
      | error fault => exact h.act_throw _
      | ok parsed =>
          have hrest := ih fun p hp => hps p (List.mem_cons_of_mem _ hp)
          intro c
          rw [Connection.runStatements, Act.bind_apply, Act.get_apply]
          dsimp only
          cases hcompile : c.engine.compile parsed with
          | error fault => exact h.refl _
          | ok r =>
              obtain ⟨s, f⟩ := r
              obtain ⟨hs, hf⟩ := Engine.compile_ok hcompile
              have hkind : kind s.statement := hs ▸ hps parsed List.mem_cons_self
              have hexec : R c { c with engine := (f.execute s []).1 } :=
                h.trans (h.engine hf) (h.execute { c with engine := f } [] hkind)
              dsimp only
              rw [Act.bind_apply, Act.modify_apply]
              dsimp only
              cases (f.execute s []).2.first with
              | error e => exact hexec
              | ok row => exact h.trans hexec (hrest { c with engine := (f.execute s []).1 })

theorem batch {sql : String}
    (hsql : ∀ p, .ok p ∈ Sql.statements (Sql.tokens sql) → kind p.statement) :
    Along R (Connection.batch sql) := by
  apply h.act_bind (h.trace sql)
  intro _
  apply h.act_bind h.act_get
  intro c
  apply h.act_bind (h.runStatements sql hsql)
  intro _
  apply Along.act_modify
  intro d
  split
  · exact h.noted d
  · exact h.refl d

theorem call (call : StatementCall) {s : Prepared} (hs : kind s.statement.statement) :
    Along R (call.act s) := by
  cases call with
  | bind given => exact h.act_pure _
  | run given => exact h.act_map _ (h.statement_run hs)
  | scalar type given => exact h.act_map _ (h.statement_scalar hs type)
  | rows given limit => exact h.act_map _ (h.statement_rows hs limit)
  | expanded => exact h.act_pure _

theorem make (call : StatementCall) {s : Prepared} (hs : kind s.statement.statement) :
    Along R (call.make s) := by
  unfold StatementCall.make
  dsimp only
  split
  next => exact h.bind (h.pure _) fun _ => h.bind h.takeTraced fun _ => h.pure _
  next t ht =>
    have hcall : Along R ((·, t) <$> (call.act t).attempt) :=
      h.call call (by rwa [(StatementCall.prepared_statement ht).1])
    exact h.bind hcall fun _ => h.bind h.takeTraced fun _ => h.pure _

theorem makeAll (calls : List StatementCall) {s : Prepared} (hs : kind s.statement.statement) :
    Along R (StatementCall.makeAll calls s) := by
  induction calls generalizing s with
  | nil => exact h.pure _
  | cons call rest ih =>
      intro c
      have hrest : kind (call.make s c).1.2.statement.statement := by
        rwa [StatementCall.make_statement]
      exact h.trans (h.make call hs c) (ih hrest _)

theorem setPragma (hset : ∀ setting value, kind (.pragma setting value)) (setting : Sql.Pragma)
    (n : Int64) : Along R (Connection.setPragma setting n) := by
  apply h.runInlined
  intro sql hsql
  rw [compile_setPragma] at hsql
  cases hsql
  exact Sql.leads_setting hset setting _

/-- What holds over executions and what is between them holds over a step without a body. -/
theorem act (hset : ∀ setting value, kind (.pragma setting value)) {s : Step} (hs : s.Reads kind)
    (htracing : ∀ b, s = .tracing b → ∀ c : Connection, R c { c with tracing := b }) :
    Along R s.act := by
  cases s with
  | run sql given => exact h.act_map _ (h.run hs given)
  | batch sql => exact h.act_map _ (h.batch hs)
  | scalar type sql given => exact h.act_map _ (h.scalar hs given type)
  | query sql given => exact h.act_map _ (h.query hs given)
  | inlined x => exact h.act_map _ (h.runInlined hs)
  | statement sql given calls =>
      apply h.act_bind_of (h.prepare sql given) (fun _ _ _ hprepare => prepare_kind hs hprepare)
      intro s hs
      exact h.act_bind (h.makeAll calls hs).act_lift fun _ => h.act_pure _
  | userVersion =>
      exact h.act_map _ (h.act_bind (h.scalar (leads_read hset _) _ _) fun _ => h.act_pure _)
  | setUserVersion n => exact h.act_map _ (h.setPragma hset _ _)
  | foreignKeys =>
      exact h.act_map _ (h.act_bind (h.scalar (leads_read hset _) _ _) fun _ => h.act_pure _)
  | setForeignKeys b => exact h.act_map _ (h.setPragma hset _ _)
  | function name arguments f => exact h.act_map _ (h.registerFunction name arguments f)
  | collation name compareText => exact h.act_map _ (h.registerCollation name compareText)
  | tracing b => exact h.act_bind (.act_modify (htracing b rfl)) fun _ => h.act_pure _
  | fail reason => exact h.act_throw _
  | transaction | savepoint | attempt => exact h.act_pure _

end Connection.Active

end TypedSql
