import TypedSql.Proofs.Connection.Control
import TypedSql.Proofs.Query.Inlined
import TypedSql.Proofs.Scan.Names
import TypedSql.Proofs.Scan.Regions

/-!
The ways to run a text with values: all at once, prepared with the values and run, or prepared and
run with the values. They differ in when values are checked and in what is on record as bound, but
not in what is asked of the engine, in what is traced or in how it ends. What is asked is recorded
act by act, as the acts are put together. A fragment that is executed with its values inlined is
traced as one whose values are bound.
-/

namespace TypedSql

open Connection

/-! ## Nothing to inline -/

theorem positionals_eq_marks (ps : List Piece) :
    positionals ps = (marks ps).map Parameter.positional := by
  induction ps with
  | nil => rfl
  | cons p ps ih =>
      by_cases hp : ∃ digits, p = .parameter (.positional digits)
      · obtain ⟨digits, rfl⟩ := hp
        rw [positionals_positional, marks_mark, List.map_cons, ih]
      · have hcopied : ∀ digits, p ≠ .parameter (.positional digits) := fun d hd => hp ⟨d, hd⟩
        rw [positionals_cons_copied hcopied, marks_cons_copied hcopied, ih]

/-- A text that no values fit has no question marks in code. -/
theorem inlinePositional_nil {sql text : String} (h : inlinePositional sql [] = .ok text) :
    text = sql := by
  obtain ⟨⟨top, out⟩, hreplace, htext⟩ := ok_of_bind h
  have hnone : (marks (scan sql.toList)).find? outOfRange = none := by
    cases hfind : (marks (scan sql.toList)).find? outOfRange with
    | none => rfl
    | some digits =>
        rw [replacePositional_outOfRange [] 0 hfind] at hreplace
        cases hreplace
  obtain ⟨inlined, hinlined, -⟩ := replacePositional_inRange [] 0 hnone
  rw [hinlined, Except.ok.injEq, Prod.mk.injEq] at hreplace
  have htop : top = 0 := by
    by_contra htop
    simp [htop] at htext
  have hmarks : marks (scan sql.toList) = [] := by
    cases hcons : marks (scan sql.toList) with
    | nil => rfl
    | cons digits rest =>
        have hmem : numberAfter 0 digits ∈ numbersFrom 0 (digits :: rest) := List.mem_cons_self
        have hlow := one_le_of_mem_numbersFrom (hcons ▸ hnone) hmem
        have hhigh := List.le_max?_getD_of_mem (k := 0) hmem
        rw [hcons, foldl_max_eq_largest, largest] at hreplace
        omega
  have hsame : inlinePositional sql [] = .ok sql := by
    apply Fills.inlinePositional
    apply Fills.of_positionals
    rw [positionals_eq_marks, hmarks]
    rfl
  rw [h] at hsame
  exact Except.ok.inj hsame

theorem replaceNamed_nil {ps : List Piece} {out : List Char} (h : replaceNamed [] ps = .ok out) :
    out = ps.flatMap Piece.text := by
  induction ps generalizing out with
  | nil =>
      cases h
      rfl
  | cons p ps ih =>
      cases hp : p.name? with
      | some name =>
          rw [replaceNamed_cons_named hp] at h
          cases h
      | none =>
          rw [replaceNamed_cons_copied hp] at h
          cases hrest : replaceNamed [] ps with
          | error e =>
              rw [hrest] at h
              cases h
          | ok rest =>
              rw [hrest] at h
              cases h
              rw [List.flatMap_cons, ih hrest]

/-- Without values, a text is left as it is. -/
theorem Bindings.inline_of_isEmpty {b : Bindings} (h : b.isEmpty = true) {sql text : String}
    (hok : b.inline sql = .ok text) : text = sql := by
  cases b with
  | positional cells =>
      obtain rfl : cells = [] := by simpa [isEmpty, size] using h
      exact inlinePositional_nil hok
  | named pairs =>
      obtain rfl : pairs = [] := by simpa [isEmpty, size] using h
      obtain ⟨out, hout, htext⟩ := ok_of_bind (show _ >>= _ = _ from hok)
      cases htext
      rw [replaceNamed_nil hout, text_scan, String.ofList_toList]

namespace Connection

theorem noteInsert_engine (c : Connection) (sql : String) (before : Int64) :
    (c.noteInsert sql before).engine = c.engine := by
  unfold noteInsert
  split <;> rfl

theorem noteInsert_traced (c : Connection) (sql : String) (before : Int64) :
    (c.noteInsert sql before).traced = c.traced := by
  unfold noteInsert
  split <;> rfl

end Connection

namespace Prepared

variable {s t : Prepared} {given : Bindings}

theorem expanded_of_isEmpty (h : s.bound.isEmpty = true) : s.expanded = s.sql := by
  unfold expanded
  cases hinline : s.bound.inline s.sql with
  | error e => rfl
  | ok text => exact Bindings.inline_of_isEmpty h hinline

/-- The statement with values bound, if any are given. -/
def withGiven (s : Prepared) (given : Bindings) : Except Failure Prepared :=
  if given.isEmpty then .ok s else s.bind given

/-- Binding no values is accepted where there are no parameters, and changes nothing that is
executed. -/
theorem bind_of_isEmpty (hgiven : given.isEmpty = true) (sql : String) (s : EngineStatement) :
    (0 < s.parameters.count → (ofStatement sql s).bind given =
      .error (.binding (.countMismatch s.parameters.count 0))) ∧
    (s.parameters.count = 0 → (ofStatement sql s).bind given =
      .ok { ofStatement sql s with bound := given, isBound := true }) := by
  cases given with
  | positional cells =>
      obtain rfl : cells = [] := by simpa [Bindings.isEmpty, Bindings.size] using hgiven
      constructor
      · intro hcount
        have hne : 0 ≠ s.parameters.count := by omega
        simp [Prepared.bind, filled, checkCount, parameterCount, ofStatement, hne, Bind.bind,
          Except.bind]
      · intro hcount
        simp [Prepared.bind, filled, checkCount, parameterCount, ofStatement, hcount, Bind.bind,
          Except.bind]
  | named pairs =>
      obtain rfl : pairs = [] := by simpa [Bindings.isEmpty, Bindings.size] using hgiven
      constructor
      · intro hcount
        have hne : 0 ≠ s.parameters.count := by omega
        simp [Prepared.bind, filled, parameterNumbers, checkCount, parameterCount, ofStatement, hne,
          Bind.bind, Except.bind]
      · intro hcount
        simp [Prepared.bind, filled, parameterNumbers, checkCount, parameterCount, ofStatement,
          hcount, Bind.bind, Except.bind]

/-- Without values, a statement that was not bound is ready where it has no parameters. -/
theorem ready_of_isEmpty (hgiven : given.isEmpty = true) (sql : String) (s : EngineStatement) :
    (0 < s.parameters.count → (ofStatement sql s).ready given =
      .error (.binding (.countMismatch s.parameters.count 0))) ∧
    (s.parameters.count = 0 → (ofStatement sql s).ready given = .ok (ofStatement sql s)) := by
  constructor
  · intro hcount
    simp [ready, hgiven, ofStatement, parameterCount, hcount]
  · intro hcount
    simp [ready, hgiven, ofStatement, parameterCount, hcount]

/-- Statements that are executed alike. What is on record as bound may differ. -/
structure Alike (s t : Prepared) : Prop where
  sql : s.sql = t.sql
  statement : s.statement = t.statement
  slots : s.slots = t.slots
  expanded : s.expanded = t.expanded

theorem Alike.symm (h : s.Alike t) : t.Alike s :=
  ⟨h.sql.symm, h.statement.symm, h.slots.symm, h.expanded.symm⟩

theorem Alike.trans {u : Prepared} (h : s.Alike t) (h' : t.Alike u) : s.Alike u :=
  ⟨h.sql.trans h'.sql, h.statement.trans h'.statement, h.slots.trans h'.slots,
    h.expanded.trans h'.expanded⟩

theorem Alike.execute (h : s.Alike t) : s.execute = t.execute := by
  funext c
  rw [Prepared.execute, h.statement, h.slots]
  rfl

/-- One text is traced. -/
theorem run_traced (s : Prepared) (c : Connection) :
    (s.run c).2.traced = (c.trace s.expanded).traced := by
  rw [run_apply]
  cases (s.execute (c.trace s.expanded)).1.all with
  | error e => rfl
  | ok rows =>
      dsimp only
      rw [noteInsert_traced]
      rfl

theorem Alike.run (h : s.Alike t) : s.run = t.run := by
  funext c
  rw [run_apply, run_apply, h.execute, h.expanded, h.sql]

end Prepared

theorem Act.ofExcept_apply {α : Type} (r : Except Failure α) (c : Connection) :
    Act.ofExcept r c = (r, c) := by
  cases r <;> rfl

/-! ## What is asked of the engine -/

/-- What the engine is asked for. -/
inductive Request where
  | prepare (sql : String)
  | execute (statement : EngineStatement) (slots : List Datum)

def Engine.answer (e : Engine) : Request → Engine
  | .prepare sql =>
      match e.prepare sql with
      | .ok (_, prepared) => prepared
      | .error _ => e
  | .execute statement slots => (e.execute statement slots).1

/-- An act with what it asks of the engine, which is all that changes the engine. -/
structure Recorded (α : Type) where
  act : Act α
  requests : Connection → List Request
  answers : ∀ c, (act c).2.engine = (requests c).foldl Engine.answer c.engine

namespace Recorded

variable {α β : Type}

def silent (act : Act α) (h : ∀ c, (act c).2.engine = c.engine) : Recorded α := ⟨act, fun _ => [], h⟩

def ofExcept (r : Except Failure α) : Recorded α :=
  silent (Act.ofExcept r) fun c => by rw [Act.ofExcept_apply]

def bind (x : Recorded α) (f : α → Recorded β) : Recorded β where
  act := x.act >>= fun a => (f a).act
  requests c := x.requests c ++
    match x.act c with
    | (.ok a, d) => (f a).requests d
    | (.error _, _) => []
  answers c := by
    rw [Act.bind_apply, List.foldl_append, ← x.answers c]
    cases x.act c with
    | mk r d =>
        cases r with
        | ok a => exact (f a).answers d
        | error e => rfl

def prepareText (sql : String) : Recorded Prepared where
  act := Connection.prepareText sql
  requests _ := [.prepare sql]
  answers c := by
    rw [Connection.prepareText, List.foldl_cons, List.foldl_nil, Engine.answer]
    cases c.engine.prepare sql <;> rfl

def execute (s : Prepared) : Recorded Outcome where
  act := liftM s.execute
  requests _ := [.execute s.statement s.slots]
  answers _ := rfl

def run (s : Prepared) : Recorded Unit :=
  (silent s.announce fun c => c.trace_engine s.expanded).bind fun _ =>
    (silent (get : Act Connection) fun _ => rfl).bind fun c =>
      (execute s).bind fun outcome =>
        (silent (s.orRefused outcome.all) fun c => by rw [Prepared.orRefused_apply]).bind fun _ =>
          silent (modify (·.noteInsert s.sql c.engine.lastRowid)) fun d => by
            exact d.noteInsert_engine s.sql c.engine.lastRowid

theorem bind_requests (x : Recorded α) (f : α → Recorded β) (c : Connection) :
    (x.bind f).requests c = x.requests c ++
      match x.act c with
      | (.ok a, d) => (f a).requests d
      | (.error _, _) => [] := rfl

/-- What can only fail asks nothing more. -/
theorem bind_ofExcept_requests (x : Recorded α) (r : α → Except Failure β) (c : Connection) :
    (x.bind fun a => ofExcept (r a)).requests c = x.requests c := by
  simp only [bind, ofExcept, silent]
  split <;> exact List.append_nil _

theorem run_requests (s : Prepared) (c : Connection) :
    (run s).requests c = [.execute s.statement s.slots] := by
  have hannounce : s.announce c = (.ok (), c.trace s.expanded) := rfl
  simp only [run, bind, silent, execute, hannounce, Act.get_apply, Act.lift_apply,
    Prepared.orRefused_apply]
  split <;> rfl

end Recorded

/-- The ways to run a text with values. -/
inductive Way where
  /-- Prepared, bound and run at once. -/
  | atOnce
  /-- Prepared with the values, and then run. -/
  | boundFirst
  /-- Prepared, and then run with the values. -/
  | boundLast
deriving DecidableEq, Repr

namespace Way

/-- The statement that is ready to be executed. -/
def ready (w : Way) (sql : String) (given : Bindings) : Act Prepared :=
  match w with
  | .atOnce => prepareBound sql given
  | .boundFirst => do
      let s ← prepare sql given
      Act.ofExcept ((StatementCall.run .none).prepared s)
  | .boundLast => do
      let s ← prepare sql .none
      Act.ofExcept ((StatementCall.run given).prepared s)

def run (w : Way) (sql : String) (given : Bindings) : Act Unit := do
  (← w.ready sql given).run

/-- The statement that is ready, with what making it ready asks of the engine. -/
def recordedReady (w : Way) (sql : String) (given : Bindings) : Recorded Prepared :=
  match w with
  | .atOnce => (Recorded.prepareText sql).bind fun s => .ofExcept do (← s.bind given).ready .none
  | .boundFirst =>
      ((Recorded.prepareText sql).bind fun s => .ofExcept (s.withGiven given)).bind fun s =>
        .ofExcept ((StatementCall.run .none).prepared s)
  | .boundLast =>
      ((Recorded.prepareText sql).bind fun s => .ofExcept (s.withGiven .none)).bind fun s =>
        .ofExcept ((StatementCall.run given).prepared s)

/-- The run, with what it asks of the engine. -/
def recorded (w : Way) (sql : String) (given : Bindings) : Recorded Unit :=
  (w.recordedReady sql given).bind Recorded.run

/-- What the engine is asked for, with the values of the parameters. -/
def requests (w : Way) (sql : String) (given : Bindings) (c : Connection) : List Request :=
  (w.recorded sql given).requests c

/-- What becomes of a statement that was prepared. -/
def settle (w : Way) (s : Prepared) (given : Bindings) : Except Failure Prepared :=
  match w with
  | .atOnce => do (← s.bind given).ready .none
  | .boundFirst => do (← s.withGiven given).ready .none
  | .boundLast => s.ready given

variable {sql : String} {given : Bindings} {s t : Prepared} {c : Connection}

theorem prepare_apply (sql : String) (given : Bindings) (c : Connection) :
    prepare sql given c =
      match c.engine.prepare sql with
      | .ok (s, engine) => ((Prepared.ofStatement sql s).withGiven given, { c with engine })
      | .error fault => (.error (.preparing sql fault), c) := by
  rw [prepare, Act.bind_apply, prepareText]
  cases c.engine.prepare sql with
  | error fault => rfl
  | ok r =>
      dsimp only [Prepared.withGiven]
      cases given.isEmpty with
      | true => rfl
      | false => exact Act.ofExcept_apply _ _

theorem ready_apply (w : Way) (sql : String) (given : Bindings) (c : Connection) :
    w.ready sql given c =
      match c.engine.prepare sql with
      | .ok (s, engine) => (w.settle (.ofStatement sql s) given, { c with engine })
      | .error fault => (.error (.preparing sql fault), c) := by
  cases w with
  | atOnce =>
      rw [ready, prepareBound, Act.bind_apply, prepareText]
      cases c.engine.prepare sql with
      | error fault => rfl
      | ok r => exact Act.ofExcept_apply _ _
  | boundFirst =>
      rw [ready, Act.bind_apply, prepare_apply]
      cases c.engine.prepare sql with
      | error fault => rfl
      | ok r =>
          dsimp only [settle]
          cases (Prepared.ofStatement sql r.1).withGiven given with
          | error e => rfl
          | ok s => exact Act.ofExcept_apply _ _
  | boundLast =>
      rw [ready, Act.bind_apply, prepare_apply]
      cases c.engine.prepare sql with
      | error fault => rfl
      | ok r => exact Act.ofExcept_apply _ _

/-- Values that are given are bound, in whichever way. -/
theorem settle_eq_bind (w : Way) (hgiven : given.isEmpty = false) :
    w.settle s given = s.bind given := by
  have hready : (do (← s.bind given).ready .none) = s.bind given := by
    cases hbind : s.bind given with
    | error e => rfl
    | ok t =>
        obtain ⟨slots, -, ht⟩ := ok_of_bind hbind
        cases ht
        rfl
  cases w with
  | atOnce => exact hready
  | boundFirst =>
      rw [settle, Prepared.withGiven, hgiven]
      exact hready
  | boundLast =>
      rw [settle, Prepared.ready, hgiven]
      rfl

/-- Without values, a statement without parameters is executed as it was prepared, and one with
parameters is refused. -/
theorem settle_of_isEmpty (w : Way) (hgiven : given.isEmpty = true) (sql : String)
    (s : EngineStatement) :
    (0 < s.parameters.count → w.settle (.ofStatement sql s) given =
      .error (.binding (.countMismatch s.parameters.count 0))) ∧
    (s.parameters.count = 0 → ∃ t, w.settle (.ofStatement sql s) given = .ok t ∧
      t.Alike (.ofStatement sql s)) := by
  have hbind := Prepared.bind_of_isEmpty hgiven sql s
  have hsame : (Prepared.ofStatement sql s).Alike (.ofStatement sql s) := ⟨rfl, rfl, rfl, rfl⟩
  cases w with
  | atOnce =>
      constructor
      · intro hcount
        rw [settle, hbind.1 hcount]
        rfl
      · intro hcount
        refine ⟨{ Prepared.ofStatement sql s with bound := given, isBound := true }, ?_, ?_⟩
        · rw [settle, hbind.2 hcount]
          rfl
        · refine ⟨rfl, rfl, rfl, ?_⟩
          have hplain : (Prepared.ofStatement sql s).expanded = sql :=
            Prepared.expanded_of_isEmpty rfl
          rw [hplain]
          exact Prepared.expanded_of_isEmpty hgiven
  | boundFirst =>
      have hnone : Bindings.none.isEmpty = true := rfl
      have hready := Prepared.ready_of_isEmpty hnone sql s
      have hgivenFirst : (Prepared.ofStatement sql s).withGiven given = .ok (.ofStatement sql s) :=
        if_pos hgiven
      rw [settle, hgivenFirst]
      exact ⟨hready.1, fun hcount => ⟨_, hready.2 hcount, hsame⟩⟩
  | boundLast =>
      have hready := Prepared.ready_of_isEmpty hgiven sql s
      exact ⟨hready.1, fun hcount => ⟨_, hready.2 hcount, hsame⟩⟩

/-- A statement becomes the same in all ways, as far as it is executed. -/
theorem settle_alike (v w : Way) (sql : String) (s : EngineStatement) (given : Bindings) :
    (∃ f, v.settle (.ofStatement sql s) given = .error f ∧
        w.settle (.ofStatement sql s) given = .error f) ∨
      ∃ t u, v.settle (.ofStatement sql s) given = .ok t ∧
        w.settle (.ofStatement sql s) given = .ok u ∧ t.Alike u := by
  cases hgiven : given.isEmpty with
  | false =>
      rw [v.settle_eq_bind hgiven, w.settle_eq_bind hgiven]
      cases (Prepared.ofStatement sql s).bind given with
      | error f => exact .inl ⟨f, rfl, rfl⟩
      | ok t => exact .inr ⟨t, t, rfl, rfl, rfl, rfl, rfl, rfl⟩
  | true =>
      have hv := v.settle_of_isEmpty hgiven sql s
      have hw := w.settle_of_isEmpty hgiven sql s
      by_cases hcount : 0 < s.parameters.count
      · exact .inl ⟨_, hv.1 hcount, hw.1 hcount⟩
      · obtain ⟨t, ht, halike⟩ := hv.2 (by omega)
        obtain ⟨u, hu, halike'⟩ := hw.2 (by omega)
        exact .inr ⟨t, u, ht, hu, halike.trans halike'.symm⟩

/-- What is recorded is what is made ready. -/
theorem recordedReady_act (w : Way) (sql : String) (given : Bindings) :
    (w.recordedReady sql given).act = w.ready sql given := by
  have hprepare (b : Bindings) :
      ((Recorded.prepareText sql).bind fun s => .ofExcept (s.withGiven b)).act = prepare sql b := by
    refine congrArg (Connection.prepareText sql >>= ·) (funext fun s => ?_)
    unfold Prepared.withGiven
    split <;> rfl
  cases w with
  | atOnce => rfl
  | boundFirst => exact congrArg (· >>= _) (hprepare given)
  | boundLast => exact congrArg (· >>= _) (hprepare .none)

theorem recorded_act (w : Way) (sql : String) (given : Bindings) :
    (w.recorded sql given).act = w.run sql given :=
  congrArg (· >>= Prepared.run) (w.recordedReady_act sql given)

/-- A text is prepared, and executed if it is made ready. -/
theorem requests_eq (w : Way) (sql : String) (given : Bindings) (c : Connection) :
    w.requests sql given c =
      .prepare sql ::
        match (w.ready sql given c).1 with
        | .ok s => [.execute s.statement s.slots]
        | .error _ => [] := by
  have hready : (w.recordedReady sql given).requests c = [.prepare sql] := by
    cases w <;> simp only [recordedReady, Recorded.bind_ofExcept_requests] <;> rfl
  rw [requests, recorded, Recorded.bind_requests, hready, recordedReady_act]
  simp only [Recorded.run_requests]
  rcases w.ready sql given c with ⟨_ | _, _⟩ <;> rfl

theorem run_apply (w : Way) (sql : String) (given : Bindings) (c : Connection) :
    w.run sql given c =
      match w.ready sql given c with
      | (.ok s, d) => s.run d
      | (.error f, d) => (.error f, d) := by
  rw [run, Act.bind_apply]
  rcases w.ready sql given c with ⟨_ | _, _⟩ <;> rfl

theorem run_eq (v w : Way) (sql : String) (given : Bindings) (c : Connection) :
    v.run sql given c = w.run sql given c ∧
      v.requests sql given c = w.requests sql given c := by
  rw [run_apply, run_apply, requests_eq, requests_eq, ready_apply, ready_apply]
  cases c.engine.prepare sql with
  | error fault => exact ⟨rfl, rfl⟩
  | ok r =>
      dsimp only
      rcases settle_alike v w sql r.1 given with ⟨f, hv, hw⟩ | ⟨t, u, hv, hw, halike⟩
      · rw [hv, hw]
        exact ⟨rfl, rfl⟩
      · rw [hv, hw]
        dsimp only
        rw [halike.run, halike.statement, halike.slots]
        exact ⟨rfl, rfl⟩

/-- Nothing else is asked of the engine. -/
theorem run_engine (w : Way) (sql : String) (given : Bindings) (c : Connection) :
    (w.run sql given c).2.engine = (w.requests sql given c).foldl Engine.answer c.engine := by
  rw [← w.recorded_act]
  exact (w.recorded sql given).answers c

end Way

namespace Fragment

variable {x : Fragment} {text : String} {c : Connection} {s : EngineStatement} {e : Engine}

/-- A fragment is traced as the text that it compiles to. -/
theorem Compiles.run_traced (h : x.Compiles text) (hprepare : c.engine.prepare x.sql = .ok (s, e))
    (hcount : s.parameters.count = (parameters x.sql.toList).length) :
    (Connection.run x.sql x.bindings c).2.traced = (c.trace text).traced := by
  let t : Prepared :=
    { Prepared.ofStatement x.sql s with
      slots := x.cells.map Datum.ofCell, bound := x.bindings, isBound := true }
  have hsettle : Way.atOnce.settle (.ofStatement x.sql s) x.bindings = .ok t := by
    have hcells : x.cells.length = s.parameters.count := by
      rw [hcount, h.marks, List.length_replicate]
    have hcheck : (Prepared.ofStatement x.sql s).checkCount x.cells.length = .ok () :=
      if_pos hcells
    rw [Way.settle, Prepared.bind, bindings, Prepared.filled, hcheck]
    rfl
  have hexpanded : t.expanded = text := by
    have hinline : t.bound.inline t.sql = .ok text := h.compile
    rw [Prepared.expanded, hinline]
  have hrun : Connection.run x.sql x.bindings c = t.run { c with engine := e } := by
    show Way.atOnce.run x.sql x.bindings c = _
    rw [Way.run_apply, Way.ready_apply, hprepare]
    dsimp only
    rw [hsettle]
  rw [hrun, t.run_traced, hexpanded]
  unfold trace
  split <;> rfl

theorem Compiles.runInlined_traced (h : x.Compiles text)
    (hprepare : c.engine.prepare text = .ok (s, e))
    (hcount : s.parameters.count = (parameters text.toList).length) :
    (Connection.runInlined x c).2.traced = (c.trace text).traced := by
  have hinlined : Connection.runInlined x = Connection.run (raw text).sql (raw text).bindings := by
    rw [Connection.runInlined, h.compile]
    rfl
  rw [hinlined]
  exact h.again.run_traced hprepare hcount

end Fragment

/-- Running a text with values comes to the same in all ways: the result, the traced texts and what
is left of the connection, and what is asked of the engine on the way with which values. Without
values, a statement with parameters is refused in all of them. And a fragment is traced with its
values in it, whether they are bound or inlined before. -/
theorem runs_agree :
    (∀ (v w : Way) (sql : String) (given : Bindings) (c : Connection),
      v.run sql given c = w.run sql given c ∧
      v.requests sql given c = w.requests sql given c ∧
      (v.run sql given c).2.engine = (v.requests sql given c).foldl Engine.answer c.engine ∧
      ∀ s e, c.engine.prepare sql = .ok (s, e) → given.isEmpty = true → 0 < s.parameters.count →
        (v.run sql given c).1 = .error (.binding (.countMismatch s.parameters.count 0))) ∧
    (∀ sql given, Way.atOnce.run sql given = Connection.run sql given) ∧
    (∀ x : Fragment, x.Composed → x.Rendered ∧ ∃ text, x.compile = .ok text) ∧
    ∀ (x : Fragment) (text : String) (c : Connection), x.Rendered → x.compile = .ok text →
      ∀ s e s' e', c.engine.prepare x.sql = .ok (s, e) → c.engine.prepare text = .ok (s', e') →
        s.parameters.count = (parameters x.sql.toList).length →
        s'.parameters.count = (parameters text.toList).length →
          (Connection.run x.sql x.bindings c).2.traced = (c.trace text).traced ∧
            (Connection.runInlined x c).2.traced = (c.trace text).traced := by
  refine ⟨fun v w sql given c => ?_, fun _ _ => rfl,
    fun x hx => ⟨.of_composed hx, _, hx.delimited.compile⟩, ?_⟩
  · obtain ⟨hrun, hrequests⟩ := v.run_eq w sql given c
    refine ⟨hrun, hrequests, v.run_engine sql given c, fun s e hprepare hgiven hcount => ?_⟩
    rw [Way.run_apply, Way.ready_apply, hprepare]
    dsimp only
    rw [(v.settle_of_isEmpty hgiven sql s).1 hcount]
  · intro x text c hx hcompile s e s' e' hprepare hprepare' hcount hcount'
    have hcompiles := hx.fillable.compiles hcompile
    exact ⟨hcompiles.run_traced hprepare hcount, hcompiles.runInlined_traced hprepare' hcount'⟩

/-- A value that is read as a parameter where it is not in quotes. -/
theorem runs_agree_mark :
    ∃ x : Fragment, x.sql = "SELECT ?" ∧ x.cells = [some (.text "?")] ∧
      (Connection.run x.sql x.bindings { engine := {}, tracing := true }).2.traced =
        ["SELECT '?'"] ∧
      (Connection.runInlined x { engine := {}, tracing := true }).2.traced = ["SELECT '?'"] := by
  have hrendered : (Term.joined " "
      [.verbatim "SELECT" [] .untyped, .value (.text "?")]).render.Rendered := by
    refine .term (by decide) fun y hy => ?_
    obtain rfl := List.mem_singleton.mp hy
    exact .word (show Reads 0 0 0 "SELECT".toList by decide)
  have hbound : Sql.tokens "SELECT ?" =
      [⟨.word, "SELECT".toList, [' '], 0⟩, ⟨.positional [], ['?'], [], 7⟩] := by
    have htext : "SELECT ?".toList.takeWhile (· != '\x00') =
        'S' :: ("ELECT".toList ++ ' ' :: ['?']) := rfl
    rw [Sql.tokens, htext, Sql.lexemes_word rfl rfl, Sql.lexemes_last rfl]
    rfl
  have hinlined : Sql.tokens "SELECT '?'" =
      [⟨.word, "SELECT".toList, [' '], 0⟩, ⟨.string ['?'], "'?'".toList, [], 7⟩] := by
    have htext : "SELECT '?'".toList.takeWhile (· != '\x00') =
        'S' :: ("ELECT".toList ++ ' ' :: ['\'', '?', '\'']) := rfl
    rw [Sql.tokens, htext, Sql.lexemes_word rfl rfl, Sql.lexemes_last rfl]
    rfl
  obtain ⟨s, e, hprepare, hcount⟩ : ∃ s e, ({} : Engine).prepare "SELECT ?" = .ok (s, e) ∧
      s.parameters.count = 1 := by
    rw [Engine.prepare, hbound]
    exact ⟨_, _, rfl, rfl⟩
  obtain ⟨s', e', hprepare', hcount'⟩ : ∃ s e, ({} : Engine).prepare "SELECT '?'" = .ok (s, e) ∧
      s.parameters.count = 0 := by
    rw [Engine.prepare, hinlined]
    exact ⟨_, _, rfl, rfl⟩
  exact ⟨_, rfl, rfl, runs_agree.2.2.2 _ "SELECT '?'" { engine := {}, tracing := true } hrendered
    (by decide) s e s' e' hprepare hprepare' hcount hcount'⟩

end TypedSql
