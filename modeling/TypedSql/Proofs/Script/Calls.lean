import TypedSql.Proofs.Connection.Control
import TypedSql.Proofs.Connection.Moves
import TypedSql.Proofs.Connection.Slots

/-!
Calls on a prepared statement. What was bound last is known from the calls alone: it is what the
last accepted call with values gave. The slots, the values on record and the mark that values were
bound agree with it before every call, so no execution sees a slot that was left over or never set,
and a call that is refused is as if it had not been made.
-/

namespace TypedSql

/-- What is known of a prepared statement whose values are those that were bound last. -/
structure Prepared.Holds (s : Prepared) (last : Option Bindings) : Prop where
  slots : s.slots.length = s.parameterCount
  recorded : s.bound = last.getD .none
  marked : s.isBound = last.isSome
  filled : ∀ given, last = some given → s.Filled given s.slots

namespace StatementCall

def isBinding : StatementCall → Bool
  | .bind _ => true
  | call => !call.given.isEmpty

/-- The values that a call binds, if it is to bind any and is not refused. -/
def binds? (call : StatementCall) (s : Prepared) : Option Bindings :=
  match call.prepared s with
  | .ok _ => if call.isBinding then some call.given else none
  | .error _ => none

def leave (s : Prepared) (call : StatementCall) : Prepared :=
  match call.prepared s with
  | .ok t => t
  | .error _ => s

/-- What was bound last after calls; `last` was bound before them. -/
def lastBound (s : Prepared) (last : Option Bindings) : List StatementCall → Option Bindings
  | [] => last
  | call :: rest => lastBound (leave s call) ((call.binds? s).or last) rest

/-- Whether a call that is not refused has the engine execute the statement. -/
def isExecution : StatementCall → Bool
  | .bind _ | .expanded | .rows _ (some 0) => false
  | _ => true

/-- The slots that the engine executes the statement with in a call, if it comes to that. -/
def executed? (call : StatementCall) (s : Prepared) : Option (List Datum) :=
  match call.prepared s with
  | .ok t => if call.isExecution then some t.slots else none
  | .error _ => none

end StatementCall

/-! ## What was bound last -/

namespace Prepared

variable {s t : Prepared} {given : Bindings} {last : Option Bindings}

theorem holds_ofStatement (sql : String) (s : EngineStatement) : (ofStatement sql s).Holds none where
  slots := List.length_replicate
  recorded := rfl
  marked := rfl
  filled _ h := by cases h

/-- Binding replaces what was bound before. -/
theorem Holds.bind (h : s.Holds last) (hnum : s.statement.parameters.WellNumbered)
    (hbind : s.bind given = .ok t) : t.Holds (some given) := by
  obtain ⟨slots, hfilled, ht⟩ := ok_of_bind hbind
  cases ht
  have hslots := filled_ok hnum h.slots hfilled
  exact
    { slots := hslots.length
      recorded := rfl
      marked := rfl
      filled := fun g hg => by
        cases hg
        exact ⟨hslots.length, hslots.value⟩ }

/-- A statement that is ready without values had them, or needs none. -/
theorem ready_ok (h : s.ready given = .ok t) :
    (given.isEmpty = false ∧ s.bind given = .ok t) ∨
      (given.isEmpty = true ∧ t = s ∧ (s.isBound = true ∨ s.parameterCount = 0)) := by
  unfold ready at h
  cases hempty : given.isEmpty with
  | false =>
      rw [hempty] at h
      exact .inl ⟨rfl, h⟩
  | true =>
      rw [hempty] at h
      cases hbound : s.isBound with
      | true =>
          rw [hbound] at h
          cases h
          exact .inr ⟨rfl, rfl, .inl rfl⟩
      | false =>
          rw [hbound] at h
          by_cases hcount : 0 < s.parameterCount
          · simp [hcount] at h
          · simp only [hcount] at h
            cases h
            exact .inr ⟨rfl, rfl, .inr (by omega)⟩

end Prepared

namespace StatementCall

variable {call : StatementCall} {s t : Prepared} {last : Option Bindings}

/-- A call that is not refused binds the values that it is to bind, and otherwise leaves the
statement as it is. -/
theorem prepared_ok (h : call.prepared s = .ok t) :
    (call.isBinding = true ∧ s.bind call.given = .ok t) ∨
      (call.isBinding = false ∧ t = s ∧
        (call = .expanded ∨ s.isBound = true ∨ s.parameterCount = 0)) := by
  have ready (hready : s.ready call.given = .ok t) (hbinding : call.isBinding = !call.given.isEmpty) :
      (call.isBinding = true ∧ s.bind call.given = .ok t) ∨
        (call.isBinding = false ∧ t = s ∧
          (call = .expanded ∨ s.isBound = true ∨ s.parameterCount = 0)) := by
    rcases Prepared.ready_ok hready with ⟨hempty, hbind⟩ | ⟨hempty, ht, hs⟩
    · exact .inl ⟨by rw [hbinding, hempty]; rfl, hbind⟩
    · exact .inr ⟨by rw [hbinding, hempty]; rfl, ht, .inr hs⟩
  cases call with
  | bind given => exact .inl ⟨rfl, h⟩
  | expanded =>
      cases h
      exact .inr ⟨rfl, rfl, .inl rfl⟩
  | run given => exact ready h rfl
  | scalar type given => exact ready h rfl
  | rows given limit => exact ready h rfl

theorem leave_statement (s : Prepared) (call : StatementCall) :
    (leave s call).statement = s.statement := by
  unfold leave
  cases h : call.prepared s with
  | ok t => exact (prepared_statement h).1
  | error e => rfl

/-- A call keeps what is known of the statement, for what is bound last after it. -/
theorem holds_leave (h : s.Holds last) (hnum : s.statement.parameters.WellNumbered)
    (call : StatementCall) : (leave s call).Holds ((call.binds? s).or last) := by
  unfold leave binds?
  cases hcall : call.prepared s with
  | error e => simpa using h
  | ok t =>
      rcases prepared_ok hcall with ⟨hbinding, hbind⟩ | ⟨hbinding, rfl, -⟩
      · simpa [hbinding] using h.bind hnum hbind
      · simpa [hbinding] using h

theorem foldl_leave_statement (s : Prepared) (calls : List StatementCall) :
    (calls.foldl leave s).statement = s.statement := by
  induction calls generalizing s with
  | nil => rfl
  | cons call rest ih => rw [List.foldl_cons, ih, leave_statement]

theorem lastBound_append (s : Prepared) (last : Option Bindings) (calls : List StatementCall)
    (call : StatementCall) :
    lastBound s last (calls ++ [call]) =
      (call.binds? (calls.foldl leave s)).or (lastBound s last calls) := by
  induction calls generalizing s last with
  | nil => rfl
  | cons c rest ih => exact ih _ _

/-- After any calls, a statement has what they bound last. -/
theorem holds_foldl (h : s.Holds last) (hnum : s.statement.parameters.WellNumbered)
    (calls : List StatementCall) : (calls.foldl leave s).Holds (lastBound s last calls) := by
  induction calls generalizing s last with
  | nil => exact h
  | cons call rest ih => exact ih (holds_leave h hnum call) (by rwa [leave_statement])

/-- The engine never executes a statement whose parameters were not all bound. -/
theorem executed_filled (h : s.Holds last) (hnum : s.statement.parameters.WellNumbered)
    {slots : List Datum} (hslots : call.executed? s = some slots) :
    slots.length = s.parameterCount ∧
      (s.parameterCount = 0 ∨
        ∃ values, (call.binds? s).or last = some values ∧ s.Filled values slots) := by
  have hleave := holds_leave h hnum call
  unfold executed? at hslots
  unfold leave at hleave
  cases hcall : call.prepared s with
  | error e =>
      rw [hcall] at hslots
      cases hslots
  | ok t =>
      rw [hcall] at hslots hleave
      have hstatement := (prepared_statement hcall).1
      have hcount : t.parameterCount = s.parameterCount := by
        rw [Prepared.parameterCount, Prepared.parameterCount, hstatement]
      cases hexecution : call.isExecution with
      | false => simp [hexecution] at hslots
      | true =>
          simp only [hexecution, if_true, Option.some.injEq] at hslots
          subst hslots
          refine ⟨hleave.slots.trans hcount, ?_⟩
          cases hlast : (call.binds? s).or last with
          | none =>
              rw [hlast] at hleave
              have hunmarked : t.isBound = false := hleave.marked
              rcases prepared_ok hcall with ⟨hbinding, -⟩ | ⟨-, rfl, hready⟩
              · simp [binds?, hcall, hbinding] at hlast
              · rcases hready with rfl | hbound | hzero
                · cases hexecution
                · rw [hunmarked] at hbound
                  cases hbound
                · exact .inl hzero
          | some values =>
              rw [hlast] at hleave
              have hfilled := hleave.filled values rfl
              refine .inr ⟨values, rfl, hfilled.length.trans hcount, fun i h1 hi => ?_⟩
              obtain ⟨cell, hcell, hslot⟩ := hfilled.value i h1 (by rwa [hcount])
              refine ⟨cell, ?_, hslot⟩
              cases values <;> simpa [Prepared.cell?, hstatement] using hcell

/-! ## Calls on a connection -/

theorem make_refused {failure : Failure} (h : call.prepared s = .error failure) (c : Connection) :
    call.make s c = ((⟨.error failure, s.expanded, c.traced⟩, s), c.untraced) := by
  unfold make
  rw [h]
  rfl

theorem make_prepared (h : call.prepared s = .ok t) (c : Connection) :
    call.make s c =
      ((⟨(call.act t c).1, t.expanded, (call.act t c).2.traced⟩, t),
        (call.act t c).2.untraced) := by
  unfold make
  rw [h]
  rfl

theorem make_leave (call : StatementCall) (s : Prepared) (c : Connection) :
    (call.make s c).1.2 = leave s call := by
  unfold leave
  cases h : call.prepared s with
  | ok t => rw [make_prepared h]
  | error f => rw [make_refused h]

/-- The calls after a call are made on the statement that it leaves. -/
theorem makeAll_cons (call : StatementCall) (rest : List StatementCall) (s : Prepared)
    (c : Connection) :
    makeAll (call :: rest) s c =
      ((call.make s c).1.1 :: (makeAll rest (leave s call) (call.make s c).2).1,
        (makeAll rest (leave s call) (call.make s c).2).2) := by
  rw [makeAll, StateM.bind_apply, ← make_leave call s c]
  rfl

theorem makeAll_append (calls later : List StatementCall) (s : Prepared) (c : Connection) :
    makeAll (calls ++ later) s c =
      ((makeAll calls s c).1 ++ (makeAll later (calls.foldl leave s) (makeAll calls s c).2).1,
        (makeAll later (calls.foldl leave s) (makeAll calls s c).2).2) := by
  induction calls generalizing s c with
  | nil => rfl
  | cons call rest ih =>
      rw [List.cons_append, makeAll_cons, ih, makeAll_cons]
      rfl

end StatementCall

/-- An act that leaves the engine as it is, and finds no fault with values. -/
def Act.Idle {α : Type} (x : Act α) : Prop :=
  ∀ c, (x c).2.engine = c.engine ∧ ∀ e, (x c).1 ≠ .error (.binding e)

namespace Act.Idle

variable {α β : Type}

theorem bind {x : Act α} {f : α → Act β} (hx : x.Idle) (hf : ∀ a, (f a).Idle) :
    (x >>= f : Act β).Idle := by
  intro c
  have hc := hx c
  rw [Act.bind_apply]
  split
  next a d h =>
    rw [h] at hc
    have hd := hf a d
    exact ⟨hd.1.trans hc.1, hd.2⟩
  next e d h =>
    rw [h] at hc
    exact ⟨hc.1, fun b hb => hc.2 b (by cases hb; rfl)⟩

theorem pure (a : α) : (Pure.pure a : Act α).Idle := fun _ => ⟨rfl, fun _ h => by cases h⟩

theorem noteInsert (sql : String) (before : Int64) :
    (modify (·.noteInsert sql before) : Act Unit).Idle := by
  intro c
  refine ⟨?_, fun _ h => by cases h⟩
  rw [Act.modify_apply, Connection.noteInsert]
  split <;> rfl

theorem orRefused (s : Prepared) (r : Except EngineError α) : (s.orRefused r).Idle := by
  cases r with
  | ok a => exact .pure a
  | error e => exact fun _ => ⟨rfl, fun _ h => by cases h⟩

end Act.Idle

namespace Prepared

/-- The engine executed the statement once, and no fault was found with values. -/
def Executes {α : Type} (s : Prepared) (x : Act α) : Prop :=
  ∀ c, (x c).2.engine = (c.engine.execute s.statement s.slots).1 ∧
    ∀ e, (x c).1 ≠ .error (.binding e)

theorem Executes.announce {α : Type} {s : Prepared} {f : Unit → Act α} (h : s.Executes (f ())) :
    s.Executes (s.announce >>= f : Act α) := by
  intro c
  have hannounce : s.announce c = (.ok (), c.trace s.expanded) := rfl
  have hf := h (c.trace s.expanded)
  rw [Act.bind_apply, hannounce]
  rwa [Connection.trace_engine] at hf

theorem Executes.get {α : Type} {s : Prepared} {f : Connection → Act α}
    (h : ∀ c, s.Executes (f c)) : s.Executes (MonadState.get >>= f : Act α) := by
  intro c
  rw [Act.bind_apply]
  exact h c c

/-- What follows the execution leaves the engine to it. -/
theorem executes_bind {α : Type} (s : Prepared) {f : Outcome → Act α} (h : ∀ o, (f o).Idle) :
    s.Executes (liftM s.execute >>= f : Act α) := by
  intro c
  have hidle := h (s.execute c).1 (s.execute c).2
  rw [Act.bind_apply, Act.lift_apply]
  exact ⟨hidle.1, hidle.2⟩

theorem Executes.map {α β : Type} {s : Prepared} {x : Act α} (h : s.Executes x) (f : α → β) :
    s.Executes (f <$> x : Act β) := by
  intro c
  have hc := h c
  have hmap : (f <$> x : Act β) c = (x >>= fun a => pure (f a) : Act β) c := rfl
  rw [hmap, Act.bind_apply]
  split
  next a d hx =>
    rw [hx] at hc
    exact ⟨hc.1, fun _ hb => by cases hb⟩
  next e d hx =>
    rw [hx] at hc
    exact ⟨hc.1, fun b hb => hc.2 b (by cases hb; rfl)⟩

theorem run_executes (s : Prepared) : s.Executes s.run := by
  apply Executes.announce
  apply Executes.get
  intro c
  apply executes_bind
  intro outcome
  apply Act.Idle.bind (.orRefused s _)
  intro _
  exact .noteInsert _ _

theorem scalar_executes (s : Prepared) (type : ValueType) : s.Executes (s.scalar type) := by
  apply Executes.announce
  apply Executes.get
  intro c
  apply executes_bind
  intro outcome
  apply Act.Idle.bind (.orRefused s _)
  intro row
  apply Act.Idle.bind (.noteInsert _ _)
  intro _
  split
  · exact .pure _
  · exact fun _ => ⟨rfl, fun _ h => by cases h⟩

theorem rows_executes (s : Prepared) {limit : Option Nat} (h : limit ≠ some 0) :
    s.Executes (s.rows limit) := by
  apply Executes.announce
  rw [if_neg h]
  apply executes_bind
  intro outcome
  apply Act.Idle.bind (.orRefused s _)
  intro rows
  exact .pure _

end Prepared

namespace StatementCall

variable {call : StatementCall} {s t : Prepared}

theorem act_executes (h : call.isExecution = true) (s : Prepared) : s.Executes (call.act s) := by
  cases call with
  | bind _ => cases h
  | expanded => cases h
  | run _ => exact (Prepared.run_executes s).map _
  | scalar type _ => exact (Prepared.scalar_executes s type).map _
  | rows _ limit =>
      have hlimit : limit ≠ some 0 := by
        rintro rfl
        cases h
      exact (Prepared.rows_executes s hlimit).map _

theorem act_idle (h : call.isExecution = false) (s : Prepared) : (call.act s).Idle := by
  cases call with
  | bind _ => exact .pure _
  | expanded => exact .pure _
  | run _ => cases h
  | scalar _ _ => cases h
  | rows given limit =>
      obtain rfl : limit = some 0 := by
        unfold isExecution at h
        split at h <;> simp_all
      intro c
      have hact : (act s (.rows given (some 0)) : Act StatementResult) c =
          (.ok (.rows s.columns []), c.trace s.expanded) := rfl
      rw [hact]
      exact ⟨Connection.trace_engine c _, fun _ hb => by cases hb⟩

/-- In a call the engine executes the statement once, with the slots as the call has them, or not at
all. -/
theorem make_engine (call : StatementCall) (s : Prepared) (c : Connection) :
    (call.make s c).2.engine =
      match call.executed? s with
      | some slots => (c.engine.execute s.statement slots).1
      | none => c.engine := by
  unfold executed?
  cases hcall : call.prepared s with
  | error failure => rw [make_refused hcall, Connection.untraced_engine]
  | ok t =>
      rw [make_prepared hcall, Connection.untraced_engine, ← (prepared_statement hcall).1]
      cases hexecution : call.isExecution with
      | true => exact (act_executes hexecution t c).1
      | false => exact (act_idle hexecution t c).1

/-- Values are refused before anything is done. -/
theorem prepared_of_binding {e : BindingError} {c : Connection}
    (h : (call.make s c).1.1.result = .error (.binding e)) :
    call.prepared s = .error (.binding e) := by
  cases hcall : call.prepared s with
  | error failure =>
      rw [make_refused hcall] at h
      exact congrArg Except.error (Except.error.inj h)
  | ok t =>
      rw [make_prepared hcall] at h
      cases hexecution : call.isExecution with
      | true => exact absurd h ((act_executes hexecution t c).2 e)
      | false => exact absurd h ((act_idle hexecution t c).2 e)

theorem makeAll_traced (calls : List StatementCall) (s : Prepared) {c : Connection}
    (h : c.traced = []) : (makeAll calls s c).2.traced = [] := by
  induction calls generalizing s c with
  | nil => exact h
  | cons call rest ih =>
      rw [makeAll_cons]
      apply ih
      cases hcall : call.prepared s with
      | error failure => rw [make_refused hcall, Connection.untraced]
      | ok t => rw [make_prepared hcall, Connection.untraced]

/-- Preparing a text binds the values that are given with it, and traces nothing. -/
theorem prepare_ok {sql : String} {given : Bindings} {c d : Connection}
    (h : Connection.prepare sql given c = (.ok s, d)) :
    ∃ t, t.Holds none ∧ d.traced = c.traced ∧
      if given.isEmpty then s = t else t.bind given = .ok s := by
  rw [Connection.prepare, Act.bind_apply] at h
  split at h
  next t e ht =>
    have hfresh : t.Holds none ∧ e.traced = c.traced := by
      unfold Connection.prepareText at ht
      split at ht
      · cases ht
        exact ⟨Prepared.holds_ofStatement _ _, rfl⟩
      · cases ht
    refine ⟨t, hfresh.1, ?_⟩
    cases hempty : given.isEmpty with
    | true =>
        rw [hempty] at h
        cases h
        exact ⟨hfresh.2, rfl⟩
    | false =>
        rw [hempty] at h
        cases hbind : t.bind given with
        | error f =>
            rw [hbind] at h
            cases h
        | ok u =>
            rw [hbind] at h
            cases h
            exact ⟨hfresh.2, rfl⟩
  next => cases h

theorem holds_prepare {sql : String} {given : Bindings} {c d : Connection}
    (h : Connection.prepare sql given c = (.ok s, d))
    (hnum : s.statement.parameters.WellNumbered) :
    s.Holds (if given.isEmpty then none else some given) := by
  obtain ⟨t, hfresh, -, hs⟩ := prepare_ok h
  cases hempty : given.isEmpty with
  | true =>
      rw [hempty] at hs
      cases hs
      exact hfresh
  | false =>
      rw [hempty] at hs
      rw [(Prepared.bind_statement hs).1] at hnum
      exact hfresh.bind hnum hs

/-- Calls on a prepared statement, one after another, up to one that is looked at and on with others.
Whenever the engine executes the statement, the slots have what was bound last, all of them. A call
whose values are refused changes nothing of the statement, has nothing executed or traced, and the
calls after it go as they would have gone without it. -/
theorem calls_bound {sql : String} {given : Bindings} {c d : Connection}
    (hprepare : Connection.prepare sql given c = (.ok s, d))
    (hnum : s.statement.parameters.WellNumbered) (calls : List StatementCall)
    (call : StatementCall) (later : List StatementCall) :
    let before := if given.isEmpty then none else some given
    let t := calls.foldl leave s
    let e := (makeAll calls s d).2
    makeAll (calls ++ call :: later) s d =
        ((makeAll calls s d).1 ++
          (call.make t e).1.1 :: (makeAll later (call.make t e).1.2 (call.make t e).2).1,
          (makeAll later (call.make t e).1.2 (call.make t e).2).2) ∧
      t.bound = (lastBound s before calls).getD .none ∧
      t.isBound = (lastBound s before calls).isSome ∧
      (call.make t e).2.engine =
        (match call.executed? t with
          | some slots => (e.engine.execute s.statement slots).1
          | none => e.engine) ∧
      (∀ slots, call.executed? t = some slots →
        slots.length = s.parameterCount ∧
          (s.parameterCount = 0 ∨ ∃ values, lastBound s before (calls ++ [call]) = some values ∧
            ∀ i, 1 ≤ i → i ≤ s.parameterCount →
              ∃ cell, s.cell? i values = some cell ∧ slots[i - 1]? = some (.ofCell cell))) ∧
      ∀ error, (call.make t e).1.1.result = .error (.binding error) →
        call.executed? t = none ∧
          call.make t e = ((⟨.error (.binding error), t.expanded, e.traced⟩, t), e.untraced) ∧
          (c.traced = [] →
            makeAll (calls ++ later) s d =
                ((makeAll calls s d).1 ++ (makeAll later t e).1, (makeAll later t e).2) ∧
              makeAll (calls ++ call :: later) s d =
                ((makeAll calls s d).1 ++
                  ⟨.error (.binding error), t.expanded, []⟩ :: (makeAll later t e).1,
                  (makeAll later t e).2)) := by
  intro before t e
  have hstatement : t.statement = s.statement := foldl_leave_statement s calls
  have hcount : t.parameterCount = s.parameterCount := by
    rw [Prepared.parameterCount, Prepared.parameterCount, hstatement]
  have hholds : t.Holds (lastBound s before calls) :=
    holds_foldl (holds_prepare hprepare hnum) hnum calls
  have hmake : makeAll (calls ++ call :: later) s d =
      ((makeAll calls s d).1 ++
        (call.make t e).1.1 :: (makeAll later (call.make t e).1.2 (call.make t e).2).1,
        (makeAll later (call.make t e).1.2 (call.make t e).2).2) := by
    rw [makeAll_append, makeAll_cons, ← make_leave call t e]
  refine ⟨hmake, hholds.recorded, hholds.marked, ?_, ?_, ?_⟩
  · rw [make_engine, hstatement]
  · intro slots hslots
    obtain ⟨hlength, hzero | ⟨values, hlast, hfilled⟩⟩ :=
      executed_filled hholds (by rwa [hstatement]) hslots
    · exact ⟨hlength.trans hcount, .inl (hcount.symm.trans hzero)⟩
    · refine ⟨hlength.trans hcount, .inr ⟨values, ?_, fun i h1 hi => ?_⟩⟩
      · rw [lastBound_append, hlast]
      · obtain ⟨cell, hcell, hslot⟩ := hfilled.value i h1 (by rwa [hcount])
        refine ⟨cell, ?_, hslot⟩
        cases values <;> simpa [Prepared.cell?, hstatement] using hcell
  · intro error hrefused
    have hcall := prepared_of_binding hrefused
    refine ⟨by rw [executed?, hcall], make_refused hcall e, fun htraced => ⟨makeAll_append .., ?_⟩⟩
    obtain ⟨-, -, hprepared, -⟩ := prepare_ok hprepare
    have he : e.traced = [] := makeAll_traced calls s (hprepared.trans htraced)
    have hsame : e.untraced = e := by rw [Connection.untraced, ← he]
    rw [hmake, make_refused hcall, he, hsame]

/-- A run before any values, one with values that are bound, and one with values that are refused:
the run after them has what was bound. -/
theorem calls_bound_refused :
    ∃ (s : Prepared) (d : Connection) (calls : List StatementCall),
      calls = [.run .none, .run (.positional [some (.integer 1), none]),
        .run (.named [(":a", none)])] ∧
      Connection.prepare "SELECT ?, :a" .none { engine := {} } = (.ok s, d) ∧
      s.statement.parameters.WellNumbered ∧
      (run .none).executed? (calls.foldl leave s) = some [.integer 1, .null] ∧
      ∃ values, lastBound s none (calls ++ [run .none]) = some values ∧
        ∀ i, 1 ≤ i → i ≤ 2 →
          ∃ cell, s.cell? i values = some cell ∧
            [Datum.integer 1, .null][i - 1]? = some (.ofCell cell) := by
  have htokens : Sql.tokens "SELECT ?, :a" =
      [⟨.word, "SELECT".toList, [' '], 0⟩, ⟨.positional [], ['?'], [], 7⟩,
        ⟨.symbol, [','], [' '], 8⟩, ⟨.named, [':', 'a'], [], 10⟩] := by
    have htext : "SELECT ?, :a".toList.takeWhile (· != '\x00') =
        'S' :: ("ELECT".toList ++ ' ' :: '?' :: ([] ++ ',' :: ([] ++ ' ' :: ([] ++ ':' :: ['a'])))) :=
      rfl
    rw [Sql.tokens, htext, Sql.lexemes_word rfl rfl, Sql.lexemes_cons rfl, Sql.lexemes_cons rfl,
      Sql.lexemes_cons rfl, Sql.lexemes_last rfl]
    rfl
  obtain ⟨⟨statement, parameters, columns⟩, engine, hengine, hparameters⟩ :
      ∃ s engine, ({} : Engine).prepare "SELECT ?, :a" = .ok (s, engine) ∧
        s.parameters = ⟨2, [(":a", 2)]⟩ := by
    rw [Engine.prepare, htokens]
    exact ⟨_, _, rfl, rfl⟩
  cases hparameters
  have hprepare : Connection.prepare "SELECT ?, :a" .none { engine := {} } =
      (.ok (.ofStatement "SELECT ?, :a" ⟨statement, ⟨2, [(":a", 2)]⟩, columns⟩), { engine }) := by
    rw [Connection.prepare, Act.bind_apply, Connection.prepareText, hengine]
    rfl
  have hnum : Sql.Parameters.WellNumbered ⟨2, [(":a", 2)]⟩ :=
    Sql.Parameters.WellNumbered.empty.addNext.addName ":a"
  refine ⟨_, _, _, rfl, hprepare, hnum, rfl, ?_⟩
  have hbound := calls_bound hprepare hnum
    [.run .none, .run (.positional [some (.integer 1), none]), .run (.named [(":a", none)])]
    (.run .none) []
  obtain ⟨-, hzero | hvalues⟩ := hbound.2.2.2.2.1 [.integer 1, .null] rfl
  · cases hzero
  · exact hvalues

end StatementCall

end TypedSql
