import TypedSql.Proofs.Sql.Kind

/-!
The rows that are inserted. An insertion gives way to an update, or to nothing, so neither the
number of its rows nor the changes tell how many were inserted. `InsertPlan.fates` lists what became
of them: the last row that was placed is what the engine remembers, also where the statement fails
later, and those that were placed or gave way to an update are what it counts.
-/

namespace TypedSql

namespace Write

variable {α β γ : Type}

theorem bind_apply (x : Write α) (f : α → Write β) (w : Writing) :
    (x >>= f) w =
      match x w with
      | (.ok a, v) => f a v
      | (.error e, v) => (.error e, v) := by
  show (match x w with | (r, v) => ExceptT.bindCont f r v) = _
  rcases x w with ⟨_ | _, _⟩ <;> rfl

/-- A step of writing that leaves a part of what was done as it is. -/
def Keeps (part : Writing → γ) (x : Write α) : Prop := ∀ w, part (x w).2 = part w

namespace Keeps

variable {part : Writing → γ} {x : Write α} {f : α → Write β}

theorem pure (a : α) : Keeps part (Pure.pure a : Write α) := fun _ => rfl

theorem throw (e : EngineError) : Keeps part (throw e : Write α) := fun _ => rfl

theorem get : Keeps part (get : Write Writing) := fun _ => rfl

theorem modify {g : Writing → Writing} (h : ∀ w, part (g w) = part w) :
    Keeps part (modify g : Write Unit) := h

theorem bind (hx : Keeps part x) (hf : ∀ a, Keeps part (f a)) : Keeps part (x >>= f) := by
  intro w
  have hw := hx w
  rw [bind_apply]
  split
  next a v h =>
    rw [h] at hw
    exact (hf a v).trans hw
  next e v h =>
    rw [h] at hw
    exact hw

theorem ite {c : Prop} [Decidable c] {y : Write α} (hx : Keeps part x) (hy : Keeps part y) :
    Keeps part (if c then x else y) := by
  split
  · exact hx
  · exact hy

/-- A step that is done on a condition, before another one. -/
theorem when {c : Prop} [Decidable c] {y : Write Unit} {g : Unit → Write α} (hy : Keeps part y)
    (hg : ∀ u, Keeps part (g u)) : Keeps part (if c then y >>= g else g ()) :=
  .ite (.bind hy hg) (hg ())

theorem forIn {xs : List α} {init : β} {f : α → β → Write (ForInStep β)}
    (hf : ∀ a b, Keeps part (f a b)) : Keeps part (forIn xs init f) := by
  induction xs generalizing init with
  | nil => exact .pure init
  | cons a as ih =>
      rw [List.forIn_cons]
      refine .bind (hf a init) fun r => ?_
      cases r with
      | done b => exact .pure b
      | yield b => exact ih

theorem table (name : String) : Keeps part (Write.table name) := by
  unfold Write.table
  refine .bind .get fun w => ?_
  split
  · exact .pure _
  · exact .throw _

theorem idOf (t : Table) (values : List Datum) (absent : Int64) :
    Keeps part (Write.idOf t values absent) := by
  unfold Write.idOf
  split
  · exact .pure _
  · split
    · exact .pure _
    · exact .throw _

theorem violations (deferred : Bool) : Keeps part (Write.violations deferred) :=
  .bind .get fun _ => .pure _

section
variable (hviolations : ∀ w d i, part { w with deferred := d, immediate := i } = part w)
include hviolations

theorem addViolations (deferred : Bool) (n : Int) : Keeps part (Write.addViolations deferred n) := by
  refine .modify fun w => ?_
  split
  · exact hviolations w _ _
  · exact hviolations w _ _

theorem enterReferring (t : Table) (values : List Datum) (atOnce : Bool) :
    Keeps part (Write.enterReferring t values atOnce) := by
  unfold Write.enterReferring
  refine .bind .get fun w => .bind (.forIn fun deferred _ => ?_) fun _ => .pure _
  split
  · exact .bind (.throw _) fun _ => .bind (addViolations hviolations _ _) fun _ => .pure _
  · exact .bind (addViolations hviolations _ _) fun _ => .pure _

theorem leaveReferring (t : Table) (values : List Datum) :
    Keeps part (Write.leaveReferring t values) := by
  unfold Write.leaveReferring
  refine .bind .get fun w => .bind (.forIn fun deferred _ => .bind (.violations _) fun n => ?_)
    fun _ => .pure _
  exact .ite (.bind (addViolations hviolations _ _) fun _ => .pure _) (.pure _)

theorem leaveReferred (t : Table) (id : Int64) : Keeps part (Write.leaveReferred t id) := by
  unfold Write.leaveReferred
  refine .bind .get fun w => .bind (.forIn fun _ _ => ?_) fun _ => .pure _
  exact .bind (addViolations hviolations _ _) fun _ => .pure _

theorem enterReferred (t : Table) (id : Int64) : Keeps part (Write.enterReferred t id) := by
  unfold Write.enterReferred
  refine .bind .get fun w => .bind (.forIn fun _ _ => .bind (.violations _) fun n => ?_)
    fun _ => .pure _
  exact .ite (.bind (addViolations hviolations _ _) fun _ => .pure _) (.pure _)

end

section
variable (hcontent : ∀ w c, part { w with content := c } = part w)
include hcontent

theorem setTable (t : Table) : Keeps part (Write.setTable t) := .modify fun w => hcontent w _

variable (hviolations : ∀ w d i, part { w with deferred := d, immediate := i } = part w)
include hviolations

theorem deleteRow (foreignKeys : Bool) (table : String) (row : Row) :
    Keeps part (Write.deleteRow foreignKeys table row) := by
  unfold Write.deleteRow
  refine .bind (.table _) fun t => .ite ?_ (setTable hcontent _)
  exact .bind (leaveReferring hviolations _ _) fun _ =>
    .bind (leaveReferred hviolations _ _) fun _ => setTable hcontent _

theorem updateRow (foreignKeys : Bool) (table : String) (row : Row) (values : List Datum)
    (assigned : List Nat) : Keeps part (Write.updateRow foreignKeys table row values assigned) := by
  unfold Write.updateRow
  refine .bind (.table _) fun t => .bind (.idOf _ _ _) fun id => ?_
  extract_lets refers referred row' put enterReferred' enterReferring' leaveReferred'
  have hput : ∀ u, Keeps part (put u) := fun _ => .bind (setTable hcontent _) fun _ => .pure _
  have henter : ∀ u, Keeps part (enterReferred' u) := fun _ =>
    .when (enterReferred hviolations _ _) hput
  have hrefers : ∀ u, Keeps part (enterReferring' u) := fun _ =>
    .bind (setTable hcontent _) fun _ => .when (enterReferring hviolations _ _ _) henter
  have hleave : ∀ u, Keeps part (leaveReferred' u) := fun _ =>
    .when (leaveReferred hviolations _ _) hrefers
  refine .bind (.forIn fun u _ => ?_) fun _ => .when (leaveReferring hviolations _ _) hleave
  exact .ite (.bind (.throw _) fun _ => .pure _) (.pure _)

end

end Keeps

/-- How a step of writing ends: where it fails, a part of what was done is as it was. -/
def Ends (part : Writing → γ) (x : Write α) (Q : γ → α → Writing → Prop) (w : Writing) : Prop :=
  match x w with
  | (.ok a, v) => Q (part w) a v
  | (.error _, v) => part v = part w

variable {part : Writing → γ} {Q : γ → β → Writing → Prop} {w : Writing}

theorem Keeps.ends {x : Write α} {f : α → Write β} (hx : Keeps part x)
    (hf : ∀ a v, x w = (.ok a, v) → Ends part (f a) Q v) : Ends part (x >>= f) Q w := by
  have hw := hx w
  rw [Ends, bind_apply]
  cases h : x w with
  | mk r v =>
      rw [h] at hw
      cases r with
      | error e => exact hw
      | ok a =>
          have hq := hf a v h
          rwa [Ends, hw] at hq

theorem map_apply (f : α → β) (x : Write α) (w : Writing) :
    (f <$> x) w =
      match x w with
      | (.ok a, v) => (.ok (f a), v)
      | (.error e, v) => (.error e, v) := by
  rw [map_eq_pure_bind, bind_apply]
  rfl

theorem Ends.map {x : Write α} {f : α → β} (h : Ends part x (fun before a => Q before (f a)) w) :
    Ends part (f <$> x) Q w := by
  rw [Ends, map_apply]
  rw [Ends] at h
  cases hx : x w with
  | mk r v => cases r <;> simpa [hx] using h

theorem Ends.imp {x : Write α} {P R : γ → α → Writing → Prop} (h : Ends part x P w)
    (himp : ∀ a v, P (part w) a v → R (part w) a v) : Ends part x R w := by
  rw [Ends] at h ⊢
  cases hx : x w with
  | mk r v =>
      cases r with
      | error e => simpa [hx] using h
      | ok a => exact himp a v (by simpa [hx] using h)

end Write

/-! ## Rows -/

namespace InsertPlan

open Write (Keeps)

/-- The id that a new row has. -/
def idFor (t : Table) (given : List Datum) : Write Int64 :=
  if ((t.keyIndex?.bind (given[·]?)).getD .null).isNull then pure t.nextId
  else Write.idOf t given t.nextId

/-- Puts a new row in the table. -/
def put (p : InsertPlan) (foreignKeys : Bool) (parameters : List Datum) (row : Row) : Write Unit := do
  let t ← Write.table p.table
  if foreignKeys then
    Write.enterReferring t row.values (p.failsAtOnce t)
    Write.enterReferred t row.id
  Write.setTable (t.insert row)
  modify fun w => { w with lastRowid := row.id }
  p.written parameters row

/-- What becomes of a new row, with the id of the row that is written. -/
inductive Fate where
  | placed (id : Int64)
  /-- Another row is updated instead. -/
  | updated (id : Int64)
  | dropped

namespace Fate

def placed? : Fate → Option Int64
  | placed id => some id
  | _ => none

def updated? : Fate → Option Int64
  | updated id => some id
  | _ => none

end Fate

/-- Inserts a row, and tells what became of it. -/
def placeRow (p : InsertPlan) (foreignKeys : Bool) (parameters : List Datum)
    (formulas : List Formula) : Write Fate := do
  let t ← Write.table p.table
  let given := Formula.evalAll { parameters } formulas
  let id ← idFor t given
  let values := Write.withKey t id given
  match ← p.clear foreignKeys parameters id values (p.order t) with
  | (some row, _) => (fun _ => .updated row.id) <$> p.written parameters row
  | (none, false) => pure .dropped
  | (none, true) => (fun _ => .placed id) <$> p.put foreignKeys parameters ⟨id, values⟩

/-- What becomes of new rows, up to the row that fails. -/
def fates (p : InsertPlan) (foreignKeys : Bool) (parameters : List Datum) :
    List (List Formula) → Writing → List Fate
  | [], _ => []
  | row :: rest, w =>
      match p.placeRow foreignKeys parameters row w with
      | (.ok fate, v) => fate :: fates p foreignKeys parameters rest v
      | (.error _, _) => []

variable (p : InsertPlan) (foreignKeys : Bool) (parameters : List Datum)

/-- Placing a row is inserting it. -/
theorem map_placeRow (formulas : List Formula) :
    (fun _ => ()) <$> p.placeRow foreignKeys parameters formulas =
      p.insertRow foreignKeys parameters formulas := by
  have hrest (id : Int64) (values : List Datum) (r : Option Row × Bool) :
      (fun _ => ()) <$> (match r with
        | (some row, _) => (fun _ => .updated row.id) <$> p.written parameters row
        | (none, false) => pure .dropped
        | (none, true) => (fun _ => .placed id) <$> p.put foreignKeys parameters ⟨id, values⟩ :
          Write Fate) =
      match r with
        | (some row, _) => p.written parameters row
        | (none, false) => pure ()
        | (none, true) => p.put foreignKeys parameters ⟨id, values⟩ := by
    obtain ⟨_ | row, _ | _⟩ := r <;> simp
  unfold placeRow insertRow idFor
  simp only [map_bind, hrest]
  refine bind_congr fun t => ?_
  split <;> rfl

/-- Putting a row in a table cannot fail once its references were counted. -/
theorem put_ends {γ : Type} {part : Writing → γ}
    (hviolations : ∀ w d i, part { w with deferred := d, immediate := i } = part w) (row : Row)
    (w : Writing) :
    Write.Ends part (p.put foreignKeys parameters row)
      (fun before _ v => v.lastRowid = row.id ∧ ∃ u, part u = before ∧ v.changes = u.changes + 1)
      w := by
  unfold put
  refine (Keeps.table _).ends fun t v _ => ?_
  extract_lets finish
  have hfinish (u : Unit) (v : Writing) : Write.Ends part (finish u)
      (fun before _ v =>
        v.lastRowid = row.id ∧ ∃ u, part u = before ∧ v.changes = u.changes + 1) v :=
    ⟨rfl, v, rfl, rfl⟩
  split
  · refine (Keeps.enterReferring hviolations _ _ _).ends fun _ v _ => ?_
    exact (Keeps.enterReferred hviolations _ _).ends fun u v _ => hfinish u v
  · exact hfinish () v

theorem clear_keeps {γ : Type} {part : Writing → γ}
    (hcontent : ∀ w c, part { w with content := c } = part w)
    (hviolations : ∀ w d i, part { w with deferred := d, immediate := i } = part w) (id : Int64)
    (values : List Datum) (us : List Write.Uniqueness) :
    Keeps part (p.clear foreignKeys parameters id values us) := by
  induction us with
  | nil => exact .pure _
  | cons u rest ih =>
      unfold clear
      refine .bind (.table _) fun t => ?_
      split
      · exact ih
      · split
        · exact .pure _
        · exact .bind (.updateRow hcontent hviolations _ _ _ _ _) fun _ => .pure _
        · split
          · exact .pure _
          · exact .bind (.deleteRow hcontent hviolations _ _ _) fun _ => ih
          · exact .throw _

/-- The last row and the number of changes. -/
def counts (w : Writing) : Int64 × Nat := (w.lastRowid, w.changes)

theorem idFor_keeps {γ : Type} {part : Writing → γ} (t : Table) (given : List Datum) :
    Keeps part (idFor t given) :=
  .ite (.pure _) (.idOf _ _ _)

/-- A row that is placed is the last one, and it is counted, as is one that is updated. -/
theorem placeRow_ends (formulas : List Formula) (w : Writing) :
    Write.Ends counts (p.placeRow foreignKeys parameters formulas)
      (fun before fate v => v.lastRowid = fate.placed?.getD before.1 ∧
        v.changes = before.2 + fate.placed?.toList.length + fate.updated?.toList.length) w := by
  unfold placeRow
  refine (Keeps.table _).ends fun t v _ => (idFor_keeps _ _).ends fun id v _ => ?_
  refine (p.clear_keeps _ _ (fun _ _ => rfl) (fun _ _ _ => rfl) _ _ _).ends fun r v _ => ?_
  obtain ⟨row, fresh⟩ := r
  cases row with
  | some row => exact ⟨rfl, rfl⟩
  | none =>
      cases fresh with
      | false => exact ⟨rfl, rfl⟩
      | true =>
          refine ((p.put_ends foreignKeys parameters (fun _ _ _ => rfl) _ v).imp
            fun _ w' hput => ?_).map
          obtain ⟨hlast, u, hu, hchanges⟩ := hput
          have hcount : u.changes = v.changes := congrArg Prod.snd hu
          exact ⟨hlast, by simp [Fate.placed?, Fate.updated?, hchanges, hcount, counts]⟩

/-- The last of the rows that are placed is the last row, and the rows that are placed or updated are
those that are counted. -/
theorem forM_insertRow (rows : List (List Formula)) (w : Writing) :
    (rows.forM (p.insertRow foreignKeys parameters) w).2.lastRowid =
        (((p.fates foreignKeys parameters rows w).filterMap Fate.placed?).getLast?).getD
          w.lastRowid ∧
      (rows.forM (p.insertRow foreignKeys parameters) w).2.changes =
        w.changes + ((p.fates foreignKeys parameters rows w).filterMap Fate.placed?).length +
          ((p.fates foreignKeys parameters rows w).filterMap Fate.updated?).length := by
  induction rows generalizing w with
  | nil => exact ⟨rfl, rfl⟩
  | cons row rest ih =>
      have hrow := p.placeRow_ends foreignKeys parameters row w
      rw [List.forM, Write.bind_apply, ← map_placeRow, Write.map_apply, fates]
      rw [Write.Ends] at hrow
      cases hplace : p.placeRow foreignKeys parameters row w with
      | mk r v =>
          rw [hplace] at hrow
          cases r with
          | error e =>
              have hcounts : v.lastRowid = w.lastRowid ∧ v.changes = w.changes :=
                Prod.mk.injEq .. ▸ hrow
              exact hcounts
          | ok fate =>
              obtain ⟨hlast, hchanges⟩ := hrow
              obtain ⟨ihlast, ihchanges⟩ := ih v
              dsimp only [counts] at hlast hchanges ⊢
              rw [ihlast, ihchanges, hlast, hchanges]
              generalize p.fates foreignKeys parameters rest v = later
              cases fate with
              | placed id =>
                  have hplaced : (Fate.placed id :: later).filterMap Fate.placed? =
                      id :: later.filterMap Fate.placed? := rfl
                  have hupdated : (Fate.placed id :: later).filterMap Fate.updated? =
                      later.filterMap Fate.updated? := rfl
                  have hone : (Fate.placed id).placed?.toList.length = 1 ∧
                      (Fate.placed id).updated?.toList.length = 0 := ⟨rfl, rfl⟩
                  rw [hplaced, hupdated, List.getLast?_cons, List.length_cons]
                  exact ⟨rfl, by omega⟩
              | updated id =>
                  have hupdated : (Fate.updated id :: later).filterMap Fate.updated? =
                      id :: later.filterMap Fate.updated? := rfl
                  have hone : (Fate.updated id).placed?.toList.length = 0 ∧
                      (Fate.updated id).updated?.toList.length = 1 := ⟨rfl, rfl⟩
                  refine ⟨rfl, ?_⟩
                  rw [hupdated, List.length_cons]
                  have hplaced : (Fate.updated id :: later).filterMap Fate.placed? =
                      later.filterMap Fate.placed? := rfl
                  rw [hplaced]
                  omega
              | dropped => exact ⟨rfl, rfl⟩

end InsertPlan

/-! ## Statements -/

namespace Write.Keeps

variable {γ : Type} {part : Writing → γ}

theorem forM {α : Type} {xs : List α} {f : α → Write Unit} (hf : ∀ a, Keeps part (f a)) :
    Keeps part (xs.forM f) := by
  induction xs with
  | nil => exact .pure ()
  | cons a as ih => exact .bind (hf a) fun _ => ih

theorem update (p : UpdatePlan) (foreignKeys : Bool) (parameters : List Datum) :
    Keeps (·.lastRowid) (p.perform foreignKeys parameters) := by
  refine .bind (.table _) fun t => .forM fun row => .bind (.table _) fun u => ?_
  split
  · exact .pure _
  · exact .bind (.updateRow (fun _ _ => rfl) (fun _ _ _ => rfl) _ _ _ _ _) fun _ =>
      .modify fun _ => rfl

theorem delete (p : DeletePlan) (foreignKeys : Bool) (parameters : List Datum) :
    Keeps (·.lastRowid) (p.perform foreignKeys parameters) :=
  .bind (.table _) fun _ => .forM fun _ =>
    .bind (.deleteRow (fun _ _ => rfl) (fun _ _ _ => rfl) _ _ _) fun _ => .modify fun _ => rfl

end Write.Keeps

namespace Outcome

theorem first_failed (error : EngineError) : (failed error).first.isOk = false := rfl

/-- What gives all its rows gives the first one too. -/
theorem first_isOk_of_all {o : Outcome} {rows : List (List Datum)} (h : o.all = .ok rows) :
    o.first.isOk = true := by
  unfold first take
  split
  · rfl
  · rw [h]
    rfl

end Outcome

namespace Engine

/-- What a statement starts to write from. -/
def writing (e : Engine) : Writing :=
  { content := e.store.content, deferred := e.store.deferred, lastRowid := e.lastRowid }

/-- What becomes of the new rows of an execution, even where the statement fails later and is
undone. -/
def fates (e : Engine) (s : EngineStatement) (parameters : List Datum) : List InsertPlan.Fate :=
  match e.plan s.statement with
  | .ok (.insert p) =>
      if e.readOnly then [] else p.fates e.foreignKeys parameters p.rows e.writing
  | _ => []

/-- The ids of the rows that an execution inserts, in order. -/
def inserts (e : Engine) (s : EngineStatement) (parameters : List Datum) : List Int64 :=
  (e.fates s parameters).filterMap InsertPlan.Fate.placed?

/-- The ids of the rows that an insertion updates instead. -/
def updates (e : Engine) (s : EngineStatement) (parameters : List Datum) : List Int64 :=
  (e.fates s parameters).filterMap InsertPlan.Fate.updated?

theorem settle_lastRowid (e : Engine) (conflict : Conflict) (result : Except EngineError Unit)
    (w : Writing) : (e.settle conflict result w).1.lastRowid = e.lastRowid := by
  unfold settle
  split
  · split
    · rfl
    · split <;> rfl
  · split <;> rfl
  · rfl
  · rfl

theorem write_apply {e : Engine} (h : ¬e.readOnly = true) (conflict : Conflict) (work : Write Unit) :
    e.write conflict work =
      settle { e with lastRowid := (work e.writing).2.lastRowid } conflict (work e.writing).1
        (work e.writing).2 := by
  unfold write
  rw [if_neg h]
  rfl

theorem write_lastRowid (e : Engine) (conflict : Conflict) (work : Write Unit) :
    (e.write conflict work).1.lastRowid =
      if e.readOnly then e.lastRowid else (work e.writing).2.lastRowid := by
  by_cases h : e.readOnly = true
  · rw [if_pos h, write, if_pos h]
    rfl
  · rw [if_neg h, write_apply h]
    exact settle_lastRowid _ conflict _ _

theorem write_lastRowid_of_keeps (e : Engine) (conflict : Conflict) {work : Write Unit}
    (h : Write.Keeps (·.lastRowid) work) : (e.write conflict work).1.lastRowid = e.lastRowid := by
  have hkept : (work e.writing).2.lastRowid = e.lastRowid := h e.writing
  rw [write_lastRowid, hkept, ite_self]

theorem replaceContent_lastRowid (e : Engine) (content : Content) :
    (e.replaceContent content).1.lastRowid = e.lastRowid := by
  unfold replaceContent
  split <;> rfl

/-- The engine remembers the last row that was inserted. -/
theorem execute_lastRowid (e : Engine) (s : EngineStatement) (parameters : List Datum) :
    (e.execute s parameters).1.lastRowid =
      ((e.inserts s parameters).getLast?).getD e.lastRowid := by
  unfold execute inserts fates
  cases e.plan s.statement with
  | error fault => rfl
  | ok plan =>
      cases plan with
      | insert p =>
          dsimp only [perform]
          rw [write_lastRowid]
          split
          · rfl
          · exact (p.forM_insertRow e.foreignKeys parameters p.rows e.writing).1
      | update p => exact write_lastRowid_of_keeps e _ (.update p _ _)
      | delete p => exact write_lastRowid_of_keeps e _ (.delete p _ _)
      | select source q =>
          dsimp only [perform]
          split <;> rfl
      | createTable t => exact replaceContent_lastRowid e _
      | control c =>
          dsimp only [perform]
          split <;> rfl
      | pragma p value =>
          cases p <;> cases value <;> first | rfl | exact replaceContent_lastRowid e _
      | nothing => rfl
      | empty => rfl

/-- A change of rows that stays counts its changes. One that fails after its rows were given is
undone, and counts none. -/
theorem settle_changes {e : Engine} {conflict : Conflict} {result : Except EngineError Unit}
    {w : Writing} (h : (e.settle conflict result w).2.first.isOk = true) :
    (e.settle conflict result w).1.changes =
      if (e.settle conflict result w).2.failure.isNone then w.changes else 0 := by
  revert h
  unfold settle
  split
  · split
    · simp [Outcome.first_failed]
    · split
      · exact fun _ => rfl
      · exact fun _ => rfl
  · split <;> simp [Outcome.first_failed]
  · simp [Outcome.first_failed]
  · simp [Outcome.first_failed]

/-- Where an insertion gives what it is asked for, the changes are the rows that it inserted or
updated; none, if it is undone after that. -/
theorem execute_changes {e : Engine} {s : EngineStatement} {parameters : List Datum} {i : Sql.Insert}
    (hs : s.statement = .insert i) (h : (e.execute s parameters).2.first.isOk = true) :
    (e.execute s parameters).1.changes =
      if (e.execute s parameters).2.failure.isNone then
        (e.inserts s parameters).length + (e.updates s parameters).length
      else 0 := by
  cases hplan : e.plan s.statement with
  | error fault =>
      have hexecute : e.execute s parameters = (e, .failed fault.error) := by rw [execute, hplan]
      rw [hexecute] at h
      cases h
  | ok plan =>
      obtain ⟨p, rfl⟩ := plan_insert _ i plan (hs ▸ hplan)
      have hexecute : e.execute s parameters =
          e.write p.conflict (p.perform e.foreignKeys parameters) := by
        rw [execute, hplan]
        rfl
      rw [hexecute] at h ⊢
      by_cases hread : e.readOnly = true
      · rw [write, if_pos hread] at h
        cases h
      · have hfates : e.fates s parameters =
            p.fates e.foreignKeys parameters p.rows e.writing := by
          rw [fates, hplan]
          exact if_neg hread
        have hcount := (p.forM_insertRow e.foreignKeys parameters p.rows e.writing).2
        have hstart : e.writing.changes = 0 := rfl
        rw [hstart, Nat.zero_add] at hcount
        rw [write_apply hread] at h ⊢
        rw [settle_changes h, inserts, updates, hfates, ← hcount]
        rfl

end Engine

end TypedSql
