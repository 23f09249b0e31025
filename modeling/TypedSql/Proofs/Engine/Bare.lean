import TypedSql.Proofs.Engine.Insertion

/-!
Databases without rows. Where no table has a row, an insertion meets no conflict, so it fails or
places its row, and there is nothing to update or delete. As long as no row is ever placed, the
tables stay without rows whatever is executed, also those that a rollback would restore, and no
statement counts a change.
-/

namespace TypedSql

/-- No table has a row. -/
def Content.Bare (c : Content) : Prop := ∀ t ∈ c.tables, t.rows = []

theorem Content.Bare.table? {c : Content} (h : c.Bare) {name : String} {t : Table}
    (ht : c.table? name = some t) : t.rows = [] :=
  h t (List.mem_of_find?_eq_some ht)

/-! ## Writing -/

namespace Write

theorem table_apply (name : String) (w : Writing) :
    Write.table name w =
      (match w.content.table? name with
        | some t => .ok t
        | none => .error (EngineError.noSuchTable name), w) := by
  unfold Write.table
  rw [bind_apply]
  show (match w.content.table? name with
    | some t => (pure t : Write Table)
    | none => throw (EngineError.noSuchTable name)) w = _
  cases w.content.table? name <;> rfl

theorem table_ok {name : String} {w v : Writing} {t : Table} (h : Write.table name w = (.ok t, v)) :
    v = w ∧ w.content.table? name = some t := by
  rw [table_apply, Prod.mk.injEq] at h
  refine ⟨h.2.symm, ?_⟩
  cases hfound : w.content.table? name with
  | none => simp [hfound] at h
  | some u => simpa [hfound] using h.1

theorem conflicting?_of_bare {t : Table} (h : t.rows = []) (id : Int64) (values : List Datum)
    (u : Uniqueness) : conflicting? t id values none u = none := by
  cases u with
  | key => simp [conflicting?, Table.row?, h]
  | column i => simp [conflicting?, Table.withValue?, h]

end Write

namespace InsertPlan

variable (p : InsertPlan) (foreignKeys : Bool) (parameters : List Datum)

/-- The content and the number of changes. -/
def stored (w : Writing) : Content × Nat := (w.content, w.changes)

theorem clear_of_bare {w : Writing} {t : Table} (h : t.rows = [])
    (ht : w.content.table? p.table = some t) (id : Int64) (values : List Datum)
    (us : List Write.Uniqueness) :
    p.clear foreignKeys parameters id values us w = (.ok (none, true), w) := by
  induction us with
  | nil => rfl
  | cons u rest ih =>
      rw [clear, Write.bind_apply, Write.table_apply, ht]
      dsimp only
      rw [Write.conflicting?_of_bare h]
      exact ih

/-- Where there are no rows, a row is placed or nothing is stored. -/
theorem placeRow_of_bare {w : Writing} (h : w.content.Bare) (formulas : List Formula) :
    Write.Ends stored (p.placeRow foreignKeys parameters formulas)
      (fun _ fate _ => fate.placed?.isSome = true) w := by
  unfold placeRow
  refine (Write.Keeps.table _).ends fun t v htable => ?_
  obtain ⟨rfl, ht⟩ := Write.table_ok htable
  refine (idFor_keeps _ _).ends fun id v' hid => ?_
  have hsame : v' = v := by
    have hkeeps : Write.Keeps (fun w => w) (idFor t (Formula.evalAll { parameters } formulas)) :=
      idFor_keeps _ _
    have hv := hkeeps v
    rwa [hid] at hv
  have hput (row : Row) : Write.Ends stored
      ((fun _ => Fate.placed row.id) <$> p.put foreignKeys parameters row)
      (fun _ fate _ => fate.placed?.isSome = true) v :=
    Write.Ends.map ((p.put_ends foreignKeys parameters (fun _ _ _ => rfl) row v).imp
      fun _ _ _ => rfl)
  rw [hsame, Write.Ends, Write.bind_apply, p.clear_of_bare _ _ (h.table? ht) ht]
  exact hput ⟨id, _⟩

/-- So unless a row is placed, the first one fails. -/
theorem forM_of_bare {rows : List (List Formula)} {w : Writing} (h : w.content.Bare)
    (hnone : (p.fates foreignKeys parameters rows w).filterMap Fate.placed? = []) :
    p.fates foreignKeys parameters rows w = [] ∧
      stored (rows.forM (p.insertRow foreignKeys parameters) w).2 = stored w := by
  cases rows with
  | nil => exact ⟨rfl, rfl⟩
  | cons row rest =>
      have hrow := p.placeRow_of_bare foreignKeys parameters h row
      rw [Write.Ends] at hrow
      rw [fates] at hnone ⊢
      rw [List.forM, Write.bind_apply, ← map_placeRow, Write.map_apply]
      cases hplace : p.placeRow foreignKeys parameters row w with
      | mk r v =>
          rw [hplace] at hrow hnone
          cases r with
          | error e => exact ⟨rfl, hrow⟩
          | ok fate =>
              obtain ⟨n, hn⟩ := Option.isSome_iff_exists.mp hrow
              rw [List.filterMap_cons_some hn] at hnone
              cases hnone

end InsertPlan

theorem Table.matching_of_bare {t : Table} (h : t.rows = []) (parameters : List Datum)
    (condition : Option Formula) : t.matching parameters condition = [] := by
  rw [matching, h]
  rfl

theorem UpdatePlan.perform_of_bare (p : UpdatePlan) (foreignKeys : Bool) (parameters : List Datum)
    {w : Writing} (h : w.content.Bare) : (p.perform foreignKeys parameters w).2 = w := by
  rw [perform, Write.bind_apply, Write.table_apply]
  cases ht : w.content.table? p.table with
  | none => rfl
  | some t =>
      dsimp only
      rw [Table.matching_of_bare (h.table? ht)]
      rfl

theorem DeletePlan.perform_of_bare (p : DeletePlan) (foreignKeys : Bool) (parameters : List Datum)
    {w : Writing} (h : w.content.Bare) : (p.perform foreignKeys parameters w).2 = w := by
  rw [perform, Write.bind_apply, Write.table_apply]
  cases ht : w.content.table? p.table with
  | none => rfl
  | some t =>
      dsimp only
      rw [Table.matching_of_bare (h.table? ht)]
      rfl

/-! ## Transactions -/

namespace Store

/-- No table has a row, and none would have one after going back. -/
structure Bare (s : Store) : Prop where
  content : s.content.Bare
  start : ∀ t, s.transaction = some t → t.start.Bare
  points : ∀ t, s.transaction = some t → ∀ p ∈ t.savepoints, p.content.Bare

theorem bare_settled {c : Content} (h : c.Bare) : (settled c).Bare :=
  ⟨h, nofun, nofun⟩

variable {s s' : Store}

/-- Savepoints that are dropped take no rows along. -/
theorem Bare.keep (h : s.Bare) {t : Transaction} (ht : s.transaction = some t) {c : Content}
    (hc : c.Bare) {points : List Savepoint} (hpoints : ∀ p ∈ points, p.content.Bare)
    (deferred : Int) :
    Bare ⟨c, some { t with savepoints := points }, deferred⟩ := by
  refine ⟨hc, ?_, ?_⟩
  · rintro u ⟨⟩
    exact h.start t ht
  · rintro u ⟨⟩
    exact hpoints

theorem Bare.commit (h : s.Bare) (hs : s.commit = .ok s') : s'.Bare := by
  unfold Store.commit at hs
  split at hs
  · cases hs
  · split at hs
    · cases hs
    · cases hs
      exact bare_settled h.content

theorem Bare.control (h : s.Bare) {ctl : Sql.Control} (hs : s.control ctl = .ok s') : s'.Bare := by
  cases ctl with
  | begin mode =>
      simp only [Store.control, Store.begin] at hs
      split at hs
      · cases hs
      · cases hs
        exact ⟨h.content, fun _ ht => by cases ht; exact h.content, fun _ ht => by cases ht; simp⟩
  | commit => exact h.commit hs
  | rollback =>
      simp only [Store.control, Store.rollback] at hs
      split at hs
      · cases hs
      next t ht =>
        cases hs
        exact bare_settled (h.start t ht)
  | savepoint name =>
      cases hs
      refine ⟨h.content, ?_, ?_⟩
      · rintro t ⟨⟩
        cases ht : s.transaction with
        | none => exact h.content
        | some t => exact h.start t ht
      · rintro t ⟨⟩ p hp
        rcases List.mem_cons.mp hp with rfl | hp
        · exact h.content
        · cases ht : s.transaction with
          | none => simp [ht] at hp
          | some t =>
              rw [ht] at hp
              exact h.points t ht p hp
  | release name =>
      simp only [Store.control, Store.release] at hs
      split at hs
      · cases hs
      next t ht =>
        have hpoints : ∀ p ∈ t.savepointsFrom name, p.content.Bare := fun p hp =>
          h.points t ht p ((List.dropWhile_sublist _).mem hp)
        split at hs
        · cases hs
        · split at hs
          · exact h.commit hs
          · cases hs
            exact h.keep ht h.content (by simp) _
        next hfrom =>
          cases hs
          rw [hfrom] at hpoints
          exact h.keep ht h.content (fun p hp => hpoints p (List.mem_cons_of_mem _ hp)) _
  | rollbackTo name =>
      simp only [Store.control, Store.rollbackTo] at hs
      split at hs
      · cases hs
      next t ht =>
        have hpoints : ∀ p ∈ t.savepointsFrom name, p.content.Bare := fun p hp =>
          h.points t ht p ((List.dropWhile_sublist _).mem hp)
        split at hs
        · cases hs
        next point outer hfrom =>
          cases hs
          rw [hfrom] at hpoints
          exact h.keep ht (hpoints point List.mem_cons_self) hpoints _

end Store

/-! ## Statements -/

namespace Engine

/-- An engine that has no rows and counts no changes. -/
structure Bare (e : Engine) : Prop where
  store : e.store.Bare
  changes : e.changes = 0

variable {e : Engine}

theorem Bare.unchanged (h : e.Bare) : e.unchanged.Bare := ⟨h.store, rfl⟩

theorem Bare.ended (h : e.Bare) : e.ended.Bare := by
  refine ⟨?_, rfl⟩
  unfold Engine.ended
  dsimp only
  split
  next s hs =>
    have hcontrol : e.store.control .rollback = .ok s := hs
    exact h.store.control hcontrol
  next => exact h.store

theorem Bare.changed (h : e.Bare) {w : Writing} (hcontent : w.content.Bare)
    (hchanges : w.changes = 0) : (e.changed w).Bare :=
  ⟨⟨hcontent, h.store.start, h.store.points⟩, hchanges⟩

theorem Bare.settle (h : e.Bare) {w : Writing} (hcontent : w.content.Bare)
    (hchanges : w.changes = 0) (conflict : Conflict) (result : Except EngineError Unit) :
    (e.settle conflict result w).1.Bare := by
  unfold Engine.settle
  split
  · split
    · exact h.unchanged
    · split
      · exact h.unchanged
      · exact h.changed hcontent hchanges
  · split
    · exact h.unchanged
    · exact h.changed hcontent hchanges
  · exact h.ended
  · exact h.unchanged

theorem Bare.write (h : e.Bare) (conflict : Conflict) {work : Write Unit}
    (hwork : e.readOnly = false →
      (work e.writing).2.content = e.store.content ∧ (work e.writing).2.changes = 0) :
    (e.write conflict work).1.Bare := by
  by_cases hread : e.readOnly = true
  · rw [Engine.write, if_pos hread]
    exact h.unchanged
  · rw [write_apply hread]
    obtain ⟨hcontent, hchanges⟩ := hwork (by simpa using hread)
    have hbare : ({ e with lastRowid := (work e.writing).2.lastRowid } : Engine).Bare :=
      ⟨h.store, h.changes⟩
    exact hbare.settle (by rw [hcontent]; exact h.store.content) hchanges conflict _

theorem Bare.replaceContent (h : e.Bare) {c : Content} (hc : c.Bare) :
    (e.replaceContent c).1.Bare := by
  unfold Engine.replaceContent
  split
  · exact h
  · exact ⟨⟨hc, h.store.start, h.store.points⟩, h.changes⟩

/-- An engine without rows stays so while no row is inserted. -/
theorem Bare.execute (h : e.Bare) {s : EngineStatement} {parameters : List Datum}
    (hnone : e.inserts s parameters = []) : (e.execute s parameters).1.Bare := by
  unfold Engine.execute
  unfold inserts fates at hnone
  cases hplan : e.plan s.statement with
  | error fault => exact h
  | ok plan =>
      rw [hplan] at hnone
      cases plan with
      | insert p =>
          refine h.write _ fun hread => ?_
          rw [hread] at hnone
          have hstored := (p.forM_of_bare e.foreignKeys parameters (w := e.writing)
            h.store.content hnone).2
          exact Prod.mk.injEq .. ▸ hstored
      | update p =>
          refine h.write _ fun _ => ?_
          rw [p.perform_of_bare _ _ h.store.content]
          exact ⟨rfl, rfl⟩
      | delete p =>
          refine h.write _ fun _ => ?_
          rw [p.perform_of_bare _ _ h.store.content]
          exact ⟨rfl, rfl⟩
      | select source q =>
          dsimp only [perform]
          split <;> exact h
      | createTable t =>
          refine h.replaceContent fun u hu => ?_
          rcases List.mem_append.mp hu with hu | hu
          · exact h.store.content u hu
          · rw [List.mem_singleton.mp hu]
            exact (plan_serves _ _ _ hplan).createTable t rfl
      | control c =>
          dsimp only [perform]
          split
          next store hs => exact ⟨h.store.control hs, h.changes⟩
          next => exact h
      | pragma p value =>
          cases p <;> cases value <;> first | exact h | exact h.replaceContent h.store.content
      | nothing => exact h
      | empty => exact h

/-- Nor is there a row to update instead of one that is inserted. -/
theorem Bare.updates (h : e.Bare) {s : EngineStatement} {parameters : List Datum}
    (hnone : e.inserts s parameters = []) : e.updates s parameters = [] := by
  have hfates : e.fates s parameters = [] := by
    unfold inserts fates at *
    split at hnone
    next p _ =>
      by_cases hread : e.readOnly = true
      · rw [if_pos hread]
      · rw [if_neg hread] at hnone ⊢
        exact (p.forM_of_bare e.foreignKeys parameters h.store.content hnone).1
    next => rfl
  rw [Engine.updates, hfates]
  rfl

end Engine

end TypedSql
