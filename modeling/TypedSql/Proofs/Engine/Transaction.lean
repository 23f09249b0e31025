import TypedSql.Engine.Basic

/-!
What becomes of an open transaction. No step of the store gives it another start, so a transaction
that is open before and after a step is one transaction. Savepoints are taken from the innermost side
only: `release` and `rollbackTo` leave those outside the one they mean.
-/

namespace TypedSql

/-- A transaction at a later time: it began with the same content and in the same way. -/
structure Transaction.Continues (t u : Transaction) : Prop where
  start : u.start = t.start
  bySavepoint : u.bySavepoint = t.bySavepoint

theorem Transaction.Continues.refl (t : Transaction) : t.Continues t := ⟨rfl, rfl⟩

theorem Transaction.Continues.trans {t u v : Transaction} (h : t.Continues u)
    (h' : u.Continues v) : t.Continues v :=
  ⟨h'.start.trans h.start, h'.bySavepoint.trans h.bySavepoint⟩

/-! ## Steps of the store -/

namespace Store

/-- A transaction is open that continues a given one. -/
def Within (s : Store) (t : Transaction) : Prop := ∃ u, s.transaction = some u ∧ t.Continues u

theorem Within.trans {s s' : Store} {t : Transaction} (h : s.Within t)
    (h' : ∀ u, s.transaction = some u → s'.Within u) : s'.Within t := by
  obtain ⟨u, hu, htu⟩ := h
  obtain ⟨v, hv, huv⟩ := h' u hu
  exact ⟨v, hv, htu.trans huv⟩

variable {s s' : Store} {t : Transaction} {name : String}

theorem savepoint_within (h : s.transaction = some t) (name : String) :
    (s.savepoint name).Within t := by
  refine ⟨_, rfl, ?_⟩
  rw [h]
  exact ⟨rfl, rfl⟩

theorem rollbackTo_within (h : s.transaction = some t) (hs : s.rollbackTo name = .ok s') :
    s'.Within t := by
  rw [rollbackTo, h] at hs
  dsimp only at hs
  split at hs
  · cases hs
  · cases hs
    exact ⟨_, rfl, rfl, rfl⟩

/-- Releasing a savepoint ends no transaction but one that a savepoint opened. -/
theorem release_within (h : s.transaction = some t) (hs : s.release name = .ok s') :
    s'.Within t ∨ (t.bySavepoint = true ∧ s'.transaction = none) := by
  rw [release, h] at hs
  dsimp only at hs
  split at hs
  · cases hs
  · split at hs
    next hby =>
      rw [commit, h] at hs
      dsimp only at hs
      split at hs
      · cases hs
      · cases hs
        exact .inr ⟨hby, rfl⟩
    next =>
      cases hs
      exact .inl ⟨_, rfl, rfl, rfl⟩
  · cases hs
    exact .inl ⟨_, rfl, rfl, rfl⟩

/-- A step of the store ends the transaction or continues it. -/
theorem control_within {ctl : Sql.Control} (h : s.transaction = some t)
    (hs : s.control ctl = .ok s') : s'.transaction = none ∨ s'.Within t := by
  cases ctl with
  | begin mode => simp [control, begin, h] at hs
  | commit =>
      simp only [control, commit, h] at hs
      split at hs
      · cases hs
      · cases hs
        exact .inl rfl
  | rollback =>
      simp only [control, rollback, h] at hs
      cases hs
      exact .inl rfl
  | savepoint name =>
      cases hs
      exact .inr (savepoint_within h name)
  | release name =>
      rcases release_within h hs with hw | ⟨_, hnone⟩
      · exact .inr hw
      · exact .inl hnone
  | rollbackTo name => exact .inr (rollbackTo_within h hs)

end Store

end TypedSql
