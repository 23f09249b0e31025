import TypedSql.Proofs.Engine.Transaction

/-!
The stack of savepoints, the innermost first. Releasing a name drops the savepoints up to the first
of that name and this one, going back to it drops those before it and restores its content. Which
savepoint that is depends on the names inside it.
-/

namespace TypedSql

/-! ## Names -/

theorem sameName_refl (name : String) : sameName name name = true := by simp [sameName]

theorem toLower_of_isDigit {c : Char} (h : c.isDigit = true) : c.toLower = c := by
  have hupper : ¬(c.val ≥ 'A'.val ∧ c.val ≤ 'Z'.val) := by
    intro hc
    simp only [Char.isDigit, Bool.and_eq_true, decide_eq_true_eq] at h
    exact absurd (UInt32.le_trans hc.1 h.2) (by decide)
  exact dif_neg hupper

/-- Two numbers are one name only if they are equal. -/
theorem sameName_toString {m n : Nat} (h : sameName (toString m) (toString n) = true) : m = n := by
  have hlower (k : Nat) : (toString k).toList.map Char.toLower = Nat.toDigits 10 k := by
    have hdigits : (toString k).toList = Nat.toDigits 10 k := Nat.toList_repr
    rw [hdigits]
    refine (List.map_congr_left fun c hc => ?_).trans (List.map_id _)
    exact toLower_of_isDigit (Nat.isDigit_of_mem_toDigits (by decide) (by decide) hc)
  rw [sameName, hlower, hlower, beq_iff_eq] at h
  have hm := Nat.ofDigitChars_ten_toDigits (n := m)
  rw [h, Nat.ofDigitChars_ten_toDigits] at hm
  exact hm.symm

/-! ## The stack -/

namespace Store

variable {s s' : Store} {name : String} {p : Savepoint} {outer : List Savepoint}

/-- The savepoint that a name means and those around it. -/
def savepointsFrom (s : Store) (name : String) : List Savepoint :=
  s.savepoints.dropWhile fun p => !sameName p.name name

theorem savepointsFrom_of_transaction {t : Transaction} (name : String)
    (h : s.transaction = some t) :
    t.savepointsFrom name = s.savepointsFrom name := by
  rw [savepointsFrom, savepoints, h]
  rfl

/-- Some savepoints are the outermost ones, and those inside them have names of a kind. -/
def Above (s : Store) (named : String → Prop) (outer : List Savepoint) : Prop :=
  ∃ inner, s.savepoints = inner ++ outer ∧ ∀ q ∈ inner, named q.name

/-- Some savepoints are the outermost ones, and none of those inside them has a name. -/
def Unshadowed (s : Store) (name : String) (outer : List Savepoint) : Prop :=
  s.Above (sameName · name = false) outer

section
variable {named : String → Prop} {u : Store}

theorem Above.suffix (h : s.Above named outer) : outer <:+ s.savepoints := by
  obtain ⟨inner, hs, _⟩ := h
  exact ⟨inner, hs.symm⟩

theorem above_any (h : outer <:+ s.savepoints) : s.Above (fun _ => True) outer := by
  obtain ⟨inner, hs⟩ := h
  exact ⟨inner, hs.symm, fun _ _ => trivial⟩

theorem above_self (s : Store) (named : String → Prop) : s.Above named s.savepoints :=
  ⟨[], rfl, by simp⟩

/-- What is inside a savepoint is inside those around it, together with the savepoint. -/
theorem Above.trans (h : s.Above named outer) (hp : named p.name)
    (hu : u.Above named (p :: s.savepoints)) : u.Above named outer := by
  obtain ⟨inner, hs, hinner⟩ := h
  obtain ⟨more, hu, hmore⟩ := hu
  refine ⟨more ++ p :: inner, by rw [hu, hs]; simp, fun q hq => ?_⟩
  rcases List.mem_append.mp hq with hq | hq
  · exact hmore q hq
  · rcases List.mem_cons.mp hq with rfl | hq
    · exact hp
    · exact hinner q hq

/-- Taking the innermost savepoints off. -/
theorem Above.of_suffix (h : u.Above named outer) (hs : s.savepoints <:+ u.savepoints)
    (houter : outer <:+ s.savepoints) : s.Above named outer := by
  obtain ⟨inner, hu, hinner⟩ := h
  obtain ⟨dropped, hdropped⟩ := hs
  obtain ⟨left, hleft⟩ := houter
  have heq : inner = dropped ++ left := by
    have happ : inner ++ outer = dropped ++ left ++ outer := by
      rw [← hu, ← hdropped, ← hleft, List.append_assoc]
    exact List.append_cancel_right happ
  refine ⟨left, hleft.symm, fun q hq => hinner q ?_⟩
  rw [heq]
  exact List.mem_append_right _ hq

end

theorem savepointsFrom_suffix (s : Store) (name : String) :
    s.savepointsFrom name <:+ s.savepoints := List.dropWhile_suffix _

/-- A name means a savepoint of that name with no other one of that name inside it. -/
theorem savepointsFrom_eq_iff :
    s.savepointsFrom name = p :: outer ↔
      sameName p.name name = true ∧ s.Unshadowed name (p :: outer) := by
  constructor
  · intro h
    have happ := List.takeWhile_append_dropWhile (p := fun p : Savepoint => !sameName p.name name)
      (l := s.savepoints)
    rw [savepointsFrom] at h
    rw [h] at happ
    refine ⟨?_, _, happ.symm, ?_⟩
    · have hhead := List.head_dropWhile_not (fun p : Savepoint => !sameName p.name name)
        (l := s.savepoints) (by simp [h])
      simpa [h] using hhead
    · intro q hq
      simpa using List.all_eq_true.mp List.all_takeWhile q hq
  · rintro ⟨hp, inner, hs, hinner⟩
    rw [savepointsFrom, hs, List.dropWhile_append_of_pos]
    · simp [hp]
    · intro q hq
      simp [hinner q hq]

/-- Where a savepoint has a name, that name means none of those around it. -/
theorem suffix_savepointsFrom (h : p :: outer <:+ s.savepoints) (hp : sameName p.name name = true) :
    p :: outer <:+ s.savepointsFrom name := by
  obtain ⟨inner, hs⟩ := h
  rw [savepointsFrom, ← hs, List.dropWhile_append]
  split
  · have hdrop : (p :: outer).dropWhile (fun q => !sameName q.name name) = p :: outer :=
      List.dropWhile_cons_of_neg (by simp [hp])
    exact Eq.subst (motive := fun l => p :: outer <:+ l) hdrop.symm (List.suffix_refl _)
  · exact List.suffix_append _ _

/-- Releasing a name drops the savepoint that it means and those inside it. -/
theorem release_savepoints (h : s.release name = .ok s') :
    ∃ p, s.savepointsFrom name = p :: s'.savepoints := by
  unfold release at h
  split at h
  · cases h
  next t ht =>
    have hfrom := savepointsFrom_of_transaction name ht
    split at h
    · cases h
    next p hp =>
      rw [hp] at hfrom
      refine ⟨p, ?_⟩
      rw [← hfrom]
      split at h
      · rw [commit, ht] at h
        dsimp only at h
        split at h
        · cases h
        · cases h
          rfl
      · cases h
        rfl
    next p outer _ hp =>
      rw [hp] at hfrom
      cases h
      exact ⟨p, hfrom.symm⟩

/-- Going back to a name restores the savepoint that it means, which is then the innermost. -/
theorem rollbackTo_savepoints (h : s.rollbackTo name = .ok s') :
    s'.savepoints = s.savepointsFrom name ∧
      ∃ p, s.savepointsFrom name = p :: s'.savepoints.tail ∧ s'.content = p.content := by
  unfold rollbackTo at h
  split at h
  · cases h
  next t ht =>
    have hfrom := savepointsFrom_of_transaction name ht
    split at h
    · cases h
    next p outer hp =>
      rw [hp] at hfrom
      cases h
      exact ⟨hfrom, p, hfrom.symm, rfl⟩

/-- There is a savepoint to go back to where some savepoint has the name. -/
theorem rollbackTo_ok (h : s.savepointsFrom name = p :: outer) :
    ∃ s', s.rollbackTo name = .ok s' := by
  cases ht : s.transaction with
  | none => simp [savepointsFrom, savepoints, ht] at h
  | some t =>
      rw [← savepointsFrom_of_transaction name ht] at h
      simp [rollbackTo, ht, h]

theorem savepoint_savepoints (s : Store) (name : String) :
    (s.savepoint name).savepoints = ⟨name, s.content, s.deferred⟩ :: s.savepoints := by
  unfold savepoint savepoints
  cases s.transaction <;> rfl

end Store

end TypedSql
