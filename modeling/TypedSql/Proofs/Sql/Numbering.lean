import Mathlib.Data.List.Nodup
import Mathlib.Data.List.Perm.Subperm
import TypedSql.Scan.Inline
import TypedSql.Sql.Parameters

/-!
The numbers that names have. Whatever tokens are read, distinct names keep distinct numbers, and none
is above the count; so as many names as the count says have all the numbers there are. A name that
was read keeps its number when more is read.
-/

namespace TypedSql.Sql.Parameters

/-- Names have numbers from one to the count, and no two of them the same. -/
structure WellNumbered (p : Parameters) : Prop where
  bounded : ∀ name n, p.number? name = some n → 1 ≤ n ∧ n ≤ p.count
  distinct : ∀ name other n, p.number? name = some n → p.number? other = some n → name = other

variable {p q : Parameters}

theorem isNamed_of_number? {name : String} {n : Nat} (h : p.number? name = some n) :
    p.isNamed n = true := by
  obtain ⟨before, after, hnames, -⟩ := List.lookup_eq_some_iff.mp h
  simp [isNamed, hnames]

theorem number?_cons (count number : Nat) (text name : String) (names : List (String × Nat)) :
    number? ⟨count, (text, number) :: names⟩ name =
      if name = text then some number else number? ⟨count, names⟩ name := by
  by_cases h : name = text
  · simp [number?, h]
  · have hne : (name == text) = false := by simp [h]
    simp [number?, List.lookup_cons, h, hne]

namespace WellNumbered

theorem empty : WellNumbered {} where
  bounded name n h := by simp [number?] at h
  distinct name other n h := by simp [number?] at h

/-- A larger count leaves the names as they are. -/
theorem mono (h : p.WellNumbered) {count : Nat} (hc : p.count ≤ count) :
    WellNumbered { p with count } where
  bounded name n hn := by
    have hbounds := h.bounded name n hn
    exact ⟨hbounds.1, Nat.le_trans hbounds.2 hc⟩
  distinct := h.distinct

/-- A name for a number that has none. -/
theorem name_new (h : p.WellNumbered) {text : String} {number count : Nat} (h1 : 1 ≤ number)
    (hnew : ∀ name, p.number? name ≠ some number) (hc : p.count ≤ count) (hn : number ≤ count) :
    WellNumbered ⟨count, (text, number) :: p.names⟩ where
  bounded name n hname := by
    rw [number?_cons] at hname
    split at hname
    · cases hname
      exact ⟨h1, hn⟩
    · exact (h.mono hc).bounded name n hname
  distinct name other n hname hother := by
    rw [number?_cons] at hname hother
    have taken {x : String} (hx : number? ⟨count, p.names⟩ x = some n) : n ≠ number := by
      rintro rfl
      exact hnew x hx
    split at hname <;> split at hother
    · simp_all
    · cases hname
      exact absurd rfl (taken hother)
    · cases hother
      exact absurd rfl (taken hname)
    · exact h.distinct name other n hname hother

theorem addNext (h : p.WellNumbered) : p.addNext.2.WellNumbered := h.mono (Nat.le_succ _)

theorem addNumber (h : p.WellNumbered) (text : String) {number : Nat} (h1 : 1 ≤ number) :
    (p.addNumber text number).2.WellNumbered := by
  unfold Parameters.addNumber
  by_cases hnamed : p.isNamed number = true
  · simpa [hnamed] using h.mono (Nat.le_max_left _ number)
  · have hnew : ∀ name, p.number? name ≠ some number := fun name hname =>
      hnamed (isNamed_of_number? hname)
    have hadded : WellNumbered ⟨max p.count number, (text, number) :: p.names⟩ :=
      h.name_new h1 hnew (Nat.le_max_left _ _) (Nat.le_max_right _ _)
    simpa [hnamed] using hadded

theorem addName (h : p.WellNumbered) (name : String) : (p.addName name).2.WellNumbered := by
  unfold Parameters.addName
  cases hname : p.number? name with
  | some number => exact h
  | none =>
      have hnew : ∀ other, p.number? other ≠ some (p.count + 1) := by
        intro other hother
        have hbounds := h.bounded other _ hother
        omega
      exact h.name_new (by omega) hnew (Nat.le_succ _) (Nat.le_refl _)

/-- Reading a token of a statement keeps names apart. -/
theorem add (h : p.WellNumbered) {t : Token} {n : Nat} (hadd : p.add t = .ok (n, q)) :
    q.WellNumbered := by
  have within {next : Nat × Parameters} (hnext : next.2.WellNumbered)
      (hq : (if next.1 ≤ maxParameter then .ok next
        else .error ⟨.tooManyParameters, some t.offset⟩ : Except Fault (Nat × Parameters)) =
        .ok (n, q)) : q.WellNumbered := by
    split at hq
    · cases hq
      exact hnext
    · cases hq
  unfold Parameters.add at hadd
  split at hadd
  · exact within h.addNext hadd
  · simp only at hadd
    split at hadd
    · rename_i hrange
      cases hadd
      exact h.addNumber _ hrange.1
    · cases hadd
  · exact within (h.addName _) hadd

end WellNumbered

variable {names : List String} {numbers : List Nat}

/-- Distinct names have distinct numbers. -/
theorem WellNumbered.nodup (h : p.WellNumbered) (hnames : names.Nodup)
    (hnumbers : numbers.map some = names.map p.number?) : numbers.Nodup := by
  apply List.Nodup.of_map some
  rw [hnumbers]
  refine List.Nodup.map_on (fun x hx y _ hxy => ?_) hnames
  have hmem : p.number? x ∈ numbers.map some := by
    rw [hnumbers]
    exact List.mem_map_of_mem hx
  obtain ⟨n, -, hn⟩ := List.mem_map.mp hmem
  exact h.distinct x y n hn.symm (by rw [← hxy, hn])

/-- Distinct names, as many as the count says, have every number up to it. -/
theorem WellNumbered.covers (h : p.WellNumbered) (hnames : names.Nodup)
    (hnumbers : numbers.map some = names.map p.number?) (hcount : numbers.length = p.count)
    {i : Nat} (h1 : 1 ≤ i) (hi : i ≤ p.count) : i ∈ numbers := by
  have hrange : numbers ⊆ List.range' 1 p.count := by
    intro n hn
    have hmem : some n ∈ names.map p.number? := by
      rw [← hnumbers]
      exact List.mem_map_of_mem hn
    obtain ⟨name, -, hname⟩ := List.mem_map.mp hmem
    have hbounds := h.bounded name n hname
    rw [List.mem_range'_1]
    omega
  -- as many numbers as there are, none of them twice, so all of them
  have hperm : numbers.Perm (List.range' 1 p.count) := by
    apply ((h.nodup hnames hnumbers).subperm hrange).perm_of_length_le
    exact Nat.le_of_eq (by rw [List.length_range', hcount])
  rw [hperm.mem_iff, List.mem_range'_1]
  omega

/-! ## Reading the parameters of a text -/

def read (p : Parameters) (t : Parameter) : Nat × Parameters :=
  match t with
  | .positional digits =>
      if digits.isEmpty then p.addNext else p.addNumber (String.ofList t.text) (digitsValue digits)
  | .named _ _ => p.addName (String.ofList t.text)

def readAll (p : Parameters) (ts : List Parameter) : Parameters :=
  ts.foldl (fun p t => (p.read t).2) p

/-- A number that a mark may have. -/
def ValidMark : Parameter → Prop
  | .positional digits =>
      digits = [] ∨ 1 ≤ digitsValue digits ∧ digitsValue digits ≤ maxParameter
  | .named _ _ => True

theorem WellNumbered.read (h : p.WellNumbered) {t : Parameter} (ht : ValidMark t) :
    (p.read t).2.WellNumbered := by
  unfold Parameters.read
  cases t with
  | positional digits =>
      rcases ht with rfl | ht
      · exact h.addNext
      · dsimp only
        split
        · exact h.addNext
        · exact h.addNumber _ ht.1
  | named sigil name => exact h.addName _

theorem WellNumbered.readAll (h : p.WellNumbered) {ts : List Parameter}
    (hts : ∀ t ∈ ts, ValidMark t) : (p.readAll ts).WellNumbered := by
  induction ts generalizing p with
  | nil => exact h
  | cons t ts ih =>
      exact ih (h.read (hts t List.mem_cons_self)) fun u hu => hts u (List.mem_cons_of_mem t hu)

/-- A parameter has a number from one to the count after it. -/
theorem WellNumbered.read_bounds (h : p.WellNumbered) {t : Parameter} (ht : ValidMark t) :
    1 ≤ (p.read t).1 ∧ (p.read t).1 ≤ (p.read t).2.count ∧ p.count ≤ (p.read t).2.count := by
  unfold Parameters.read
  cases t with
  | positional digits =>
      dsimp only
      split
      · simp [Parameters.addNext]
      · rename_i hdigits
        rcases ht with rfl | ht
        · simp at hdigits
        · exact ⟨ht.1, Nat.le_max_right _ _, Nat.le_max_left _ _⟩
  | named sigil name =>
      dsimp only [Parameters.addName]
      split
      · rename_i number hnumber
        have hbounds := h.bounded _ _ hnumber
        exact ⟨hbounds.1, hbounds.2, Nat.le_refl _⟩
      · simp

theorem WellNumbered.count_le_readAll (h : p.WellNumbered) {ts : List Parameter}
    (hts : ∀ t ∈ ts, ValidMark t) : p.count ≤ (p.readAll ts).count := by
  induction ts generalizing p with
  | nil => exact Nat.le_refl _
  | cons t ts ih =>
      have ht := hts t List.mem_cons_self
      have hrest := ih (h.read ht) fun u hu => hts u (List.mem_cons_of_mem t hu)
      exact Nat.le_trans (h.read_bounds ht).2.2 hrest

/-- Where a name stands, it has its number. -/
theorem number?_read (p : Parameters) (sigil : Char) (name : List Char) :
    (p.read (.named sigil name)).2.number? (String.ofList (sigil :: name)) =
      some (p.read (.named sigil name)).1 := by
  have htext : (Parameter.named sigil name).text = sigil :: name := rfl
  simp only [Parameters.read, Parameters.addName, htext]
  cases h : p.number? (String.ofList (sigil :: name)) with
  | some number => exact h
  | none => rw [number?_cons, if_pos rfl]

/-- A name that does not begin like a mark keeps its number. -/
theorem number?_readAll {sigil : Char} {name : List Char} {n : Nat} (hsigil : sigil ≠ '?')
    (ts : List Parameter) (h : p.number? (String.ofList (sigil :: name)) = some n) :
    (p.readAll ts).number? (String.ofList (sigil :: name)) = some n := by
  induction ts generalizing p with
  | nil => exact h
  | cons t ts ih =>
      apply ih
      have kept {count number : Nat} {text : String}
          (hne : String.ofList (sigil :: name) ≠ text) :
          number? ⟨count, (text, number) :: p.names⟩ (String.ofList (sigil :: name)) = some n := by
        rw [number?_cons, if_neg hne]
        exact h
      cases t with
      | positional digits =>
          have hne : String.ofList (sigil :: name) ≠
              String.ofList (Parameter.positional digits).text := by
            intro heq
            exact hsigil (List.cons.inj (String.ofList_injective heq)).1
          simp only [Parameters.read, Parameters.addNumber]
          split
          · exact h
          · dsimp only
            split
            · exact h
            · exact kept hne
      | named other chars =>
          simp only [Parameters.read, Parameters.addName]
          split
          · exact h
          · rename_i hnew
            apply kept
            rintro heq
            rw [← heq, h] at hnew
            cases hnew

end TypedSql.Sql.Parameters
