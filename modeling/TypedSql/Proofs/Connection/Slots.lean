import TypedSql.Proofs.Connection.Act
import TypedSql.Proofs.Sql.Numbering

namespace TypedSql

namespace Prepared

variable {s t : Prepared} {given : Bindings} {slots : List Datum}

/-- The cell that values give to the parameter of a number. -/
def cell? (s : Prepared) (i : Nat) : Bindings → Option Cell
  | .positional cells => cells[i - 1]?
  | .named pairs => (pairs.find? fun p => s.statement.parameters.number? p.1 = some i).map (·.2)

/-- Each parameter has its slot, and each slot what the values give to its parameter. -/
structure Filled (s : Prepared) (given : Bindings) (slots : List Datum) : Prop where
  length : slots.length = s.parameterCount
  value : ∀ i, 1 ≤ i → i ≤ s.parameterCount →
    ∃ cell, s.cell? i given = some cell ∧ slots[i - 1]? = some (.ofCell cell)

theorem number?_of_parameterNumber {name : String} {n : Nat}
    (h : s.parameterNumber name = .ok n) : s.statement.parameters.number? name = some n := by
  unfold parameterNumber at h
  split at h
  · cases h
  · split at h
    · rename_i number hnumber
      cases h
      exact hnumber
    · cases h

/-- The numbers of names that are accepted are theirs, and the names are distinct. -/
theorem parameterNumbers_ok {names seen : List String} {numbers : List Nat}
    (h : s.parameterNumbers seen names = .ok numbers) :
    numbers.map some = names.map s.statement.parameters.number? ∧ names.Nodup ∧
      ∀ name ∈ names, name ∉ seen := by
  induction names generalizing seen numbers with
  | nil =>
      cases h
      simp
  | cons name rest ih =>
      rw [parameterNumbers] at h
      split at h
      · cases h
      · rename_i hseen
        obtain ⟨number, hnumber, h⟩ := ok_of_bind h
        obtain ⟨others, hrest, h⟩ := ok_of_bind h
        cases h
        obtain ⟨hmap, hnodup, hnew⟩ := ih hrest
        have hname := number?_of_parameterNumber hnumber
        refine ⟨by simp [hmap, hname], List.nodup_cons.mpr ⟨?_, hnodup⟩, ?_⟩
        · intro hmem
          exact hnew name hmem List.mem_cons_self
        · intro x hx
          rcases List.mem_cons.mp hx with rfl | hx
          · exact hseen
          · exact fun hmem => hnew x hx (List.mem_cons_of_mem _ hmem)

def setNamed (slots : List Datum) (numbered : List (Nat × String × Cell)) : List Datum :=
  numbered.foldl (fun slots (number, _, cell) => slots.set (number - 1) (.ofCell cell)) slots

theorem length_setNamed (slots : List Datum) (numbered : List (Nat × String × Cell)) :
    (setNamed slots numbered).length = slots.length := by
  induction numbered generalizing slots with
  | nil => rfl
  | cons p rest ih => rw [setNamed, List.foldl_cons, ← setNamed, ih, List.length_set]

/-- With distinct numbers, a slot has the value of the parameter of its number; without one it keeps
what it had. -/
theorem getElem?_setNamed {number? : String → Option Nat} {pairs : List (String × Cell)}
    {numbers : List Nat} (hnumbers : numbers.map some = pairs.map (number? ·.1))
    (hnodup : numbers.Nodup) (hpositive : ∀ n ∈ numbers, 1 ≤ n) {i : Nat} (h1 : 1 ≤ i)
    (hi : i ≤ slots.length) :
    (setNamed slots (numbers.zip pairs))[i - 1]? =
      match pairs.find? fun p => number? p.1 = some i with
      | some p => some (.ofCell p.2)
      | none => slots[i - 1]? := by
  induction pairs generalizing numbers slots with
  | nil =>
      cases numbers with
      | nil => rfl
      | cons n ns => simp at hnumbers
  | cons p ps ih =>
      cases numbers with
      | nil => simp at hnumbers
      | cons n ns =>
          rw [List.map_cons, List.map_cons, List.cons.injEq] at hnumbers
          obtain ⟨hn, hns⟩ := hnumbers
          rw [List.nodup_cons] at hnodup
          have hn1 := hpositive n List.mem_cons_self
          have hlength : i ≤ (slots.set (n - 1) (.ofCell p.2)).length := by rwa [List.length_set]
          have hstep := ih hns hnodup.2 (fun m hm => hpositive m (List.mem_cons_of_mem _ hm)) hlength
          rw [List.zip_cons_cons, setNamed, List.foldl_cons, ← setNamed, hstep, List.find?_cons]
          by_cases hni : n = i
          · subst hni
            have hnone : ps.find? (fun p => number? p.1 = some n) = none := by
              rw [List.find?_eq_none]
              intro q hq hqn
              have hmem : number? q.1 ∈ ns.map some := by
                rw [hns]
                exact List.mem_map_of_mem hq
              rw [of_decide_eq_true hqn, List.mem_map] at hmem
              obtain ⟨m, hm, hmn⟩ := hmem
              exact hnodup.1 (Option.some.inj hmn ▸ hm)
            have hlt : n - 1 < slots.length := by omega
            simp [hnone, ← hn, hlt]
          · have hne : ¬ number? p.1 = some i := by
              rw [← hn]
              simpa using hni
            have hkeep : (slots.set (n - 1) (Datum.ofCell p.2))[i - 1]? = slots[i - 1]? :=
              List.getElem?_set_ne (by omega)
            simp [hne, hkeep]

theorem checkCount_ok {n : Nat} (h : s.checkCount n = .ok ()) : n = s.parameterCount := by
  unfold checkCount at h
  split at h
  · assumption
  · cases h

theorem filled_positional {cells : List Cell} (h : s.filled (.positional cells) = .ok slots) :
    cells.length = s.parameterCount ∧ slots = cells.map Datum.ofCell := by
  obtain ⟨u, hcount, h⟩ := ok_of_bind h
  cases h
  exact ⟨checkCount_ok hcount, rfl⟩

theorem filled_named {pairs : List (String × Cell)} (h : s.filled (.named pairs) = .ok slots) :
    pairs.length = s.parameterCount ∧ (pairs.map (·.1)).Nodup ∧
      ∃ numbers : List Nat,
        numbers.map some = (pairs.map (·.1)).map s.statement.parameters.number? ∧
          slots = setNamed s.slots (numbers.zip pairs) := by
  obtain ⟨numbers, hnumbers, h⟩ := ok_of_bind h
  obtain ⟨u, hcount, h⟩ := ok_of_bind h
  cases h
  obtain ⟨hmap, hnames, -⟩ := parameterNumbers_ok hnumbers
  exact ⟨checkCount_ok hcount, hnames, numbers, hmap, rfl⟩

/-- Every number is that of a named value, where the names are distinct and as many as the
parameters. -/
theorem exists_pair (hnum : s.statement.parameters.WellNumbered) {pairs : List (String × Cell)}
    (hcount : pairs.length = s.parameterCount) (hnames : (pairs.map (·.1)).Nodup)
    {numbers : List Nat}
    (hnumbers : numbers.map some = (pairs.map (·.1)).map s.statement.parameters.number?) {i : Nat}
    (h1 : 1 ≤ i) (hi : i ≤ s.parameterCount) :
    ∃ p, pairs.find? (fun p => s.statement.parameters.number? p.1 = some i) = some p := by
  have hlength : numbers.length = s.statement.parameters.count := by
    have hmap := congrArg List.length hnumbers
    simpa [hcount, parameterCount] using hmap
  obtain ⟨name, hname, hi⟩ : ∃ name ∈ pairs.map (·.1),
      s.statement.parameters.number? name = some i := by
    have hmem : some i ∈ numbers.map some :=
      List.mem_map_of_mem (hnum.covers hnames hnumbers hlength h1 hi)
    rw [hnumbers] at hmem
    exact List.mem_map.mp hmem
  obtain ⟨p, hp, rfl⟩ := List.mem_map.mp hname
  rw [← Option.isSome_iff_exists, List.find?_isSome]
  exact ⟨p, hp, by simpa using hi⟩

/-- Values that are accepted have a cell for every parameter. -/
theorem exists_cell? (hnum : s.statement.parameters.WellNumbered)
    (h : s.filled given = .ok slots) {i : Nat} (h1 : 1 ≤ i) (hi : i ≤ s.parameterCount) :
    ∃ cell, s.cell? i given = some cell := by
  cases given with
  | positional cells =>
      obtain ⟨hcount, -⟩ := filled_positional h
      have hlt : i - 1 < cells.length := by omega
      exact ⟨cells[i - 1], by simp [cell?, hlt]⟩
  | named pairs =>
      obtain ⟨hcount, hnames, numbers, hnumbers, -⟩ := filled_named h
      obtain ⟨p, hp⟩ := exists_pair hnum hcount hnames hnumbers h1 hi
      exact ⟨p.2, by rw [cell?, hp, Option.map_some]⟩

/-- Values that are accepted reach every slot. -/
theorem filled_ok (hnum : s.statement.parameters.WellNumbered)
    (hlen : s.slots.length = s.parameterCount) (h : s.filled given = .ok slots) :
    s.Filled given slots := by
  cases given with
  | positional cells =>
      obtain ⟨hcount, rfl⟩ := filled_positional h
      refine ⟨by rw [List.length_map, hcount], fun i h1 hi => ?_⟩
      have hlt : i - 1 < cells.length := by omega
      exact ⟨cells[i - 1], by simp [cell?, hlt], by simp [hlt]⟩
  | named pairs =>
      obtain ⟨hcount, hnames, numbers, hnumbers, rfl⟩ := filled_named h
      have hpositive : ∀ n ∈ numbers, 1 ≤ n := by
        intro n hn
        have hmem : some n ∈ (pairs.map (·.1)).map s.statement.parameters.number? := by
          rw [← hnumbers]
          exact List.mem_map_of_mem hn
        obtain ⟨name, -, hname⟩ := List.mem_map.mp hmem
        exact (hnum.bounded name n hname).1
      refine ⟨(length_setNamed _ _).trans hlen, fun i h1 hi => ?_⟩
      have hpairs : numbers.map some = pairs.map (s.statement.parameters.number? ·.1) := by
        rw [hnumbers, List.map_map]
        rfl
      have hslot := getElem?_setNamed hpairs (hnum.nodup hnames hnumbers) hpositive h1
        (by omega : i ≤ s.slots.length)
      obtain ⟨p, hp⟩ := exists_pair hnum hcount hnames hnumbers h1 hi
      rw [hp] at hslot
      exact ⟨p.2, by rw [cell?, hp, Option.map_some], hslot⟩

end Prepared

end TypedSql
