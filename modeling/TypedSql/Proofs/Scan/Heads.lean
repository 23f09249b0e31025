import TypedSql.Proofs.Scan.Literal

namespace TypedSql

/-- A character that only a parameter begins with. -/
def isSigil (c : Char) : Bool := c == '?' || c == ':' || c == '@' || c == '$'

/-- A parameter that begins with a character of its kind. -/
def Parameter.SigilKnown : Parameter → Prop
  | .positional _ => True
  | .named sigil _ => sigil ∈ [':', '@', '$']

theorem Parameter.SigilKnown.ne_mark {sigil : Char} {name : List Char}
    (h : (Parameter.named sigil name).SigilKnown) : sigil ≠ '?' := by
  rintro rfl
  simp [SigilKnown] at h

/-- The text of a parameter begins with a sigil. -/
theorem Parameter.SigilKnown.text {t : Parameter} (h : t.SigilKnown) :
    ∃ c cs, t.text = c :: cs ∧ isSigil c = true := by
  cases t with
  | positional digits => exact ⟨'?', digits, rfl, rfl⟩
  | named sigil name =>
      refine ⟨sigil, name, rfl, ?_⟩
      simp only [SigilKnown, List.mem_cons, List.not_mem_nil, or_false] at h
      rcases h with rfl | rfl | rfl <;> rfl

/-! ## Parameters -/

namespace Mode

/-- A name that is pending has a sigil that was read. -/
def SigilKnown : Mode → Prop
  | .sigil mark | .name mark _ => mark ∈ [':', '@', '$']
  | _ => True

/-- Parameters among pieces that begin with a character of their kind. -/
def AllKnown (ps : List Piece) : Prop := ∀ t, Piece.parameter t ∈ ps → t.SigilKnown

theorem Starts.sigilKnown {c : Char} {r : List Piece × Mode} (h : Starts c r) :
    AllKnown r.1 ∧ r.2.SigilKnown := by
  cases h with
  | sigil h => exact ⟨fun t ht => by simp at ht, h⟩
  | mark | quote | bracket | dash | slash | plain => exact ⟨fun t ht => by simp at ht, trivial⟩

theorem start_sigilKnown (c : Char) : AllKnown (start c).1 ∧ (start c).2.SigilKnown :=
  (starts c).sigilKnown

theorem finish_allKnown {m : Mode} (h : m.SigilKnown) : AllKnown m.finish := by
  intro t ht
  cases m with
  | number digits =>
      simp only [finish, List.mem_singleton, Piece.parameter.injEq] at ht
      rw [ht]
      trivial
  | name mark chars =>
      simp only [finish, List.mem_singleton, Piece.parameter.injEq] at ht
      rw [ht]
      exact h
  | _ => simp [finish] at ht

theorem step_sigilKnown {m : Mode} (h : m.SigilKnown) (c : Char) :
    AllKnown (m.step c).1 ∧ (m.step c).2.SigilKnown := by
  have single (d : Char) : AllKnown [.char d] := fun t ht => by simp at ht
  have flushed (p : Piece) (hp : AllKnown [p]) :
      AllKnown (flush p c).1 ∧ (flush p c).2.SigilKnown := by
    obtain ⟨hpieces, hmode⟩ := start_sigilKnown c
    refine ⟨fun t ht => ?_, hmode⟩
    rcases List.mem_cons.mp ht with ht | ht
    · exact hp t (by rw [ht]; exact List.mem_singleton_self p)
    · exact hpieces t ht
  cases m with
  | code => exact start_sigilKnown c
  | dash | slash =>
      simp only [step]
      split
      · exact ⟨single c, trivial⟩
      · exact start_sigilKnown c
  | sigil mark =>
      simp only [step]
      split
      · exact ⟨fun t ht => by simp at ht, h⟩
      · exact flushed _ (single mark)
  | number digits =>
      simp only [step]
      split
      · exact ⟨fun t ht => by simp at ht, trivial⟩
      · exact flushed _ (finish_allKnown (m := .number digits) trivial)
  | name mark chars =>
      simp only [step]
      split
      · exact ⟨fun t ht => by simp at ht, h⟩
      · exact flushed _ (finish_allKnown (m := .name mark chars) h)
  | quoted close =>
      refine ⟨single c, ?_⟩
      simp only [step]
      split
      · trivial
      · split <;> trivial
  | closing close =>
      simp only [step]
      split
      · exact ⟨single c, trivial⟩
      · exact start_sigilKnown c
  | lineComment | blockComment =>
      refine ⟨single c, ?_⟩
      simp only [step]
      split <;> trivial
  | star =>
      refine ⟨single c, ?_⟩
      simp only [step]
      split
      · trivial
      · split <;> trivial

theorem yields_sigilKnown {m : Mode} (h : m.SigilKnown) (s : List Char) :
    AllKnown (m.yields s) ∧ (m.after s).SigilKnown := by
  induction s generalizing m with
  | nil => exact ⟨fun t ht => by simp [yields] at ht, h⟩
  | cons c cs ih =>
      obtain ⟨hpieces, hmode⟩ := step_sigilKnown h c
      obtain ⟨hrest, hafter⟩ := ih hmode
      refine ⟨fun t ht => ?_, hafter⟩
      rw [yields, List.mem_append] at ht
      exact ht.elim (hpieces t) (hrest t)

end Mode

/-- The parameters of a text begin with a character of their kind. -/
theorem scan_sigilKnown (s : List Char) : Mode.AllKnown (scan s) := by
  obtain ⟨hpieces, hmode⟩ := Mode.yields_sigilKnown (m := .code) trivial s
  intro t ht
  rw [scan, List.mem_append] at ht
  exact ht.elim (hpieces t) (Mode.finish_allKnown hmode t)

/-! ## Literals -/

/-- The characters that literals begin with: a numeral or a minus sign, the `N` of `NULL`, the `X` of
a blob and the quote of a text. -/
def beginsLiteral (c : Char) : Bool := isNumeral c || ['-', 'N', 'X', '\''].contains c

theorem not_isSigil_of_beginsLiteral {c : Char} (h : beginsLiteral c = true) :
    isSigil c = false := by
  rw [Bool.eq_false_iff]
  intro hsigil
  simp only [isSigil, Bool.or_eq_true, beq_iff_eq] at hsigil
  rcases hsigil with ((rfl | rfl) | rfl) | rfl <;> revert h <;> decide

/-- The characters of a number with its sign. -/
def Numeric (s : List Char) : Prop := s ≠ [] ∧ ∀ c ∈ s, isNumeral c = true ∨ c = '-'

theorem Numeric.head {s : List Char} (h : Numeric s) :
    ∃ c cs, s = c :: cs ∧ beginsLiteral c = true := by
  obtain ⟨hne, hall⟩ := h
  cases s with
  | nil => exact absurd rfl hne
  | cons c cs =>
      refine ⟨c, cs, rfl, ?_⟩
      rcases hall c List.mem_cons_self with hc | rfl
      · simp [beginsLiteral, hc]
      · decide

theorem Numeric.signed (negative : Bool) {s : List Char} (h : Numeric s) :
    Numeric (sign negative ++ s) := by
  refine ⟨by simp [h.1], fun c hc => ?_⟩
  rcases List.mem_append.mp hc with hc | hc
  · cases negative
    · simp [sign] at hc
    · exact .inr (by simpa [sign] using hc)
  · exact h.2 c hc

theorem Numeric.append {s t : List Char} (hs : Numeric s) (ht : Numeric t) : Numeric (s ++ t) :=
  ⟨by simp [hs.1], fun c hc => (List.mem_append.mp hc).elim (hs.2 c) (ht.2 c)⟩

theorem Numeric.of_numerals {s : List Char} (hne : s ≠ []) (h : ∀ c ∈ s, isNumeral c = true) :
    Numeric s :=
  ⟨hne, fun c hc => .inl (h c hc)⟩

theorem numeric_toString_int (n : Int) : Numeric (toString n).toList := by
  rw [toList_toString_int]
  exact Numeric.signed _ (.of_numerals Nat.toDigits_ne_nil fun _ => isNumeral_of_mem_toDigits)

theorem numeric_decimalText (x : Binary64) : Numeric x.decimalText.toList := by
  obtain ⟨s, hne, hs, h | ⟨e, h⟩⟩ := exists_decimalText x
  · rw [h]
    exact (Numeric.of_numerals hne hs).signed _
  · rw [h]
    exact ((Numeric.of_numerals hne hs).signed _).append (numeric_toString_int e)

theorem literal_head (cell : Cell) :
    ∃ c cs, cell.literal.toList = c :: cs ∧ beginsLiteral c = true := by
  cases cell with
  | none => exact ⟨'N', "ULL".toList, rfl, rfl⟩
  | some v =>
      cases v with
      | integer n => exact (numeric_toString_int _).head
      | real x =>
          show ∃ c cs, (realLiteral x).toList = c :: cs ∧ beginsLiteral c = true
          unfold realLiteral
          split
          · exact ⟨'N', "ULL".toList, rfl, rfl⟩
          · split
            · split
              · exact ⟨'-', "9e999".toList, rfl, rfl⟩
              · exact ⟨'9', "e999".toList, rfl, rfl⟩
            · exact (numeric_decimalText x).head
      | text s => exact ⟨'\'', _, (String.toList_ofList).trans rfl, rfl⟩
      | blob bytes => exact ⟨'X', _, toList_blobLiteral bytes, rfl⟩

/-- Whether a cell holds a number that is written with a minus sign, which a zero and an infinity may
have as well. -/
def Cell.isNegative : Cell → Bool
  | some (.integer n) => n.toInt < 0
  | some (.real x) => !x.isNaN && x.isNegative
  | _ => false

theorem head?_signed (negative : Bool) {s : List Char} (h : ∀ c ∈ s, isNumeral c = true)
    (hne : s ≠ []) (t : List Char) :
    (sign negative ++ s ++ t).head? = some '-' ↔ negative = true := by
  cases negative with
  | true => simp [sign]
  | false =>
      obtain ⟨c, cs, rfl⟩ := List.exists_cons_of_ne_nil hne
      have hc : c ≠ '-' := by
        rintro rfl
        exact absurd (h '-' List.mem_cons_self) (by decide)
      simp [sign, hc]

theorem head?_realLiteral (x : Binary64) :
    (realLiteral x).toList.head? = some '-' ↔ (!x.isNaN && x.isNegative) = true := by
  unfold realLiteral
  by_cases hnan : x.isNaN = true
  · simp [hnan]
  · by_cases hinf : x.isInfinite = true
    · cases hneg : x.isNegative <;> simp [hnan, hinf]
    · obtain ⟨s, hne, hs, h | ⟨e, h⟩⟩ := exists_decimalText x
      · simpa [hnan, hinf, h] using head?_signed x.isNegative hs hne []
      · simpa [hnan, hinf, h] using head?_signed x.isNegative hs hne (toString e).toList

/-- The literals that begin with a dash are those of negative numbers. -/
theorem head?_literal (cell : Cell) :
    cell.literal.toList.head? = some '-' ↔ Cell.isNegative cell = true := by
  cases cell with
  | none => decide
  | some v =>
      cases v with
      | integer n =>
          have h := head?_signed (n.toInt < 0)
            (fun c => isNumeral_of_mem_toDigits (n := n.toInt.natAbs) (c := c))
            Nat.toDigits_ne_nil []
          rwa [List.append_nil, ← toList_toString_int] at h
      | real x => exact head?_realLiteral x
      | text s => simp [Cell.literal, Stored.literal, quoteLiteral, quoted, Cell.isNegative]
      | blob bytes =>
          simp [Cell.literal, Stored.literal, toList_blobLiteral, Cell.isNegative]

/-- Where a text has a parameter, another one with a literal in its place is another text. -/
theorem text_append_ne {t : Parameter} (h : t.SigilKnown) (cell : Cell) (a b : List Char) :
    t.text ++ a ≠ cell.literal.toList ++ b := by
  obtain ⟨c, cs, htext, hc⟩ := h.text
  obtain ⟨d, ds, hliteral, hd⟩ := literal_head cell
  rw [htext, hliteral, List.cons_append, List.cons_append]
  intro heq
  rw [(List.cons.inj heq).1, not_isSigil_of_beginsLiteral hd] at hc
  cases hc

end TypedSql
