import TypedSql.Proofs.Scan.Spans

/-!
Modes that cannot be told apart by the regions of what follows. What is pending of a token, or of a
quote that a mark has closed, makes no difference to them, and neither does a literal that has been
read. The region of a character is the one that it is read in or the one that it opens; for the
latter the character after it may have to be known.
-/

namespace TypedSql

namespace Mode

/-! ## Modes that read alike -/

/-- The mode without what is pending of a token or a quote, none of which matters to the regions
of what follows. -/
def settled : Mode → Mode
  | sigil _ | number _ | name .. | closing _ => code
  | m => m

theorem region_settled (m : Mode) : m.settled.region = m.region := by
  cases m <;> rfl

theorem Starts.settled {c : Char} {r : List Piece × Mode} (h : Starts c r)
    (hc : c ∉ ['\'', '"', '\x60', '[', '-', '/']) : r.2.settled = code := by
  cases h with
  | mark | sigil | plain => rfl
  | quote h => exact absurd (List.mem_append_left ['[', '-', '/'] h) hc
  | bracket | dash | slash => simp at hc

theorem start_settled_of_isNameChar {c : Char} (h : isNameChar c = true) :
    (start c).2.settled = code := by
  refine (starts c).settled fun hc => ?_
  simp only [List.mem_cons, List.not_mem_nil, or_false] at hc
  rcases hc with rfl | rfl | rfl | rfl | rfl | rfl <;> revert h <;> decide

theorem start_settled_of_isDigit {c : Char} (h : c.isDigit = true) :
    (start c).2.settled = code := by
  refine (starts c).settled fun hc => ?_
  simp only [List.mem_cons, List.not_mem_nil, or_false] at hc
  rcases hc with rfl | rfl | rfl | rfl | rfl | rfl <;> revert h <;> decide

theorem step_settled {m : Mode} (h : m.MarkKnown) (c : Char) :
    (m.step c).2.settled = (m.settled.step c).2.settled := by
  cases m with
  | code | dash | slash | quoted | lineComment | blockComment | star => rfl
  | sigil | name =>
      by_cases hc : isNameChar c = true
      · rw [step, if_pos hc]
        exact (start_settled_of_isNameChar hc).symm
      · rw [step, if_neg hc]
        rfl
  | number =>
      by_cases hc : c.isDigit = true
      · rw [step, if_pos hc]
        exact (start_settled_of_isDigit hc).symm
      · rw [step, if_neg hc]
        rfl
  | closing mark =>
      by_cases hc : c = mark
      · subst hc
        have hstart : start c = ([.char c], .quoted c) := step_quote h
        simp [step, settled, hstart]
      · simp [step, settled, hc]

/-- Two modes that read what follows in the same regions. -/
structure Alike (m m' : Mode) : Prop where
  known : m.MarkKnown
  known' : m'.MarkKnown
  settled : m.settled = m'.settled

namespace Alike

variable {m m' : Mode}

theorem region (h : Alike m m') : m.region = m'.region := by
  rw [← region_settled, h.settled, region_settled]

theorem step (h : Alike m m') (c : Char) : Alike (m.step c).2 (m'.step c).2 where
  known := step_markKnown h.known c
  known' := step_markKnown h.known' c
  settled := by rw [step_settled h.known, h.settled, ← step_settled h.known']

theorem after (h : Alike m m') (s : List Char) : Alike (m.after s) (m'.after s) := by
  induction s generalizing m m' with
  | nil => exact h
  | cons c cs ih => exact ih (h.step c)

end Alike

/-! ## The region of a character -/

/-- The region that is read when `next` follows. -/
def opens : Mode → Option Char → Region
  | dash, some '-' => .lineComment
  | slash, some '*' => .blockComment
  | m, _ => m.region

/-- The region that a character in front of `rest` belongs to: the one it is read in, or the one
that it opens in code, by itself or with the character after it. -/
def regionOf (m : Mode) (c : Char) (rest : List Char) : Region :=
  if m.region = .code then (m.step c).2.opens rest.head? else m.region

theorem opens_settled (m : Mode) (next : Option Char) : m.settled.opens next = m.opens next := by
  cases m <;> rfl

theorem opens_eq_code_iff {m : Mode} (hm : m.region = .code) {next : Char} (hnext : next ≠ '*') :
    m.opens (some next) = .code ↔ (m = .dash → next ≠ '-') := by
  cases m with
  | dash =>
      by_cases hd : next = '-'
      · simp [hd, opens]
      · simp [hd, opens]
  | slash =>
      have hopens : slash.opens (some next) = .code := by
        rw [opens]
        · rfl
        · simp
        · simpa using hnext
      exact iff_of_true hopens fun h => by cases h
  | code | sigil | number | name | closing => exact iff_of_true rfl fun h => by cases h
  | quoted | lineComment | blockComment | star => simp at hm

theorem Alike.opens {m m' : Mode} (h : Alike m m') (next : Option Char) :
    m.opens next = m'.opens next := by
  rw [← opens_settled, h.settled, opens_settled]

/-- Of what follows only the first character matters. -/
theorem Alike.regionOf {m m' : Mode} (h : Alike m m') (c : Char) {s t : List Char}
    (hst : s.head? = t.head?) : m.regionOf c s = m'.regionOf c t := by
  rw [Mode.regionOf, Mode.regionOf, h.region, (h.step c).opens, hst]

theorem Starts.eq_dash {c : Char} {r : List Piece × Mode} (h : Starts c r) (hr : r.2 = .dash) :
    c = '-' := by
  cases h with
  | dash => rfl
  | mark | sigil | quote | bracket | slash | plain => cases hr

theorem step_eq_dash {m : Mode} {c : Char} (h : (m.step c).2 = dash) : c = '-' := by
  cases m with
  | code => exact (starts c).eq_dash h
  | dash | slash | closing | sigil | number | name =>
      simp only [step, flush] at h
      split at h
      · cases h
      · exact (starts c).eq_dash h
  | quoted | lineComment | blockComment | star =>
      simp only [step] at h
      repeat' split at h
      all_goals cases h

/-- After a dash that leaves the text in code the dash is pending. -/
theorem step_dash {m : Mode} (hm : m.MarkKnown) (h : (m.step '-').2.region = .code) :
    m.region = .code ∧ (m.step '-').2 = dash := by
  cases m with
  | code | slash | sigil | number | name => exact ⟨rfl, rfl⟩
  | dash | lineComment | blockComment | star => cases h
  | quoted mark =>
      have hne : '-' ≠ mark := by
        rintro rfl
        simp [MarkKnown] at hm
      simp [step, hne] at h
  | closing mark =>
      have hne : '-' ≠ mark := by
        rintro rfl
        simp [MarkKnown] at hm
      simp [step, hne, start]

end Mode

/-- What follows a literal is read like what follows nothing. -/
theorem after_literal (cell : Cell) : (Mode.code.after cell.literal.toList).settled = .code := by
  cases cell with
  | none => rfl
  | some v =>
      cases v with
      | integer n => exact congrArg Mode.settled (after_toString_int n.toInt)
      | real x => exact congrArg Mode.settled (after_realLiteral x)
      | text s =>
          have h : Mode.code.after (quoteLiteral s).toList = .closing '\'' := by
            rw [quoteLiteral, String.toList_ofList]
            exact after_quoted (.inr rfl) _
          exact congrArg Mode.settled h
      | blob bytes =>
          have h : Mode.code.after (blobLiteral bytes).toList = .closing '\'' := by
            rw [toList_blobLiteral]
            exact after_quoted (.inr rfl) _
          exact congrArg Mode.settled h

end TypedSql
