import TypedSql.Scan.Piece

/-!
Reading a text in parts. Whatever is pending, a character that can neither extend nor close it is
read as if nothing were. A text that ends in code may therefore be followed by such a character,
and the pieces of the whole are those of its parts.
-/

namespace TypedSql

/-- A character that ends whatever is pending in code: it is part of no name and no number, opens
no comment together with the character before it, and doubles no mark. -/
def isBoundary (c : Char) : Bool :=
  !isNameChar c && !c.isDigit && !(['-', '*', '\'', '"', '\x60'].contains c)

namespace Mode

@[simp] theorem region_code : code.region = .code := rfl

@[simp] theorem region_dash : dash.region = .code := rfl

@[simp] theorem region_quoted (mark : Char) : (quoted mark).region = .quoted mark := rfl

@[simp] theorem region_closing (mark : Char) : (closing mark).region = .code := rfl

@[simp] theorem region_lineComment : lineComment.region = .lineComment := rfl

@[simp] theorem region_blockComment : blockComment.region = .blockComment := rfl

@[simp] theorem region_star : star.region = .blockComment := rfl

def inComment (m : Mode) : Bool := m.region == .lineComment || m.region == .blockComment

/-- Quoted text has one of the four marks that open it in code. -/
def MarkKnown : Mode → Prop
  | .quoted mark => mark ∈ ['\'', '"', '\x60', ']']
  | .closing mark => mark ∈ ['\'', '"', '\x60']
  | _ => True

/-- What reading a character of code with nothing pending comes to. -/
inductive Starts : Char → List Piece × Mode → Prop where
  | mark : Starts '?' ([], .number [])
  | sigil {c : Char} (h : c ∈ [':', '@', '$']) : Starts c ([], .sigil c)
  | quote {c : Char} (h : c ∈ ['\'', '"', '\x60']) : Starts c ([.char c], .quoted c)
  | bracket : Starts '[' ([.char '['], .quoted ']')
  | dash : Starts '-' ([.char '-'], .dash)
  | slash : Starts '/' ([.char '/'], .slash)
  | plain {c : Char} (h : c ∉ ['?', ':', '@', '$', '\'', '"', '\x60', '[', '-', '/']) :
      Starts c ([.char c], .code)

theorem starts (c : Char) : Starts c (start c) := by
  unfold start
  by_cases hmark : c = '?'
  · subst hmark
    exact .mark
  rw [if_neg hmark]
  by_cases hsigil : c = ':' ∨ c = '@' ∨ c = '$'
  · rw [if_pos hsigil]
    exact .sigil (by simpa using hsigil)
  rw [if_neg hsigil]
  by_cases hquote : c = '\'' ∨ c = '"' ∨ c = '\x60'
  · rw [if_pos hquote]
    exact .quote (by simpa using hquote)
  rw [if_neg hquote]
  by_cases hopen : c = '['
  · subst hopen
    exact .bracket
  rw [if_neg hopen]
  by_cases hdash : c = '-'
  · subst hdash
    exact .dash
  rw [if_neg hdash]
  by_cases hslash : c = '/'
  · subst hslash
    exact .slash
  · rw [if_neg hslash]
    exact .plain (by simp_all)

theorem Starts.markKnown {c : Char} {r : List Piece × Mode} (h : Starts c r) : r.2.MarkKnown := by
  cases h with
  | quote h => exact List.mem_append_left [']'] h
  | bracket => simp [MarkKnown]
  | mark | sigil | dash | slash | plain => trivial

theorem start_markKnown (c : Char) : (start c).2.MarkKnown := (starts c).markKnown

theorem step_markKnown {m : Mode} (h : m.MarkKnown) (c : Char) : (m.step c).2.MarkKnown := by
  cases m with
  | code => exact start_markKnown c
  | dash | slash | sigil | number | name =>
      simp only [step, flush]
      split
      · trivial
      · exact start_markKnown c
  | quoted mark =>
      simp only [step]
      split
      · exact h
      · split
        · trivial
        · rename_i hb
          simpa [MarkKnown, hb] using h
  | closing mark =>
      simp only [step]
      split
      · exact List.mem_append_left [']'] h
      · exact start_markKnown c
  | lineComment | blockComment => simp only [step]; split <;> trivial
  | star =>
      simp only [step]
      split
      · trivial
      · split <;> trivial

theorem after_markKnown {m : Mode} (h : m.MarkKnown) (s : List Char) : (m.after s).MarkKnown := by
  induction s generalizing m with
  | nil => exact h
  | cons c cs ih => exact ih (step_markKnown h c)

/-- A boundary is read as if nothing were pending, after the pending piece has been yielded. -/
theorem step_of_isBoundary {m : Mode} (hm : m.MarkKnown) (hr : m.region = .code) {c : Char}
    (hc : isBoundary c = true) : m.step c = (m.finish ++ (start c).1, (start c).2) := by
  simp only [isBoundary, Bool.and_eq_true, Bool.not_eq_true', List.contains_eq_mem,
    decide_eq_false_iff_not, List.mem_cons, List.not_mem_nil, or_false, not_or] at hc
  obtain ⟨⟨hname, hdigit⟩, hdash, hstar, hquote, hdouble, hback⟩ := hc
  cases m with
  | code => rfl
  | dash => simp [step, finish, hdash]
  | slash => simp [step, finish, hstar]
  | sigil mark => simp [step, finish, flush, hname]
  | number digits => simp [step, finish, flush, hdigit]
  | name mark chars => simp [step, finish, flush, hname]
  | closing mark =>
      have hne : c ≠ mark := by
        rintro rfl
        simp [MarkKnown, hquote, hdouble, hback] at hm
      simp [step, finish, hne]
  | quoted | lineComment | blockComment | star => simp at hr

end Mode

/-- A text that ends in code leaves the reading of what follows it from a boundary on as it is. -/
theorem after_append_boundary {s t : List Char} {c : Char}
    (hs : (Mode.code.after s).region = .code) (hc : isBoundary c = true) :
    Mode.code.after (s ++ c :: t) = Mode.code.after (c :: t) := by
  have hk := Mode.after_markKnown (m := .code) trivial s
  rw [Mode.after_append, Mode.after, Mode.step_of_isBoundary hk hs hc]
  rfl

/-- The pieces of a text that is followed by a boundary come before those of what follows. -/
theorem scan_append_boundary {s t : List Char} {c : Char}
    (hs : (Mode.code.after s).region = .code) (hc : isBoundary c = true) :
    scan (s ++ c :: t) = scan s ++ scan (c :: t) := by
  have hk := Mode.after_markKnown (m := .code) trivial s
  have hy : (Mode.code.after s).yields (c :: t) =
      (Mode.code.after s).finish ++ Mode.code.yields (c :: t) := by
    rw [Mode.yields, Mode.step_of_isBoundary hk hs hc]
    simp [Mode.yields, Mode.step]
  simp only [scan, after_append_boundary hs hc, Mode.yields_append, hy, List.append_assoc]

/-- After a text with nothing pending the next one is read from its start. -/
theorem scan_append_code {s t : List Char} (hs : Mode.code.after s = .code) :
    scan (s ++ t) = scan s ++ scan t := by
  simp [scan, Mode.yields_append, Mode.after_append, hs, Mode.finish]

end TypedSql
