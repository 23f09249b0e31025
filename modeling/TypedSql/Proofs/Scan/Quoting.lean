import TypedSql.Proofs.Scan.Names

/-!
Quoting and scanning fit together. The marks are doubled without looking at what stands around
them, and the scanner tells a doubled mark from a closing one by the character after it. The two
agree on every text, whatever marks it holds or ends with: in front of any text that does not begin
with the mark, quoted text ends where its last mark stands, is copied, and leaves no trace in what
follows. What was quoted can be read back from it.
-/

namespace TypedSql

/-! ## Reading it back -/

/-- The text with every `mark` that is written twice taken once. -/
def undoubled (mark : Char) : List Char → List Char
  | c :: d :: cs =>
      if c = mark ∧ d = mark then mark :: undoubled mark cs else c :: undoubled mark (d :: cs)
  | cs => cs

/-- What stands between the outer marks, marks inside it taken once. -/
def unquoted (mark : Char) (s : List Char) : List Char :=
  undoubled mark s.tail.dropLast

theorem undoubled_cons {mark c : Char} (h : c ≠ mark) (cs : List Char) :
    undoubled mark (c :: cs) = c :: undoubled mark cs := by
  cases cs <;> simp [undoubled, h]

theorem undoubled_doubled (mark : Char) (text : List Char) :
    undoubled mark (doubled mark text) = text := by
  induction text with
  | nil => rfl
  | cons c cs ih =>
      by_cases hc : c = mark
      · simp [doubled, hc, undoubled, ih]
      · rw [doubled, if_neg hc, undoubled_cons hc, ih]

theorem unquoted_quoted (mark : Char) : Function.LeftInverse (unquoted mark) (quoted mark) := by
  intro text
  rw [quoted, unquoted, List.tail_cons, List.dropLast_concat, undoubled_doubled]

/-! ## Where it ends -/

namespace Mode

/-- Nothing is open or pending that could take in what follows. -/
structure Clear (m : Mode) (rest : List Char) : Prop where
  region : m.region = .code
  free : m.Free rest

/-- Inside of quoted text there is no way out: the mode is that of the quoted text, or the next
character is the second one of two marks. -/
theorem not_clear_of_prefix_doubled {mark : Char} (hm : mark ≠ ']') {text p q : List Char}
    (h : doubled mark text = p ++ q) (rest : List Char) :
    ¬ ((quoted mark).after p).Clear (q ++ mark :: rest) := by
  induction text generalizing p with
  | nil =>
      obtain ⟨rfl, rfl⟩ := List.append_eq_nil_iff.mp h.symm
      exact fun hclear => by cases hclear.region
  | cons c cs ih =>
      by_cases hc : c = mark
      · subst hc
        have hclose : (quoted c).step c = ([.char c], .closing c) := by simp [step, hm]
        have hopen : (closing c).step c = ([.char c], .quoted c) := by simp [step]
        rw [doubled, if_pos rfl] at h
        cases p with
        | nil => exact fun hclear => by cases hclear.region
        | cons d p =>
            rw [List.cons_append, List.cons.injEq] at h
            obtain ⟨rfl, h⟩ := h
            rw [after, hclose]
            cases p with
            | nil =>
                rw [List.nil_append] at h
                subst h
                exact fun hclear => hclear.free rfl
            | cons e p =>
                rw [List.cons_append, List.cons.injEq] at h
                obtain ⟨rfl, h⟩ := h
                rw [after, hopen]
                exact ih h
      · have hstay : (quoted mark).step c = ([.char c], .quoted mark) := by simp [step, hc]
        rw [doubled, if_neg hc] at h
        cases p with
        | nil => exact fun hclear => by cases hclear.region
        | cons d p =>
            rw [List.cons_append, List.cons.injEq] at h
            obtain ⟨rfl, h⟩ := h
            rw [after, hstay]
            exact ih h

end Mode

section
variable {mark : Char} (hmark : mark = '"' ∨ mark = '\'')
include hmark

/-- Of the places behind a character of quoted text the scanner is clear of it at the last. -/
theorem clear_quoted_iff {text rest p q : List Char} (hrest : rest.head? ≠ some mark)
    (h : quoted mark text = p ++ q) (hp : p ≠ []) :
    (Mode.code.after p).Clear (q ++ rest) ↔ q = [] := by
  have hm : mark ≠ ']' := by rcases hmark with rfl | rfl <;> decide
  constructor
  · intro hclear
    by_contra hq
    obtain ⟨c, p, rfl⟩ := List.exists_cons_of_ne_nil hp
    -- the last mark is still to be read
    obtain ⟨q, d, rfl⟩ := (List.eq_nil_or_concat' q).resolve_left hq
    rw [quoted, List.cons_append, List.cons.injEq, ← List.append_assoc] at h
    obtain ⟨rfl, h⟩ := h
    obtain ⟨hdoubled, hd⟩ := List.append_inj' h rfl
    cases hd
    rw [Mode.after, Mode.step, Mode.start_mark hmark, List.append_assoc] at hclear
    exact Mode.not_clear_of_prefix_doubled hm hdoubled rest hclear
  · rintro rfl
    rw [List.append_nil] at h
    rw [← h, after_quoted hmark]
    exact ⟨rfl, hrest⟩

end

/-! ## What follows it -/

namespace Passes

variable {text rest : List Char} (h : Passes text rest)
include h

/-- Nothing is pending at the end of a stretch, so not even a name goes on behind it. -/
theorem exists_ends :
    ∃ m : Mode, Mode.code.Copies text m ∧ m.Ends rest ∧ m.finish = [] := by
  obtain ⟨m, hcopies, hfree, hfinish⟩ := h.copies
  have hnaming : m.naming = false := by cases m <;> first | rfl | cases hfinish
  exact ⟨m, hcopies, .of_free hfree hnaming, hfinish⟩

/-- Where something follows a stretch it is read as if it stood alone. -/
theorem after_append (hrest : rest ≠ []) :
    Mode.code.after (text ++ rest) = Mode.code.after rest := by
  obtain ⟨m, hcopies, hends, -⟩ := h.exists_ends
  obtain ⟨c, cs, rfl⟩ := List.exists_cons_of_ne_nil hrest
  rw [Mode.after_append, hcopies.ends, Mode.after_of_ends hends]

/-- The characters of a stretch stand before the pieces of what follows. -/
theorem scan_append : scan (text ++ rest) = text.map .char ++ scan rest := by
  obtain ⟨m, hcopies, hends, hfinish⟩ := h.exists_ends
  rw [scan, Mode.yields_append, hcopies.copied, hcopies.ends, List.append_assoc]
  cases rest with
  | nil =>
      rw [List.append_nil, hcopies.ends, hfinish]
      rfl
  | cons c cs =>
      rw [Mode.yields_of_ends hends, hfinish, List.nil_append,
        h.after_append (List.cons_ne_nil c cs), ← scan]

end Passes

theorem replacePositional_text_append (cells : List Cell) (highest : Nat) (s : List Char)
    (ps : List Piece) :
    replacePositional cells highest (s.map .char ++ ps) =
      (replacePositional cells highest ps).map fun (top, out) => (top, s ++ out) := by
  have htext : replacePositional cells highest (s.map .char) = .ok (highest, s) := by
    rw [replacePositional_of_no_parameter]
    · simp [List.flatMap_map, Piece.text]
    · simp [List.filterMap_map, Piece.parameter?]
  rw [replacePositional_append, htext]
  rfl

theorem replaceNamed_text_append (pairs : List (String × Cell)) (s : List Char) (ps : List Piece) :
    replaceNamed pairs (s.map .char ++ ps) = (replaceNamed pairs ps).map (s ++ ·) := by
  induction s with
  | nil => cases h : replaceNamed pairs ps <;> simp [Except.map, h]
  | cons c cs ih =>
      rw [List.map_cons, List.cons_append, replaceNamed_cons_copied rfl, ih]
      cases replaceNamed pairs ps <;> rfl

/-- Inlining leaves a stretch as it stands and does to the rest what it does to it alone. -/
theorem Passes.inline_append {text rest : List Char} (h : Passes text rest) (b : Bindings) :
    b.inline (String.ofList (text ++ rest)) =
      (b.inline (String.ofList rest)).map (String.ofList text ++ ·) := by
  cases b with
  | positional cells =>
      simp only [Bindings.inline, inlinePositional, String.toList_ofList, h.scan_append,
        replacePositional_text_append]
      cases replacePositional cells 0 (scan rest) with
      | error e => rfl
      | ok filled =>
          simp only [bind, Except.bind, Except.map]
          split
          · simp
          · rfl
  | named pairs =>
      simp only [Bindings.inline, inlineNamed, String.toList_ofList, h.scan_append,
        replaceNamed_text_append]
      cases firstDuplicate [] (pairs.map (·.1)) with
      | some name => rfl
      | none => cases replaceNamed pairs (scan rest) <;> simp [bind, Except.bind, Except.map]

/-- Quoted text in front of anything that does not begin with its mark: the scanner copies it, is
clear of it where the rest begins and nowhere before, and reads the rest, and inlining fills it, as
if it stood alone. The text that was quoted is what stands between the marks, so no two texts are
quoted alike. -/
theorem quoted_scanned {mark : Char} (hmark : mark = '"' ∨ mark = '\'') (text rest : List Char)
    (hrest : rest.head? ≠ some mark) :
    scan (quoted mark text ++ rest) = (quoted mark text).map .char ++ scan rest ∧
    (∀ p q, quoted mark text = p ++ q → p ≠ [] →
      ((Mode.code.after p).Clear (q ++ rest) ↔ q = [])) ∧
    (rest ≠ [] → Mode.code.after (quoted mark text ++ rest) = Mode.code.after rest) ∧
    (∀ b : Bindings, b.inline (String.ofList (quoted mark text ++ rest)) =
      (b.inline (String.ofList rest)).map (String.ofList (quoted mark text) ++ ·)) ∧
    unquoted mark (quoted mark text) = text ∧
    Function.Injective (quoted mark) := by
  have hpass : Passes (quoted mark text) rest := by
    refine .quoted ?_ hrest
    rcases hmark with rfl | rfl <;> decide
  exact ⟨hpass.scan_append, fun p q h hp => clear_quoted_iff hmark hrest h hp, hpass.after_append,
    hpass.inline_append, unquoted_quoted mark text, (unquoted_quoted mark).injective⟩

/-- A text with marks at either end, and what would be parameters and a comment, before a mark. -/
theorem quoted_scanned_marks_at_ends :
    let text := "''?1 -- :a'".toList
    let rest := " || ?".toList
    rest.head? ≠ some '\'' ∧
      String.ofList (quoted '\'' text) = "'''''?1 -- :a'''" ∧
      scan (quoted '\'' text ++ rest) =
        "'''''?1 -- :a''' || ".toList.map .char ++ [.parameter (.positional [])] ∧
      inlinePositional "'''''?1 -- :a''' || ?" [some (.integer 5)] =
        .ok "'''''?1 -- :a''' || 5" ∧
      unquoted '\'' (quoted '\'' text) = text := by
  intro text rest
  have hrest : rest.head? ≠ some '\'' := by decide
  obtain ⟨hscan, -, -, hinline, hback, -⟩ := quoted_scanned (.inr rfl) text rest hrest
  have hfilled : inlinePositional " || ?" [some (.integer 5)] = .ok " || 5" := by decide +kernel
  refine ⟨hrest, by decide, ?_, ?_, hback⟩
  · rw [hscan]
    decide
  · refine (hinline (.positional [some (.integer 5)])).trans ?_
    rw [Bindings.inline, String.ofList_toList, hfilled]
    decide

end TypedSql
