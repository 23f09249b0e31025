import TypedSql.Proofs.Scan.Literal
import TypedSql.Scan.Inline

/-!
Inlining in parts. Marks are numbered from left to right, so a text whose marks are bound to cells
is inlined part by part: `Fills s cells t` says that `s` becomes `t` when its marks are the next
ones and `cells` are bound to them, whatever is bound before and after. `Inlines` adds how both
texts are read, which is what joins them.
-/

namespace TypedSql

/-! ## Nothing is lost in scanning -/

namespace Mode

theorem Starts.text {c : Char} {r : List Piece × Mode} (h : Starts c r) :
    r.1.flatMap Piece.text ++ r.2.finish.flatMap Piece.text = [c] := by
  cases h <;> rfl

theorem text_start (c : Char) :
    (start c).1.flatMap Piece.text ++ (start c).2.finish.flatMap Piece.text = [c] :=
  (starts c).text

/-- What is pending before a character and the character are what it yields and what is pending
then. -/
theorem text_step (m : Mode) (c : Char) :
    (m.step c).1.flatMap Piece.text ++ (m.step c).2.finish.flatMap Piece.text =
      m.finish.flatMap Piece.text ++ [c] := by
  cases m with
  | code => simpa [step, finish] using text_start c
  | dash | slash | closing =>
      simp only [step]
      split
      · simp [finish, Piece.text]
      · simpa [finish] using text_start c
  | sigil | number | name =>
      simp only [step, flush]
      split
      · simp [finish, Piece.text, Parameter.text]
      · simpa [finish, Piece.text, Parameter.text] using text_start c
  | quoted =>
      simp only [step]
      split
      · simp [finish, Piece.text]
      · split <;> simp [finish, Piece.text]
  | lineComment | blockComment =>
      simp only [step]
      split <;> simp [finish, Piece.text]
  | star =>
      simp only [step]
      split
      · simp [finish, Piece.text]
      · split <;> simp [finish, Piece.text]

theorem text_yields (m : Mode) (s : List Char) :
    (m.yields s).flatMap Piece.text ++ (m.after s).finish.flatMap Piece.text =
      m.finish.flatMap Piece.text ++ s := by
  induction s generalizing m with
  | nil => simp [yields, after]
  | cons c cs ih =>
      rw [yields, after, List.flatMap_append, List.append_assoc, ih, ← List.append_assoc,
        text_step, List.append_assoc]
      rfl

end Mode

/-- The pieces of a text, as written, are the text. -/
theorem text_scan (s : List Char) : (scan s).flatMap Piece.text = s := by
  rw [scan, List.flatMap_append, Mode.text_yields]
  rfl

/-! ## Inlining part by part -/

/-- A piece that is no positional token is copied. -/
theorem replacePositional_cons_copied (cells : List Cell) (highest : Nat) {p : Piece}
    (hp : ∀ digits, p ≠ .parameter (.positional digits)) (ps : List Piece) :
    replacePositional cells highest (p :: ps) =
      (replacePositional cells highest ps).map fun (top, out) => (top, p.text ++ out) := by
  rw [replacePositional]
  · cases replacePositional cells highest ps <;> rfl
  · exact hp

theorem replacePositional_append (cells : List Cell) (highest : Nat) (ps qs : List Piece) :
    replacePositional cells highest (ps ++ qs) =
      (replacePositional cells highest ps).bind fun (top, out) =>
        (replacePositional cells top qs).map fun (top, rest) => (top, out ++ rest) := by
  induction ps generalizing highest with
  | nil =>
      cases h : replacePositional cells highest qs <;>
        simp [replacePositional, Except.bind, Except.map, h]
  | cons p ps ih =>
      by_cases hp : ∃ digits, p = .parameter (.positional digits)
      · obtain ⟨digits, rfl⟩ := hp
        simp only [List.cons_append, replacePositional, ih]
        cases positionalNumber highest digits with
        | error e => rfl
        | ok n =>
            simp only [bind, Except.bind]
            cases replacePositional cells (max highest n) ps with
            | error e => rfl
            | ok a => cases h : replacePositional cells a.1 qs <;> simp [Except.map, h]
      · have hp' : ∀ digits, p ≠ .parameter (.positional digits) := fun d hd => hp ⟨d, hd⟩
        rw [List.cons_append, replacePositional_cons_copied _ _ hp',
          replacePositional_cons_copied _ _ hp', ih]
        cases replacePositional cells highest ps with
        | error e => rfl
        | ok a => cases h : replacePositional cells a.1 qs <;> simp [Except.bind, Except.map, h]

/-- A text without parameters stays as it is. -/
theorem replacePositional_of_no_parameter (cells : List Cell) (highest : Nat) {ps : List Piece}
    (h : ps.filterMap Piece.parameter? = []) :
    replacePositional cells highest ps = .ok (highest, ps.flatMap Piece.text) := by
  induction ps with
  | nil => rfl
  | cons p ps ih =>
      cases p with
      | parameter p => simp [Piece.parameter?] at h
      | char c =>
          have hps : ps.filterMap Piece.parameter? = [] := by simpa [Piece.parameter?] using h
          rw [replacePositional_cons_copied _ _ (by simp), ih hps]
          rfl

/-- A text becomes another one when its marks are the next ones and the cells are bound to them. -/
def Fills (s : List Char) (cells : List Cell) (t : List Char) : Prop :=
  ∀ before after : List Cell,
    replacePositional (before ++ cells ++ after) before.length (scan s) =
      .ok (before.length + cells.length, t)

namespace Fills

variable {s t u v : List Char} {cells more : List Cell}

theorem append (hs : Fills s cells t) (hu : Fills u more v) (hends : (Mode.code.after s).region = .code)
    (hj : Joins s u) : Fills (s ++ u) (cells ++ more) (t ++ v) := by
  intro before after
  have h1 := hs before (more ++ after)
  have h2 := hu (before ++ cells) after
  rw [List.length_append] at h2
  rw [hj.scan_append hends, replacePositional_append]
  simp only [List.append_assoc] at h1 h2 ⊢
  rw [h1]
  simp only [Except.bind]
  rw [h2]
  simp [Except.map, Nat.add_assoc]

theorem of_no_parameter (h : parameters s = []) : Fills s [] s := by
  intro before after
  rw [replacePositional_of_no_parameter _ _ h, text_scan]
  rfl

theorem mark (cell : Cell) : Fills ['?'] [cell] cell.literal.toList := by
  intro before after
  have hscan : scan ['?'] = [.parameter (.positional [])] := rfl
  have hcell : (before ++ [cell] ++ after)[before.length + 1 - 1]? = some cell := by simp
  simp only [hscan, replacePositional, positionalNumber, List.isEmpty_nil, if_true, literalAt, hcell,
    bind, Except.bind, Nat.max_eq_right (Nat.le_succ _)]
  simp

/-- A text that is filled by all the cells bound to it compiles. -/
theorem inlinePositional {sql out : String} (h : Fills sql.toList cells out.toList) :
    inlinePositional sql cells = .ok out := by
  have hr : replacePositional cells 0 (scan sql.toList) = .ok (cells.length, out.toList) := by
    simpa using h [] []
  rw [TypedSql.inlinePositional, hr]
  simp [bind, Except.bind, String.ofList_toList]

end Fills

/-- A text and what it becomes by inlining are both read from code to code, with no parameters but
the marks that are filled. -/
structure Inlines (d e : Nat) (s : List Char) (cells : List Cell) (t : List Char) : Prop where
  source : Reads d e cells.length s
  target : Reads d e 0 t
  fills : Fills s cells t

namespace Inlines

variable {d e f : Nat} {s t u v : List Char} {cells more : List Cell}

theorem append (hs : Inlines d e s cells t) (hu : Inlines e f u more v)
    (hj : Joins s u) (hj' : Joins t v) : Inlines d f (s ++ u) (cells ++ more) (t ++ v) where
  source := by
    rw [List.length_append]
    exact hs.source.append hu.source hj
  target := hs.target.append hu.target hj'
  fills := hs.fills.append hu.fills hs.source.ends hj

/-- Text that binds nothing. -/
theorem same (h : Reads d e 0 s) : Inlines d e s [] s := ⟨h, h, .of_no_parameter h.marks⟩

theorem mark (cell : Cell) : Inlines 0 0 ['?'] [cell] cell.literal.toList :=
  ⟨show Reads 0 0 1 ['?'] by decide, reads_literal cell, .mark cell⟩

theorem within (h : Inlines d e s cells t) (k : Nat) : Inlines (d + k) (e + k) s cells t :=
  ⟨h.source.within k, h.target.within k, h.fills⟩

end Inlines

end TypedSql
