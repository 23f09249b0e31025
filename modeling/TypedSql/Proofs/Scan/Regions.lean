import Mathlib.Data.List.Chain
import TypedSql.Proofs.Scan.Alike
import TypedSql.Proofs.Scan.Positions

/-!
In which regions the text around a literal is read. A literal takes the place of a question mark
with nothing around it, so what stands before it and after it could be read with it: a dash before
a negative number makes a comment of it and of what follows on its line. Where no dash stands
before such a number, every character of the text is read in the region that it was read in
before, and no question mark is left to be found by position.
-/

namespace TypedSql

/-! ## Where question marks stand -/

theorem positionals_text (s : List Char) : positionals (s.map .char) = [] := by
  induction s with
  | nil => rfl
  | cons c cs ih => exact ih

namespace Mode

/-- Whether pieces that are read from a mode stand where they may: a mark in code, with digits and
nothing else after it, and any other question mark in another region. -/
def Places : Mode → List Piece → Prop
  | _, [] => True
  | m, .char c :: ps => (c = '?' → m.region ≠ .code) ∧ Places (m.step c).2 ps
  | m, .parameter (.positional digits) :: ps =>
      m.region = .code ∧ (∀ c ∈ digits, c.isDigit = true) ∧ Places (m.after ('?' :: digits)) ps
  | _, .parameter (.named ..) :: _ => False

variable {m m' : Mode}

theorem places_text_append (m : Mode) (s : List Char) (ps : List Piece) :
    m.Places (s.map .char ++ ps) ↔ m.Places (s.map .char) ∧ (m.after s).Places ps := by
  induction s generalizing m with
  | nil => simp [Places, after]
  | cons c cs ih =>
      simp only [List.map_cons, List.cons_append, Places, ih, and_assoc]
      rfl

theorem Alike.places (h : Alike m m') {s : List Char} (hs : m.Places (s.map .char)) :
    m'.Places (s.map .char) := by
  induction s generalizing m m' with
  | nil => trivial
  | cons c cs ih => exact ⟨fun hc => h.region ▸ hs.1 hc, ih (h.step c) hs.2⟩

/-- A mark in code is read with all its digits. -/
theorem after_mark (hk : m.MarkKnown) (hm : m.region = .code) {digits : List Char}
    (hdigits : ∀ c ∈ digits, c.isDigit = true) : m.after ('?' :: digits) = .number digits := by
  rw [after, step_of_isBoundary hk hm (by decide)]
  exact (after_digits (r := []) hdigits).1

/-- Digits that are pending come to be a positional token. -/
theorem positionals_number (digits s : List Char) :
    positionals ((number digits).yields s ++ ((number digits).after s).finish) ≠ [] := by
  induction s generalizing digits with
  | nil => simp [yields, after, finish]
  | cons c cs ih =>
      by_cases hc : c.isDigit = true
      · simpa [yields, after, step, hc] using ih (digits ++ [c])
      · simp [yields, after, step, hc, flush]

/-- In a text without positional tokens no question mark stands in code. -/
theorem places_of_positionals (hk : m.MarkKnown) {s : List Char}
    (h : positionals (m.yields s ++ (m.after s).finish) = []) : m.Places (s.map .char) := by
  induction s generalizing m with
  | nil => trivial
  | cons c cs ih =>
      rw [yields, after, List.append_assoc, positionals_append, List.append_eq_nil_iff] at h
      refine ⟨?_, ih (step_markKnown hk c) h.2⟩
      rintro rfl hcode
      rw [step_of_isBoundary hk hcode (by decide)] at h
      exact positionals_number [] cs h.2

/-- Whether a question mark is pending. -/
def marked : Mode → Bool
  | number _ => true
  | _ => false

theorem Starts.unmarked {c : Char} {r : List Piece × Mode} (h : Starts c r) (hc : c ≠ '?') :
    positionals r.1 = [] ∧ r.2.marked = false := by
  cases h with
  | mark => exact absurd rfl hc
  | sigil | quote | bracket | dash | slash | plain => exact ⟨rfl, rfl⟩

theorem step_unmarked (hm : m.marked = false) {c : Char} (hc : c = '?' → m.region ≠ .code) :
    positionals (m.step c).1 = [] ∧ (m.step c).2.marked = false := by
  cases m with
  | code => exact (starts c).unmarked fun h => hc h rfl
  | number => cases hm
  | dash | slash | closing =>
      simp only [step]
      split
      · exact ⟨rfl, rfl⟩
      · exact (starts c).unmarked fun h => hc h rfl
  | sigil | name =>
      simp only [step, flush]
      split
      · exact ⟨rfl, rfl⟩
      · exact (starts c).unmarked fun h => hc h rfl
  | quoted | lineComment | blockComment | star =>
      refine ⟨rfl, ?_⟩
      simp only [step]
      repeat' split
      all_goals rfl

/-- Where no question mark stands in code, none is found by its position. -/
theorem positionals_of_places (hm : m.marked = false) {s : List Char}
    (h : m.Places (s.map .char)) : positionals (m.yields s ++ (m.after s).finish) = [] := by
  induction s generalizing m with
  | nil => cases m <;> first | rfl | cases hm
  | cons c cs ih =>
      obtain ⟨hpieces, hmode⟩ := step_unmarked hm h.1
      rw [yields, after, List.append_assoc, positionals_append, hpieces, ih hmode h.2]
      rfl

theorem Copies.places {s : List Char} (h : m.Copies s m') (hk : m.MarkKnown)
    (hfinish : m'.finish = []) : m.Places (s.map .char) := by
  apply places_of_positionals hk
  rw [h.copied, h.ends, hfinish, List.append_nil, positionals_text]

theorem Free.region {c : Char} {s : List Char} (h : m.Free (c :: s)) : m.region = .code := by
  cases m with
  | code | dash | slash | sigil | number | name | closing => rfl
  | quoted | lineComment | blockComment | star => cases h

end Mode

open Mode in
/-- The marks of a division are the question marks in code. -/
theorem Divided.places {s : List Char} {ps : List Piece} (h : Divided s ps) {m : Mode}
    (hm : m.Free s) (hk : m.MarkKnown) : m.Places ps := by
  induction h generalizing m with
  | nil => trivial
  | mark hdigits hrest _ ih =>
      refine ⟨hm.region, hdigits, ?_⟩
      rw [after_mark hk hm.region hdigits]
      exact ih hrest trivial
  | passed hpass _ ih =>
      obtain ⟨m', hcopies, hfree, hfinish⟩ := hpass.copies
      obtain ⟨c, cs, rfl, hname⟩ := hpass.head
      have hm' := hm.of_head (t := cs)
      have hcode := hcopies.places trivial hfinish
      rw [places_text_append, after_of_free hm' hname, hcopies.ends]
      refine ⟨⟨fun hc => absurd rfl (hcode.1 hc), ?_⟩, ih hfree ?_⟩
      · rw [step_of_free hm' fun _ => hname]
        exact hcode.2
      · exact hcopies.ends ▸ after_markKnown (m := .code) trivial _
  | plain hc _ ih =>
      exact ⟨fun h => absurd h hc.unmarked, ih (step_of_plain hm hc).2 (step_markKnown hk _)⟩

/-- No question mark of a literal stands in code. -/
theorem places_literal (cell : Cell) : Mode.code.Places (cell.literal.toList.map .char) := by
  apply Mode.places_of_positionals (m := .code) trivial
  show (parameters cell.literal.toList).filter Parameter.isPositional = []
  rw [(reads_literal cell).marks]
  rfl

/-! ## A literal in the place of a mark -/

namespace Mode.Alike

variable {m m' : Mode}

/-- In code, what neither makes a comment of a dash nor of a slash is read like at the start. -/
theorem start (h : Alike m m') (hm : m.region = .code) {c : Char} (hdash : m = .dash → c ≠ '-')
    (hstar : c ≠ '*') : Alike (Mode.start c).2 (m'.step c).2 where
  known := start_markKnown c
  known' := step_markKnown h.known' c
  settled := by
    rw [← (h.step c).settled]
    cases m with
    | code => rfl
    | dash => rw [Mode.step, if_neg (hdash rfl)]
    | slash => rw [Mode.step, if_neg hstar]
    | sigil | number | name | closing => exact (step_settled h.known c).symm
    | quoted | lineComment | blockComment | star => cases hm

/-- After a literal in the place of a mark the text goes on alike, and no question mark of the
literal stands in code, unless it begins with a dash after a dash. -/
theorem literal (h : Alike m m') (hm : m.region = .code) {digits : List Char}
    (hdigits : ∀ c ∈ digits, c.isDigit = true) {cell : Cell}
    (hdash : m = .dash → cell.literal.toList.head? ≠ some '-') :
    Alike (m.after ('?' :: digits)) (m'.after cell.literal.toList) ∧
      m'.Places (cell.literal.toList.map .char) := by
  have hafter := after_literal cell
  have hplaces := places_literal cell
  obtain ⟨c, cs, hliteral, hc⟩ := literal_head cell
  rw [hliteral] at hdash hafter hplaces ⊢
  have hstar : c ≠ '*' := by
    rintro rfl
    revert hc
    decide
  have hnext := h.start hm (fun hd => by simpa using hdash hd) hstar
  refine ⟨⟨after_markKnown h.known _, after_markKnown h.known' _, ?_⟩, ?_⟩
  · rw [after_mark h.known hm hdigits, Mode.after, ← (hnext.after cs).settled]
    exact hafter.symm
  · exact ⟨fun hmark => absurd rfl (hplaces.1 hmark), hnext.places hplaces.2⟩

end Mode.Alike

/-! ## Splices -/

/-- What inlining makes of a piece: a character is kept, the literal of a cell takes the place of a
question mark. -/
inductive Splice where
  | kept (c : Char)
  | mark (digits : List Char) (cell : Cell)
deriving DecidableEq, Repr

namespace Splice

def piece : Splice → Piece
  | kept c => .char c
  | mark digits _ => .parameter (.positional digits)

def cell? : Splice → Option Cell
  | kept _ => none
  | mark _ cell => some cell

def source (x : Splice) : List Char := x.piece.text

def target : Splice → List Char
  | kept c => [c]
  | mark _ cell => cell.literal.toList

/-- Whether a dash and a negative number after it make two dashes, which open a comment. -/
def opensComment : Splice → Splice → Bool
  | kept c, mark _ cell => c == '-' && Cell.isNegative cell
  | _, _ => false

/-- Two splices that form nothing new where they meet. -/
def Apart (x y : Splice) : Prop := x.opensComment y = false

instance (x y : Splice) : Decidable (x.Apart y) := inferInstanceAs (Decidable (_ = false))

theorem apart_mark_left (digits : List Char) (cell : Cell) (y : Splice) :
    (mark digits cell).Apart y := rfl

theorem apart_kept_kept (c d : Char) : (kept c).Apart (kept d) := rfl

theorem apart_kept_mark_iff (c : Char) (digits : List Char) (cell : Cell) :
    (kept c).Apart (mark digits cell) ↔ (c = '-' → cell.literal.toList.head? ≠ some '-') := by
  simp [Apart, opensComment, head?_literal]

end Splice

/-- The text before inlining. -/
def sources (xs : List Splice) : List Char := xs.flatMap Splice.source

/-- The text after it. -/
def targets (xs : List Splice) : List Char := xs.flatMap Splice.target

/-- Every character that is kept belongs to the same region in both texts, which are read from two
modes. -/
def AlignedFrom (m m' : Mode) (xs : List Splice) : Prop :=
  ∀ before c after, xs = before ++ .kept c :: after →
    (m.after (sources before)).regionOf c (sources after) =
      (m'.after (targets before)).regionOf c (targets after)

/-- Every character that is kept belongs to the same region in both texts. -/
def Aligned (xs : List Splice) : Prop := AlignedFrom .code .code xs

section
variable {m m' : Mode}

theorem alignedFrom_nil : AlignedFrom m m' [] := by
  intro before c after h
  simp at h

theorem alignedFrom_kept (c : Char) (xs : List Splice) :
    AlignedFrom m m' (.kept c :: xs) ↔
      m.regionOf c (sources xs) = m'.regionOf c (targets xs) ∧
        AlignedFrom (m.step c).2 (m'.step c).2 xs := by
  constructor
  · intro h
    exact ⟨h [] c xs rfl, fun before d after hxs => h (.kept c :: before) d after (hxs ▸ rfl)⟩
  · rintro ⟨hc, h⟩ before d after hxs
    cases before with
    | nil =>
        obtain ⟨hd, rfl⟩ := List.cons.inj hxs
        obtain rfl := Splice.kept.inj hd
        exact hc
    | cons x before =>
        obtain ⟨rfl, hafter⟩ := List.cons.inj hxs
        exact h before d after hafter

theorem alignedFrom_mark (digits : List Char) (cell : Cell) (xs : List Splice) :
    AlignedFrom m m' (.mark digits cell :: xs) ↔
      AlignedFrom (m.after ('?' :: digits)) (m'.after cell.literal.toList) xs := by
  have hsource (before : List Splice) :
      m.after (sources (.mark digits cell :: before)) =
        (m.after ('?' :: digits)).after (sources before) := Mode.after_append m ('?' :: digits) _
  have htarget (before : List Splice) :
      m'.after (targets (.mark digits cell :: before)) =
        (m'.after cell.literal.toList).after (targets before) :=
    Mode.after_append m' cell.literal.toList _
  constructor
  · intro h before d after hxs
    rw [← hsource, ← htarget]
    exact h (.mark digits cell :: before) d after (hxs ▸ rfl)
  · intro h before d after hxs
    cases before with
    | nil => cases hxs
    | cons x before =>
        obtain ⟨rfl, hafter⟩ := List.cons.inj hxs
        rw [hsource, htarget]
        exact h before d after hafter

variable {xs : List Splice}

/-- A kept character belongs to the same region in both texts unless it is a dash that opens a
comment with the literal after it. -/
theorem regionOf_eq_iff (h : Mode.Alike m m') {c : Char}
    (hxs : (m.step c).2.Places (xs.map Splice.piece)) :
    m.regionOf c (sources xs) = m'.regionOf c (targets xs) ↔
      ∀ x ∈ xs.head?, (Splice.kept c).Apart x := by
  cases xs with
  | nil => simp [h.regionOf c (show (sources []).head? = (targets []).head? from rfl)]
  | cons x xs =>
      cases x with
      | kept d =>
          have hhead : (sources (.kept d :: xs)).head? = (targets (.kept d :: xs)).head? := rfl
          simp [h.regionOf c hhead, Splice.apart_kept_kept]
      | mark digits cell =>
          obtain ⟨d, ds, hliteral, hd⟩ := literal_head cell
          have hstar : d ≠ '*' := by
            rintro rfl
            revert hd
            decide
          have hsource : (sources (.mark digits cell :: xs)).head? = some '?' := rfl
          have htarget : (targets (.mark digits cell :: xs)).head? = some d := by
            simp [targets, Splice.target, hliteral]
          have hstep : (m.step c).2.region = .code := hxs.1
          have hdash : c = '-' → m.region = .code ∧ (m.step c).2 = .dash := by
            rintro rfl
            exact Mode.step_dash h.known hstep
          simp only [List.head?_cons, Option.mem_def, Option.some.injEq, forall_eq',
            Splice.apart_kept_mark_iff, hliteral, ne_eq]
          by_cases hm : m.region = .code
          · have hm' : m'.region = .code := h.region ▸ hm
            have hsame : (m.step c).2.opens (some '?') = .code :=
              (Mode.opens_eq_code_iff hstep (by decide)).mpr fun _ => by decide
            rw [Mode.regionOf, Mode.regionOf, if_pos hm, if_pos hm', hsource, htarget, hsame,
              ← (h.step c).opens, eq_comm, Mode.opens_eq_code_iff hstep hstar]
            exact imp_congr_left ⟨Mode.step_eq_dash, fun hc => (hdash hc).2⟩
          · have hm' : m'.region ≠ .code := h.region ▸ hm
            rw [Mode.regionOf, Mode.regionOf, if_neg hm, if_neg hm']
            exact ⟨fun _ hc => absurd (hdash hc).1 hm, fun _ => h.region⟩

/-- Two modes from which the two texts of splices are read: alike, with the marks in code, and with
no comment that the first literal opens. -/
structure Meets (m m' : Mode) (xs : List Splice) : Prop where
  alike : Mode.Alike m m'
  places : m.Places (xs.map Splice.piece)
  front : m = .dash → ∀ x ∈ xs.head?, (Splice.kept '-').Apart x

theorem Meets.kept {c : Char} (h : Meets m m' (.kept c :: xs))
    (hapart : ∀ x ∈ xs.head?, (Splice.kept c).Apart x) :
    Meets (m.step c).2 (m'.step c).2 xs :=
  ⟨h.alike.step c, h.places.2, fun hdash => Mode.step_eq_dash hdash ▸ hapart⟩

theorem Meets.mark {digits : List Char} {cell : Cell} (h : Meets m m' (.mark digits cell :: xs)) :
    Meets (m.after ('?' :: digits)) (m'.after cell.literal.toList) xs ∧
      m'.Places (cell.literal.toList.map .char) := by
  obtain ⟨hm, hdigits, hplaces⟩ := h.places
  have hliteral : m = .dash → cell.literal.toList.head? ≠ some '-' := fun hdash =>
    (Splice.apart_kept_mark_iff ..).mp (h.front hdash _ rfl) rfl
  have hnumber := Mode.after_mark h.alike.known hm hdigits
  obtain ⟨hnext, hcell⟩ := h.alike.literal hm hdigits hliteral
  exact ⟨⟨hnext, hplaces, fun hdash => by rw [hnumber] at hdash; cases hdash⟩, hcell⟩

/-- The texts are read in the same regions exactly when no literal makes a comment of a dash. -/
theorem Meets.alignedFrom_iff (h : Meets m m' xs) :
    AlignedFrom m m' xs ↔ xs.IsChain Splice.Apart := by
  induction xs generalizing m m' with
  | nil => exact iff_of_true alignedFrom_nil .nil
  | cons x xs ih =>
      cases x with
      | kept c =>
          rw [alignedFrom_kept, List.isChain_cons, regionOf_eq_iff h.alike h.places.2]
          exact and_congr_right fun hapart => ih (h.kept hapart)
      | mark digits cell =>
          rw [alignedFrom_mark, List.isChain_cons, ih h.mark.1]
          exact (and_iff_right fun y _ => Splice.apart_mark_left digits cell y).symm

/-- Where no literal makes a comment of a dash, no question mark is left in code. -/
theorem Meets.places_targets (h : Meets m m' xs) (hchain : xs.IsChain Splice.Apart) :
    m'.Places ((targets xs).map .char) := by
  induction xs generalizing m m' with
  | nil => trivial
  | cons x xs ih =>
      obtain ⟨hapart, hrest⟩ := List.isChain_cons.mp hchain
      cases x with
      | kept c => exact ⟨fun hc => h.alike.region ▸ h.places.1 hc, ih (h.kept hapart) hrest⟩
      | mark digits cell =>
          obtain ⟨hnext, hcell⟩ := h.mark
          rw [targets, List.flatMap_cons, List.map_append, Mode.places_text_append]
          exact ⟨hcell, ih hnext hrest⟩

end

/-! ## The splices of an inlining -/

/-- The splices that inlining a text consists of: they divide it, the cells of its marks are those
of their numbers, and what they make is the result. -/
structure Spliced (sql : String) (cells : List Cell) (out : String) (xs : List Splice) : Prop where
  divided : Divided sql.toList (xs.map Splice.piece)
  bound : (numbers (xs.map Splice.piece)).mapM (fun n => cells[n - 1]?) =
    some (xs.filterMap Splice.cell?)
  made : out.toList = targets xs

/-- A division with cells for its marks is one into splices. -/
theorem exists_splices {m : Mode} {ps : List Piece} (hps : m.Places ps) {f : Nat → Option Cell}
    {highest : Nat} {values : List Cell}
    (h : (numbersFrom highest (marks ps)).mapM f = some values) :
    ∃ xs : List Splice, xs.map Splice.piece = ps ∧ xs.filterMap Splice.cell? = values := by
  induction ps generalizing m highest values with
  | nil =>
      obtain rfl : [] = values := by simpa [marks, numbersFrom] using h
      exact ⟨[], rfl, rfl⟩
  | cons p ps ih =>
      cases p with
      | char c =>
          obtain ⟨xs, hpieces, hcells⟩ := ih hps.2 h
          exact ⟨.kept c :: xs, congrArg _ hpieces, hcells⟩
      | parameter t =>
          cases t with
          | named sigil name => cases hps
          | positional digits =>
              rw [marks_mark, numbersFrom, List.mapM_cons] at h
              simp only [Option.bind_eq_bind, Option.bind_eq_some_iff, Option.pure_def,
                Option.some.injEq] at h
              obtain ⟨cell, -, rest, hrest, rfl⟩ := h
              obtain ⟨xs, hpieces, hcells⟩ := ih hps.2.2 hrest
              exact ⟨.mark digits cell :: xs, congrArg _ hpieces, congrArg (cell :: ·) hcells⟩

theorem fill_pieces (xs : List Splice) :
    fill (xs.map Splice.piece) (xs.filterMap Splice.cell?) = targets xs := by
  induction xs with
  | nil => rfl
  | cons x xs ih =>
      cases x with
      | kept c => exact congrArg (c :: ·) ih
      | mark digits cell => exact congrArg (cell.literal.toList ++ ·) ih

/-- What inlining a divided text gives is made of its pieces and the cells of their numbers. -/
theorem Divided.exists_values {sql out : String} {cells : List Cell} {ps : List Piece}
    (hps : Divided sql.toList ps) (h : inlinePositional sql cells = .ok out) :
    ∃ values, (numbers ps).mapM (fun n => cells[n - 1]?) = some values ∧
      out.toList = fill ps values := by
  rw [inlinePositional, ← replacePositional_spread, ← hps.eq_spread_scan] at h
  cases hfirst : (marks ps).find? outOfRange with
  | some digits =>
      rw [replacePositional_outOfRange cells 0 hfirst] at h
      cases h
  | none =>
      obtain ⟨text, htext, hvalues⟩ := replacePositional_inRange cells 0 hfirst
      rw [htext, ← numbers, foldl_max_eq_largest] at h
      simp only [bind, Except.bind] at h
      split at h
      · rename_i hcount
        have hrange : ∀ n ∈ numbers ps, 1 ≤ n ∧ n ≤ cells.length := fun n hn =>
          ⟨one_le_of_mem_numbersFrom hfirst hn, hcount ▸ List.le_max?_getD_of_mem hn⟩
        obtain ⟨values, hmap⟩ := exists_mapM_getElem? hrange
        obtain rfl := Except.ok.inj h
        exact ⟨values, hmap, by rw [String.toList_ofList, hvalues values hmap]⟩
      · cases h

theorem divided_scan (s : List Char) : Divided s (spread (scan s)) := by
  obtain ⟨ps, hps⟩ := exists_divided s
  exact hps.eq_spread_scan ▸ hps

theorem exists_spliced {sql out : String} {cells : List Cell}
    (h : inlinePositional sql cells = .ok out) : ∃ xs, Spliced sql cells out xs := by
  have hps := divided_scan sql.toList
  obtain ⟨values, hvalues, hout⟩ := hps.exists_values h
  obtain ⟨xs, hpieces, rfl⟩ := exists_splices (hps.places (m := .code) trivial trivial) hvalues
  rw [← hpieces] at hps hvalues hout
  exact ⟨xs, hps, hvalues, hout.trans (fill_pieces xs)⟩

theorem fill_of_positionals {ps : List Piece} (h : positionals ps = []) :
    fill ps [] = ps.flatMap Piece.text := by
  induction ps with
  | nil => rfl
  | cons p ps ih =>
      by_cases hp : ∃ digits, p = .parameter (.positional digits)
      · obtain ⟨digits, rfl⟩ := hp
        simp at h
      · have hcopied : ∀ digits, p ≠ .parameter (.positional digits) := fun d hd => hp ⟨d, hd⟩
        rw [positionals_cons_copied hcopied] at h
        rw [fill_cons_copied hcopied, ih h, List.flatMap_cons]

/-- A text without positional tokens is left as it is. -/
theorem Fills.of_positionals {s : List Char} (h : positionals (scan s) = []) : Fills s [] s := by
  intro before after
  rw [@replacePositional_fill _ [] h, fill_of_positionals h, text_scan]

/-- What inlining makes of a text is read in the regions of the text exactly if no dash stands
directly before a mark that a negative number is bound to. Then no question mark of it is found by
its position, and inlining it once more leaves it as it is. -/
theorem inlinePositional_aligned_iff {sql out : String} {cells : List Cell}
    (h : inlinePositional sql cells = .ok out) :
    (∃ xs, Spliced sql cells out xs) ∧
      ∀ xs, Spliced sql cells out xs →
        (Aligned xs ↔ xs.IsChain Splice.Apart) ∧
        (xs.IsChain Splice.Apart → inlinePositional out [] = .ok out) := by
  refine ⟨exists_spliced h, fun xs hxs => ?_⟩
  have hplaces := hxs.divided.places (m := .code) trivial trivial
  have hmeets : Meets .code .code xs := ⟨⟨trivial, trivial, rfl⟩, hplaces, fun hdash => by cases hdash⟩
  refine ⟨hmeets.alignedFrom_iff, fun hchain => ?_⟩
  have hout := hmeets.places_targets hchain
  rw [← hxs.made] at hout
  exact (Fills.of_positionals (Mode.positionals_of_places rfl hout)).inlinePositional

/-- Marks between quotes and comments, and a text that holds the beginnings of both. -/
theorem inlinePositional_aligned_iff_quoted :
    let cell : Cell := some (.text "it's --[?")
    let sql := "'?' || -?1 || ?1--?\n"
    let out := "'?' || -'it''s --[?' || 'it''s --[?'--?\n"
    let xs := "'?' || -".toList.map .kept ++ .mark ['1'] cell ::
      (" || ".toList.map .kept ++ .mark ['1'] cell :: "--?\n".toList.map .kept)
    Spliced sql [cell] out xs ∧ Aligned xs ∧ inlinePositional out [] = .ok out := by
  intro cell sql out xs
  have h : inlinePositional sql [cell] = .ok out := by decide +kernel
  have hxs : Spliced sql [cell] out xs := by
    refine ⟨?_, by decide +kernel, by decide +kernel⟩
    have hpieces : xs.map Splice.piece = spread (scan sql.toList) := by decide +kernel
    exact hpieces ▸ divided_scan sql.toList
  obtain ⟨haligned, hagain⟩ := (inlinePositional_aligned_iff h).2 xs hxs
  have hchain : xs.IsChain Splice.Apart := by decide +kernel
  exact ⟨hxs, haligned.mpr hchain, hagain hchain⟩

/-- A dash before a negative number takes the quote that opens a text into a comment, and leaves a
question mark of the text in code. -/
example :
    inlinePositional "1 -? || '\n?'" [some (.integer (-1))] = .ok "1 --1 || '\n?'" ∧
      inlinePositional "1 --1 || '\n?'" [] = .error (.countMismatch 1 0) := by
  decide +kernel

end TypedSql
