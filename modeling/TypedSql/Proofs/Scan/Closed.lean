import TypedSql.Proofs.Fragment
import TypedSql.Proofs.Scan.Heads

/-!
Text that is closed: read from code it ends in code, and what numbers its positional tokens have is
left to the cells bound to them, one for each bare mark. Comments, names and parentheses in it are
of no account. `x.FillsTo t` says that the cells of a closed fragment make `t` of its text, whatever
stands around it. `x.Spells leaf t` says how a fragment and a text are put together of parts that
form nothing new where they meet; what the parts are filled to, the whole is.
-/

namespace TypedSql

def Parameter.isPositional : Parameter → Bool
  | .positional _ => true
  | .named .. => false

/-- The positional tokens among pieces. -/
def positionals (ps : List Piece) : List Parameter :=
  (ps.filterMap Piece.parameter?).filter Parameter.isPositional

@[simp] theorem positionals_positional (digits : List Char) (ps : List Piece) :
    positionals (.parameter (.positional digits) :: ps) = .positional digits :: positionals ps := rfl

@[simp] theorem positionals_append (ps qs : List Piece) :
    positionals (ps ++ qs) = positionals ps ++ positionals qs := by
  simp [positionals]

/-- The text of pieces with the literals of cells in the place of their positional tokens. -/
def fill : List Piece → List Cell → List Char
  | [], _ => []
  | .parameter (.positional _) :: ps, cell :: cells => cell.literal.toList ++ fill ps cells
  | .parameter (.positional _) :: ps, [] => fill ps []
  | p :: ps, cells => p.text ++ fill ps cells

theorem fill_cons_copied {p : Piece} (hp : ∀ digits, p ≠ .parameter (.positional digits))
    (ps : List Piece) (cells : List Cell) : fill (p :: ps) cells = p.text ++ fill ps cells := by
  rw [fill]
  · exact fun digits _ _ _ => hp digits
  · exact fun digits _ => hp digits

/-- A piece that is no positional token is not counted as one. -/
theorem positionals_cons_copied {p : Piece} (hp : ∀ digits, p ≠ .parameter (.positional digits))
    (ps : List Piece) : positionals (p :: ps) = positionals ps := by
  cases p with
  | char c => rfl
  | parameter t =>
      cases t with
      | named sigil name => rfl
      | positional digits => exact absurd rfl (hp digits)

/-- Pieces whose positional tokens are bare marks are filled by as many cells. -/
theorem replacePositional_fill {ps : List Piece} {cells : List Cell}
    (h : positionals ps = List.replicate cells.length (.positional [])) (before after : List Cell) :
    replacePositional (before ++ cells ++ after) before.length ps =
      .ok (before.length + cells.length, fill ps cells) := by
  induction ps generalizing cells before with
  | nil =>
      have hnone : cells = [] := by
        cases cells with
        | nil => rfl
        | cons cell rest => simp [positionals, List.replicate_succ] at h
      simp [hnone, replacePositional, fill]
  | cons p ps ih =>
      by_cases hp : ∃ digits, p = .parameter (.positional digits)
      · obtain ⟨digits, rfl⟩ := hp
        cases cells with
        | nil => simp at h
        | cons cell rest =>
            rw [positionals_positional, List.length_cons, List.replicate_succ,
              List.cons.injEq, Parameter.positional.injEq] at h
            obtain ⟨rfl, hrest⟩ := h
            have hcell : (before ++ cell :: (rest ++ after))[before.length]? = some cell := by
              simp
            have hnext : replacePositional (before ++ cell :: (rest ++ after)) (before.length + 1) ps =
                .ok (before.length + 1 + rest.length, fill ps rest) := by
              simpa using ih hrest (before ++ [cell])
            have hall : before ++ cell :: rest ++ after = before ++ cell :: (rest ++ after) := by simp
            rw [hall, replacePositional]
            simp only [positionalNumber, List.isEmpty_nil, if_true, literalAt, Nat.add_sub_cancel,
              hcell, Nat.max_eq_right (Nat.le_succ _), bind, Except.bind, Nat.succ_eq_add_one, hnext,
              List.length_cons, Except.ok.injEq, Prod.mk.injEq, fill, and_true]
            omega
      · have hcopied : ∀ digits, p ≠ .parameter (.positional digits) := fun d hd => hp ⟨d, hd⟩
        rw [positionals_cons_copied hcopied] at h
        rw [replacePositional_cons_copied _ _ hcopied, ih h before, fill_cons_copied hcopied]
        rfl

/-- Bare marks count up from the largest number before them, whatever is bound to them. -/
theorem replacePositional_top {ps : List Piece} {n : Nat}
    (h : positionals ps = List.replicate n (.positional [])) (cells : List Cell) (highest : Nat) :
    ∃ out, replacePositional cells highest ps = .ok (highest + n, out) := by
  induction ps generalizing n highest with
  | nil =>
      have hn : n = 0 := by
        cases n with
        | zero => rfl
        | succ n => simp [positionals, List.replicate_succ] at h
      exact ⟨[], by rw [replacePositional, hn, Nat.add_zero]⟩
  | cons p ps ih =>
      by_cases hp : ∃ digits, p = .parameter (.positional digits)
      · obtain ⟨digits, rfl⟩ := hp
        cases n with
        | zero => simp at h
        | succ n =>
            rw [positionals_positional, List.replicate_succ, List.cons.injEq,
              Parameter.positional.injEq] at h
            obtain ⟨rfl, hrest⟩ := h
            obtain ⟨out, hout⟩ := ih hrest (highest + 1)
            refine ⟨literalAt cells (highest + 1) ++ out, ?_⟩
            simp only [replacePositional, positionalNumber, List.isEmpty_nil, if_true, bind,
              Except.bind, Nat.max_eq_right (Nat.le_succ _), Nat.succ_eq_add_one, hout]
            rw [Nat.add_assoc, Nat.add_comm 1 n]
      · have hcopied : ∀ digits, p ≠ .parameter (.positional digits) := fun d hd => hp ⟨d, hd⟩
        rw [positionals_cons_copied hcopied] at h
        obtain ⟨out, hout⟩ := ih h highest
        exact ⟨p.text ++ out, by rw [replacePositional_cons_copied _ _ hcopied, hout]; rfl⟩

/-- Bare marks and cells of another number do not fit. -/
theorem inlinePositional_of_marks {sql : String} {n : Nat} {cells : List Cell}
    (h : positionals (scan sql.toList) = List.replicate n (.positional [])) (hn : n ≠ cells.length) :
    inlinePositional sql cells = .error (.countMismatch n cells.length) := by
  obtain ⟨out, hout⟩ := replacePositional_top h cells 0
  rw [Nat.zero_add] at hout
  simp only [inlinePositional, hout, bind, Except.bind]
  exact if_neg hn

/-- A character that ends whatever is pending in code and begins no parameter. -/
def isGap (c : Char) : Bool := isBoundary c && !isSigil c

/-- A word that begins with a gap. -/
def Parts (w : String) : Prop := w.toList.head?.any isGap = true

instance (w : String) : Decidable (Parts w) := inferInstanceAs (Decidable (_ = true))

theorem Parts.exists_cons {w : String} (h : Parts w) :
    ∃ c cs, w.toList = c :: cs ∧ isGap c = true := by
  rw [Parts] at h
  cases hw : w.toList with
  | nil => simp [hw] at h
  | cons c cs => exact ⟨c, cs, rfl, by simpa [hw] using h⟩

theorem Parts.append {w : String} (h : Parts w) (v : String) : Parts (w ++ v) := by
  obtain ⟨c, cs, hw, hc⟩ := h.exists_cons
  simp [Parts, hw, hc]

theorem parts_space : Parts " " := by decide

namespace Fragment

/-- A fragment whose text ends in code, with one cell for each positional token, all of which are
bare marks. -/
structure Closed (x : Fragment) : Prop where
  ends : (Mode.code.after x.sql.toList).region = .code
  marks : positionals (scan x.sql.toList) = List.replicate x.cells.length (.positional [])

instance (x : Fragment) : Decidable x.Closed :=
  decidable_of_iff
    ((Mode.code.after x.sql.toList).region = .code ∧
      positionals (scan x.sql.toList) = List.replicate x.cells.length (.positional []))
    ⟨fun ⟨h1, h2⟩ => ⟨h1, h2⟩, fun h => ⟨h.ends, h.marks⟩⟩

/-- The text that a fragment compiles to; nothing where it does not compile. -/
def compiled (x : Fragment) : String :=
  match x.compile with
  | .ok text => text
  | .error _ => ""

/-- The text of a fragment ends in code, and its cells make another text of it. -/
structure FillsTo (x : Fragment) (t : String) : Prop where
  ends : (Mode.code.after x.sql.toList).region = .code
  fills : Fills x.sql.toList x.cells t.toList

/-- A fragment that forms nothing new with what it follows. -/
def Apart (x : Fragment) : Prop := ∀ c ∈ x.sql.toList.head?, isGap c = true

theorem apart_raw_append {w : String} (h : Parts w) (x : Fragment) : (raw w ++ x).Apart := by
  obtain ⟨c, cs, hw, hc⟩ := h.exists_cons
  simp [Apart, hw, hc]

theorem apart_enclosed {w : String} (h : Parts w) (x : Fragment) (w' : String) :
    (x.enclosed w w').Apart := by
  obtain ⟨c, cs, hw, hc⟩ := h.exists_cons
  simp [Apart, enclosed, hw, hc]

theorem apart_raw {w : String} (h : w = "" ∨ Parts w) : (raw w).Apart := by
  rcases h with rfl | h
  · simp [Apart]
  · obtain ⟨c, cs, hw, hc⟩ := h.exists_cons
    simp [Apart, hw, hc]

theorem Apart.append {x y : Fragment} (hx : x.Apart) (hy : y.Apart) : (x ++ y).Apart := by
  intro c hc
  rw [sql_append, String.toList_append] at hc
  cases hsql : x.sql.toList with
  | nil => exact hy c (by simpa [hsql] using hc)
  | cons d ds => exact hx c (by simpa [hsql] using hc)

theorem Apart.joins {y : Fragment} (h : y.Apart) (s : List Char) : Joins s y.sql.toList := by
  refine .inr fun c hc => ?_
  have hgap := h c hc
  rw [isGap, Bool.and_eq_true] at hgap
  exact hgap.1

protected theorem append_assoc (x y z : Fragment) : x ++ y ++ z = x ++ (y ++ z) := by
  show Fragment.mk (x.sql ++ y.sql ++ z.sql) (x.cells ++ y.cells ++ z.cells) = _
  rw [String.append_assoc, List.append_assoc]
  rfl

namespace FillsTo

variable {x y : Fragment} {d e : Nat} {s t w : String}

theorem compile (h : x.FillsTo t) : x.compile = .ok t := h.fills.inlinePositional

theorem append (hx : x.FillsTo s) (hy : y.FillsTo t) (hj : Joins x.sql.toList y.sql.toList) :
    (x ++ y).FillsTo (s ++ t) where
  ends := by
    rw [sql_append, String.toList_append]
    exact hj.ends hx.ends hy.ends
  fills := by
    rw [sql_append, cells_append, String.toList_append, String.toList_append]
    exact hx.fills.append hy.fills hx.ends hj

theorem raw_self (h : Reads d e 0 w.toList) : (raw w).FillsTo w :=
  ⟨h.ends, .of_no_parameter h.marks⟩

theorem bound (cell : Cell) : (bound cell).FillsTo cell.literal := by
  have hmark : (Fragment.bound cell).sql.toList = ['?'] := show "?".toList = ['?'] by decide
  constructor
  · rw [hmark]
    rfl
  · rw [hmark]
    exact .mark cell

end FillsTo

namespace Closed

variable {x y : Fragment} {d e : Nat} {w : String}

theorem raw_self (h : Reads d e 0 w.toList) : (raw w).Closed where
  ends := h.ends
  marks := by
    have hnone : parameters w.toList = [] := h.marks
    rw [parameters] at hnone
    rw [sql_raw, positionals, hnone]
    rfl

theorem bound (cell : Cell) : (bound cell).Closed := by
  have hmark : (Fragment.bound cell).sql.toList = ['?'] := show "?".toList = ['?'] by decide
  constructor
  · rw [hmark]
    rfl
  · rw [hmark]
    rfl

theorem append (hx : x.Closed) (hy : y.Closed) (hj : Joins x.sql.toList y.sql.toList) :
    (x ++ y).Closed where
  ends := by
    rw [sql_append, String.toList_append]
    exact hj.ends hx.ends hy.ends
  marks := by
    rw [sql_append, String.toList_append, hj.scan_append hx.ends, positionals_append, hx.marks,
      hy.marks, cells_append, List.length_append, List.replicate_append_replicate]

end Closed

/-! ## Putting parts together -/

/-- A fragment and a text that are put together in the same way, of words and of parts that come
with a text of their own. A part that follows another one stands apart from it, unless it follows a
word that leaves nothing pending. -/
inductive Spells (leaf : Fragment → String → Prop) : Fragment → String → Prop where
  | leaf {x : Fragment} {t : String} (h : leaf x t) : Spells leaf x t
  | word {d e : Nat} {w : String} (h : Reads d e 0 w.toList) : Spells leaf (raw w) w
  | word_append {d e : Nat} {w : String} {x : Fragment} {t : String} (hw : Word d e w)
      (hx : Spells leaf x t) : Spells leaf (raw w ++ x) (w ++ t)
  | append {x y : Fragment} {s t : String} (hx : Spells leaf x s) (hy : Spells leaf y t)
      (hapart : y.Apart) : Spells leaf (x ++ y) (s ++ t)

namespace Spells

variable {leaf : Fragment → String → Prop} {x y : Fragment} {d e : Nat} {s t w : String}

theorem append_word (hx : x.Spells leaf s) (hw : Reads d e 0 w.toList) (hp : Parts w) :
    (x ++ raw w).Spells leaf (s ++ w) :=
  hx.append (.word hw) (apart_raw (.inr hp))

/-- A word between two fragments keeps them apart. -/
theorem between (hx : x.Spells leaf s) (hw : Word d e w) (hp : Parts w) (hy : y.Spells leaf t) :
    (x ++ raw w ++ y).Spells leaf (s ++ w ++ t) := by
  rw [Fragment.append_assoc, String.append_assoc]
  exact hx.append (.word_append hw hy) (apart_raw_append hp y)

theorem enclosed {w' : String} {d' e' : Nat} (hw : Word d e w) (hx : x.Spells leaf s)
    (hw' : Reads d' e' 0 w'.toList) (hp : Parts w') :
    (x.enclosed w w').Spells leaf (w ++ s ++ w') :=
  (word_append hw hx).append_word hw' hp

/-- A function applied to an argument. -/
theorem applied {function : String} (hf : Word 0 1 (function ++ "(")) (hx : x.Spells leaf s) :
    (x.applied function).Spells leaf (function ++ "(" ++ s ++ ")") :=
  enclosed hf hx (show Reads 1 0 0 ")".toList by decide) (by decide)

/-- An operator between two operands, in parentheses. -/
theorem infixed {operator : String} (hop : Word d e (" " ++ operator ++ " "))
    (hx : x.Spells leaf s) (hy : y.Spells leaf t) :
    (Fragment.infixed operator x y).Spells leaf
      ("(" ++ s ++ (" " ++ operator ++ " ") ++ t ++ ")") := by
  have hopen : Word 0 1 "(" := by decide
  have hclose : Reads 1 0 0 ")".toList := by decide
  have hp : Parts (" " ++ operator ++ " ") := (parts_space.append operator).append " "
  exact ((word_append hopen hx).between hop hp hy).append_word hclose (by decide)

/-- Fragments with a separator between them. -/
theorem joined {α : Type} {f : α → Fragment} {g : α → String} {xs : List α}
    (hw : Word d e w) (hp : Parts w) (h : ∀ a ∈ xs, (f a).Spells leaf (g a)) :
    (Fragment.joined w (xs.map f)).Spells leaf (w.intercalate (xs.map g)) := by
  induction xs with
  | nil => exact .word (show Reads 0 0 0 "".toList by decide)
  | cons a as ih =>
      have ha := h a List.mem_cons_self
      have has := ih fun b hb => h b (List.mem_cons_of_mem a hb)
      cases as with
      | nil => exact ha
      | cons b bs =>
          simp only [List.map_cons, String.intercalate_cons_cons]
          exact ha.between hw hp has

theorem commas {α : Type} {f : α → Fragment} {g : α → String} {xs : List α}
    (h : ∀ a ∈ xs, (f a).Spells leaf (g a)) :
    (Fragment.commas (xs.map f)).Spells leaf (", ".intercalate (xs.map g)) :=
  joined (show Word 0 0 ", " by decide) (by decide) h

/-- What is put together of parts that are filled is filled. -/
theorem fillsTo (h : x.Spells leaf t) (hleaf : ∀ x t, leaf x t → x.FillsTo t) : x.FillsTo t := by
  induction h with
  | leaf h => exact hleaf _ _ h
  | word h => exact .raw_self h
  | word_append hw _ ih => exact (FillsTo.raw_self hw.reads).append ih (.inl hw.settled)
  | append _ _ hapart ihx ihy => exact ihx.append ihy (hapart.joins _)

end Spells

/-- A property of bound cells and of words that is kept wherever fragments are put together. -/
structure Compositional (P : Fragment → Prop) : Prop where
  bound (cell : Cell) : P (bound cell)
  word {d e : Nat} {w : String} (h : Reads d e 0 w.toList) : P (raw w)
  word_append {d e : Nat} {w : String} {x : Fragment} (hw : Word d e w) (hx : P x) : P (raw w ++ x)
  append {x y : Fragment} (hx : P x) (hy : P y) (hapart : y.Apart) : P (x ++ y)

/-- What is put together of parts with a compositional property has it. -/
theorem Compositional.spells {P : Fragment → Prop} (hP : Compositional P)
    {leaf : Fragment → String → Prop} {x : Fragment} {t : String} (h : x.Spells leaf t)
    (hleaf : ∀ x t, leaf x t → P x) : P x := by
  induction h with
  | leaf h => exact hleaf _ _ h
  | word h => exact hP.word h
  | word_append hw _ ih => exact hP.word_append hw ih
  | append _ _ hapart ihx ihy => exact hP.append ihx ihy hapart

/-- Parts that have a property, whatever their texts are. -/
abbrev Part (P : Fragment → Prop) (x : Fragment) (_ : String) : Prop := P x

theorem Spells.part {P : Fragment → Prop} {x : Fragment} (h : P x) : x.Spells (Part P) "" := .leaf h

theorem Compositional.parts {P : Fragment → Prop} (hP : Compositional P) {x : Fragment} {t : String}
    (h : x.Spells (Part P) t) : P x :=
  hP.spells h fun _ _ hx => hx

theorem Closed.compositional : Compositional Closed where
  bound := .bound
  word := .raw_self
  word_append hw hx := (Closed.raw_self hw.reads).append hx (.inl hw.settled)
  append hx hy hapart := hx.append hy (hapart.joins _)

/-- The cells of a closed fragment take the places of its marks. -/
theorem Closed.fills {x : Fragment} (h : x.Closed) :
    Fills x.sql.toList x.cells (fill (scan x.sql.toList) x.cells) :=
  replacePositional_fill h.marks

theorem Closed.compile {x : Fragment} (h : x.Closed) :
    x.compile = .ok (String.ofList (fill (scan x.sql.toList) x.cells)) := by
  have hfills := h.fills
  rw [← String.toList_ofList (l := fill (scan x.sql.toList) x.cells)] at hfills
  exact hfills.inlinePositional

theorem Closed.fillsTo {x : Fragment} (h : x.Closed) : x.FillsTo x.compiled := by
  rw [compiled, h.compile]
  refine ⟨h.ends, ?_⟩
  rw [String.toList_ofList]
  exact h.fills

end Fragment

end TypedSql
