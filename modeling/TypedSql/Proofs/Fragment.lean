import TypedSql.Fragment
import TypedSql.Proofs.Scan.Inlining

/-!
Fragments and what becomes of them by inlining. `x.InlinesTo d e y` says that the cells of `x`
fill its question marks, that this turns its text into that of `y`, and that both are read from
code to code, from `d` open parentheses to `e`. The relation is kept by every way to put fragments
together, with one condition: the words between them must keep them apart.
-/

namespace TypedSql

/-- A word that is read from code to code and leaves nothing pending. -/
structure Word (d e : Nat) (w : String) : Prop where
  reads : Reads d e 0 w.toList
  settled : Mode.code.after w.toList = .code

instance (d e : Nat) (w : String) : Decidable (Word d e w) :=
  decidable_of_iff (Reads d e 0 w.toList ∧ Mode.code.after w.toList = .code)
    ⟨fun ⟨h1, h2⟩ => ⟨h1, h2⟩, fun h => ⟨h.reads, h.settled⟩⟩

/-- A word that forms nothing new with what it follows. -/
def Breaks (w : String) : Prop := w.toList.head?.any isBoundary = true

instance (w : String) : Decidable (Breaks w) := inferInstanceAs (Decidable (_ = true))

theorem Breaks.exists_cons {w : String} (h : Breaks w) :
    ∃ c cs, w.toList = c :: cs ∧ isBoundary c = true := by
  rw [Breaks] at h
  cases hw : w.toList with
  | nil => simp [hw] at h
  | cons c cs => exact ⟨c, cs, rfl, by simpa [hw] using h⟩

theorem Breaks.append {w : String} (h : Breaks w) (v : String) : Breaks (w ++ v) := by
  obtain ⟨c, cs, hw, hc⟩ := h.exists_cons
  simp [Breaks, hw, hc]

theorem breaks_space : Breaks " " := by decide

/-- A function's name, followed by the parenthesis before its arguments. -/
theorem Word.open_after {w : String} (h : Reads 0 0 0 w.toList) : Word 0 1 (w ++ "(") where
  reads := by
    rw [String.toList_append]
    exact h.append (show Reads 0 1 0 "(".toList by decide) (.inr fun c hc => by
      cases hc
      decide)
  settled := by
    rw [String.toList_append]
    exact after_append_boundary (t := []) h.ends (by decide)

namespace Fragment

theorem eq_of_sql_eq {x y : Fragment} (hsql : x.sql = y.sql) (hcells : x.cells = y.cells) :
    x = y := by
  cases x
  cases y
  cases hsql
  cases hcells
  rfl

theorem raw_empty_append (x : Fragment) : raw "" ++ x = x :=
  eq_of_sql_eq String.empty_append (List.nil_append _)

theorem append_raw_empty (x : Fragment) : x ++ raw "" = x :=
  eq_of_sql_eq String.append_empty (List.append_nil _)
theorem append_right_inj {x y z : Fragment} : x ++ y = x ++ z ↔ y = z := by
  constructor
  · intro h
    have hsql : x.sql ++ y.sql = x.sql ++ z.sql := congrArg sql h
    have hcells : x.cells ++ y.cells = x.cells ++ z.cells := congrArg cells h
    exact eq_of_sql_eq (by simpa using hsql) (by simpa using hcells)
  · exact congrArg _

theorem enclosed_inj {before after : String} {x y : Fragment} :
    x.enclosed before after = y.enclosed before after ↔ x = y := by
  constructor
  · intro h
    have hsql := congrArg sql h
    have hcells := congrArg cells h
    simp only [enclosed, sql_append, cells_append] at hsql hcells
    exact eq_of_sql_eq (by simpa using hsql) (by simpa using hcells)
  · exact fun h => h ▸ rfl

theorem sql_joined (separator : String) (xs : List Fragment) :
    (joined separator xs).sql = separator.intercalate (xs.map sql) := by
  induction xs with
  | nil => rfl
  | cons x xs ih =>
      cases xs with
      | nil => rfl
      | cons y ys =>
          rw [joined, sql_append, sql_append, sql_raw, ih]
          · simp only [List.map_cons, String.intercalate_cons_cons]
          · exact List.cons_ne_nil y ys

theorem cells_joined (separator : String) (xs : List Fragment) :
    (joined separator xs).cells = xs.flatMap cells := by
  induction xs with
  | nil => rfl
  | cons x xs ih =>
      cases xs with
      | nil => simp [joined]
      | cons y ys =>
          rw [joined, cells_append, cells_append, cells_raw, List.append_nil, ih]
          · simp only [List.flatMap_cons]
          · exact List.cons_ne_nil y ys

/-- A fragment's cells fill its marks, which makes it the text of another fragment. -/
def InlinesTo (d e : Nat) (x y : Fragment) : Prop :=
  Inlines d e x.sql.toList x.cells y.sql.toList

namespace InlinesTo

variable {d e f : Nat} {x y u v : Fragment} {w w' : String}

/-- Text that binds nothing stays. -/
theorem raw_self (h : Reads d e 0 w.toList) : (raw w).InlinesTo d e (raw w) := .same h

theorem bound_raw (cell : Cell) : (bound cell).InlinesTo 0 0 (raw cell.literal) := by
  have hmark : "?".toList = ['?'] := by decide
  rw [InlinesTo, sql_bound, cells_bound, sql_raw, hmark]
  exact .mark cell

theorem within (h : x.InlinesTo d e y) (k : Nat) : x.InlinesTo (d + k) (e + k) y :=
  Inlines.within h k

/-- Two fragments one after the other, when the first leaves nothing pending on either side. -/
theorem append_settled (h : x.InlinesTo d e y) (h' : u.InlinesTo e f v)
    (hx : Mode.code.after x.sql.toList = .code) (hy : Mode.code.after y.sql.toList = .code) :
    (x ++ u).InlinesTo d f (y ++ v) := by
  simp only [InlinesTo, sql_append, cells_append, String.toList_append]
  exact Inlines.append h h' (.inl hx) (.inl hy)

theorem word_append (hw : Word d e w) (h : x.InlinesTo e f y) :
    (raw w ++ x).InlinesTo d f (raw w ++ y) :=
  (raw_self hw.reads).append_settled h hw.settled hw.settled

theorem append_word (h : x.InlinesTo d e y) (hw : Reads e f 0 w.toList) (hb : Breaks w) :
    (x ++ raw w).InlinesTo d f (y ++ raw w) := by
  obtain ⟨c, cs, hc, hbound⟩ := hb.exists_cons
  have hj : ∀ s : List Char, Joins s w.toList := fun s => .inr (by simp [hc, hbound])
  simp only [InlinesTo, sql_append, cells_append, String.toList_append]
  exact Inlines.append h (.same hw) (hj _) (hj _)

/-- A word between two fragments keeps them apart. -/
theorem between (h : x.InlinesTo d d y) (hw : Word d d w) (hb : Breaks w)
    (h' : u.InlinesTo d d v) : (x ++ raw w ++ u).InlinesTo d d (y ++ raw w ++ v) := by
  have hwu := h.append_word hw.reads hb
  obtain ⟨c, cs, hc, hbound⟩ := hb.exists_cons
  have settled : ∀ {s : List Char}, (Mode.code.after s).region = .code →
      Mode.code.after (s ++ w.toList) = .code := by
    intro s hs
    rw [hc, after_append_boundary hs hbound, ← hc, hw.settled]
  apply hwu.append_settled h'
  · rw [sql_append, String.toList_append]
    exact settled h.source.ends
  · rw [sql_append, String.toList_append]
    exact settled h.target.ends

theorem enclosed (hw : Word d e w) (h : x.InlinesTo e e y) (hw' : Reads e d 0 w'.toList)
    (hb : Breaks w') : (x.enclosed w w').InlinesTo d d (y.enclosed w w') :=
  (word_append hw h).append_word hw' hb

/-- A function applied to an argument. -/
theorem applied {function : String} (hf : Word 0 1 (function ++ "(")) (h : x.InlinesTo 0 0 y) :
    (x.applied function).InlinesTo 0 0 (y.applied function) :=
  enclosed hf (h.within 1) (by decide) (by decide)

/-- An operator between two operands, in parentheses. -/
theorem infixed {operator : String} (hop : Word 0 0 (" " ++ operator ++ " "))
    (hl : x.InlinesTo 0 0 y) (hr : u.InlinesTo 0 0 v) :
    (Fragment.infixed operator x u).InlinesTo 0 0 (Fragment.infixed operator y v) := by
  have hb : Breaks (" " ++ operator ++ " ") := (breaks_space.append operator).append " "
  have inner := (hl.between hop hb hr).within 1
  have hopen : Word 0 1 "(" := by decide
  have hclose : Reads 1 0 0 ")".toList := by decide
  have whole := (word_append hopen inner).append_word hclose (by decide)
  simpa only [InlinesTo, Fragment.infixed, sql_append, cells_append, String.append_assoc,
    List.append_assoc] using whole

/-- A list of fragments, each inlined by itself. -/
theorem commas {α : Type} {f g : α → Fragment} {xs : List α}
    (h : ∀ x ∈ xs, (f x).InlinesTo 0 0 (g x)) :
    (Fragment.commas (xs.map f)).InlinesTo 0 0 (Fragment.commas (xs.map g)) := by
  induction xs with
  | nil => exact raw_self (by decide)
  | cons x xs ih =>
      have hx := h x List.mem_cons_self
      have hxs := ih fun z hz => h z (List.mem_cons_of_mem x hz)
      cases xs with
      | nil => exact hx
      | cons => exact hx.between (by decide) (by decide) hxs

/-- The cells of a fragment compile to the text it is inlined to. -/
theorem compile (h : x.InlinesTo d e y) : x.compile = .ok y.sql := h.fills.inlinePositional

/-- What inlining leaves has no parameters: inlined again, it stays as it is. -/
theorem target_inlinePositional (h : x.InlinesTo d e y) :
    inlinePositional y.sql [] = .ok y.sql :=
  (Fills.of_no_parameter h.target.marks).inlinePositional

end InlinesTo

end Fragment

end TypedSql
