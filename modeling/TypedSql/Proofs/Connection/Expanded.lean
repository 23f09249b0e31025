import TypedSql.Proofs.Connection.Slots
import TypedSql.Proofs.Scan.Closed
import TypedSql.Proofs.Scan.Heads
import TypedSql.Proofs.Scan.Names

/-!
The text of a statement with its values in it. What it should be is clear from the numbers of the
parameters: each one is replaced by the literal of the value of its number. Positional and named
values are put in by two readers, each of which leaves the parameters of the other kind alone. So
the text is right exactly where all parameters are of the kind that the values are given in.
-/

namespace TypedSql

/-- Pieces with each parameter replaced by the literal of the value of its number. -/
def substitute (value : Nat → Cell) (p : Sql.Parameters) : List Piece → List Char
  | [] => []
  | .char c :: rest => c :: substitute value p rest
  | .parameter t :: rest =>
      (value (p.read t).1).literal.toList ++ substitute value (p.read t).2 rest

/-- The parameters among pieces. -/
def tokensOf (ps : List Piece) : List Parameter := ps.filterMap Piece.parameter?

theorem tokensOf_char (c : Char) (ps : List Piece) : tokensOf (.char c :: ps) = tokensOf ps := rfl

theorem tokensOf_parameter (t : Parameter) (ps : List Piece) :
    tokensOf (.parameter t :: ps) = t :: tokensOf ps := rfl

section
variable {value : Nat → Cell} {p : Sql.Parameters} {ps : List Piece} {cells : List Cell}
  {pairs : List (String × Cell)} {out : List Char}

open Sql.Parameters (ValidMark)

/-- A text with a parameter is not the text with the parameter replaced. -/
theorem text_ne_substitute (hknown : Mode.AllKnown ps) (htokens : tokensOf ps ≠ []) :
    ps.flatMap Piece.text ≠ substitute value p ps := by
  induction ps with
  | nil => exact absurd rfl htokens
  | cons piece rest ih =>
      cases piece with
      | char c =>
          have hrest := ih (fun t ht => hknown t (List.mem_cons_of_mem _ ht)) htokens
          exact fun heq => hrest (List.cons.inj heq).2
      | parameter t => exact text_append_ne (hknown t List.mem_cons_self) _ _ _

/-! ## Positional values -/

theorem positionalNumber_read {digits : List Char} (h : ValidMark (.positional digits)) :
    positionalNumber p.count digits = .ok (p.read (.positional digits)).1 ∧
      (p.read (.positional digits)).2.count =
        max p.count (p.read (.positional digits)).1 := by
  unfold positionalNumber Sql.Parameters.read
  rcases h with rfl | h
  · exact ⟨rfl, (Nat.max_eq_right (Nat.le_succ _)).symm⟩
  · dsimp only
    split
    · exact ⟨rfl, (Nat.max_eq_right (Nat.le_succ _)).symm⟩
    · exact ⟨rfl, rfl⟩

/-- Marks are replaced by the values of their numbers, if there is nothing else to be replaced. -/
theorem replacePositional_eq_substitute (hvalid : ∀ t ∈ tokensOf ps, ValidMark t)
    (hkind : ∀ t ∈ tokensOf ps, t.isPositional = true) (hnum : p.WellNumbered)
    (hvalue : ∀ n, 1 ≤ n → n ≤ (p.readAll (tokensOf ps)).count → cells[n - 1]? = some (value n)) :
    replacePositional cells p.count ps =
      .ok ((p.readAll (tokensOf ps)).count, substitute value p ps) := by
  induction ps generalizing p with
  | nil => rfl
  | cons piece rest ih =>
      cases piece with
      | char c =>
          rw [replacePositional_cons_copied _ _ (by simp), ih hvalid hkind hnum hvalue]
          rfl
      | parameter t =>
          rw [tokensOf_parameter] at hvalid hkind hvalue
          have ht := hvalid t List.mem_cons_self
          have hrest : ∀ u ∈ tokensOf rest, ValidMark u :=
            fun u hu => hvalid u (List.mem_cons_of_mem t hu)
          cases t with
          | named sigil name => exact absurd (hkind _ List.mem_cons_self) (by simp [Parameter.isPositional])
          | positional digits =>
              obtain ⟨hnumber, hcount⟩ := positionalNumber_read (p := p) ht
              have hread := hnum.read ht
              have hnext := ih hrest (fun u hu => hkind u (List.mem_cons_of_mem _ hu)) hread hvalue
              have hbounds := hnum.read_bounds ht
              have hcell := hvalue _ hbounds.1
                (Nat.le_trans hbounds.2.1 (hread.count_le_readAll hrest))
              rw [replacePositional, hnumber]
              simp only [bind, Except.bind, ← hcount, hnext, literalAt, hcell]
              rfl

/-- A name that positional values leave alone is still there. -/
theorem replacePositional_ne_substitute (hknown : Mode.AllKnown ps)
    (hvalid : ∀ t ∈ tokensOf ps, ValidMark t) (hnum : p.WellNumbered)
    (hkind : ∃ t ∈ tokensOf ps, t.isPositional = false)
    (hvalue : ∀ n, 1 ≤ n → n ≤ (p.readAll (tokensOf ps)).count → cells[n - 1]? = some (value n))
    {top : Nat} (h : replacePositional cells p.count ps = .ok (top, out)) :
    out ≠ substitute value p ps := by
  induction ps generalizing p top out with
  | nil =>
      obtain ⟨t, ht, -⟩ := hkind
      simp [tokensOf] at ht
  | cons piece rest ih =>
      have hrestKnown : Mode.AllKnown rest := fun t ht => hknown t (List.mem_cons_of_mem _ ht)
      have copied (hcopied : ∀ digits, piece ≠ .parameter (.positional digits)) :
          ∃ inner, replacePositional cells p.count rest = .ok (top, inner) ∧
            out = piece.text ++ inner := by
        rw [replacePositional_cons_copied _ _ hcopied] at h
        cases hrest : replacePositional cells p.count rest with
        | error e =>
            rw [hrest] at h
            cases h
        | ok a =>
            rw [hrest] at h
            cases h
            exact ⟨a.2, rfl, rfl⟩
      cases piece with
      | char c =>
          obtain ⟨inner, hinner, rfl⟩ := copied (by simp)
          have hne := ih hrestKnown hvalid hnum hkind hvalue hinner
          exact fun heq => hne (List.cons.inj heq).2
      | parameter t =>
          rw [tokensOf_parameter] at hvalid hkind hvalue
          have ht := hvalid t List.mem_cons_self
          have hrest : ∀ u ∈ tokensOf rest, ValidMark u :=
            fun u hu => hvalid u (List.mem_cons_of_mem t hu)
          cases t with
          | named sigil name =>
              obtain ⟨inner, -, rfl⟩ := copied (by simp)
              exact text_append_ne (hknown _ List.mem_cons_self) _ _ _
          | positional digits =>
              obtain ⟨hnumber, hcount⟩ := positionalNumber_read (p := p) ht
              have hread := hnum.read ht
              have hbounds := hnum.read_bounds ht
              have hcell := hvalue _ hbounds.1
                (Nat.le_trans hbounds.2.1 (hread.count_le_readAll hrest))
              rw [replacePositional, hnumber] at h
              obtain ⟨n, hn, h⟩ := ok_of_bind h
              cases hn
              obtain ⟨⟨_, inner⟩, hinner, h⟩ := ok_of_bind h
              cases h
              rw [← hcount] at hinner
              have hlater : ∃ u ∈ tokensOf rest, u.isPositional = false := by
                obtain ⟨u, hu, hnamed⟩ := hkind
                rcases List.mem_cons.mp hu with rfl | hu
                · cases hnamed
                · exact ⟨u, hu, hnamed⟩
              have hne := ih hrestKnown hrest hread hlater hvalue hinner
              rw [literalAt, hcell]
              exact fun heq => hne (List.append_cancel_left heq)

/-! ## Named values -/

/-- Names are replaced by the values of their numbers; the text is right unless a mark is left. -/
theorem replaceNamed_substitute (hknown : Mode.AllKnown ps)
    (hvalue : ∀ name n, (p.readAll (tokensOf ps)).number? name = some n →
      pairs.lookup name = some (value n)) :
    ∃ out, replaceNamed pairs ps = .ok out ∧
      (out = substitute value p ps ↔ ∀ t ∈ tokensOf ps, t.isPositional = false) := by
  induction ps generalizing p with
  | nil => exact ⟨[], rfl, by simp [substitute, tokensOf]⟩
  | cons piece rest ih =>
      have hrestKnown : Mode.AllKnown rest := fun t ht => hknown t (List.mem_cons_of_mem _ ht)
      cases piece with
      | char c =>
          obtain ⟨out, hout, hiff⟩ := ih hrestKnown hvalue
          refine ⟨c :: out, ?_, ?_⟩
          · rw [replaceNamed, hout]
            · rfl
            · simp
          · rw [substitute, List.cons.injEq, tokensOf_char]
            simpa using hiff
      | parameter t =>
          rw [tokensOf_parameter] at hvalue
          obtain ⟨out, hout, hiff⟩ := ih hrestKnown hvalue
          cases t with
          | positional digits =>
              refine ⟨(Parameter.positional digits).text ++ out, ?_, ?_⟩
              · rw [replaceNamed, hout]
                · rfl
                · simp
              · constructor
                · intro heq
                  exact absurd heq (text_append_ne (hknown _ List.mem_cons_self) _ _ _)
                · intro hkind
                  exact absurd (hkind _ List.mem_cons_self) (by simp [Parameter.isPositional])
          | named sigil name =>
              have hsigil := (hknown _ List.mem_cons_self).ne_mark
              have hnumber := Sql.Parameters.number?_readAll hsigil (tokensOf rest)
                (Sql.Parameters.number?_read p sigil name)
              have hlookup := hvalue _ _ hnumber
              refine ⟨(value (p.read (.named sigil name)).1).literal.toList ++ out, ?_, ?_⟩
              · rw [replaceNamed]
                simp only [hlookup, hout]
                rfl
              · rw [substitute, List.append_cancel_left_eq, hiff, tokensOf_parameter,
                  List.forall_mem_cons]
                simp [Parameter.isPositional]

end

def Bindings.isPositional : Bindings → Bool
  | .positional _ => true
  | .named _ => false

namespace Prepared

variable {s t : Prepared} {given : Bindings}

/-- The parameters of a statement are those that are found in its text, numbered from left to
right. -/
structure Numbered (s : Prepared) : Prop where
  parameters : s.statement.parameters = Sql.Parameters.readAll {} (parameters s.sql.toList)
  valid : ∀ t ∈ TypedSql.parameters s.sql.toList, Sql.Parameters.ValidMark t

theorem Numbered.wellNumbered (h : s.Numbered) : s.statement.parameters.WellNumbered := by
  rw [h.parameters]
  exact Sql.Parameters.WellNumbered.empty.readAll h.valid

/-- The value that is given for the parameter of a number. -/
def valueOf (s : Prepared) (given : Bindings) (n : Nat) : Cell := (s.cell? n given).getD none

/-- The text of a statement with the literal of its value for every parameter. -/
def inlined (s : Prepared) (given : Bindings) : String :=
  String.ofList (substitute (s.valueOf given) {} (scan s.sql.toList))

theorem inline_positional (hnum : s.Numbered) {cells : List Cell} {slots : List Datum}
    (hfilled : s.filled (.positional cells) = .ok slots) :
    ((∀ p ∈ parameters s.sql.toList, p.isPositional = true) →
        inlinePositional s.sql cells = .ok (s.inlined (.positional cells))) ∧
      ((∃ p ∈ parameters s.sql.toList, p.isPositional = false) →
        ∀ text, inlinePositional s.sql cells = .ok text → text ≠ s.inlined (.positional cells)) := by
  have hwell := hnum.wellNumbered
  obtain ⟨hlength, -⟩ := filled_positional hfilled
  rw [parameterCount, hnum.parameters] at hlength
  have hvalue : ∀ n, 1 ≤ n →
      n ≤ (Sql.Parameters.readAll {} (tokensOf (scan s.sql.toList))).count →
      cells[n - 1]? = some (s.valueOf (.positional cells) n) := by
    intro n h1 hn
    obtain ⟨cell, hcell⟩ := exists_cell? hwell hfilled h1 (by rwa [parameterCount, hnum.parameters])
    rw [valueOf, hcell]
    exact hcell
  constructor
  · intro hkind
    have hreplace := replacePositional_eq_substitute hnum.valid hkind .empty hvalue
    have hcount : (Sql.Parameters.readAll {} (tokensOf (scan s.sql.toList))).count =
        cells.length := hlength.symm
    rw [inlinePositional, hreplace, hcount]
    exact if_pos rfl
  · intro hkind text htext heq
    obtain ⟨⟨top, out⟩, hreplace, htext⟩ := ok_of_bind htext
    have hne := replacePositional_ne_substitute (scan_sigilKnown s.sql.toList) hnum.valid .empty
      hkind hvalue hreplace
    dsimp only at htext
    split at htext
    · cases htext
      exact hne (String.ofList_injective heq)
    · cases htext

theorem inline_named (hnum : s.Numbered) {pairs : List (String × Cell)} {slots : List Datum}
    (hfilled : s.filled (.named pairs) = .ok slots) :
    ∃ text, inlineNamed s.sql pairs = .ok text ∧
      (text = s.inlined (.named pairs) ↔
        ∀ p ∈ parameters s.sql.toList, p.isPositional = false) := by
  have hwell := hnum.wellNumbered
  obtain ⟨-, hnames, -⟩ := filled_named hfilled
  have hvalue : ∀ name n,
      (Sql.Parameters.readAll {} (tokensOf (scan s.sql.toList))).number? name = some n →
      pairs.lookup name = some (s.valueOf (.named pairs) n) := by
    intro name n hname
    have hnumber : s.statement.parameters.number? name = some n := by rwa [hnum.parameters]
    have hbounds := hwell.bounded name n hnumber
    obtain ⟨cell, hcell⟩ := exists_cell? hwell hfilled hbounds.1 hbounds.2
    rw [valueOf, hcell]
    rw [cell?, Option.map_eq_some_iff] at hcell
    obtain ⟨p, hp, rfl⟩ := hcell
    have hfound : s.statement.parameters.number? p.1 = some n := by
      simpa using List.find?_some hp
    have hsame : p.1 = name := hwell.distinct p.1 name n hfound hnumber
    rw [← hsame]
    exact lookup_of_mem hnames (List.mem_of_find?_eq_some hp)
  obtain ⟨out, hout, hiff⟩ := replaceNamed_substitute (scan_sigilKnown s.sql.toList) hvalue
  refine ⟨String.ofList out, ?_, ?_⟩
  · rw [inlineNamed, firstDuplicate_of_nodup hnames]
    simp only [hout]
    rfl
  · rw [inlined, String.ofList_inj]
    exact hiff

/-- The text with the values that were accepted is right exactly where every parameter is of the
kind that they are given in. There the values fit the text, so that it is never left as it is. -/
theorem expanded_iff (hnum : s.Numbered) (hbind : s.bind given = .ok t) :
    (t.expanded = s.inlined given ↔
        ∀ p ∈ parameters s.sql.toList, p.isPositional = given.isPositional) ∧
      ((∀ p ∈ parameters s.sql.toList, p.isPositional = given.isPositional) →
        given.inline s.sql = .ok (s.inlined given)) ∧
      ∀ n, 1 ≤ n → n ≤ s.parameterCount → s.cell? n given = some (s.valueOf given n) := by
  obtain ⟨slots, hfilled, ht⟩ := ok_of_bind hbind
  cases ht
  have hcells : ∀ n, 1 ≤ n → n ≤ s.parameterCount →
      s.cell? n given = some (s.valueOf given n) := by
    intro n h1 hn
    obtain ⟨cell, hcell⟩ := exists_cell? hnum.wellNumbered hfilled h1 hn
    rw [valueOf, hcell]
    rfl
  cases given with
  | positional cells =>
      obtain ⟨hright, hwrong⟩ := inline_positional hnum hfilled
      refine ⟨⟨fun hexpanded => ?_, fun hkind => ?_⟩, hright, hcells⟩
      · by_cases hnamed : ∃ p ∈ parameters s.sql.toList, p.isPositional = false
        · -- a name is left, or the whole text is
          exfalso
          rw [expanded] at hexpanded
          cases htext : inlinePositional s.sql cells with
          | ok text =>
              rw [Bindings.inline, htext] at hexpanded
              exact hwrong hnamed text htext hexpanded
          | error e =>
              rw [Bindings.inline, htext] at hexpanded
              obtain ⟨p, hp, -⟩ := hnamed
              have hne : (scan s.sql.toList).flatMap Piece.text ≠
                  substitute (s.valueOf (.positional cells)) {} (scan s.sql.toList) :=
                text_ne_substitute (scan_sigilKnown s.sql.toList) (List.ne_nil_of_mem hp)
              rw [text_scan] at hne
              apply hne
              rw [← String.toList_ofList (l := substitute _ _ _)]
              exact congrArg String.toList hexpanded
        · intro p hp
          cases hpositional : p.isPositional with
          | true => rfl
          | false => exact absurd ⟨p, hp, hpositional⟩ hnamed
      · rw [expanded, Bindings.inline, hright hkind]
  | named pairs =>
      obtain ⟨text, htext, hiff⟩ := inline_named hnum hfilled
      refine ⟨?_, fun hkind => ?_, hcells⟩
      · rw [expanded, Bindings.inline, htext]
        exact hiff
      · rw [Bindings.inline, htext, hiff.mpr hkind]

/-- A name takes its value by position as well as by name, and only one of the two is seen in the
text. -/
theorem expanded_iff_name :
    ∃ s t u : Prepared, s.sql = "SELECT :a" ∧ s.Numbered ∧
      s.bind (.positional [some (.integer 1)]) = .ok t ∧
      s.bind (.named [(":a", some (.integer 1))]) = .ok u ∧
      t.slots = u.slots ∧
      t.expanded ≠ s.inlined (.positional [some (.integer 1)]) ∧
      u.expanded = s.inlined (.named [(":a", some (.integer 1))]) := by
  let s : Prepared :=
    { sql := "SELECT :a", statement := ⟨.empty, ⟨1, [(":a", 1)]⟩, []⟩, slots := [.null] }
  have hparameters : parameters s.sql.toList = [.named ':' ['a']] := by decide
  have hnum : s.Numbered := by
    refine ⟨?_, fun p hp => ?_⟩
    · rw [hparameters]
      rfl
    · rw [hparameters, List.mem_singleton] at hp
      rw [hp]
      trivial
  have hbind : s.bind (.positional [some (.integer 1)]) =
      .ok { s with slots := [.integer 1], bound := .positional [some (.integer 1)], isBound := true } :=
    rfl
  have hbindNamed : s.bind (.named [(":a", some (.integer 1))]) =
      .ok { s with
        slots := [.integer 1], bound := .named [(":a", some (.integer 1))], isBound := true } :=
    rfl
  have hpositional := expanded_iff hnum hbind
  have hnamed := expanded_iff hnum hbindNamed
  rw [hparameters] at hpositional hnamed
  refine ⟨s, _, _, rfl, hnum, hbind, hbindNamed, rfl, ?_, ?_⟩
  · intro heq
    have hkind := hpositional.1.mp heq _ List.mem_cons_self
    cases hkind
  · apply hnamed.1.mpr
    intro p hp
    rw [List.mem_singleton.mp hp]
    rfl

end Prepared

end TypedSql
