import Mathlib.Data.List.Induction
import Mathlib.Data.List.Nodup
import TypedSql.Proofs.Scan.Spans

/-!
The named tokens of a text and what inlining by name makes of it. `Lexed s ps` divides a text like
`Divided`, and tells the tokens of both kinds: a sigil takes all the characters of a name that
follow it, and is a character like others where none does. The pieces of the division are those of
the scanner, named tokens included.
-/

namespace TypedSql

/-! ## The division of a text into all its tokens -/

/-- A character in front of `rest` that begins no stretch and no token of either kind. -/
structure Unnamed (c : Char) (rest : List Char) : Prop extends Plain c rest where
  noName : c ∈ [':', '@', '$'] → ∀ d ∈ rest.head?, isNameChar d = false

/-- The pieces of a text, each token with all the characters that it can take. -/
inductive Lexed : List Char → List Piece → Prop where
  | nil : Lexed [] []
  | mark {digits rest : List Char} {ps : List Piece} (hdigits : ∀ c ∈ digits, c.isDigit = true)
      (hrest : ∀ c ∈ rest.head?, c.isDigit = false) (h : Lexed rest ps) :
      Lexed ('?' :: (digits ++ rest)) (.parameter (.positional digits) :: ps)
  | name {sigil : Char} {name rest : List Char} {ps : List Piece} (hsigil : sigil ∈ [':', '@', '$'])
      (hname : name ≠ []) (hchars : ∀ c ∈ name, isNameChar c = true)
      (hrest : ∀ c ∈ rest.head?, isNameChar c = false) (h : Lexed rest ps) :
      Lexed (sigil :: (name ++ rest)) (.parameter (.named sigil name) :: ps)
  | passed {text rest : List Char} {ps : List Piece} (hpass : Passes text rest)
      (h : Lexed rest ps) : Lexed (text ++ rest) (text.map .char ++ ps)
  | plain {c : Char} {rest : List Char} {ps : List Piece} (hc : Unnamed c rest)
      (h : Lexed rest ps) : Lexed (c :: rest) (.char c :: ps)

theorem exists_lexed (s : List Char) : ∃ ps, Lexed s ps := by
  induction hn : s.length using Nat.strongRecOn generalizing s with
  | _ n ih =>
      have shorter (t rest : List Char) (hs : s = t ++ rest) (ht : t ≠ []) :
          ∃ ps, Lexed rest ps := by
        apply ih rest.length _ rest rfl
        have := List.length_pos_iff.mpr ht
        rw [← hn, hs, List.length_append]
        omega
      cases s with
      | nil => exact ⟨[], .nil⟩
      | cons c cs =>
          rcases exists_passes_or_plain c cs with ⟨text, rest, hs, htext, hpass⟩ | rfl | hc
          · obtain ⟨ps, hps⟩ := shorter text rest hs htext
            rw [hs]
            exact ⟨_, .passed hpass hps⟩
          · have hsplit : '?' :: cs =
                '?' :: cs.takeWhile Char.isDigit ++ cs.dropWhile Char.isDigit := by simp
            obtain ⟨ps, hps⟩ := shorter _ _ hsplit (by simp)
            rw [hsplit]
            exact ⟨_, .mark (List.all_eq_true.mp List.all_takeWhile)
              (dropWhile_head_eq_false Char.isDigit cs) hps⟩
          · by_cases hname : c ∈ [':', '@', '$'] ∧ ∃ d ∈ cs.head?, isNameChar d = true
            · obtain ⟨hsigil, d, hd, hchar⟩ := hname
              have hne : cs.takeWhile isNameChar ≠ [] := by
                obtain ⟨ds, rfl⟩ := List.head?_eq_some_iff.mp hd
                simp [hchar]
              have hsplit : c :: cs =
                  c :: cs.takeWhile isNameChar ++ cs.dropWhile isNameChar := by simp
              obtain ⟨ps, hps⟩ := shorter _ _ hsplit (by simp)
              rw [hsplit]
              exact ⟨_, .name hsigil hne (List.all_eq_true.mp List.all_takeWhile)
                (dropWhile_head_eq_false isNameChar cs) hps⟩
            · obtain ⟨ps, hps⟩ := shorter [c] cs rfl (by simp)
              have hbare : Unnamed c cs := by
                refine ⟨hc, ?_⟩
                intro hsigil d hd
                by_contra hchar
                exact hname ⟨hsigil, d, hd, by simpa using hchar⟩
              exact ⟨_, .plain hbare hps⟩

/-! ## The scanner finds it -/

namespace Mode

/-- What is pending ends in front of what follows, a name included. -/
structure Ends (m : Mode) (s : List Char) : Prop where
  free : m.Free s
  unnamed : m.naming = true → ∀ c ∈ s.head?, isNameChar c = false

theorem Ends.of_head {m : Mode} {c : Char} {s t : List Char} (h : m.Ends (c :: s)) :
    m.Ends (c :: t) :=
  ⟨h.free.of_head, h.unnamed⟩

/-- Where nothing is pending, or only what a name cannot go on in. -/
theorem Ends.of_free {m : Mode} {s : List Char} (h : m.Free s) (hm : m.naming = false) :
    m.Ends s := by
  refine ⟨h, ?_⟩
  intro hnaming
  rw [hm] at hnaming
  cases hnaming

section
variable {m : Mode} {c : Char} {cs : List Char} (h : m.Ends (c :: cs))
include h

theorem step_of_ends : m.step c = (m.finish ++ (start c).1, (start c).2) :=
  step_of_free h.free fun hnaming => h.unnamed hnaming c rfl

theorem after_of_ends : m.after (c :: cs) = code.after (c :: cs) := by
  rw [after, step_of_ends h]
  rfl

theorem yields_of_ends : m.yields (c :: cs) = m.finish ++ code.yields (c :: cs) := by
  rw [yields, step_of_ends h, List.append_assoc]
  rfl

end

theorem after_nameChars (sigil : Char) (r : List Char) {chars : List Char}
    (h : ∀ c ∈ chars, isNameChar c = true) :
    (name sigil r).after chars = .name sigil (r ++ chars) ∧ (name sigil r).yields chars = [] := by
  induction chars generalizing r with
  | nil => simp [after, yields]
  | cons c cs ih =>
      have hc := h c List.mem_cons_self
      have hcs := fun d hd => h d (List.mem_cons_of_mem c hd)
      obtain ⟨hafter, hyields⟩ := ih (r ++ [c]) hcs
      simp [after, yields, step, hc, hafter, hyields]

/-- A sigil and the characters of a name are read into one token. -/
theorem after_named {sigil : Char} {chars : List Char} (hsigil : sigil ∈ [':', '@', '$'])
    (hname : chars ≠ []) (hchars : ∀ c ∈ chars, isNameChar c = true) :
    code.after (sigil :: chars) = .name sigil chars ∧ code.yields (sigil :: chars) = [] := by
  have hopen : code.step sigil = ([], .sigil sigil) := by
    simp only [List.mem_cons, List.not_mem_nil, or_false] at hsigil
    rcases hsigil with rfl | rfl | rfl <;> rfl
  cases chars with
  | nil => exact absurd rfl hname
  | cons c cs =>
      have hc := hchars c List.mem_cons_self
      have hcs := fun d hd => hchars d (List.mem_cons_of_mem c hd)
      have hfirst : (Mode.sigil sigil).step c = ([], .name sigil [c]) := by simp [step, hc]
      obtain ⟨hafter, hyields⟩ := after_nameChars sigil [c] hcs
      simp [after, yields, hopen, hfirst, hafter, hyields]

theorem Starts.of_unnamed {c : Char} {r : List Piece × Mode} (h : Starts c r) {rest : List Char}
    (hc : Unnamed c rest) : r.1 ++ r.2.finish = [.char c] ∧ r.2.Ends rest := by
  cases h with
  | mark => exact absurd rfl hc.unmarked
  | sigil h => exact ⟨rfl, trivial, fun _ => hc.noName h⟩
  | quote h => exact absurd (List.mem_append_left ['['] h) hc.unquoted
  | bracket => exact absurd (by simp) hc.unquoted
  | dash => exact ⟨rfl, .of_free (hc.noLine rfl) rfl⟩
  | slash => exact ⟨rfl, .of_free (hc.noBlock rfl) rfl⟩
  | plain => exact ⟨rfl, .of_free trivial rfl⟩

end Mode

/-- Reading a divided text with nothing pending that goes on yields the pieces of the division. -/
theorem Lexed.yields_eq {s : List Char} {ps : List Piece} (h : Lexed s ps) {m : Mode}
    (hm : m.Ends s) : m.yields s ++ (m.after s).finish = m.finish ++ ps := by
  induction h generalizing m with
  | nil => simp [Mode.yields, Mode.after]
  | @mark digits rest ps hdigits hrest _ ih =>
      have hopen : Mode.code.step '?' = ([], .number []) := rfl
      obtain ⟨hafter, hyields⟩ := Mode.after_digits (r := []) hdigits
      have hih := ih (m := .number digits) (.of_free hrest rfl)
      rw [Mode.yields_of_ends hm, Mode.after_of_ends hm, Mode.yields, Mode.after, hopen,
        Mode.yields_append, Mode.after_append, hafter, hyields]
      simpa [Mode.finish] using hih
  | @name sigil name rest ps hsigil hname hchars hrest _ ih =>
      obtain ⟨hafter, hyields⟩ := Mode.after_named hsigil hname hchars
      have hih := ih (m := .name sigil name) ⟨trivial, fun _ => hrest⟩
      rw [Mode.yields_of_ends hm, Mode.after_of_ends hm, ← List.cons_append, Mode.yields_append,
        Mode.after_append, hafter, hyields]
      simpa [Mode.finish] using hih
  | @passed text rest ps hpass _ ih =>
      obtain ⟨m', hcopies, hfree, hfinish⟩ := hpass.copies
      have hnaming : m'.naming = false := by
        cases m' with
        | sigil | name => simp [Mode.finish] at hfinish
        | code | dash | slash | number | quoted | closing | lineComment | blockComment | star => rfl
      obtain ⟨c, cs, rfl, -⟩ := hpass.head
      have hm' := hm.of_head (t := cs)
      rw [Mode.yields_append, Mode.after_append, Mode.yields_of_ends hm', Mode.after_of_ends hm',
        hcopies.ends, hcopies.copied, List.append_assoc, List.append_assoc,
        ih (.of_free hfree hnaming), hfinish]
      rfl
  | @plain c rest ps hc _ ih =>
      obtain ⟨hstart, hends⟩ := (Mode.starts c).of_unnamed hc
      rw [Mode.yields, Mode.after, Mode.step_of_ends hm, List.append_assoc, ih hends,
        List.append_assoc, ← List.append_assoc _ _ ps, hstart]
      rfl

/-- The division of a text is what the scanner finds. -/
theorem Lexed.eq_scan {s : List Char} {ps : List Piece} (h : Lexed s ps) : ps = scan s :=
  (h.yields_eq (m := .code) (.of_free trivial rfl)).symm

/-! ## Names that are given twice -/

/-- The name of the first pair whose name an earlier pair has. -/
def RepeatsFirst (pairs : List (String × Cell)) (name : String) : Prop :=
  ∃ before cell after, pairs = before ++ (name, cell) :: after ∧
    (before.map (·.1)).Nodup ∧ name ∈ before.map (·.1)

theorem exists_repeatsFirst {pairs : List (String × Cell)} (h : ¬ (pairs.map (·.1)).Nodup) :
    ∃ name, RepeatsFirst pairs name := by
  induction pairs using List.reverseRecOn with
  | nil => simp at h
  | append_singleton pairs p ih =>
      by_cases hpairs : (pairs.map (·.1)).Nodup
      · refine ⟨p.1, pairs, p.2, [], rfl, hpairs, ?_⟩
        by_contra hmem
        apply h
        rw [List.map_append, List.map_singleton, List.nodup_append_comm, List.singleton_append,
          List.nodup_cons]
        exact ⟨hmem, hpairs⟩
      · obtain ⟨name, before, cell, after, rfl, hnodup, hmem⟩ := ih hpairs
        exact ⟨name, before, cell, after ++ [p], by simp, hnodup, hmem⟩

/-- Names that differ from each other and from those seen are passed over. -/
theorem firstDuplicate_append {before seen : List String} (hnames : before.Nodup)
    (hseen : ∀ name ∈ before, name ∉ seen) (rest : List String) :
    firstDuplicate seen (before ++ rest) = firstDuplicate (before.reverse ++ seen) rest := by
  induction before generalizing seen with
  | nil => rfl
  | cons name before ih =>
      rw [List.nodup_cons] at hnames
      rw [List.cons_append, firstDuplicate, if_neg (hseen name List.mem_cons_self), ih hnames.2]
      · simp
      · intro other hother hmem
        rcases List.mem_cons.mp hmem with rfl | hmem
        · exact hnames.1 hother
        · exact hseen other (List.mem_cons_of_mem _ hother) hmem

theorem firstDuplicate_of_nodup {names : List String} (hnames : names.Nodup) :
    firstDuplicate [] names = none := by
  have hseen : ∀ name ∈ names, name ∉ ([] : List String) := by simp
  have happend := firstDuplicate_append hnames hseen []
  rw [List.append_nil] at happend
  rw [happend, firstDuplicate]

theorem RepeatsFirst.firstDuplicate {pairs : List (String × Cell)} {name : String}
    (h : RepeatsFirst pairs name) : firstDuplicate [] (pairs.map (·.1)) = some name := by
  obtain ⟨before, cell, after, rfl, hnodup, hmem⟩ := h
  rw [List.map_append, List.map_cons, firstDuplicate_append hnodup (by simp),
    TypedSql.firstDuplicate, if_pos (by simpa using hmem)]

/-- A name that is given once has the value that it is given. -/
theorem lookup_of_mem {pairs : List (String × Cell)} (hnames : (pairs.map (·.1)).Nodup)
    {p : String × Cell} (hp : p ∈ pairs) : pairs.lookup p.1 = some p.2 := by
  induction pairs with
  | nil => simp at hp
  | cons q rest ih =>
      rw [List.map_cons, List.nodup_cons] at hnames
      rw [List.lookup_cons]
      rcases List.mem_cons.mp hp with rfl | hp
      · simp
      · have hne : (p.1 == q.1) = false := by
          rw [beq_eq_false_iff_ne]
          intro heq
          exact hnames.1 (heq ▸ List.mem_map_of_mem hp)
        rw [hne]
        exact ih hnames.2 hp

/-! ## Inlining by name -/

def Piece.name? : Piece → Option String
  | .parameter (.named sigil name) => some (String.ofList (sigil :: name))
  | _ => none

def namesOf (ps : List Piece) : List String := ps.filterMap Piece.name?

/-- The piece as written, or the literal of the value of its name. -/
def Piece.textBy (value : String → Cell) (p : Piece) : List Char :=
  match p.name? with
  | some name => (value name).literal.toList
  | none => p.text

section
variable {pairs : List (String × Cell)} {p : Piece} {ps : List Piece} {name : String}

theorem namesOf_cons_named (hp : p.name? = some name) : namesOf (p :: ps) = name :: namesOf ps :=
  List.filterMap_cons_some hp

theorem namesOf_cons_copied (hp : p.name? = none) : namesOf (p :: ps) = namesOf ps :=
  List.filterMap_cons_none hp

theorem lookup_eq_none_iff : pairs.lookup name = none ↔ name ∉ pairs.map (·.1) := by
  rw [List.lookup_eq_none_iff, List.mem_map]
  constructor
  · rintro h ⟨p, hp, rfl⟩
    simpa using h p hp
  · intro h p hp
    rw [bne_iff_ne]
    rintro rfl
    exact h ⟨p, hp, rfl⟩

theorem replaceNamed_cons_named (hp : p.name? = some name) :
    replaceNamed pairs (p :: ps) =
      match pairs.lookup name with
      | none => .error (.unknownName name)
      | some cell => (replaceNamed pairs ps).map (cell.literal.toList ++ ·) := by
  cases p with
  | char c => cases hp
  | parameter t =>
      cases t with
      | positional digits => cases hp
      | named sigil chars =>
          cases hp
          rw [replaceNamed]
          cases pairs.lookup (String.ofList (sigil :: chars)) with
          | none => rfl
          | some cell => cases replaceNamed pairs ps <;> rfl

theorem replaceNamed_cons_copied (hp : p.name? = none) :
    replaceNamed pairs (p :: ps) = (replaceNamed pairs ps).map (p.text ++ ·) := by
  rw [replaceNamed]
  · cases replaceNamed pairs ps <;> rfl
  · rintro sigil chars rfl
    cases hp

/-- The first name that is not given is what inlining fails with. -/
theorem replaceNamed_unknown (h : (namesOf ps).find? (· ∉ pairs.map (·.1)) = some name) :
    replaceNamed pairs ps = .error (.unknownName name) := by
  induction ps with
  | nil => cases h
  | cons p ps ih =>
      cases hp : p.name? with
      | none =>
          rw [namesOf_cons_copied hp] at h
          rw [replaceNamed_cons_copied hp, ih h]
          rfl
      | some first =>
          rw [namesOf_cons_named hp, List.find?_cons] at h
          rw [replaceNamed_cons_named hp]
          cases hlookup : pairs.lookup first with
          | none =>
              have hfirst : first ∉ pairs.map (·.1) := lookup_eq_none_iff.mp hlookup
              simp only [hfirst, not_false_eq_true, decide_true, Option.some.injEq] at h
              rw [h]
          | some cell =>
              have hfirst : first ∈ pairs.map (·.1) := by
                by_contra hfirst
                rw [lookup_eq_none_iff.mpr hfirst] at hlookup
                cases hlookup
              simp only [hfirst, not_true_eq_false, decide_false] at h
              rw [ih h]
              rfl

/-- Where all names are given, each token is replaced by the literal of the value of its name. -/
theorem replaceNamed_known {value : String → Cell} (hvalue : ∀ p ∈ pairs, value p.1 = p.2)
    (h : ∀ name ∈ namesOf ps, name ∈ pairs.map (·.1)) :
    replaceNamed pairs ps = .ok (ps.flatMap (Piece.textBy value)) := by
  induction ps with
  | nil => rfl
  | cons p ps ih =>
      rw [List.flatMap_cons, Piece.textBy]
      cases hp : p.name? with
      | none =>
          rw [namesOf_cons_copied hp] at h
          rw [replaceNamed_cons_copied hp, ih h]
          rfl
      | some first =>
          rw [namesOf_cons_named hp, List.forall_mem_cons] at h
          rw [replaceNamed_cons_named hp, ih h.2]
          cases hlookup : pairs.lookup first with
          | none => exact absurd h.1 (lookup_eq_none_iff.mp hlookup)
          | some cell =>
              obtain ⟨before, after, hpairs, -⟩ := List.lookup_eq_some_iff.mp hlookup
              have hcell : value first = cell := hvalue (first, cell) (by simp [hpairs])
              rw [← hcell]
              rfl

end

/-- Inlining by name follows the division of the text into tokens and the rest: a name that is given
twice is an error, whatever the text; then the first token whose name is not given; then every named
token is replaced by the literal of the value of its name, and all other text is left as it is. -/
theorem inlineNamed_lexed (sql : String) (pairs : List (String × Cell)) :
    (¬ (pairs.map (·.1)).Nodup → ∃ name, RepeatsFirst pairs name) ∧
      (∀ name, RepeatsFirst pairs name →
        inlineNamed sql pairs = .error (.duplicateName name)) ∧
      (∃ ps, Lexed sql.toList ps) ∧
      ((pairs.map (·.1)).Nodup → ∀ ps, Lexed sql.toList ps →
        (∀ name, (namesOf ps).find? (· ∉ pairs.map (·.1)) = some name →
          inlineNamed sql pairs = .error (.unknownName name)) ∧
        ((∀ name ∈ namesOf ps, name ∈ pairs.map (·.1)) →
          ∃ value : String → Cell, (∀ p ∈ pairs, value p.1 = p.2) ∧
            inlineNamed sql pairs = .ok (String.ofList (ps.flatMap (Piece.textBy value))))) := by
  refine ⟨exists_repeatsFirst, ?_, exists_lexed sql.toList, ?_⟩
  · intro name hname
    rw [inlineNamed, hname.firstDuplicate]
  · intro hnames ps hps
    rw [inlineNamed, firstDuplicate_of_nodup hnames, ← hps.eq_scan]
    constructor
    · intro name hfirst
      simp only [replaceNamed_unknown hfirst]
      rfl
    · intro hknown
      let value (name : String) : Cell := (pairs.lookup name).getD none
      have hvalue : ∀ p ∈ pairs, value p.1 = p.2 := by
        intro p hp
        simp only [value, lookup_of_mem hnames hp]
        rfl
      refine ⟨value, hvalue, ?_⟩
      simp only [replaceNamed_known hvalue hknown]
      rfl

end TypedSql
