import TypedSql.Proofs.Scan.Closed

/-!
What the parameter tokens of a text are, said without reading it character by character.
`Passes t rest` says that `t` is one stretch of quoted text, one bracketed name or one comment in
front of `rest`; `Divided s ps` says that `s` is made of such stretches, of question marks with all
the digits that follow them, and of characters that begin neither. Every text can be divided, in
one way only, and the scanner finds the question marks of its division.
-/

namespace TypedSql

/-! ## The division of a text -/

/-- A stretch of text in front of `rest` that holds no parameter: quoted text, where a mark written
twice stands for itself, a bracketed name, a comment up to the end of its line, or a comment between
`/*` and `*/`. One that the text ends in may be left open. -/
inductive Passes : List Char → List Char → Prop where
  | quoted {mark : Char} {text rest : List Char} (hmark : mark ∈ ['\'', '"', '\x60'])
      (hrest : rest.head? ≠ some mark) : Passes (quoted mark text) rest
  | openQuoted {mark : Char} {text : List Char} (hmark : mark ∈ ['\'', '"', '\x60']) :
      Passes (mark :: doubled mark text) []
  | bracketed {text rest : List Char} (h : ']' ∉ text) : Passes ('[' :: (text ++ [']'])) rest
  | openBracketed {text : List Char} (h : ']' ∉ text) : Passes ('[' :: text) []
  | line {text rest : List Char} (h : '\n' ∉ text) : Passes ('-' :: '-' :: (text ++ ['\n'])) rest
  | lastLine {text : List Char} (h : '\n' ∉ text) : Passes ('-' :: '-' :: text) []
  | block {text rest : List Char} (h : ¬ ['*', '/'] <:+: text) :
      Passes ('/' :: '*' :: (text ++ ['*', '/'])) rest
  | openBlock {text : List Char} (h : ¬ ['*', '/'] <:+: text) : Passes ('/' :: '*' :: text) []

/-- A character in front of `rest` that is no question mark and begins no stretch. -/
structure Plain (c : Char) (rest : List Char) : Prop where
  unmarked : c ≠ '?'
  unquoted : c ∉ ['\'', '"', '\x60', '[']
  noLine : c = '-' → rest.head? ≠ some '-'
  noBlock : c = '/' → rest.head? ≠ some '*'

/-- The pieces of a text, with the question marks as its only tokens. -/
inductive Divided : List Char → List Piece → Prop where
  | nil : Divided [] []
  | mark {digits rest : List Char} {ps : List Piece} (hdigits : ∀ c ∈ digits, c.isDigit = true)
      (hrest : ∀ c ∈ rest.head?, c.isDigit = false) (h : Divided rest ps) :
      Divided ('?' :: (digits ++ rest)) (.parameter (.positional digits) :: ps)
  | passed {text rest : List Char} {ps : List Piece} (hpass : Passes text rest)
      (h : Divided rest ps) : Divided (text ++ rest) (text.map .char ++ ps)
  | plain {c : Char} {rest : List Char} {ps : List Piece} (hc : Plain c rest)
      (h : Divided rest ps) : Divided (c :: rest) (.char c :: ps)

/-! ## Every text is divided -/

/-- Quoted text is closed by the first mark that is not doubled, or by none. -/
theorem exists_close (mark : Char) : ∀ s : List Char,
    (∃ text rest, s = doubled mark text ++ mark :: rest ∧ rest.head? ≠ some mark) ∨
      ∃ text, s = doubled mark text
  | [] => .inr ⟨[], rfl⟩
  | [c] => by
      by_cases hc : c = mark
      · exact .inl ⟨[], [], by simp [doubled, hc], by simp⟩
      · exact .inr ⟨[c], by simp [doubled, hc]⟩
  | c :: d :: cs => by
      by_cases hc : c = mark
      · by_cases hd : d = mark
        · subst hc hd
          -- the two marks are one of the text, which goes on after them
          obtain ⟨text, rest, hs, hrest⟩ | ⟨text, hs⟩ := exists_close d cs
          · exact .inl ⟨d :: text, rest, by simp [doubled, hs], hrest⟩
          · exact .inr ⟨d :: text, by simp [doubled, hs]⟩
        · exact .inl ⟨[], d :: cs, by simp [doubled, hc], by simpa using hd⟩
      · obtain ⟨text, rest, hs, hrest⟩ | ⟨text, hs⟩ := exists_close mark (d :: cs)
        · exact .inl ⟨c :: text, rest, by simp [doubled, hc, hs], hrest⟩
        · exact .inr ⟨c :: text, by simp [doubled, hc, hs]⟩

/-- A word of two characters that a text holds has a first place in it. -/
theorem exists_first_pair {c d : Char} {s : List Char} (h : [c, d] <:+: s) :
    ∃ before after, s = before ++ c :: d :: after ∧ ¬ [c, d] <:+: before := by
  induction s with
  | nil => simp at h
  | cons e s ih =>
      by_cases hp : [c, d] <+: e :: s
      · obtain ⟨after, hafter⟩ := hp
        exact ⟨[], after, by simpa using hafter.symm, by simp⟩
      · have hs : [c, d] <:+: s := (List.infix_cons_iff.mp h).resolve_left hp
        obtain ⟨before, after, rfl, hbefore⟩ := ih hs
        refine ⟨e :: before, after, rfl, fun hin => ?_⟩
        rcases List.infix_cons_iff.mp hin with hpre | hin
        · exact hp (hpre.trans ⟨c :: d :: after, rfl⟩)
        · exact hbefore hin

/-- A stretch that begins a text is followed by a shorter one. -/
theorem exists_passes {s : List Char}
    (h : (∃ mark ∈ ['\'', '"', '\x60', '['], s.head? = some mark) ∨ ['-', '-'] <+: s ∨
      ['/', '*'] <+: s) :
    ∃ text rest, s = text ++ rest ∧ text ≠ [] ∧ Passes text rest := by
  rcases h with ⟨mark, hmark, hs⟩ | ⟨cs, rfl⟩ | ⟨cs, rfl⟩
  · obtain ⟨cs, rfl⟩ := List.head?_eq_some_iff.mp hs
    by_cases hb : mark = '['
    · subst hb
      by_cases hc : ']' ∈ cs
      · obtain ⟨text, rest, rfl, htext⟩ := List.eq_append_cons_of_mem hc
        exact ⟨'[' :: (text ++ [']']), rest, by simp, by simp, .bracketed htext⟩
      · exact ⟨'[' :: cs, [], by simp, by simp, .openBracketed hc⟩
    · have hquote : mark ∈ ['\'', '"', '\x60'] := by simpa [hb] using hmark
      obtain ⟨text, rest, rfl, hrest⟩ | ⟨text, rfl⟩ := exists_close mark cs
      · exact ⟨quoted mark text, rest, by simp [quoted], by simp [quoted], .quoted hquote hrest⟩
      · exact ⟨mark :: doubled mark text, [], by simp, by simp, .openQuoted hquote⟩
  · by_cases hc : '\n' ∈ cs
    · obtain ⟨text, rest, rfl, htext⟩ := List.eq_append_cons_of_mem hc
      exact ⟨'-' :: '-' :: (text ++ ['\n']), rest, by simp, by simp, .line htext⟩
    · exact ⟨'-' :: '-' :: cs, [], by simp, by simp, .lastLine hc⟩
  · by_cases hc : ['*', '/'] <:+: cs
    · obtain ⟨text, rest, rfl, htext⟩ := exists_first_pair hc
      exact ⟨'/' :: '*' :: (text ++ ['*', '/']), rest, by simp, by simp, .block htext⟩
    · exact ⟨'/' :: '*' :: cs, [], by simp, by simp, .openBlock hc⟩

/-- A text begins with a stretch, with a question mark, or with a character that begins neither. -/
theorem exists_passes_or_plain (c : Char) (cs : List Char) :
    (∃ text rest, c :: cs = text ++ rest ∧ text ≠ [] ∧ Passes text rest) ∨ c = '?' ∨ Plain c cs := by
  by_cases hpass : (∃ mark ∈ ['\'', '"', '\x60', '['], (c :: cs).head? = some mark) ∨
      ['-', '-'] <+: c :: cs ∨ ['/', '*'] <+: c :: cs
  · left
    exact exists_passes hpass
  · right
    simp only [not_or, not_exists, not_and] at hpass
    obtain ⟨hquote, hline, hblock⟩ := hpass
    by_cases hc : c = '?'
    · left
      exact hc
    · right
      refine ⟨hc, fun hm => hquote c hm rfl, ?_, ?_⟩
      · rintro rfl hd
        obtain ⟨ds, rfl⟩ := List.head?_eq_some_iff.mp hd
        exact hline ⟨ds, rfl⟩
      · rintro rfl hd
        obtain ⟨ds, rfl⟩ := List.head?_eq_some_iff.mp hd
        exact hblock ⟨ds, rfl⟩

/-- Where the leading characters of a kind end, another kind begins. -/
theorem dropWhile_head_eq_false (p : Char → Bool) (cs : List Char) :
    ∀ c ∈ (cs.dropWhile p).head?, p c = false := by
  intro c hc
  have hhead := List.head?_dropWhile_not p cs
  rwa [hc] at hhead

theorem exists_divided (s : List Char) : ∃ ps, Divided s ps := by
  induction hn : s.length using Nat.strongRecOn generalizing s with
  | _ n ih =>
      have shorter (t rest : List Char) (hs : s = t ++ rest) (ht : t ≠ []) :
          ∃ ps, Divided rest ps := by
        refine ih rest.length ?_ rest rfl
        have := List.length_pos_iff.mpr ht
        rw [← hn, hs, List.length_append]
        omega
      cases s with
      | nil => exact ⟨[], .nil⟩
      | cons c cs =>
          rcases exists_passes_or_plain c cs with ⟨text, rest, hs, htext, hpass⟩ | rfl | hc
          · obtain ⟨ps, hps⟩ := shorter text rest hs htext
            rw [hs]
            exact ⟨_, .passed hpass hps⟩
          · have hsplit : '?' :: cs =
                '?' :: cs.takeWhile Char.isDigit ++ cs.dropWhile Char.isDigit := by simp
            obtain ⟨ps, hps⟩ := shorter _ _ hsplit (by simp)
            rw [hsplit]
            exact ⟨_, .mark (List.all_eq_true.mp List.all_takeWhile)
              (dropWhile_head_eq_false Char.isDigit cs) hps⟩
          · obtain ⟨ps, hps⟩ := shorter [c] cs rfl (by simp)
            exact ⟨_, .plain hc hps⟩

/-! ## The scanner finds the division -/

/-- The piece with the characters of a named token one by one. -/
def Piece.spread : Piece → List Piece
  | .parameter (.named sigil name) => (sigil :: name).map .char
  | p => [p]

/-- The pieces of a text with the question marks as its only tokens. -/
def spread (ps : List Piece) : List Piece := ps.flatMap Piece.spread

@[simp] theorem spread_append (ps qs : List Piece) : spread (ps ++ qs) = spread ps ++ spread qs :=
  List.flatMap_append

theorem spread_char (s : List Char) : spread (s.map .char) = s.map .char := by
  induction s with
  | nil => rfl
  | cons c cs ih => exact congrArg (Piece.char c :: ·) ih

namespace Mode

/-- What is pending is not extended, closed or doubled by what follows. A name may go on: its
characters are none of those that begin a token or a stretch. -/
def Free : Mode → List Char → Prop
  | .code, _ | .sigil _, _ | .name _ _, _ => True
  | .dash, s => s.head? ≠ some '-'
  | .slash, s => s.head? ≠ some '*'
  | .number _, s => ∀ c ∈ s.head?, c.isDigit = false
  | .closing mark, s => s.head? ≠ some mark
  | .quoted _, s | .lineComment, s | .blockComment, s | .star, s => s = []

/-- Only the next character matters. -/
theorem Free.of_head {m : Mode} {c : Char} {s t : List Char} (h : m.Free (c :: s)) :
    m.Free (c :: t) := by
  cases m <;> simp_all [Free]

/-- Whether a character of a name would be taken into one. -/
def naming : Mode → Bool
  | .sigil _ | .name _ _ => true
  | _ => false

/-- A character that extends no name is read as if nothing were pending. -/
theorem step_of_free {m : Mode} {c : Char} {cs : List Char} (hm : m.Free (c :: cs))
    (hc : m.naming = true → isNameChar c = false) :
    m.step c = (m.finish ++ (start c).1, (start c).2) := by
  cases m with
  | code => rfl
  | dash | slash | closing =>
      simp only [Free, List.head?_cons, ne_eq, Option.some.injEq] at hm
      simp [step, finish, hm]
  | sigil | name => simp [step, finish, flush, hc rfl]
  | number =>
      have hd : c.isDigit = false := by simpa [Free] using hm
      simp [step, finish, flush, hd]
  | quoted | lineComment | blockComment | star => simp [Free] at hm

theorem after_of_free {m : Mode} {c : Char} {cs : List Char} (hm : m.Free (c :: cs))
    (hc : isNameChar c = false) : m.after (c :: cs) = code.after (c :: cs) := by
  rw [after, step_of_free hm fun _ => hc]
  rfl

theorem yields_of_free {m : Mode} {c : Char} {cs : List Char} (hm : m.Free (c :: cs))
    (hc : isNameChar c = false) : m.yields (c :: cs) = m.finish ++ code.yields (c :: cs) := by
  rw [yields, step_of_free hm fun _ => hc, List.append_assoc]
  rfl

/-- Reading a text from one mode to another, every character of it yielded as it stands. -/
structure Copies (m : Mode) (s : List Char) (m' : Mode) : Prop where
  ends : m.after s = m'
  copied : m.yields s = s.map .char

namespace Copies

variable {m m' m'' : Mode} {c : Char} {s t : List Char}

theorem nil (m : Mode) : m.Copies [] m := ⟨rfl, rfl⟩

theorem cons (h : m.step c = ([.char c], m')) (hs : m'.Copies s m'') : m.Copies (c :: s) m'' where
  ends := by rw [after, h]; exact hs.ends
  copied := by rw [yields, h, hs.copied]; rfl

theorem append (hs : m.Copies s m') (ht : m'.Copies t m'') : m.Copies (s ++ t) m'' where
  ends := by rw [after_append, hs.ends, ht.ends]
  copied := by rw [yields_append, hs.copied, hs.ends, ht.copied, List.map_append]

/-- Characters that a mode takes without leaving it. -/
theorem of_stays (h : ∀ c ∈ s, m.step c = ([.char c], m)) : m.Copies s m := by
  induction s with
  | nil => exact nil m
  | cons c cs ih =>
      exact cons (h c List.mem_cons_self) (ih fun d hd => h d (List.mem_cons_of_mem c hd))

theorem doubled {mark : Char} (hm : mark ≠ ']') (s : List Char) :
    (quoted mark).Copies (doubled mark s) (.quoted mark) :=
  ⟨after_doubled hm s, yields_doubled hm s⟩

theorem bracketed (h : ']' ∉ s) : (quoted ']').Copies s (.quoted ']') := by
  refine of_stays fun c hc => ?_
  have hne : c ≠ ']' := fun he => h (he ▸ hc)
  simp [step, hne]

theorem line (h : '\n' ∉ s) : lineComment.Copies s .lineComment := by
  refine of_stays fun c hc => ?_
  have hne : c ≠ '\n' := fun he => h (he ▸ hc)
  simp [step, hne]

/-- A block comment goes on through text in which no star is followed by a slash, a star before
the text included. -/
theorem block
    (h : m = .blockComment ∧ ¬ ['*', '/'] <:+: s ∨ m = .star ∧ ¬ ['*', '/'] <:+: '*' :: s) :
    ∃ m', (m' = .blockComment ∨ m' = .star) ∧ m.Copies s m' := by
  induction s generalizing m with
  | nil => exact ⟨m, h.imp And.left And.left, nil m⟩
  | cons c cs ih =>
      have hpair : ¬ ['*', '/'] <:+: c :: cs :=
        h.elim And.right fun hs hin => hs.2 (List.infix_cons_iff.mpr (.inr hin))
      by_cases hc : c = '*'
      · subst hc
        have hstep : m.step '*' = ([.char '*'], .star) := by
          rcases h with ⟨rfl, -⟩ | ⟨rfl, -⟩ <;> rfl
        obtain ⟨m', hm', hcs⟩ := ih (.inr ⟨rfl, hpair⟩)
        exact ⟨m', hm', cons hstep hcs⟩
      · have hstep : m.step c = ([.char c], .blockComment) := by
          rcases h with ⟨rfl, -⟩ | ⟨rfl, hs⟩
          · simp [step, hc]
          · have hne : c ≠ '/' := by
              rintro rfl
              exact hs ⟨[], cs, rfl⟩
            simp [step, hc, hne]
        obtain ⟨m', hm', hcs⟩ :=
          ih (.inl ⟨rfl, fun hin => hpair (List.infix_cons_iff.mpr (.inr hin))⟩)
        exact ⟨m', hm', cons hstep hcs⟩

end Copies

theorem step_quote {mark : Char} (h : mark ∈ ['\'', '"', '\x60']) :
    code.step mark = ([.char mark], .quoted mark) := by
  simp only [List.mem_cons, List.not_mem_nil, or_false] at h
  rcases h with rfl | rfl | rfl <;> rfl

end Mode

/-- A stretch begins with a character that is part of no name. -/
theorem Passes.head {text rest : List Char} (h : Passes text rest) :
    ∃ c cs, text = c :: cs ∧ isNameChar c = false := by
  cases h with
  | quoted hmark | openQuoted hmark =>
      refine ⟨_, _, rfl, ?_⟩
      simp only [List.mem_cons, List.not_mem_nil, or_false] at hmark
      rcases hmark with rfl | rfl | rfl <;> decide
  | bracketed | openBracketed | line | lastLine | block | openBlock =>
      exact ⟨_, _, rfl, by decide⟩

open Mode in
/-- A stretch is copied, and what follows it is read with nothing pending. -/
theorem Passes.copies {text rest : List Char} (h : Passes text rest) :
    ∃ m : Mode, code.Copies text m ∧ m.Free rest ∧ m.finish = [] := by
  cases h with
  | @quoted mark text _ hmark hrest =>
      have hm : mark ≠ ']' := by rintro rfl; simp at hmark
      have hclose : (Mode.quoted mark).step mark = ([.char mark], .closing mark) := by
        simp [step, hm]
      have htext := (Copies.doubled hm text).append (.cons hclose (.nil _))
      exact ⟨.closing mark, .cons (step_quote hmark) htext, hrest, rfl⟩
  | @openQuoted mark text hmark =>
      have hm : mark ≠ ']' := by rintro rfl; simp at hmark
      exact ⟨.quoted mark, .cons (step_quote hmark) (.doubled hm text), rfl, rfl⟩
  | bracketed h =>
      exact ⟨.code, .cons rfl ((Copies.bracketed h).append (.cons rfl (.nil _))), trivial, rfl⟩
  | openBracketed h => exact ⟨.quoted ']', .cons rfl (.bracketed h), rfl, rfl⟩
  | line h =>
      have htext := (Copies.line h).append (show Copies _ ['\n'] .code from .cons rfl (.nil _))
      exact ⟨.code, .cons rfl (.cons rfl htext), trivial, rfl⟩
  | lastLine h => exact ⟨.lineComment, .cons rfl (.cons rfl (.line h)), rfl, rfl⟩
  | block h =>
      obtain ⟨m, hm, htext⟩ := Copies.block (.inl ⟨rfl, h⟩)
      have hclose : m.Copies ['*', '/'] .code := by
        rcases hm with rfl | rfl <;> exact .cons rfl (.cons rfl (.nil _))
      exact ⟨.code, .cons rfl (.cons rfl (htext.append hclose)), trivial, rfl⟩
  | openBlock h =>
      obtain ⟨m, hm, htext⟩ := Copies.block (.inl ⟨rfl, h⟩)
      refine ⟨m, .cons rfl (.cons rfl htext), ?_⟩
      rcases hm with rfl | rfl <;> exact ⟨rfl, rfl⟩

namespace Mode

theorem after_digits {r digits : List Char} (h : ∀ c ∈ digits, c.isDigit = true) :
    (number r).after digits = .number (r ++ digits) ∧ (number r).yields digits = [] := by
  induction digits generalizing r with
  | nil => simp [after, yields]
  | cons c cs ih =>
      have hc := h c List.mem_cons_self
      have hcs := fun d hd => h d (List.mem_cons_of_mem c hd)
      obtain ⟨hafter, hyields⟩ := ih (r := r ++ [c]) hcs
      simp [after, yields, step, hc, hafter, hyields]

theorem Starts.of_plain {c : Char} {r : List Piece × Mode} (h : Starts c r) {rest : List Char}
    (hc : Plain c rest) : spread (r.1 ++ r.2.finish) = [.char c] ∧ r.2.Free rest := by
  cases h with
  | mark => exact absurd rfl hc.unmarked
  | sigil | plain => exact ⟨rfl, trivial⟩
  | quote h => exact absurd (List.mem_append_left ['['] h) hc.unquoted
  | bracket => exact absurd (by simp) hc.unquoted
  | dash => exact ⟨rfl, hc.noLine rfl⟩
  | slash => exact ⟨rfl, hc.noBlock rfl⟩

/-- A plain character is yielded, now or with the name it is part of. -/
theorem step_of_plain {m : Mode} {c : Char} {rest : List Char} (hm : m.Free (c :: rest))
    (hc : Plain c rest) :
    spread ((m.step c).1 ++ (m.step c).2.finish) = spread (m.finish ++ [.char c]) ∧
      (m.step c).2.Free rest := by
  by_cases hname : m.naming = true ∧ isNameChar c = true
  · cases m with
    | sigil | name => simp [step, hname.2, finish, spread, Piece.spread, Free]
    | code | dash | slash | number | quoted | closing | lineComment | blockComment | star =>
        simp [naming] at hname
  · obtain ⟨hstart, hfree⟩ := (starts c).of_plain hc
    have hstep := step_of_free hm fun h => by simpa [h] using hname
    rw [hstep]
    refine ⟨?_, hfree⟩
    rw [List.append_assoc, spread_append, hstart, spread_append]
    rfl

end Mode

/-- Reading a divided text with nothing pending yields its pieces, up to the characters of the
named tokens. -/
theorem Divided.spread_yields {s : List Char} {ps : List Piece} (h : Divided s ps) {m : Mode}
    (hm : m.Free s) : spread (m.yields s ++ (m.after s).finish) = spread m.finish ++ ps := by
  induction h generalizing m with
  | nil => simp [Mode.yields, Mode.after]
  | @mark digits rest ps hdigits hrest _ ih =>
      have hopen : Mode.code.step '?' = ([], .number []) := rfl
      obtain ⟨hafter, hyields⟩ := Mode.after_digits (r := []) hdigits
      have hih := ih (m := .number digits) hrest
      rw [Mode.yields_of_free hm (by decide), Mode.after_of_free hm (by decide), Mode.yields,
        Mode.after, hopen, Mode.yields_append, Mode.after_append, hafter, hyields]
      simpa [spread, Mode.finish, Piece.spread] using hih
  | @passed text rest ps hpass _ ih =>
      obtain ⟨m', hcopies, hfree, hfinish⟩ := hpass.copies
      obtain ⟨c, cs, rfl, hname⟩ := hpass.head
      have hm' := hm.of_head (t := cs)
      rw [Mode.yields_append, Mode.after_append, Mode.yields_of_free hm' hname,
        Mode.after_of_free hm' hname, hcopies.ends, hcopies.copied, List.append_assoc,
        List.append_assoc, spread_append, spread_append, ih hfree, hfinish, spread_char]
      rfl
  | @plain c rest ps hc _ ih =>
      obtain ⟨hstep, hfree⟩ := Mode.step_of_plain hm hc
      rw [Mode.yields, Mode.after, List.append_assoc, spread_append, ih hfree, ← List.append_assoc,
        ← spread_append, hstep, spread_append, List.append_assoc]
      rfl

/-- The division of a text is what the scanner finds, named tokens apart. -/
theorem Divided.eq_spread_scan {s : List Char} {ps : List Piece} (h : Divided s ps) :
    ps = spread (scan s) :=
  (h.spread_yields (m := .code) trivial).symm

theorem Divided.unique {s : List Char} {ps qs : List Piece} (hp : Divided s ps)
    (hq : Divided s qs) : ps = qs :=
  hp.eq_spread_scan.trans hq.eq_spread_scan.symm

end TypedSql
