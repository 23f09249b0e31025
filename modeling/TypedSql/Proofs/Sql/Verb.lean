import TypedSql.Proofs.Sql.Kind
import TypedSql.Proofs.Sql.Operators

/-!
The first word of a text. A connection cuts it off at white space, while the engine has its own
blanks and takes any other white space for a part of a word or for no token at all. So a text whose
first word is one for insertions is read as an insertion, or it cannot be read.
-/

namespace TypedSql

namespace Sql

/-! ## White space -/

theorem toLower_of_isBlank {c : Char} (h : isBlank c = true) : c.toLower = c := by
  have hupper : ¬(c.val ≥ 'A'.val ∧ c.val ≤ 'Z'.val) := by
    intro hc
    have hlow : 0x41 ≤ c.toNat := hc.1
    have hhigh : c.toNat ≤ 0x5A := hc.2
    simp only [isBlank, blankRanges, List.any_cons, List.any_nil, Bool.or_false, Bool.or_eq_true,
      Bool.and_eq_true, decide_eq_true_eq] at h
    omega
  exact dif_neg hupper

/-- White space that is no blank of the engine begins a token. -/
theorem lexeme_of_isBlank {c : Char} (h : isBlank c = true) (hc : isSpaceChar c = false)
    (cs : List Char) : (lexeme c cs).1 ≠ .space := by
  have hne (d : Char) (hd : isBlank d = false) : c ≠ d := by
    rintro rfl
    rw [h] at hd
    cases hd
  have hdigit : c.isDigit = false := by
    rw [Bool.eq_false_iff]
    intro hdigit
    simp only [Char.isDigit, Bool.and_eq_true, decide_eq_true_eq] at hdigit
    have hlow : 0x30 ≤ c.toNat := hdigit.1
    have hhigh : c.toNat ≤ 0x39 := hdigit.2
    simp only [isBlank, blankRanges, List.any_cons, List.any_nil, Bool.or_false, Bool.or_eq_true,
      Bool.and_eq_true, decide_eq_true_eq] at h
    omega
  have hlexeme : lexeme c cs =
      if isWordStart c then (.word, run isWordChar cs) else (.illegal, 0) := by
    simp [lexeme, hc, hdigit, hne '-' (by decide), hne '/' (by decide), hne '\'' (by decide),
      hne '"' (by decide), hne '\x60' (by decide), hne '[' (by decide), hne '.' (by decide),
      hne '?' (by decide), hne ':' (by decide), hne '@' (by decide), hne '$' (by decide),
      hne 'x' (by decide), hne 'X' (by decide), hne '=' (by decide), hne '!' (by decide),
      hne '|' (by decide), hne '<' (by decide), hne '>' (by decide), hne '(' (by decide),
      hne ')' (by decide), hne ';' (by decide), hne ',' (by decide), hne '+' (by decide),
      hne '*' (by decide), hne '%' (by decide), hne '&' (by decide), hne '~' (by decide)]
  rw [hlexeme]
  split
  · exact ne_of_beq_false rfl
  · exact ne_of_beq_false rfl

/-! ## First tokens -/

/-- A text that begins with a word up to white space: the first token is a keyword only if it is
that word. -/
structure Opens (t : Token) (verb : List Char) : Prop where
  noEnd : t.isSymbol ";" = false
  keyword : ∀ w : String, (∀ c ∈ w.toList, isBlank c = false) → t.isWord w = true →
    w.toList = verb.map Char.toLower

theorem opens_of_isBlank {l : Lexeme} {c : Char} (h : isBlank c = true) (text verb : List Char) :
    Opens ⟨l, c :: text, [], 0⟩ verb where
  noEnd := by
    have hc : c ≠ ';' := by
      rintro rfl
      cases h
    simp [Token.isSymbol, hc]
  keyword w hw hword := by
    simp only [Token.isWord, Bool.and_eq_true, beq_iff_eq, List.map_cons, toLower_of_isBlank h]
      at hword
    have hc := hw c (hword.2 ▸ List.mem_cons_self)
    rw [h] at hc
    cases hc

/-- A word is the whole token, unless it goes on with white space that the engine takes for a part
of it. -/
theorem opens_verb {verb rest : List Char} (hrest : ∀ c ∈ rest.head?, isBlank c = true) :
    Opens ⟨.word, verb ++ rest.takeWhile isWordChar, [], 0⟩ verb where
  noEnd := rfl
  keyword w hw hword := by
    simp only [Token.isWord, Bool.and_eq_true, beq_iff_eq, List.map_append] at hword
    cases htake : rest.takeWhile isWordChar with
    | nil =>
        rw [htake, List.map_nil, List.append_nil] at hword
        exact hword.2.symm
    | cons d ds =>
        have hd : isBlank d = true := by
          apply hrest
          cases rest with
          | nil => cases htake
          | cons e es =>
              by_cases he : isWordChar e = true
              · rw [List.takeWhile_cons_of_pos he] at htake
                exact (List.cons.inj htake).1 ▸ rfl
              · rw [List.takeWhile_cons_of_neg he] at htake
                cases htake
        have hmem : d ∈ w.toList := by
          rw [← hword.2, htake, List.map_cons, toLower_of_isBlank hd]
          simp
        have hnot := hw d hmem
        rw [hd] at hnot
        cases hnot

/-! ## Letters -/

theorem isAlpha_iff {c : Char} : c.isAlpha = true ↔ c.isUpper = true ∨ c.isLower = true :=
  Bool.or_eq_true_iff ..

theorem isUpper_iff {c : Char} : c.isUpper = true ↔ 0x41 ≤ c.toNat ∧ c.toNat ≤ 0x5A :=
  decide_eq_true_iff

theorem isLower_iff {c : Char} : c.isLower = true ↔ 0x61 ≤ c.toNat ∧ c.toNat ≤ 0x7A :=
  (Bool.and_eq_true_iff ..).trans (and_congr decide_eq_true_iff decide_eq_true_iff)

theorem isAlpha_of_toLower {c : Char} (h : c.toLower.isLower = true) : c.isAlpha = true := by
  by_cases hupper : c.val ≥ 'A'.val ∧ c.val ≤ 'Z'.val
  · exact isAlpha_iff.mpr (.inl (isUpper_iff.mpr hupper))
  · have hsame : c.toLower = c := dif_neg hupper
    rw [hsame] at h
    exact isAlpha_iff.mpr (.inr h)

theorem isWordChar_of_isAlpha {c : Char} (h : c.isAlpha = true) : isWordChar c = true := by
  simp [isWordChar, Char.isAlphanum, h]

/-- A letter begins a word, unless it may be that of a blob. -/
theorem lexeme_of_isAlpha {c : Char} (h : c.isAlpha = true) (hblob : c ≠ 'x' ∧ c ≠ 'X')
    (cs : List Char) : lexeme c cs = (.word, run isWordChar cs) := by
  have hne (d : Char) (hd : d.isAlpha = false) : c ≠ d := by
    rintro rfl
    rw [h] at hd
    cases hd
  have hdigit : c.isDigit = false := by
    rw [Bool.eq_false_iff]
    intro hdigit
    simp only [Char.isDigit, Bool.and_eq_true, decide_eq_true_eq] at hdigit
    have hlow : 0x30 ≤ c.toNat := hdigit.1
    have hhigh : c.toNat ≤ 0x39 := hdigit.2
    rw [isAlpha_iff, isUpper_iff, isLower_iff] at h
    omega
  have hspace : isSpaceChar c = false := by
    simp [isSpaceChar, hne ' ' (by decide), hne '\t' (by decide), hne '\n' (by decide),
      hne '\x0c' (by decide), hne '\r' (by decide)]
  have hstart : isWordStart c = true := by simp [isWordStart, h]
  simp [lexeme, hspace, hdigit, hblob, hstart, hne '-' (by decide), hne '/' (by decide),
    hne '\'' (by decide), hne '"' (by decide), hne '\x60' (by decide), hne '[' (by decide),
    hne '.' (by decide), hne '?' (by decide), hne ':' (by decide), hne '@' (by decide),
    hne '$' (by decide)]

/-! ## Verbs -/

/-- A word of letters, in whatever case, that is the word of a keyword. -/
structure IsVerb (verb : List Char) : Prop where
  ne_nil : verb ≠ []
  letters : ∀ c ∈ verb, c.isAlpha = true ∧ c ≠ 'x' ∧ c ≠ 'X'

theorem IsVerb.of_lower {verb : List Char} {w : String} (h : verb.map Char.toLower = w.toList)
    (hne : w.toList ≠ []) (hw : w.toList.all (fun c => c.isLower && c != 'x') = true) :
    IsVerb verb where
  ne_nil := by
    rintro rfl
    exact hne h.symm
  letters c hc := by
    have hlower : c.toLower.isLower = true ∧ c.toLower ≠ 'x' := by
      simpa using List.all_eq_true.mp hw c.toLower (h ▸ List.mem_map_of_mem hc)
    refine ⟨isAlpha_of_toLower hlower.1, ?_, ?_⟩
    · rintro rfl
      exact hlower.2 rfl
    · rintro rfl
      exact hlower.2 rfl

/-- A text that begins with a verb up to white space, after other white space, has a first token
that says so. -/
theorem solid_opens {verb : List Char} (hverb : IsVerb verb) {rest : List Char}
    (hrest : ∀ c ∈ rest.head?, isBlank c = true) {lead : List Char}
    (hlead : ∀ c ∈ lead, isBlank c = true) :
    ∃ t ts, solid (lead ++ (verb ++ rest)) = t :: ts ∧ Opens t verb := by
  induction lead with
  | nil =>
      obtain ⟨c, cs, rfl⟩ := List.exists_cons_of_ne_nil hverb.ne_nil
      have hc := hverb.letters c List.mem_cons_self
      have hrun : (cs ++ rest).takeWhile isWordChar = cs ++ rest.takeWhile isWordChar :=
        List.takeWhile_append_of_pos fun d hd =>
          isWordChar_of_isAlpha (hverb.letters d (List.mem_cons_of_mem _ hd)).1
      have hsplit : cs ++ rest =
          (cs ++ rest.takeWhile isWordChar) ++ rest.dropWhile isWordChar := by
        rw [List.append_assoc, List.takeWhile_append_dropWhile]
      have hlexeme : lexeme c ((cs ++ rest.takeWhile isWordChar) ++ rest.dropWhile isWordChar) =
          (.word, (cs ++ rest.takeWhile isWordChar).length) := by
        rw [← hsplit, lexeme_of_isAlpha hc.1 hc.2, run, hrun]
      refine ⟨_, solid (rest.dropWhile isWordChar), ?_, opens_verb hrest⟩
      rw [List.nil_append, List.cons_append, hsplit]
      exact solid_cons hlexeme (ne_of_beq_false rfl)
  | cons b lead ih =>
      have hb := hlead b List.mem_cons_self
      rw [List.cons_append]
      by_cases hspace : isSpaceChar b = true
      · rw [solid_skip hspace]
        exact ih fun c hc => hlead c (List.mem_cons_of_mem _ hc)
      · let after := lead ++ (verb ++ rest)
        have htoken := lexeme_of_isBlank hb (by simpa using hspace) after
        have hsolid : solid (b :: after) =
            ⟨(lexeme b after).1, b :: after.take (lexeme b after).2, [], 0⟩ ::
              solid (after.drop (lexeme b after).2) := by
          refine solid_of_lexemes ?_ htoken
          rw [lexemes]
        exact ⟨_, _, hsolid, opens_of_isBlank hb _ verb⟩

/-- The first word of a text, as the engine reads it up to a NUL character. -/
theorem tokens_opens {sql : String} (hverb : IsVerb (firstWord sql.toList)) :
    ∃ t ts, tokens sql = t :: ts ∧ Opens t.solid (firstWord sql.toList) := by
  let chars := sql.toList
  let lead := chars.takeWhile isBlank
  let rest := (chars.dropWhile isBlank).dropWhile fun c => !isBlank c
  have hchars : chars = lead ++ (firstWord chars ++ rest) := by
    rw [firstWord, List.takeWhile_append_dropWhile, List.takeWhile_append_dropWhile]
  have hlead : ∀ c ∈ lead, isBlank c = true :=
    fun c hc => List.all_eq_true.mp List.all_takeWhile c hc
  have hrest : ∀ c ∈ rest.head?, isBlank c = true := by
    intro c hc
    have hhead := List.head?_dropWhile_not (fun c => !isBlank c) (chars.dropWhile isBlank)
    rw [show (chars.dropWhile isBlank).dropWhile (fun c => !isBlank c) = rest from rfl] at hhead
    rw [Option.mem_def] at hc
    rw [hc] at hhead
    simpa using hhead
  have hnul (c : Char) (h : isBlank c = true ∨ c.isAlpha = true) : (c != '\x00') = true := by
    rw [bne_iff_ne]
    rintro rfl
    rcases h with h | h <;> cases h
  have htake : chars.takeWhile (· != '\x00') =
      lead ++ (firstWord chars ++ rest.takeWhile (· != '\x00')) := by
    conv => lhs; rw [hchars]
    rw [List.takeWhile_append_of_pos fun c hc => hnul c (.inl (hlead c hc)),
      List.takeWhile_append_of_pos fun c hc => hnul c (.inr (hverb.letters c hc).1)]
  have hrest' : ∀ c ∈ (rest.takeWhile (· != '\x00')).head?, isBlank c = true := by
    cases hcons : rest with
    | nil => nofun
    | cons d ds =>
        have hd := hrest d (by rw [hcons]; rfl)
        rw [List.takeWhile_cons_of_pos (p := (· != '\x00')) (hnul d (.inl hd))]
        rintro _ ⟨⟩
        exact hd
  obtain ⟨t, ts, hsolid, hopens⟩ := solid_opens hverb hrest' hlead
  rw [← htake, ← tokens_solid] at hsolid
  obtain ⟨u, us, htokens, rfl, -⟩ := List.map_eq_cons_iff.mp hsolid
  exact ⟨u, us, htokens, hopens⟩

/-! ## Insertions -/

def Statement.IsInsertion (s : Statement) : Prop := ∃ i, s = .insert i

open Parse

/-- Tokens of which the first is a keyword for insertions, or none, are read as an insertion or not
at all. -/
theorem parse_insertion {t : Token} {ts : List Token} (hend : t.isSymbol ";" = false)
    (hword : ∀ w : String, (∀ c ∈ w.toList, isBlank c = false) → t.isWord w = true →
      w = "insert" ∨ w = "replace") :
    Yields (fun p => p.statement.IsInsertion) (parse (t :: ts)) := by
  have hskip (w : String) (h : t.isWord w = false) :
      takeWord w ⟨t :: ts, {}⟩ = .ok (false, ⟨t :: ts, {}⟩) := by
    refine takeIf_neg fun u hu => ?_
    obtain rfl : t = u := by simpa using hu
    exact h
  have hno (w : String)
      (h : w.toList.all (fun c => !isBlank c) = true ∧ w ≠ "insert" ∧ w ≠ "replace") :
      takeWord w ⟨t :: ts, {}⟩ = .ok (false, ⟨t :: ts, {}⟩) :=
    have hblank : ∀ c ∈ w.toList, isBlank c = false := by simpa using h.1
    hskip w (Bool.eq_false_iff.mpr fun hw => (hword w hblank hw).elim h.2.1 h.2.2)
  have hended (item : Parse Statement) (r : Reader)
      (hitem : Yields (fun a => a.1.IsInsertion) (item r)) :
      Yields (fun a => a.1.IsInsertion)
        ((item >>= fun s => endOfStatement >>= fun _ => pure s : Parse Statement) r) :=
    hitem.bind_of fun a ha => .bind fun _ => .ok ha
  have hinsertion (c : Conflict) (r : Reader) :
      Yields (fun a => a.1.IsInsertion) ((.insert <$> insert c : Parse Statement) r) := by
    show Yields _ (insert c r >>= fun a => .ok (Statement.insert a.1, a.2))
    exact .bind fun a => .ok ⟨a.1, rfl⟩
  have hparse : parse (t :: ts) = (statement ⟨t :: ts, {}⟩ >>= fun r =>
      .ok ⟨r.1, r.2.parameters, r.2.rest⟩) := by
    rw [parse, List.dropWhile_cons_of_neg (by simp [hend])]
  rw [hparse]
  refine Yields.bind_of (Q := fun r => r.1.IsInsertion) ?_ fun r hr => .ok hr
  unfold statement
  dsimp only
  rw [bind_ok (hno "select" (by decide)), if_neg Bool.false_ne_true]
  by_cases hinsert : t.isWord "insert" = true
  · rw [takeWord, bind_ok (takeIf_pos hinsert), if_pos rfl]
    exact hended _ _ (yields_parse_bind (fun c => hinsertion _) _)
  rw [bind_ok (hskip "insert" (by simpa using hinsert)), if_neg Bool.false_ne_true]
  by_cases hreplace : t.isWord "replace" = true
  · rw [takeWord, bind_ok (takeIf_pos hreplace), if_pos rfl]
    exact hended _ _ (hinsertion _ _)
  rw [bind_ok (hskip "replace" (by simpa using hreplace)), if_neg Bool.false_ne_true,
    bind_ok (hno "update" (by decide)), if_neg Bool.false_ne_true,
    bind_ok (hno "delete" (by decide)), if_neg Bool.false_ne_true,
    bind_ok (hno "create" (by decide)), if_neg Bool.false_ne_true,
    bind_ok (hno "pragma" (by decide)), if_neg Bool.false_ne_true,
    bind_ok (hno "begin" (by decide)), if_neg Bool.false_ne_true,
    bind_ok (hno "commit" (by decide)), if_neg Bool.false_ne_true,
    bind_ok (hno "rollback" (by decide)), if_neg Bool.false_ne_true,
    bind_ok (hno "savepoint" (by decide)), if_neg Bool.false_ne_true,
    bind_ok (hno "release" (by decide)), if_neg Bool.false_ne_true]
  exact .error _

/-- A text whose first word is one for insertions is read as an insertion, or not at all. -/
theorem leads_insertion {sql w : String} (hw : w = "insert" ∨ w = "replace")
    (h : (firstWord sql.toList).map Char.toLower = w.toList) :
    Leads Statement.IsInsertion sql := by
  have hverb : IsVerb (firstWord sql.toList) := by
    rcases hw with rfl | rfl <;> exact .of_lower h (by decide) (by decide)
  obtain ⟨t, ts, htokens, hopens⟩ := tokens_opens hverb
  intro p hp
  rw [htokens] at hp
  have hend : t.isSymbol ";" = false := hopens.noEnd
  refine parse_insertion hend (fun v hv hword => ?_) p hp
  have hv : v = w := String.toList_injective ((hopens.keyword v hv hword).trans h)
  rwa [hv]

end Sql

end TypedSql
