import TypedSql.Sql.Token
import TypedSql.Text.Quoted

namespace TypedSql

namespace Sql

/-! ## Quoted text as the engine reads it -/

section
variable {mark : Char}

theorem closeQuoted_cons {c : Char} (h : c ≠ mark) (cs : List Char) :
    closeQuoted mark (c :: cs) = (fun (s, n) => (c :: s, n + 1)) <$> closeQuoted mark cs := by
  cases cs <;> simp [closeQuoted, h]

/-- The text between quotes is what was quoted. -/
theorem closeQuoted_doubled (s : List Char) {rest : List Char} (h : rest.head? ≠ some mark) :
    closeQuoted mark (doubled mark s ++ mark :: rest) = some (s, (doubled mark s).length + 1) := by
  induction s with
  | nil =>
      cases rest with
      | nil => simp [doubled, closeQuoted]
      | cons d ds =>
          have hd : d ≠ mark := fun hd => h (by rw [hd]; rfl)
          simp [doubled, closeQuoted, hd]
  | cons c cs ih =>
      by_cases hc : c = mark
      · simp [doubled, closeQuoted, hc, ih]
      · simp [doubled, closeQuoted_cons hc, hc, ih]

/-- No mark of doubled text closes it. -/
theorem closeQuoted_unclosed (s : List Char) : closeQuoted mark (doubled mark s) = none := by
  induction s with
  | nil => simp [doubled, closeQuoted]
  | cons c cs ih =>
      by_cases h : c = mark
      · simp [doubled, closeQuoted, h, ih]
      · simp [doubled, closeQuoted_cons h, h, ih]

/-- Quoted text with a NUL character in it ends before it is closed. -/
theorem takeWhile_doubled (hmark : mark ≠ '\x00') {s : List Char} (h : '\x00' ∈ s)
    (t : List Char) :
    (doubled mark s ++ t).takeWhile (· != '\x00') = doubled mark (s.takeWhile (· != '\x00')) := by
  induction s with
  | nil => simp at h
  | cons c cs ih =>
      by_cases hc : c = '\x00'
      · subst hc
        simp [doubled, Ne.symm hmark]
      · have hcs : '\x00' ∈ cs := by
          rcases List.mem_cons.mp h with h | h
          · exact absurd h.symm hc
          · exact h
        by_cases hm : c = mark
        · simp [doubled, hm, hmark, ih hcs]
        · simp [doubled, hm, hc, ih hcs]

theorem mem_doubled {c : Char} {s : List Char} : c ∈ doubled mark s ↔ c ∈ s := by
  induction s with
  | nil => simp [doubled]
  | cons d ds ih =>
      by_cases h : d = mark
      · simp [doubled, h, ih]
      · simp [doubled, h, ih]

end

/-! ## Tokens -/

/-- What begins a text is its first token, and the rest is cut into tokens by itself. -/
theorem lexemes_cons {c : Char} {cs rest : List Char} {l : Lexeme}
    (h : lexeme c (cs ++ rest) = (l, cs.length)) :
    lexemes (c :: (cs ++ rest)) = (l, c :: cs) :: lexemes rest := by
  rw [lexemes, h]
  simp

/-- The last token of a text. -/
theorem lexemes_last {c : Char} {cs : List Char} {l : Lexeme} (h : lexeme c cs = (l, cs.length)) :
    lexemes (c :: cs) = [(l, c :: cs)] := by
  have hlast : lexeme c (cs ++ []) = (l, cs.length) := by rw [List.append_nil, h]
  have hcons := lexemes_cons hlast
  rwa [List.append_nil, lexemes] at hcons

/-- A word with a blank after it. -/
theorem lexemes_word {c d : Char} {cs rest : List Char}
    (h : lexeme c (cs ++ ' ' :: d :: rest) = (.word, cs.length)) (hd : isSpaceChar d = false) :
    lexemes (c :: (cs ++ ' ' :: d :: rest)) =
      (.word, c :: cs) :: (.space, [' ']) :: lexemes (d :: rest) := by
  have hspace : lexeme ' ' ([] ++ d :: rest) = (.space, 0) := by
    have hrun : run isSpaceChar (d :: rest) = 0 := by simp [run, hd]
    have hblank : isSpaceChar ' ' = true := by decide
    simp only [lexeme, List.nil_append, hblank, if_true, hrun]
  rw [lexemes_cons h]
  exact congrArg _ (lexemes_cons hspace)

theorem lexeme_quote (cs : List Char) :
    lexeme '\'' cs =
      match closeQuoted '\'' cs with
      | some (s, n) => (.string s, n)
      | none => (.illegal, cs.length) := rfl

theorem lexemes_literal (s : List Char) {rest : List Char} (hrest : rest.head? ≠ some '\'') :
    lexemes (quoted '\'' s ++ rest) = (.string s, quoted '\'' s) :: lexemes rest := by
  have h : lexeme '\'' ((doubled '\'' s ++ ['\'']) ++ rest) =
      (.string s, (doubled '\'' s ++ ['\'']).length) := by
    rw [lexeme_quote, List.append_assoc, List.singleton_append, closeQuoted_doubled s hrest]
    simp
  exact lexemes_cons h

theorem lexemes_name (s : List Char) {rest : List Char} (hrest : rest.head? ≠ some '"') :
    lexemes (quoted '"' s ++ rest) = (.quotedName s, quoted '"' s) :: lexemes rest := by
  have h : lexeme '"' ((doubled '"' s ++ ['"']) ++ rest) =
      (.quotedName s, (doubled '"' s ++ ['"']).length) := by
    have hmark : lexeme '"' ((doubled '"' s ++ ['"']) ++ rest) =
        match closeQuoted '"' ((doubled '"' s ++ ['"']) ++ rest) with
        | some (s, n) => (.quotedName s, n)
        | none => (.illegal, ((doubled '"' s ++ ['"']) ++ rest).length) := rfl
    rw [hmark, List.append_assoc, List.singleton_append, closeQuoted_doubled s hrest]
    simp
  exact lexemes_cons h

theorem lexemes_unclosed (s : List Char) :
    lexemes ('\'' :: doubled '\'' s) = [(.illegal, '\'' :: doubled '\'' s)] := by
  have h : lexeme '\'' (doubled '\'' s ++ []) = (.illegal, (doubled '\'' s).length) := by
    rw [lexeme_quote, List.append_nil, closeQuoted_unclosed]
  have hq := lexemes_cons h
  rw [List.append_nil, lexemes] at hq
  exact hq

/-- Text in quotes has no NUL character that it does not quote. -/
theorem nul_notMem_quoted {mark : Char} (hmark : mark ≠ '\x00') {s : List Char} (h : '\x00' ∉ s) :
    '\x00' ∉ quoted mark s := by
  simp only [quoted, List.mem_cons, List.mem_append, mem_doubled, List.not_mem_nil, or_false,
    not_or]
  exact ⟨hmark.symm, h, hmark.symm⟩

/-- A text without NUL characters is read to its end. -/
theorem takeWhile_noNul {s : List Char} (h : '\x00' ∉ s) : s.takeWhile (· != '\x00') = s := by
  have hall : ∀ c ∈ s, (c != '\x00') = true := by
    intro c hc
    rw [bne_iff_ne]
    rintro rfl
    exact h hc
  have htake : (s ++ []).takeWhile (· != '\x00') = s ++ [] := by
    rw [List.takeWhile_append_of_pos hall, List.takeWhile_nil]
  rwa [List.append_nil] at htake

/-! ## Tokens without their places -/

/-- The token with nothing said of where it is. -/
def Token.solid (t : Token) : Token := { t with space := [], offset := 0 }

/-- The token that a lexeme is, unless it is space. -/
def solidToken? (l : Lexeme × List Char) : Option Token :=
  if l.1 = .space then none else some ⟨l.1, l.2, [], 0⟩

/-- The tokens of a text without their places. -/
def solid (s : List Char) : List Token := (lexemes s).filterMap solidToken?

theorem solid_of_lexemes {s rest text : List Char} {l : Lexeme}
    (h : lexemes s = (l, text) :: lexemes rest) (hl : l ≠ .space) :
    solid s = ⟨l, text, [], 0⟩ :: solid rest := by
  simp [solid, solidToken?, h, hl]

theorem solid_cons {c : Char} {cs rest : List Char} {l : Lexeme}
    (h : lexeme c (cs ++ rest) = (l, cs.length)) (hl : l ≠ .space) :
    solid (c :: (cs ++ rest)) = ⟨l, c :: cs, [], 0⟩ :: solid rest :=
  solid_of_lexemes (lexemes_cons h) hl

theorem drop_run (p : Char → Bool) (s : List Char) : s.drop (run p s) = s.dropWhile p := by
  induction s with
  | nil => rfl
  | cons c cs ih =>
      by_cases hc : p c = true
      · rw [List.dropWhile_cons_of_pos hc, run, List.takeWhile_cons_of_pos hc]
        exact ih
      · simp [run, hc]

theorem solid_space {c : Char} (h : isSpaceChar c = true) (s : List Char) :
    solid (c :: s) = solid (s.dropWhile isSpaceChar) := by
  have hc : lexeme c s = (.space, run isSpaceChar s) := by rw [lexeme, if_pos h]
  rw [solid, lexemes, hc, drop_run]
  simp [solid, solidToken?]

/-- Space before a text leaves no trace. -/
theorem solid_skip {c : Char} (h : isSpaceChar c = true) (s : List Char) :
    solid (c :: s) = solid s := by
  rw [solid_space h]
  cases s with
  | nil => rfl
  | cons d ds =>
      by_cases hd : isSpaceChar d = true
      · rw [List.dropWhile_cons_of_pos hd, solid_space hd]
      · rw [List.dropWhile_cons_of_neg hd]

theorem solid_blank (s : List Char) : solid (' ' :: s) = solid s := solid_skip (by decide) s

/-- A text that is one token before a certain character. -/
theorem solid_append {w : List Char} (hw : w ≠ []) {d : Char} {l : Lexeme}
    (h : ∀ s, lexeme (w.head hw) (w.tail ++ d :: s) = (l, w.tail.length)) (hl : l ≠ .space)
    (s : List Char) : solid (w ++ d :: s) = ⟨l, w, [], 0⟩ :: solid (d :: s) := by
  cases w with
  | nil => exact absurd rfl hw
  | cons c cs => exact solid_cons (h s) hl

/-- A character that is a token whatever comes after it. -/
theorem solid_symbol {c : Char} (h : ∀ s, lexeme c s = (.symbol, 0)) (s : List Char) :
    solid (c :: s) = ⟨.symbol, [c], [], 0⟩ :: solid s := by
  have hc : lexeme c ([] ++ s) = (.symbol, ([] : List Char).length) := h s
  exact solid_cons hc nofun

theorem solid_name (name : String) {rest : List Char} (h : rest.head? ≠ some '"') :
    solid ((quoteIdentifier name).toList ++ rest) =
      ⟨.quotedName name.toList, quoted '"' name.toList, [], 0⟩ :: solid rest := by
  rw [quoteIdentifier, String.toList_ofList]
  exact solid_of_lexemes (lexemes_name name.toList h) nofun

theorem solid_literal (text : String) {rest : List Char} (h : rest.head? ≠ some '\'') :
    solid ((quoteLiteral text).toList ++ rest) =
      ⟨.string text.toList, quoted '\'' text.toList, [], 0⟩ :: solid rest := by
  rw [quoteLiteral, String.toList_ofList]
  exact solid_of_lexemes (lexemes_literal text.toList h) nofun

/-- A question mark without digits after it. -/
theorem solid_mark {rest : List Char} (h : ∀ c ∈ rest.head?, c.isDigit = false) :
    solid ('?' :: rest) = ⟨.positional [], ['?'], [], 0⟩ :: solid rest := by
  have hdigits : rest.takeWhile Char.isDigit = [] := by
    cases rest with
    | nil => rfl
    | cons c cs => rw [List.takeWhile_cons_of_neg (by simp [h c rfl])]
  have hmark : lexeme '?' ([] ++ rest) =
      (.positional (rest.takeWhile Char.isDigit), run Char.isDigit rest) := rfl
  rw [run, hdigits] at hmark
  exact solid_cons hmark nofun

theorem joinSpace_solid (offset : Nat) (ls : List (Lexeme × List Char)) :
    (joinSpace offset ls).map Token.solid = ls.filterMap solidToken? := by
  fun_induction joinSpace offset ls with
  | case1 => rfl
  | case2 offset text rest ih => simpa [solidToken?] using ih
  | case3 offset lexeme text rest hspace space ih =>
      have hsome : solidToken? (lexeme, text) = some ⟨lexeme, text, [], 0⟩ := if_neg hspace
      rw [List.filterMap_cons_some hsome, List.map_cons, ih]
      rfl

/-- Apart from their places these are the tokens that the engine reads, up to a NUL character. -/
theorem tokens_solid (sql : String) :
    (tokens sql).map Token.solid = solid (sql.toList.takeWhile (· != '\x00')) :=
  joinSpace_solid 0 _

end Sql

end TypedSql
