import TypedSql.Connection.Bracket
import TypedSql.Proofs.Fragment
import TypedSql.Proofs.Sql.Lexing

/-!
The texts that open and end transactions and savepoints, as the engine reads them. The name of a
savepoint is written as a text literal, so whatever it is the text has no parameters, and unless a
NUL character cuts the literal short the engine reads that name back. A cut literal is no token.
-/

namespace TypedSql

namespace Sql

/-! ## Statements -/

/-- A text that the engine reads as a statement about transactions, and that neither binds nor
inserts anything. -/
structure ControlText (sql : String) (c : Control) : Prop where
  read : parse (tokens sql) = .ok ⟨.control c, {}, []⟩
  unbound : inlinePositional sql [] = .ok sql
  noInsert : Connection.isInsert sql = false

theorem toList_literal (w name : String) :
    (w ++ quoteLiteral name).toList = w.toList ++ quoted '\'' name.toList := by
  rw [String.toList_append, quoteLiteral, String.toList_ofList]

/-- A word, followed by the literal of a name. -/
theorem inlinePositional_literal {w name : String} (hw : Word 0 0 w) :
    inlinePositional (w ++ quoteLiteral name) [] = .ok (w ++ quoteLiteral name) := by
  have hreads := hw.reads.append (reads_quoteLiteral name) (.inl hw.settled)
  rw [← String.toList_append] at hreads
  exact (Fills.of_no_parameter hreads.marks).inlinePositional

/-- Whether a text inserts is told by its first word. -/
theorem isInsert_append {w : String} (verb : String)
    (hw : ∀ rest, firstWord (w.toList ++ rest) = verb.toList)
    (hverb : sameName verb "INSERT" = false ∧ sameName verb "REPLACE" = false) (rest : String) :
    Connection.isInsert (w ++ rest) = false := by
  simp only [Connection.isInsert, String.toList_append, hw, String.ofList_toList, hverb, Bool.or_self]

theorem tokens_begin (mode : TransactionMode) :
    tokens (Bracket.transaction mode).enter =
      [⟨.word, "BEGIN".toList, [' '], 0⟩, ⟨.word, mode.keyword.toList, [' '], 6⟩,
        ⟨.word, "TRANSACTION".toList, [], 7 + mode.keyword.length⟩] := by
  cases mode with
  | deferred =>
      have htext : (Bracket.transaction .deferred).enter.toList.takeWhile (· != '\x00') =
          'B' :: ("EGIN".toList ++ ' ' :: 'D' :: ("EFERRED".toList ++
            ' ' :: 'T' :: "RANSACTION".toList)) := rfl
      rw [tokens, htext, lexemes_word rfl rfl, lexemes_word rfl rfl, lexemes_last rfl]
      rfl
  | immediate =>
      have htext : (Bracket.transaction .immediate).enter.toList.takeWhile (· != '\x00') =
          'B' :: ("EGIN".toList ++ ' ' :: 'I' :: ("MMEDIATE".toList ++
            ' ' :: 'T' :: "RANSACTION".toList)) := rfl
      rw [tokens, htext, lexemes_word rfl rfl, lexemes_word rfl rfl, lexemes_last rfl]
      rfl
  | exclusive =>
      have htext : (Bracket.transaction .exclusive).enter.toList.takeWhile (· != '\x00') =
          'B' :: ("EGIN".toList ++ ' ' :: 'E' :: ("XCLUSIVE".toList ++
            ' ' :: 'T' :: "RANSACTION".toList)) := rfl
      rw [tokens, htext, lexemes_word rfl rfl, lexemes_word rfl rfl, lexemes_last rfl]
      rfl

theorem tokens_commit :
    tokens "COMMIT TRANSACTION" =
      [⟨.word, "COMMIT".toList, [' '], 0⟩, ⟨.word, "TRANSACTION".toList, [], 7⟩] := by
  have htext : "COMMIT TRANSACTION".toList.takeWhile (· != '\x00') =
      'C' :: ("OMMIT".toList ++ ' ' :: 'T' :: "RANSACTION".toList) := rfl
  rw [tokens, htext, lexemes_word rfl rfl, lexemes_last rfl]
  rfl

theorem tokens_rollback :
    tokens "ROLLBACK TRANSACTION" =
      [⟨.word, "ROLLBACK".toList, [' '], 0⟩, ⟨.word, "TRANSACTION".toList, [], 9⟩] := by
  have htext : "ROLLBACK TRANSACTION".toList.takeWhile (· != '\x00') =
      'R' :: ("OLLBACK".toList ++ ' ' :: 'T' :: "RANSACTION".toList) := rfl
  rw [tokens, htext, lexemes_word rfl rfl, lexemes_last rfl]
  rfl

theorem controlText_begin (mode : TransactionMode) :
    ControlText (Bracket.transaction mode).enter (.begin mode) where
  read := by
    rw [tokens_begin]
    cases mode <;> rfl
  unbound := (Fills.of_no_parameter (by cases mode <;> decide)).inlinePositional
  noInsert := by cases mode <;> decide

theorem controlText_commit : ControlText "COMMIT TRANSACTION" .commit where
  read := by
    rw [tokens_commit]
    rfl
  unbound := (Fills.of_no_parameter (by decide)).inlinePositional
  noInsert := by decide

theorem controlText_rollback : ControlText "ROLLBACK TRANSACTION" .rollback where
  read := by
    rw [tokens_rollback]
    rfl
  unbound := (Fills.of_no_parameter (by decide)).inlinePositional
  noInsert := by decide

theorem lexemes_savepoint (rest : List Char) :
    lexemes ("SAVEPOINT ".toList ++ '\'' :: rest) =
      [(.word, "SAVEPOINT".toList), (.space, [' '])] ++ lexemes ('\'' :: rest) := by
  show lexemes ('S' :: ("AVEPOINT".toList ++ ' ' :: '\'' :: rest)) = _
  rw [lexemes_word rfl rfl]
  rfl

theorem lexemes_release (rest : List Char) :
    lexemes ("RELEASE SAVEPOINT ".toList ++ '\'' :: rest) =
      [(.word, "RELEASE".toList), (.space, [' ']), (.word, "SAVEPOINT".toList), (.space, [' '])] ++
        lexemes ('\'' :: rest) := by
  show lexemes ('R' :: ("ELEASE".toList ++ ' ' :: 'S' :: ("AVEPOINT ".toList ++ '\'' :: rest))) = _
  rw [lexemes_word rfl rfl]
  exact congrArg (fun ls => _ :: _ :: ls) (lexemes_savepoint rest)

theorem lexemes_rollbackTo (rest : List Char) :
    lexemes ("ROLLBACK TO SAVEPOINT ".toList ++ '\'' :: rest) =
      [(.word, "ROLLBACK".toList), (.space, [' ']), (.word, "TO".toList), (.space, [' ']),
          (.word, "SAVEPOINT".toList), (.space, [' '])] ++
        lexemes ('\'' :: rest) := by
  show lexemes ('R' :: ("OLLBACK".toList ++ ' ' :: 'T' :: ("O".toList ++ ' ' :: 'S' ::
    ("AVEPOINT ".toList ++ '\'' :: rest)))) = _
  rw [lexemes_word rfl rfl, lexemes_word rfl rfl]
  exact congrArg (fun ls => _ :: _ :: _ :: _ :: ls) (lexemes_savepoint rest)

section
variable {name : String} (h : '\x00' ∉ name.toList)
include h

theorem tokens_literal {w : String} {lexed : List (Lexeme × List Char)}
    (hw : ∀ rest, lexemes (w.toList ++ '\'' :: rest) = lexed ++ lexemes ('\'' :: rest))
    (hnul : '\x00' ∉ w.toList) :
    tokens (w ++ quoteLiteral name) =
      joinSpace 0 (lexed ++ [(.string name.toList, quoted '\'' name.toList)]) := by
  have htake : (w.toList ++ quoted '\'' name.toList).takeWhile (· != '\x00') =
      w.toList ++ quoted '\'' name.toList := by
    rw [List.takeWhile_append_of_pos, takeWhile_noNul (nul_notMem_quoted (by decide) h)]
    intro c hc
    rw [bne_iff_ne]
    rintro rfl
    exact hnul hc
  have hend : ([] : List Char).head? ≠ some '\'' := by simp
  have hquoted := lexemes_literal name.toList hend
  rw [List.append_nil, lexemes] at hquoted
  rw [tokens, toList_literal, htake]
  conv => lhs; rw [quoted, hw]
  exact congrArg (fun ls => joinSpace 0 (lexed ++ ls)) hquoted

theorem controlText_savepoint :
    ControlText (Bracket.savepoint name).enter (.savepoint name) where
  read := by
    have hparse (s t : List Char) :
        parse (joinSpace 0
          ([(.word, "SAVEPOINT".toList), (.space, [' '])] ++ [(.string s, t)])) =
        .ok ⟨.control (.savepoint (String.ofList s)), {}, []⟩ := rfl
    rw [Bracket.savepoint, tokens_literal h lexemes_savepoint (by decide), hparse,
      String.ofList_toList]
  unbound := inlinePositional_literal (by decide)
  noInsert := isInsert_append "SAVEPOINT" (fun _ => rfl) (by decide) _

theorem controlText_release :
    ControlText (Bracket.savepoint name).leave (.release name) where
  read := by
    have hparse (s t : List Char) :
        parse (joinSpace 0
          ([(.word, "RELEASE".toList), (.space, [' ']), (.word, "SAVEPOINT".toList),
            (.space, [' '])] ++ [(.string s, t)])) =
        .ok ⟨.control (.release (String.ofList s)), {}, []⟩ := rfl
    rw [Bracket.savepoint, tokens_literal h lexemes_release (by decide), hparse,
      String.ofList_toList]
  unbound := inlinePositional_literal (by decide)
  noInsert := isInsert_append "RELEASE" (fun _ => rfl) (by decide) _

theorem controlText_rollbackTo :
    ControlText (Bracket.savepoint name).undo (.rollbackTo name) where
  read := by
    have hparse (s t : List Char) :
        parse (joinSpace 0
          ([(.word, "ROLLBACK".toList), (.space, [' ']), (.word, "TO".toList), (.space, [' ']),
            (.word, "SAVEPOINT".toList), (.space, [' '])] ++ [(.string s, t)])) =
        .ok ⟨.control (.rollbackTo (String.ofList s)), {}, []⟩ := rfl
    rw [Bracket.savepoint, tokens_literal h lexemes_rollbackTo (by decide), hparse,
      String.ofList_toList]
  unbound := inlinePositional_literal (by decide)
  noInsert := isInsert_append "ROLLBACK" (fun _ => rfl) (by decide) _

end

/-- A name with a NUL character in it cuts the text of its savepoint short, before the literal is
closed. -/
theorem parse_savepoint_nul {name : String} (h : '\x00' ∈ name.toList) :
    ∃ fault, parse (tokens (Bracket.savepoint name).enter) = .error fault := by
  have htake : ("SAVEPOINT ".toList ++ quoted '\'' name.toList).takeWhile (· != '\x00') =
      "SAVEPOINT ".toList ++ '\'' :: doubled '\'' (name.toList.takeWhile (· != '\x00')) := by
    have hword : "SAVEPOINT ".toList.all (· != '\x00') = true := by decide
    rw [List.takeWhile_append_of_pos (List.all_eq_true.mp hword), quoted,
      List.takeWhile_cons_of_pos (by decide),
      takeWhile_doubled (by decide) h]
  have ht : tokens (Bracket.savepoint name).enter =
      joinSpace 0 ([(.word, "SAVEPOINT".toList), (.space, [' '])] ++
        [(.illegal, '\'' :: doubled '\'' (name.toList.takeWhile (· != '\x00')))]) := by
    rw [Bracket.savepoint, tokens, toList_literal, htake, lexemes_savepoint, lexemes_unclosed]
  rw [ht]
  exact ⟨_, rfl⟩

end Sql

end TypedSql
