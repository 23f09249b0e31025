import Mathlib.Tactic.SplitIfs
import TypedSql.Proofs.Record.Spelling

namespace TypedSql

theorem Closes.not_colon {rest : List Token} (h : Closes rest) :
    rest.head? ≠ some (.mark ':') := by
  intro hcolon
  cases h _ hcolon

def assignment (word : String) (x : Literal) : List Token :=
  .word word.toList :: .mark '=' :: x.tokens

theorem readPath_assignment (word : String) (x : Literal) (rest : List Token) :
    readPath (assignment word x ++ rest) = .ok ([word.toList], .mark '=' :: x.tokens ++ rest) :=
  readPath_word (by simp) _

theorem eq_assignment {word : String} {x : Literal} {tokens tail rest : List Token}
    (hpath : readPath tokens = .ok ([word.toList], tail))
    (hread : readAssigned tail = .ok (x.written, rest)) : tokens = assignment word x ++ rest := by
  rw [eq_word_of_readPath hpath, tokens_of_readAssigned hread]
  rfl

theorem Written.eq_text_of_text? {x : Written} {text : String} (h : x.text? = some text) :
    x = (Literal.text text).written := by
  cases x <;> cases h
  rfl

/-! ## The name of a table -/

def nameTokens (name : String) : List Token := assignment "name" (.text name)

theorem tableItem_spelledBy :
    SpelledBy tableItem nameTokens (fun _ name => some name) where
  nonempty _ := by simp [nameTokens, assignment]
  accepts name known rest h := by
    refine ⟨_, _, readPath_assignment "name" (.text name) rest, ?_⟩
    rw [tableItem, if_pos rfl, readAssigned_literal h]
    rfl
  sound tokens path tail known known' rest hpath hitem := by
    rw [tableItem] at hitem
    split at hitem
    · subst path
      obtain ⟨⟨x, rest'⟩, hread, hitem⟩ := ok_of_bind hitem
      dsimp only at hitem
      split at hitem
      · rename_i name htext
        cases hitem
        rw [Written.eq_text_of_text? htext] at hread
        exact ⟨name, eq_assignment hpath hread, rfl⟩
      · cases hitem
    · cases hitem
  steady _ _ _ _ := rfl

/-! ## The marks of a column -/

/-- One thing that an attribute says of a column. -/
inductive ColumnMark where
  | primaryKey
  | unique
  | autoincrement
  | name (text : String)
  | default (value : Literal)
deriving DecidableEq, Repr

namespace ColumnMark

def tokens : ColumnMark → List Token
  | .primaryKey => [.word "primary_key".toList]
  | .unique => [.word "unique".toList]
  | .autoincrement => [.word "autoincrement".toList]
  | .name text => assignment "name" (.text text)
  | .default value => assignment "default" value

def name? : ColumnMark → Option String
  | .name text => some text
  | _ => none

def default? : ColumnMark → Option String
  | .default value => some value.sql
  | _ => none

end ColumnMark

namespace ColumnMarks

def add (marks : ColumnMarks) : ColumnMark → ColumnMarks
  | .primaryKey => { marks with primaryKey := true }
  | .unique => { marks with unique := true }
  | .autoincrement => { marks with autoincrement := true }
  | .name text => { marks with name := some text }
  | .default value => { marks with defaultText := some value.sql }

/-- Flags are set if they are set anywhere; the last name and the last default count. -/
theorem foldl_add (ms : List ColumnMark) (known : ColumnMarks) :
    ms.foldl add known =
      { name := (ms.filterMap ColumnMark.name?).getLast?.or known.name
        primaryKey := known.primaryKey || ms.contains .primaryKey
        unique := known.unique || ms.contains .unique
        autoincrement := known.autoincrement || ms.contains .autoincrement
        defaultText := (ms.filterMap ColumnMark.default?).getLast?.or known.defaultText } := by
  induction ms generalizing known with
  | nil => simp
  | cons m ms ih =>
      rw [List.foldl_cons, ih]
      cases m <;> simp [add, ColumnMark.name?, ColumnMark.default?, List.getLast?_cons]

end ColumnMarks

theorem columnItem_spelledBy : SpelledBy columnItem ColumnMark.tokens ColumnMarks.add where
  nonempty m := by cases m <;> simp [ColumnMark.tokens, assignment]
  accepts m known rest h := by
    cases m with
    | primaryKey | unique | autoincrement => exact ⟨_, _, readPath_word h.not_colon _, rfl⟩
    | name text =>
        have hitem : columnItem ["name".toList] known
            (.mark '=' :: (Literal.text text).tokens ++ rest) =
            .ok (known.add (.name text), rest) := by
          simp only [columnItem, readAssigned_literal h]
          rfl
        exact ⟨_, _, readPath_assignment "name" (.text text) rest, hitem⟩
    | default value =>
        have hitem : columnItem ["default".toList] known (.mark '=' :: value.tokens ++ rest) =
            .ok (known.add (.default value), rest) := by
          simp only [columnItem, readAssigned_literal h, bind, Except.bind, value.sql?_written]
          rfl
        exact ⟨_, _, readPath_assignment "default" value rest, hitem⟩
  sound tokens path tail known known' rest hpath hitem := by
    rw [columnItem] at hitem
    split_ifs at hitem with hkey hunique hauto hname hdefault
    · subst path
      cases hitem
      exact ⟨.primaryKey, eq_word_of_readPath hpath, rfl⟩
    · subst path
      cases hitem
      exact ⟨.unique, eq_word_of_readPath hpath, rfl⟩
    · subst path
      cases hitem
      exact ⟨.autoincrement, eq_word_of_readPath hpath, rfl⟩
    · subst path
      obtain ⟨⟨x, rest'⟩, hread, hitem⟩ := ok_of_bind hitem
      dsimp only at hitem
      split at hitem
      · rename_i text htext
        cases hitem
        rw [Written.eq_text_of_text? htext] at hread
        exact ⟨.name text, eq_assignment hpath hread, rfl⟩
      · cases hitem
    · subst path
      obtain ⟨⟨x, rest'⟩, hread, hitem⟩ := ok_of_bind hitem
      dsimp only at hitem
      split at hitem
      · rename_i text hsql
        cases hitem
        obtain ⟨value, rfl, rfl⟩ := Written.exists_literal hsql
        exact ⟨.default value, eq_assignment hpath hread, rfl⟩
      · cases hitem
  steady path known known' tail := by
    rw [columnItem, columnItem]
    split_ifs
    · rfl
    · rfl
    · rfl
    · cases readAssigned tail with
      | error e => rfl
      | ok read =>
          simp only [bind, Except.bind]
          cases read.1.text? <;> rfl
    · cases readAssigned tail with
      | error e => rfl
      | ok read =>
          simp only [bind, Except.bind]
          cases read.1.sql? <;> rfl
    · rfl

end TypedSql
