/-!
Quoted text: a mark at either end, and the mark written twice wherever it occurs inside.
Identifiers take the double quote, text literals the single one.
-/

namespace TypedSql

/-- The text with every `mark` written twice. -/
def doubled (mark : Char) : List Char → List Char
  | [] => []
  | c :: cs => if c = mark then c :: c :: doubled mark cs else c :: doubled mark cs

/-- The text between two marks, marks inside it doubled. -/
def quoted (mark : Char) (text : List Char) : List Char :=
  mark :: (doubled mark text ++ [mark])

/-- Any name as an SQL identifier. -/
def quoteIdentifier (name : String) : String :=
  String.ofList (quoted '"' name.toList)

/-- Any text as an SQL literal. -/
def quoteLiteral (text : String) : String :=
  String.ofList (quoted '\'' text.toList)

/--
Reads one quoted identifier from the front, giving its name and what follows the closing
mark. The mark already open is the double quote.
-/
def closeIdentifier : List Char → Option (List Char × List Char)
  | [] => none
  | '"' :: '"' :: rest => (closeIdentifier rest).map fun (name, after) => ('"' :: name, after)
  | c :: rest =>
      if c = '"' then some ([], rest)
      else (closeIdentifier rest).map fun (name, after) => (c :: name, after)

theorem closeIdentifier_length {cs name after : List Char}
    (h : closeIdentifier cs = some (name, after)) : after.length < cs.length := by
  fun_induction closeIdentifier cs generalizing name after with
  | case1 => simp at h
  | case2 rest ih =>
      simp only [Option.map_eq_some_iff, Prod.exists] at h
      obtain ⟨n, a, hr, he⟩ := h
      cases he
      have := ih hr
      simp only [List.length_cons]
      omega
  | case3 rest =>
      cases h
      simp
  | case4 c rest _ _ ih =>
      simp only [Option.map_eq_some_iff, Prod.exists] at h
      obtain ⟨n, a, hr, he⟩ := h
      cases he
      have := ih hr
      simp only [List.length_cons]
      omega

/-- The last name of quoted identifiers joined by dots, or nothing for any other text. -/
def lastName (cs : List Char) : Option (List Char) :=
  match cs with
  | '"' :: rest =>
      match _h : closeIdentifier rest with
      | some (name, []) => some name
      | some (_, '.' :: more) => lastName more
      | _ => none
  | _ => none
termination_by cs.length
decreasing_by
  have := closeIdentifier_length _h
  simp only [List.length_cons] at this ⊢
  omega

/-- The column a quoted, possibly qualified reference names. -/
def identifierTail (sql : String) : Option String :=
  (lastName sql.toList).map String.ofList

end TypedSql
