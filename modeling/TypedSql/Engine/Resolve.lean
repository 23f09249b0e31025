import TypedSql.Engine.Formula
import TypedSql.Engine.Function

namespace TypedSql

open Sql (Expr)

/-- A column in sight: the name it is qualified by, its own name, and its place in the row. -/
structure ColumnName where
  label : String
  name : String
  index : Nat
  /-- Whether the column is in sight only with its label. -/
  qualifiedOnly : Bool := false
deriving DecidableEq, Repr

/-- What names can stand for. -/
structure Names where
  functions : List NamedFunction
  collations : List NamedCollation
  columns : List ColumnName := []
  /-- Result columns by alias, which columns of tables come before. -/
  aliases : List (String × Formula) := []

/-- Columns one after another under one label, the first at a place in the row. -/
def columnNames (label : String) (names : List String) (start : Nat) (qualifiedOnly : Bool) :
    List ColumnName :=
  names.zipIdx.map fun (name, i) => { label, name, index := start + i, qualifiedOnly }

/-- The functions of many rows that are always there, with the number of their arguments. -/
def aggregateNames : List String := ["count", "max"]

/-- Whether an operator compares values, and so needs a collation. -/
def comparesText (op : BinaryOperator) : Bool :=
  op ∈ [.equal, .notEqual, .less, .lessEqual, .greater, .greaterEqual]

namespace Names

def column? (n : Names) (table : Option String) (name : String) : Option ColumnName :=
  n.columns.find? fun c =>
    sameName c.name name &&
      (match table with
      | some table => sameName c.label table
      | none => !c.qualifiedOnly)

def nameFormula (n : Names) (table : Option String) (name : String) (inQuotes : Bool)
    (offset : Nat) : Except Fault Formula :=
  match n.column? table name, table with
  | some c, _ => .ok (.column c.index)
  | none, some table => .error ⟨.noSuchColumn (table ++ "." ++ name), some offset⟩
  | none, none =>
      match n.aliases.find? fun (known, _) => sameName known name with
      | some (_, f) => .ok f
      | none =>
          if inQuotes then .ok (.constant (.ofText name))
          else if sameName name "true" then .ok (.constant (.ofBool true))
          else if sameName name "false" then .ok (.constant (.ofBool false))
          else .error ⟨.noSuchColumn name, some offset⟩

def collation (n : Names) (name : String) : Except Fault NamedCollation :=
  match NamedCollation.find? n.collations name with
  | some c => .ok c
  | none => .error ⟨.noSuchCollation name, none⟩

mutual

/-- The collation that an expression asks for: its own, or that of its first part with one. -/
def collationName? : Expr → Option String
  | .collate _ collation => some collation
  | .literal _ | .parameter _ | .name _ _ _ _ | .callStar _ _ => none
  | .unary _ x | .isNull _ x | .cast x _ => collationName? x
  | .binary _ l r | .same _ l r => (collationName? l).or (collationName? r)
  | .between _ x low high => ((collationName? x).or (collationName? low)).or (collationName? high)
  | .inList _ x items => (collationName? x).or (firstCollationName? items)
  | .likeEscape x pattern escape =>
      ((collationName? pattern).or (collationName? x)).or (collationName? escape)
  | .call _ _ arguments _ => firstCollationName? arguments

def firstCollationName? : List Expr → Option String
  | [] => none
  | x :: xs => (collationName? x).or (firstCollationName? xs)

end

/-- The collation in which the first expression that asks for one is compared. -/
def collationOf (n : Names) (xs : List Expr) : Except Fault NamedCollation :=
  match firstCollationName? xs with
  | some name => n.collation name
  | none => .ok .binary

/-- The fault of a function that is not there for a number of arguments. -/
def functionFault (n : Names) (name : String) (offset : Nat) : Fault :=
  let known := n.functions.map (·.name) ++ NamedFunction.builtin.map (·.name) ++ aggregateNames
  if known.any (sameName · name) then ⟨.argumentCount name, some offset⟩
  else ⟨.noSuchFunction name, some offset⟩

def callFormula (n : Names) (name : String) (arguments : List Formula) (offset : Nat) :
    Except Fault Formula :=
  let count := arguments.length
  match (NamedFunction.registered? n.functions name count).or (NamedFunction.builtin? name count) with
  | some f => .ok (.call f.apply arguments)
  | none => .error (n.functionFault name offset)

/-- A call of any function; the largest of values is found in the collation of the arguments. -/
def anyCallFormula (n : Names) (name : String) (collation : Except Fault NamedCollation)
    (arguments : List Formula) (offset : Nat) : Except Fault Formula :=
  match NamedFunction.registered? n.functions name arguments.length, arguments with
  | none, [x] =>
      if sameName name "count" then .ok (.countValues x)
      else if sameName name "max" then (.largest · x) <$> collation
      else n.callFormula name [x] offset
  | _, _ => n.callFormula name arguments offset

/-- A value as text, or a text as bytes; other casts leave a value as it is. -/
def castTo (type : String) (d : Datum) : Datum :=
  if sameName type "text" then
    match d.textBytes with
    | some bytes => .text bytes
    | none => .null
  else if sameName type "blob" then
    match d.textBytes with
    | some bytes => .blob bytes
    | none => .null
  else d

mutual

/-- The formula of an expression. -/
def formula (n : Names) : Expr → Except Fault Formula
  | .literal d => .ok (.constant d)
  | .parameter number => .ok (.parameter number)
  | .name table name inQuotes offset => n.nameFormula table name inQuotes offset
  | .unary op x => do .ok (.unary op (← formula n x))
  | .binary .like x pattern => do
      let x ← formula n x
      n.callFormula "like" [← formula n pattern, x] 0
  | .binary .glob x pattern => do
      let x ← formula n x
      n.callFormula "glob" [← formula n pattern, x] 0
  | .binary .matches x pattern => do
      let x ← formula n x
      n.callFormula "match" [← formula n pattern, x] 0
  | .binary op l r => do
      let lf ← formula n l
      let rf ← formula n r
      let c ← if comparesText op then n.collationOf [l, r] else .ok .binary
      .ok (.binary op c lf rf)
  | .likeEscape x pattern escape => do
      let x ← formula n x
      let pattern ← formula n pattern
      n.callFormula "like" [pattern, x, ← formula n escape] 0
  | .same negated l r => do
      let lf ← formula n l
      let rf ← formula n r
      .ok (.same negated (← n.collationOf [l, r]) lf rf)
  | .isNull negated x => do .ok (.isNull negated (← formula n x))
  | .between negated x low high => do
      let xf ← formula n x
      let lf ← formula n low
      let hf ← formula n high
      .ok (.between negated (← n.collationOf [x, low]) (← n.collationOf [x, high]) xf lf hf)
  | .inList negated x items => do
      let xf ← formula n x
      let fs ← formulas n items
      .ok (.inList negated (← n.collationOf [x]) xf fs)
  | .collate x _ => formula n x
  | .cast x type => do .ok (.call (fun ds => castTo type (ds.headD .null)) [← formula n x])
  | .call name _ arguments offset => do
      let fs ← formulas n arguments
      n.anyCallFormula name (n.collationOf arguments) fs offset
  | .callStar name offset =>
      match NamedFunction.registered? n.functions name 0 with
      | some f => .ok (.call f.apply [])
      | none =>
          if sameName name "count" then .ok .countRows else .error (n.functionFault name offset)

def formulas (n : Names) : List Expr → Except Fault (List Formula)
  | [] => .ok []
  | x :: xs => do .ok ((← formula n x) :: (← formulas n xs))

end

def formula? (n : Names) : Option Expr → Except Fault (Option Formula)
  | none => .ok none
  | some x => some <$> n.formula x

end Names

end TypedSql
