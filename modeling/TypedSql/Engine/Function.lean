import TypedSql.Engine.Collation

/-!
Functions of values. A registered function takes cells and gives a cell; one of a number of
arguments comes before one of any number, and the latest of a name and a number is the one. The
functions that are always there come last.
-/

namespace TypedSql

inductive Arity where
  | exactly (n : Nat)
  | atLeast (n : Nat)
deriving DecidableEq, Repr

namespace Arity

def any : Arity := .atLeast 0

def accepts : Arity → Nat → Bool
  | .exactly n, m => n == m
  | .atLeast n, m => n ≤ m

end Arity

structure NamedFunction where
  name : String
  arity : Arity
  apply : List Datum → Datum

namespace NamedFunction

/-- A function of cells. -/
def ofCells (name : String) (arity : Arity) (f : List Cell → Cell) : NamedFunction :=
  ⟨name, arity, fun arguments => .ofCell (f (arguments.map Datum.cell))⟩

/-- The first value that is not `NULL`. -/
def firstValue (values : List Datum) : Datum := (values.find? fun d => !d.isNull).getD .null

/-- The number of characters before the first NUL, counting a byte that continues a character with
the one before it; a blob's bytes. -/
def length : Datum → Datum
  | .null => .null
  | .blob bytes => .integer (Int64.ofNat bytes.length)
  | d =>
      let bytes := (d.textBytes.getD []).takeWhile (· != 0)
      .integer (Int64.ofNat (bytes.filter fun b => !isContinuation b).length)

def upper (d : Datum) : Datum :=
  match d.textBytes with
  | some bytes => .text (bytes.map raiseByte)
  | none => .null

def unary (name : String) (f : Datum → Datum) : NamedFunction :=
  ⟨name, .exactly 1, fun arguments => f (arguments.headD .null)⟩

def builtin : List NamedFunction :=
  [⟨"coalesce", .atLeast 2, firstValue⟩, ⟨"ifnull", .exactly 2, firstValue⟩, unary "length" length,
    unary "typeof" fun d => .ofText d.className, unary "upper" upper]

/-- The registered function of a name that takes a number of arguments. -/
def registered? (functions : List NamedFunction) (name : String) (count : Nat) :
    Option NamedFunction :=
  let named := functions.filter fun f => sameName f.name name
  (named.find? (·.arity == .exactly count)).or (named.find? (·.arity.accepts count))

/-- The function of a name that is always there and takes a number of arguments. -/
def builtin? (name : String) (count : Nat) : Option NamedFunction :=
  builtin.find? fun f => sameName f.name name && f.arity.accepts count

end NamedFunction

end TypedSql
