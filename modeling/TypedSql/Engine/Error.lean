import TypedSql.Scan.Inline

namespace TypedSql

inductive EngineError where
  | unrecognizedToken (text : String)
  | unexpectedToken (text : String)
  | incompleteInput
  | parameterRange
  | tooManyParameters
  | tableExists (text : String)
  | noSuchTable (name : String)
  | noSuchColumn (name : String)
  /-- A column that an insert names and its table has not. -/
  | notInTable (table column : String)
  | valueCount (values columns : Nat)
  /-- As many values as columns are wanted, where no columns are named. -/
  | tableValueCount (table : String) (columns values : Nat)
  | unequalRows
  | noConflictTarget
  | noSuchCollation (name : String)
  | noSuchFunction (name : String)
  | argumentCount (function : String)
  | orderPosition
  /-- Two rows with one value in a column; `primary` where the column is the key of the table. -/
  | uniqueViolation (table column : String) (primary : Bool)
  | foreignKeyViolation
  | typeMismatch
  | readOnly
  | nestedTransaction
  | nothingToCommit
  | nothingToRollBack
  | noSuchSavepoint (name : String)
  | unableToOpen (path : String)
  /-- A text without a statement cannot be run. -/
  | noStatement
deriving DecidableEq, Repr

namespace EngineError

def code : EngineError → Nat
  | .readOnly => 8
  | .unableToOpen _ => 14
  | .typeMismatch => 20
  | .noStatement => 21
  | .noSuchCollation _ => 257
  | .foreignKeyViolation => 787
  | .uniqueViolation _ _ primary => if primary then 1555 else 2067
  | _ => 1

def message : EngineError → String
  | .unrecognizedToken text => "unrecognized token: \"" ++ text ++ "\""
  | .unexpectedToken text => "near \"" ++ text ++ "\": syntax error"
  | .incompleteInput => "incomplete input"
  | .parameterRange => "variable number must be between ?1 and ?" ++ toString maxParameter
  | .tooManyParameters => "too many SQL variables"
  | .tableExists text => "table " ++ text ++ " already exists"
  | .noSuchTable name => "no such table: " ++ name
  | .noSuchColumn name => "no such column: " ++ name
  | .notInTable table column => "table " ++ table ++ " has no column named " ++ column
  | .valueCount values columns => toString values ++ " values for " ++ toString columns ++ " columns"
  | .tableValueCount table columns values =>
      "table " ++ table ++ " has " ++ toString columns ++ " columns but " ++ toString values
        ++ " values were supplied"
  | .unequalRows => "all VALUES must have the same number of terms"
  | .noConflictTarget =>
      "ON CONFLICT clause does not match any PRIMARY KEY or UNIQUE constraint"
  | .noSuchCollation name => "no such collation sequence: " ++ name
  | .noSuchFunction name => "no such function: " ++ name
  | .argumentCount function => "wrong number of arguments to function " ++ function ++ "()"
  | .orderPosition => "ORDER BY term out of range"
  | .uniqueViolation table column _ => "UNIQUE constraint failed: " ++ table ++ "." ++ column
  | .foreignKeyViolation => "FOREIGN KEY constraint failed"
  | .typeMismatch => "datatype mismatch"
  | .readOnly => "attempt to write a readonly database"
  | .nestedTransaction => "cannot start a transaction within a transaction"
  | .nothingToCommit => "cannot commit - no transaction is active"
  | .nothingToRollBack => "cannot rollback - no transaction is active"
  | .noSuchSavepoint name => "no such savepoint: " ++ name
  | .unableToOpen path => "unable to open database file: " ++ path
  | .noStatement => "not an error"

end EngineError

/-- An error and the place in the text that it is about, counted in bytes. -/
structure Fault where
  error : EngineError
  offset : Option Nat := none
deriving DecidableEq, Repr

namespace Fault

def code (f : Fault) : Option Nat :=
  match f.offset with
  | some _ => none
  | none => some f.error.code

def message (f : Fault) (sql : String) : String :=
  match f.offset with
  | some n => f.error.message ++ " in " ++ sql ++ " at offset " ++ toString n
  | none => f.error.message

end Fault

end TypedSql
