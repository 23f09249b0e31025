import TypedSql.Calendar.Read
import TypedSql.Calendar.Write
import TypedSql.Stored

namespace TypedSql

/-- A value type. `blob` and `bytes` are stored alike and are still two types. -/
inductive ValueType where
  | integer
  | integer32
  | real
  | text
  | boolean
  | blob
  | bytes
  | date
  | dateTime
  | timestamp
deriving DecidableEq, Repr

inductive Value where
  | integer (n : Int64)
  | integer32 (n : Int32)
  | real (x : Binary64)
  | text (s : String)
  | boolean (b : Bool)
  | blob (bytes : List UInt8)
  | bytes (bytes : List UInt8)
  | date (d : Date)
  | dateTime (d : DateTime)
  | timestamp (t : Timestamp)
deriving DecidableEq, Repr

namespace ValueType

def storage : ValueType → StorageClass
  | .integer | .integer32 | .boolean => .integer
  | .real => .real
  | .text | .date | .dateTime | .timestamp => .text
  | .blob | .bytes => .blob

/-- The type a column of this value type is declared with. -/
def declared (t : ValueType) : String :=
  match t.storage with
  | .integer => "INTEGER"
  | .real => "REAL"
  | .text => "TEXT"
  | .blob => "BLOB"

end ValueType

namespace Value

def type : Value → ValueType
  | .integer _ => .integer
  | .integer32 _ => .integer32
  | .real _ => .real
  | .text _ => .text
  | .boolean _ => .boolean
  | .blob _ => .blob
  | .bytes _ => .bytes
  | .date _ => .date
  | .dateTime _ => .dateTime
  | .timestamp _ => .timestamp

def store : Value → Stored
  | .integer n => .integer n
  | .integer32 n => .integer n.toInt64
  | .real x => .real x
  | .text s => .text s
  | .boolean b => .integer (if b then 1 else 0)
  | .blob b => .blob b
  | .bytes b => .blob b
  | .date d => .text (String.ofList d.text)
  | .dateTime d => .text (String.ofList d.text)
  | .timestamp t => .text (String.ofList t.text)

end Value

/-- Why a stored value of the right class is not of the type. -/
inductive Unreadable where
  | tooLarge
  | tooSmall
  | calendar (fault : CalendarFault)
deriving DecidableEq, Repr

def Unreadable.message : Unreadable → String
  | .tooLarge => "number too large to fit in target type"
  | .tooSmall => "number too small to fit in target type"
  | .calendar fault => fault.message

/-- Why a row does not give a value. -/
inductive DecodeError where
  | unexpectedNull
  | typeMismatch (expected found : StorageClass)
  | invalid (type : ValueType) (reason : Unreadable)
  | indexOutOfRange (index : Nat)
  | unknownColumn (name : String)
deriving DecidableEq, Repr

def ValueType.label : ValueType → String
  | .integer => "i64"
  | .integer32 => "i32"
  | .real => "f64"
  | .text => "text"
  | .boolean => "bool"
  | .blob => "blob"
  | .bytes => "bytes"
  | .date => "date"
  | .dateTime => "datetime"
  | .timestamp => "timestamp"

def DecodeError.message : DecodeError → String
  | .unexpectedNull => "unexpected NULL value"
  | .typeMismatch expected found =>
      "expected " ++ expected.name ++ " value, found " ++ found.name
  | .invalid type reason => "invalid " ++ type.label ++ " value: " ++ reason.message
  | .indexOutOfRange index => "no column at index " ++ toString index
  | .unknownColumn name => "no column named \x60" ++ name ++ "\x60"

/-- An integer in 32 bits. -/
def narrow (n : Int64) : Except DecodeError Int32 :=
  if Int32.maxValue.toInt64 < n then .error (.invalid .integer32 .tooLarge)
  else if n < Int32.minValue.toInt64 then .error (.invalid .integer32 .tooSmall)
  else .ok n.toInt32

def readCalendar {α : Type} (type : ValueType) (wrap : α → Value) (read : List Char → Reading α)
    (s : String) : Except DecodeError Value :=
  match read s.toList with
  | .ok a => .ok (wrap a)
  | .error fault => .error (.invalid type (.calendar fault))

namespace ValueType

/-- The value of this type that is stored so. An integer also reads as a real. -/
def read : ValueType → Stored → Except DecodeError Value
  | .integer, .integer n => .ok (.integer n)
  | .integer32, .integer n => .integer32 <$> narrow n
  | .boolean, .integer n => .ok (.boolean (n != 0))
  | .real, .real x => .ok (.real x)
  | .real, .integer n => .ok (.real (Binary64.ofInt n.toInt))
  | .text, .text s => .ok (.text s)
  | .blob, .blob b => .ok (.blob b)
  | .bytes, .blob b => .ok (.bytes b)
  | .date, .text s => readCalendar .date .date Date.read s
  | .dateTime, .text s => readCalendar .dateTime .dateTime DateTime.read s
  | .timestamp, .text s => readCalendar .timestamp .timestamp Timestamp.read s
  | type, v => .error (.typeMismatch type.storage v.storageClass)

/-- The value in a cell; `NULL` is read only where the type is nullable. -/
def readCell (type : ValueType) (nullable : Bool) : Cell → Except DecodeError (Option Value)
  | none => if nullable then .ok none else .error .unexpectedNull
  | some v => some <$> type.read v

end ValueType

end TypedSql
