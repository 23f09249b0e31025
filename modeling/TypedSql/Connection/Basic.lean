import TypedSql.Connection.Failure
import TypedSql.Engine.Basic
import TypedSql.Settings.Basic
import TypedSql.Text.Blank

/-!
A connection: the engine, and what is known about how it was used. What is done on a connection is
an `Act`; an act that fails keeps what it did.
-/

namespace TypedSql

structure Connection where
  engine : Engine
  /-- The largest number that a savepoint without a name was given. -/
  savepoints : Nat := 0
  /-- Whether a row was ever inserted. -/
  inserted : Bool := false
  /-- Whether executed texts are traced. -/
  tracing : Bool := false
  /-- The traced texts, the first one first. -/
  traced : List String := []

abbrev Act (α : Type) := ExceptT Failure (StateM Connection) α

structure Status where
  autocommit : Bool
  lastInsertId : Option Int64
  lastChanges : Nat
  totalChanges : Nat
deriving DecidableEq, Repr

namespace Connection

def isReadOnly (c : Connection) : Bool := c.engine.readOnly

def isAutocommit (c : Connection) : Bool := c.engine.isAutocommit

/-- The id of the row that was inserted last, if any ever was. -/
def lastInsertId? (c : Connection) : Option Int64 :=
  if c.inserted then some c.engine.lastRowid else none

def status (c : Connection) : Status :=
  ⟨c.isAutocommit, c.lastInsertId?, c.engine.changes, c.engine.totalChanges⟩

def trace (c : Connection) (text : String) : Connection :=
  if c.tracing then { c with traced := c.traced ++ [text] } else c

def takeTraced : StateM Connection (List String) :=
  modifyGet fun c => (c.traced, { c with traced := [] })

/-- Whether a text inserts rows, going by its first word. -/
def isInsert (sql : String) : Bool :=
  let verb := String.ofList (firstWord sql.toList)
  sameName verb "INSERT" || sameName verb "REPLACE"

/-- Takes note of an insertion by a text that went well. A last row that differs from that before
shows one; so do changes by a text that inserts, which tells an insertion of row 0 from none. -/
def noteInsert (c : Connection) (sql : String) (lastBefore : Int64) : Connection :=
  if c.engine.lastRowid ≠ lastBefore ∨ (isInsert sql ∧ 0 < c.engine.changes) then
    { c with inserted := true }
  else c

/-- The paths of databases in memory. -/
def memoryPaths : List String := ["", ":memory:", "file::memory:"]

/-- The place of the first NUL character, in bytes. -/
def nulPosition? (s : String) : Option Nat :=
  let before := s.toList.takeWhile (· != '\x00')
  if before.length < s.length then some (byteLength before) else none

/-- The content that a path opens to in a mode, which is empty where the file is made only now, or
nothing where no database can be opened there. -/
abbrev Files := OpenMode → String → Option Content

/-- A connection on which nothing was done yet. -/
def opened (s : Settings) (content : Content) : Connection :=
  { engine :=
      { store := .settled content, foreignKeys := s.foreignKeys, readOnly := s.mode == .readOnly } }

/-- Opens a database in memory or in one of the files that there are. -/
def connect (s : Settings) (files : Files := fun _ _ => none) : Except Failure Connection :=
  match s.path with
  | none => .ok (opened s {})
  | some path =>
      match nulPosition? path with
      | some position => .error (.opening s.location (.nul position))
      | none =>
          if path ∈ memoryPaths then .ok (opened s {})
          else
            match files s.mode path with
            | some content => .ok (opened s content)
            | none => .error (.opening s.location (.ofError (.unableToOpen path)))

end Connection

namespace Act

def attempt {α : Type} (act : Act α) : StateM Connection (Except Failure α) := act.run

def ofExcept {α : Type} : Except Failure α → Act α
  | .ok a => pure a
  | .error f => throw f

end Act

end TypedSql
