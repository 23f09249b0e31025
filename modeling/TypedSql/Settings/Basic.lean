namespace TypedSql

inductive OpenMode where
  | readWrite
  | readOnly
deriving DecidableEq, Repr

/-- The settings of a connection; without a path the database is a private one in memory. -/
structure Settings where
  path : Option String := none
  mode : OpenMode := .readWrite
  /-- How long to wait for a lock, in milliseconds. -/
  busyTimeout : Option UInt64 := none
  foreignKeys : Bool := false
deriving DecidableEq, Repr

namespace Settings

def inMemory : Settings := {}

def file (path : String) : Settings := { path := some path }

def withMode (s : Settings) (mode : OpenMode) : Settings := { s with mode }

def withBusyTimeout (s : Settings) (milliseconds : UInt64) : Settings :=
  { s with busyTimeout := some milliseconds }

def withForeignKeys (s : Settings) (foreignKeys : Bool) : Settings := { s with foreignKeys }

/-- Where the database is, in messages. -/
def location (s : Settings) : String := s.path.getD ":memory:"

end Settings

end TypedSql
