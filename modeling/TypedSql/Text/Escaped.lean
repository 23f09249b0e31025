namespace TypedSql

def smallHexDigit (n : Nat) : Char :=
  if n < 10 then Char.ofNat ('0'.toNat + n) else Char.ofNat ('a'.toNat + (n - 10))

def smallHex (n : Nat) : List Char :=
  if n < 16 then [smallHexDigit n] else smallHex (n / 16) ++ [smallHexDigit (n % 16)]
termination_by n

def escapedChar (c : Char) : List Char :=
  if c = '\t' then ['\\', 't']
  else if c = '\r' then ['\\', 'r']
  else if c = '\n' then ['\\', 'n']
  else if c = '\'' ∨ c = '"' ∨ c = '\\' then ['\\', c]
  else if ' ' ≤ c ∧ c ≤ '~' then [c]
  else ['\\', 'u', '\x7b'] ++ smallHex c.toNat ++ ['\x7d']

def escaped (s : String) : String := String.ofList (s.toList.flatMap escapedChar)

end TypedSql
