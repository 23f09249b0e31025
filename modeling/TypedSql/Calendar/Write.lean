import TypedSql.Calendar.Date

namespace TypedSql

def padded (width n : Nat) : List Char :=
  let digits := Nat.toDigits 10 n
  List.replicate (width - digits.length) '0' ++ digits

def yearText (year : Int) : List Char :=
  let digits := padded 4 year.natAbs
  if year < 0 then '-' :: digits
  else if 9999 < year then '+' :: digits
  else digits

def Date.text (d : Date) : List Char :=
  yearText d.year ++ '-' :: padded 2 d.month ++ '-' :: padded 2 d.day

/-- The nanoseconds of a second with their point. -/
def fractionText (nanosecond : Nat) : List Char :=
  if nanosecond = 0 then []
  else if nanosecond % 1000000 = 0 then '.' :: padded 3 (nanosecond / 1000000)
  else if nanosecond % 1000 = 0 then '.' :: padded 6 (nanosecond / 1000)
  else '.' :: padded 9 nanosecond

/-- A time of day; a leap second reads 60. -/
def TimeOfDay.text (t : TimeOfDay) : List Char :=
  padded 2 t.hour ++ ':' :: padded 2 t.minute ++
    ':' :: padded 2 (t.second + t.nanosecond / 1000000000) ++
    fractionText (t.nanosecond % 1000000000)

def DateTime.text (d : DateTime) : List Char := d.date.text ++ ' ' :: d.time.text

def Timestamp.text (t : Timestamp) : List Char :=
  t.utc.date.text ++ 'T' :: t.utc.time.text ++ "+00:00".toList

end TypedSql
