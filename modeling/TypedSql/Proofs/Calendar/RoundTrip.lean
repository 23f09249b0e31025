import TypedSql.Proofs.Calendar.DayNumber
import TypedSql.Proofs.Calendar.Fields
import TypedSql.Value

namespace TypedSql

theorem daysInMonth_le (year : Int) (month : Nat) : daysInMonth year month ≤ 31 := by
  rw [daysInMonth]
  split
  · split <;> omega
  · split <;> omega

/-! ## Dates -/

theorem readChar_cons (c : Char) (s : List Char) : readChar c (c :: s) = .ok s := if_pos rfl

theorem Date.text_append (d : Date) (rest : List Char) :
    d.text ++ rest =
      yearText d.year ++ '-' :: (padded 2 d.month ++ '-' :: (padded 2 d.day ++ rest)) := by
  simp [text]

theorem readDateFields_text (d : Date) (rest : List Char) :
    readDateFields (d.text ++ rest) = .ok ((d.year, d.month, d.day), rest) := by
  obtain ⟨hfirst, hlast⟩ := d.inMonths
  obtain ⟨hday, hlength⟩ := d.inDays
  have hlong : d.day ≤ 31 := hlength.trans (daysInMonth_le d.year d.month)
  rw [d.text_append, readDateFields, readYear_yearText d.inYears (endsDigits_cons (by decide) _)]
  simp only [bind, Except.bind, readChar_cons]
  rw [readBounded_padded (by omega) hfirst hlast]
  simp only [readChar_cons]
  rw [readBounded_padded (by omega) hday hlong]

theorem Date.read_text (d : Date) : Date.read d.text = .ok d := by
  have hfields := readDateFields_text d []
  rw [List.append_nil] at hfields
  rw [Date.read, hfields]
  simp only [bind, Except.bind, Date.of?_parts]
  rfl

/-! ## Times of day -/

/-- The second that a clock shows, with the nanoseconds after it, is the time that is shown. -/
theorem clockTime?_shown (t : TimeOfDay) :
    clockTime? t.hour t.minute (t.second + t.nanosecond / 1000000000)
      (t.nanosecond % 1000000000) = some t := by
  have hclock := t.inClock
  have hsecond := t.inSecond
  rw [clockTime?, ← TimeOfDay.of?_parts t]
  by_cases hleap : t.nanosecond < 1000000000
  · rw [if_neg (by omega)]
    congr 1 <;> omega
  · rw [if_pos (by omega)]
    congr 1 <;> omega

/-- A time of day by its parts, with whatever comes after it. -/
theorem TimeOfDay.text_append (t : TimeOfDay) (rest : List Char) :
    t.text ++ rest =
      padded 2 t.hour ++ ':' :: (padded 2 t.minute ++
        ':' :: (padded 2 (t.second + t.nanosecond / 1000000000) ++
          (fractionText (t.nanosecond % 1000000000) ++ rest))) := by
  simp [text]

/-- The second that a clock shows is at most 60. -/
theorem TimeOfDay.shown_le (t : TimeOfDay) : t.second + t.nanosecond / 1000000000 ≤ 60 := by
  have hclock := t.inClock
  rcases t.inSecond with hshort | ⟨hlast, hleap⟩ <;> omega

theorem DateTime.read_text (t : DateTime) : DateTime.read t.text = .ok t := by
  obtain ⟨hhour, hminute, -⟩ := t.time.inClock
  have hblank : isBlank ' ' = true := by decide
  have hfraction := readOptionalFraction_fractionText
    (Nat.mod_lt t.time.nanosecond (by decide : 0 < 1000000000)) endsDigits_nil (by simp)
  have htime := t.time.text_append []
  rw [List.append_nil] at htime
  rw [DateTime.read, text, readDateFields_text]
  simp only [bind, Except.bind]
  rw [List.dropWhile_cons_of_pos hblank, htime, dropWhile_padded,
    readBounded_padded (by omega) (Nat.zero_le _) (by omega)]
  simp only [readChar_cons]
  rw [readBounded_padded (by omega) (Nat.zero_le _) (by omega)]
  simp only [readChar_cons]
  rw [readBounded_padded (by have := t.time.shown_le; omega) (Nat.zero_le _) t.time.shown_le]
  simp only [hfraction, Date.of?_parts, clockTime?_shown]
  rfl

/-! ## Timestamps -/

theorem length_le_byteLength (s : List Char) : s.length ≤ byteLength s := by
  induction s with
  | nil => exact Nat.le_refl 0
  | cons c cs ih =>
      have hc := c.utf8Size_pos
      simp only [List.length_cons, byteLength]
      omega

theorem length_yearText (year : Int) : 4 ≤ (yearText year).length := by
  have hdigits := le_length_padded 4 year.natAbs
  rw [yearText]
  split
  · simp only [List.length_cons]
    omega
  · split
    · simp only [List.length_cons]
      omega
    · exact hdigits

theorem Date.length_text (d : Date) : 10 ≤ d.text.length := by
  have hyear := length_yearText d.year
  have hmonth := le_length_padded 2 d.month
  have hday := le_length_padded 2 d.day
  simp only [text, List.length_append, List.length_cons]
  omega

theorem TimeOfDay.length_text (t : TimeOfDay) : 8 ≤ t.text.length := by
  have hhour := le_length_padded 2 t.hour
  have hminute := le_length_padded 2 t.minute
  have hsecond := le_length_padded 2 (t.second + t.nanosecond / 1000000000)
  simp only [text, List.length_append, List.length_cons]
  omega

namespace Timestamp

/-- No timestamp is too short to be one. -/
theorem byteLength_text (t : Timestamp) : ¬ byteLength t.text < 19 := by
  have hbytes := length_le_byteLength t.text
  have hdate := t.utc.date.length_text
  have htime := t.utc.time.length_text
  have hlength : t.text.length = t.utc.date.text.length + t.utc.time.text.length + 7 := by
    simp only [text, List.length_append, List.length_cons]
    have hzone : "+00:00".toList.length = 6 := by decide
    omega
  omega

theorem text_eq (t : Timestamp) :
    t.text = t.utc.date.text ++ 'T' :: (t.utc.time.text ++ "+00:00".toList) := by
  simp [text]

theorem readOffset_zero : readOffset "+00:00".toList = .ok (0, []) := by decide

theorem read_text {t : Timestamp} (h : 0 ≤ t.utc.date.year ∧ t.utc.date.year ≤ 9999) :
    read t.text = .ok t := by
  obtain ⟨hfirst, hlast⟩ := t.utc.date.inMonths
  obtain ⟨hday, hlength⟩ := t.utc.date.inDays
  have hlong : t.utc.date.day ≤ 31 := hlength.trans (daysInMonth_le _ _)
  obtain ⟨hhour, hminute, -⟩ := t.utc.time.inClock
  have hshown := t.utc.time.shown_le
  have hyear : yearText t.utc.date.year = padded 4 t.utc.date.year.natAbs := by
    rw [yearText, if_neg (by omega), if_neg (by omega)]
  have habs : (t.utc.date.year.natAbs : Int) = t.utc.date.year := by omega
  have hplus : EndsDigits "+00:00".toList := endsDigits_cons (by decide) _
  have hfraction := readOptionalFraction_fractionText
    (Nat.mod_lt t.utc.time.nanosecond (by decide : 0 < 1000000000)) hplus (by decide)
  have hutc : DateTime.ofSeconds? (t.utc.seconds - 0) t.utc.time.nanosecond = some t.utc := by
    rw [Int.sub_zero, DateTime.ofSeconds?_seconds]
  rw [read, if_neg t.byteLength_text, text_eq, Date.text_append, TimeOfDay.text_append, hyear]
  simp only [bind, Except.bind]
  rw [readDigits_padded (by decide) (by omega)]
  simp only [readChar_cons]
  rw [readDigits_padded (by decide) (by omega)]
  simp only [readChar_cons]
  rw [readDigits_padded (by decide) (by omega)]
  simp only [habs, Date.of?_parts, inRange, readSeparator]
  rw [if_pos (by decide)]
  simp only
  rw [readDigits_padded (by decide) (by omega)]
  simp only [readChar_cons]
  rw [readDigits_padded (by decide) (by omega)]
  simp only [readChar_cons]
  rw [readDigits_padded (by decide) (by omega)]
  simp only [hfraction, clockTime?_shown, readOffset_zero, hutc]
  rfl

theorem read_text_of_sign {t : Timestamp}
    (h : ¬ (0 ≤ t.utc.date.year ∧ t.utc.date.year ≤ 9999)) : read t.text = .error .invalid := by
  have hsign : ∃ sign rest, t.text = sign :: rest ∧ sign.isDigit = false := by
    rw [text_eq, Date.text_append, yearText]
    by_cases hneg : t.utc.date.year < 0
    · exact ⟨'-', _, by rw [if_pos hneg]; rfl, by decide⟩
    · exact ⟨'+', _, by rw [if_neg hneg, if_pos (by omega)]; rfl, by decide⟩
  obtain ⟨sign, rest, htext, hsign⟩ := hsign
  have hdigits : readDigits 4 t.text = .error .invalid := by
    rw [htext]
    simp [readDigits, hsign]
  rw [read, if_neg t.byteLength_text]
  simp only [bind, Except.bind, hdigits]

end Timestamp

/-! ## Values -/

namespace ValueType

theorem readCalendar_ok {α : Type} {type : ValueType} {wrap : α → Value}
    {read : List Char → Reading α} {s : List Char} {a : α} (h : read s = .ok a) :
    readCalendar type wrap read (String.ofList s) = .ok (wrap a) := by
  rw [readCalendar, String.toList_ofList, h]

theorem read_store_date (d : Date) : date.read (Value.date d).store = .ok (.date d) :=
  readCalendar_ok d.read_text

theorem read_store_dateTime (t : DateTime) :
    dateTime.read (Value.dateTime t).store = .ok (.dateTime t) :=
  readCalendar_ok t.read_text

theorem readCell_store {type : ValueType} {v : Value} (h : type.read v.store = .ok v)
    (nullable : Bool) : type.readCell nullable (some v.store) = .ok (some v) := by
  rw [readCell, h]
  rfl

/-- A value that may be absent is read back where its type is nullable. -/
theorem readCell_map_store {type : ValueType} {v : Option Value}
    (h : ∀ w ∈ v, type.read w.store = .ok w) :
    type.readCell true (v.map Value.store) = .ok v := by
  cases v with
  | none => rfl
  | some v => exact readCell_store (h v rfl) true

/-- A date or date-time, of any year and with any fraction of a second or leap second, is read back
from what it is stored as; so is one that may be absent, where it is read as one that may be. -/
theorem readCell_store_calendar :
    (∀ d : Date, date.readCell false (some (Value.date d).store) = .ok (some (.date d))) ∧
    (∀ d : Option Date,
      date.readCell true ((d.map Value.date).map Value.store) = .ok (d.map .date)) ∧
    (∀ t : DateTime,
      dateTime.readCell false (some (Value.dateTime t).store) = .ok (some (.dateTime t))) ∧
    ∀ t : Option DateTime,
      dateTime.readCell true ((t.map Value.dateTime).map Value.store) = .ok (t.map .dateTime) := by
  refine ⟨fun d => readCell_store (read_store_date d) false, fun d => ?_,
    fun t => readCell_store (read_store_dateTime t) false, fun t => ?_⟩
  · refine readCell_map_store fun w hw => ?_
    obtain ⟨d, -, rfl⟩ := Option.map_eq_some_iff.mp hw
    exact read_store_date d
  · refine readCell_map_store fun w hw => ?_
    obtain ⟨t, -, rfl⟩ := Option.map_eq_some_iff.mp hw
    exact read_store_dateTime t

/-- A leap second at the end of the first year that there is. -/
example : dateTime.read (.text "-262143-12-31 23:59:60.000000001") =
    .ok (.dateTime ⟨⟨-262143, 12, 31, by decide, by decide, by decide⟩,
      ⟨23, 59, 59, 1000000001, by decide, by decide⟩⟩) := by decide +kernel

/-- A timestamp is read back exactly if its year is one of 0 to 9999. Any other year is written with
a sign, which no timestamp may begin with. -/
theorem readCell_store_timestamp (t : Timestamp) (nullable : Bool) :
    timestamp.readCell nullable (some (Value.timestamp t).store) =
      if 0 ≤ t.utc.date.year ∧ t.utc.date.year ≤ 9999 then .ok (some (.timestamp t))
      else .error (.invalid .timestamp (.calendar .invalid)) := by
  by_cases h : 0 ≤ t.utc.date.year ∧ t.utc.date.year ≤ 9999
  · have hread : timestamp.read (Value.timestamp t).store = .ok (.timestamp t) :=
      readCalendar_ok (Timestamp.read_text h)
    rw [if_pos h, readCell_store hread]
  · have hread : timestamp.read (Value.timestamp t).store =
        .error (.invalid .timestamp (.calendar .invalid)) := by
      simp only [Value.store, read, readCalendar, String.toList_ofList,
        Timestamp.read_text_of_sign h]
    rw [if_neg h, readCell, hread]
    rfl

/-- The first second of the year 10000. -/
example :
    let t : Timestamp := ⟨⟨⟨10000, 1, 1, by decide, by decide, by decide⟩,
      ⟨0, 0, 0, 0, by decide, by decide⟩⟩⟩
    (Value.timestamp t).store = .text "+10000-01-01T00:00:00+00:00" ∧
      timestamp.read (Value.timestamp t).store = .error (.invalid .timestamp (.calendar .invalid)) := by
  decide +kernel

end ValueType

end TypedSql
