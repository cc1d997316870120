import Conform.Proofs.Instant.Calendar
import Conform.Instant.DateText
import Conform.Registry
import Conform.Value.Printer
import Mathlib.Data.List.TakeDrop

/-
  Instants written as text and read back. A timestamp has
  whole milliseconds, so an instant of a year with four
  digits is read back without what lies below them, leap
  seconds included. Reading back what was read back changes
  nothing more, and the order of instants is kept.

  Main declarations:
    * `Timestamp.number?_padded`
    * `Instant.assemble?_of_instant`
    * `Instant.ofTimestamp?_timestamp`
    * `Instant.reread?`
    * `Instant.reread_laws`
-/

namespace Conform

------------------------------------------------------------
-- Numbers with Leading Zeros
------------------------------------------------------------

namespace Timestamp

section

variable {width n : Nat}

theorem isDigit_of_mem_padded
    {c : Char}
    (h : c ∈ padded width n) :
    c.isDigit = true := by
  rcases List.mem_append.mp h with hZero | hDigit
  · rw [List.eq_of_mem_replicate hZero]
    rfl
  · exact Nat.isDigit_of_mem_toDigits (by decide) (by decide)
      hDigit

/- Leading zeros do not change what digits spell. -/
theorem ofDigits_padded :
    Decimal.ofDigits (padded width n) = n := by
  have hFold : ∀ cs, Decimal.ofDigits cs =
      Nat.ofDigitChars 10 cs 0 := by
    intro cs
    rw [Nat.ofDigitChars_eq_foldl]
    rfl
  rw [hFold, padded, Nat.ofDigitChars_append,
    Nat.ofDigitChars_replicate_zero, Nat.mul_zero]
  exact Nat.ofDigitChars_ten_toDigits

theorem length_padded
    (h : (Nat.toDigits 10 n).length ≤ width) :
    (padded width n).length = width := by
  rw [padded, List.length_append, List.length_replicate]
  exact Nat.sub_add_cancel h

/- A number is read back from the front of a text. -/
theorem number?_padded
    (h : (Nat.toDigits 10 n).length ≤ width)
    (rest : List Char) :
    number? width (padded width n ++ rest) =
      some (n, rest) := by
  have hLength := length_padded h
  have hTake : (padded width n ++ rest).take width =
      padded width n := List.take_left' hLength
  have hDrop : (padded width n ++ rest).drop width = rest :=
    List.drop_left' hLength
  have hDigits : (padded width n).all Char.isDigit = true :=
    List.all_eq_true.mpr fun _ => isDigit_of_mem_padded
  unfold number?
  dsimp only
  rw [hTake, hDrop, if_pos ⟨hLength, hDigits⟩, ofDigits_padded]

theorem char?_self
    (c : Char)
    (rest : List Char) :
    char? [c] (c :: rest) = some rest := by
  simp [char?]

/- Milliseconds are read back as nanoseconds. -/
theorem nanos?_padded
    (h : (Nat.toDigits 10 n).length ≤ 3) :
    nanos? ('.' :: (padded 3 n ++ ['Z'])) =
      some (n * 1000000, ['Z']) := by
  have hLength := length_padded h
  have hSpan : Decimal.spanDigits (padded 3 n ++ ['Z']) =
      (padded 3 n, ['Z']) := by
    rw [Decimal.spanDigits, List.span_eq_takeWhile_dropWhile,
      List.takeWhile_append_of_pos
        fun _ => isDigit_of_mem_padded,
      List.dropWhile_append_of_pos
        fun _ => isDigit_of_mem_padded]
    simp
  have hNonempty : (padded 3 n).isEmpty = false := by
    rw [List.isEmpty_eq_false_iff, ← List.length_pos_iff,
      hLength]
    decide
  have hTake : (padded 3 n).take 9 = padded 3 n :=
    List.take_of_length_le (by omega)
  simp only [nanos?, hSpan, hNonempty, hTake, hLength,
    ofDigits_padded]
  rfl

end

end Timestamp

------------------------------------------------------------
-- Timestamps
------------------------------------------------------------

namespace Instant

/- Instants of a year that is written with four digits. -/
def HasFourDigitYear
    (t : Instant) : Prop :=
  0 ≤ t.year ∧ t.year ≤ 9999

instance
    (t : Instant) :
    Decidable t.HasFourDigitYear := by
  unfold HasFourDigitYear
  infer_instance

/- The fields of a timestamp, one after the other. -/
theorem toList_timestamp
    {t : Instant}
    (h : t.HasFourDigitYear) :
    t.timestamp.toList =
      Timestamp.padded 4 t.year.toNat ++
        '-' :: (Timestamp.padded 2 t.date.month ++
        '-' :: (Timestamp.padded 2 t.date.day ++
        'T' :: (Timestamp.padded 2 (t.second / 3600) ++
        ':' :: (Timestamp.padded 2 (t.second / 60 % 60) ++
        ':' :: (Timestamp.padded 2
          (t.second % 60 + t.nano / 1000000000) ++
        '.' :: (Timestamp.padded 3
          (t.nano % 1000000000 / 1000000) ++ ['Z'])))))) := by
  have hYear : Timestamp.yearText t.date.year =
      Timestamp.padded 4 t.year.toNat := if_pos h
  rw [timestamp, render, String.toList_ofList, hYear]
  simp only [List.append_assoc, List.cons_append]

theorem ofParts?_of_instant
    (t : Instant) :
    ofParts? t.day t.second t.nano = some t :=
  dif_pos ⟨t.second_lt, t.nano_lt, t.leap_ends_minute⟩

/-
  The parts that a timestamp tells are put together to the
  instant with whole milliseconds. Second 60 is told exactly
  in a leap second.
-/
theorem assemble?_of_instant
    {t : Instant}
    (hYear : t.HasFourDigitYear) :
    Timestamp.assemble?
        ⟨(t.year.toNat : Int), t.date.month, t.date.day⟩
        (t.second / 3600) (t.second / 60 % 60)
        (t.second % 60 + t.nano / 1000000000)
        (t.nano % 1000000000 / 1000000 * 1000000) =
      some t.truncateMillis := by
  have hDate : (⟨(t.year.toNat : Int), t.date.month,
      t.date.day⟩ : Calendar.Date) = t.date := by
    rw [Int.toNat_of_nonneg hYear.1]
    rfl
  have hValid : t.date.IsValid :=
    Calendar.isValid_ofDayNumber t.day
  have hDay : Calendar.dayNumber t.date = t.day :=
    Calendar.dayNumber_ofDayNumber t.day
  have hSecond := t.second_lt
  have hNano := t.nano_lt
  have hFields : t.date.IsValid ∧ t.second / 3600 < 24 ∧
      t.second / 60 % 60 < 60 ∧
      t.second % 60 + t.nano / 1000000000 ≤ 60 := by
    refine ⟨hValid, ?_, ?_, ?_⟩ <;> omega
  rw [hDate, Timestamp.assemble?, if_pos hFields, hDay,
    ← ofParts?_of_instant t.truncateMillis]
  change _ = ofParts? t.day t.second
    (t.nano / 1000000 * 1000000)
  by_cases hLeap : 1000000000 ≤ t.nano
  · have hLast := t.leap_ends_minute hLeap
    have hSixty :
        t.second % 60 + t.nano / 1000000000 = 60 := by
      omega
    have hClock : 3600 * (t.second / 3600) +
        60 * (t.second / 60 % 60) + 59 = t.second := by
      omega
    have hFraction : 1000000000 +
        t.nano % 1000000000 / 1000000 * 1000000 =
          t.nano / 1000000 * 1000000 := by
      omega
    dsimp only
    rw [if_pos hSixty, hClock, hFraction]
  · have hNotSixty :
        t.second % 60 + t.nano / 1000000000 ≠ 60 := by
      omega
    have hClock : 3600 * (t.second / 3600) +
        60 * (t.second / 60 % 60) +
          (t.second % 60 + t.nano / 1000000000) =
            t.second := by
      omega
    have hFraction :
        t.nano % 1000000000 / 1000000 * 1000000 =
          t.nano / 1000000 * 1000000 := by
      omega
    dsimp only
    rw [if_neg hNotSixty, hClock, hFraction]

/- Without an offset an instant stays as it is. -/
theorem minutesEarlier_zero
    (t : Instant) :
    t.minutesEarlier 0 = t := by
  have hSecond := t.second_lt
  have hDay : t.day + ((t.second : Int) - 60 * 0) / 86400 =
      t.day := by
    omega
  have hClock : (((t.second : Int) - 60 * 0) % 86400).toNat =
      t.second := by
    omega
  rcases t with ⟨day, second, nano, _, _, _⟩
  rw [minutesEarlier]
  congr 1

/- Numbers below a hundred have at most two digits. -/
theorem length_toDigits_of_lt_hundred
    {n : Nat}
    (h : n < 100) :
    (Nat.toDigits 10 n).length ≤ 2 :=
  (Nat.length_toDigits_le_iff (by decide) (by decide)).mpr h

/- What is read goes into what is read next. -/
theorem bind_of_eq_some
    {α β : Type}
    {x : Option α}
    {a : α}
    {f : α → Option β}
    (h : x = some a) :
    (x >>= f) = f a := by
  rw [h]
  rfl

/-
  A timestamp is read back field by field, as the instant
  with whole milliseconds.
-/
theorem ofTimestamp?_timestamp
    {t : Instant}
    (hYear : t.HasFourDigitYear) :
    ofTimestamp? t.timestamp = some t.truncateMillis := by
  have hSecond := t.second_lt
  have hNano := t.nano_lt
  have hDate : t.date.IsValid :=
    Calendar.isValid_ofDayNumber t.day
  have hYearDigits :
      (Nat.toDigits 10 t.year.toNat).length ≤ 4 := by
    refine (Nat.length_toDigits_le_iff (by decide)
      (by decide)).mpr ?_
    have hMost := hYear.2
    change t.year.toNat < 10000
    omega
  have hMonth : (Nat.toDigits 10 t.date.month).length ≤ 2 :=
    length_toDigits_of_lt_hundred
      (Nat.lt_of_le_of_lt hDate.2.1 (by decide))
  have hDay : (Nat.toDigits 10 t.date.day).length ≤ 2 := by
    have hLength :=
      Calendar.monthLength_le t.date.year t.date.month
    exact length_toDigits_of_lt_hundred
      (Nat.lt_of_le_of_lt (Nat.le_trans hDate.2.2.2 hLength)
        (by decide))
  have hHour : (Nat.toDigits 10 (t.second / 3600)).length ≤ 2 :=
    length_toDigits_of_lt_hundred (by omega)
  have hMinute :
      (Nat.toDigits 10 (t.second / 60 % 60)).length ≤ 2 :=
    length_toDigits_of_lt_hundred (by omega)
  have hClock : (Nat.toDigits 10
      (t.second % 60 + t.nano / 1000000000)).length ≤ 2 :=
    length_toDigits_of_lt_hundred (by omega)
  have hMillis : (Nat.toDigits 10
      (t.nano % 1000000000 / 1000000)).length ≤ 3 := by
    refine (Nat.length_toDigits_le_iff (by decide)
      (by decide)).mpr ?_
    change _ < 1000
    omega
  have hSeparator : ∀ rest,
      Timestamp.char? ['T', 't', ' '] ('T' :: rest) =
        some rest := fun _ => rfl
  have hOffset : Timestamp.offset? ['Z'] = some (0, []) := rfl
  rw [ofTimestamp?, toList_timestamp hYear]
  refine (bind_of_eq_some
    (Timestamp.number?_padded hYearDigits _)).trans ?_
  refine (bind_of_eq_some (Timestamp.char?_self _ _)).trans ?_
  refine (bind_of_eq_some
    (Timestamp.number?_padded hMonth _)).trans ?_
  refine (bind_of_eq_some (Timestamp.char?_self _ _)).trans ?_
  refine (bind_of_eq_some
    (Timestamp.number?_padded hDay _)).trans ?_
  refine (bind_of_eq_some (hSeparator _)).trans ?_
  refine (bind_of_eq_some
    (Timestamp.number?_padded hHour _)).trans ?_
  refine (bind_of_eq_some (Timestamp.char?_self _ _)).trans ?_
  refine (bind_of_eq_some
    (Timestamp.number?_padded hMinute _)).trans ?_
  refine (bind_of_eq_some (Timestamp.char?_self _ _)).trans ?_
  refine (bind_of_eq_some
    (Timestamp.number?_padded hClock _)).trans ?_
  refine (bind_of_eq_some
    (Timestamp.nanos?_padded hMillis)).trans ?_
  refine (bind_of_eq_some hOffset).trans ?_
  refine (if_pos List.isEmpty_nil).trans ?_
  refine (bind_of_eq_some
    (assemble?_of_instant hYear)).trans ?_
  rw [minutesEarlier_zero]

------------------------------------------------------------
-- Whole Milliseconds
------------------------------------------------------------

/- What has whole milliseconds already stays as it is. -/
theorem truncateMillis_eq_self_iff
    {t : Instant} :
    t.truncateMillis = t ↔ 1000000 ∣ t.nano := by
  have hNano : t.truncateMillis = t ↔
      t.nano / 1000000 * 1000000 = t.nano := by
    rcases t with ⟨day, second, nano, _, _, _⟩
    simp [truncateMillis]
  rw [hNano]
  exact (Nat.dvd_iff_div_mul_eq t.nano 1000000).symm

theorem truncateMillis_truncateMillis
    (t : Instant) :
    t.truncateMillis.truncateMillis = t.truncateMillis :=
  truncateMillis_eq_self_iff.mpr
    (Nat.dvd_mul_left 1000000 (t.nano / 1000000))

/- Milliseconds tell no order that the instants have not. -/
theorem lt_of_truncateMillis_lt
    {t u : Instant}
    (h : t.truncateMillis.lt u.truncateMillis = true) :
    t.lt u = true := by
  unfold lt at h ⊢
  simp only [Bool.or_eq_true, Bool.and_eq_true, beq_iff_eq,
    decide_eq_true_eq] at h ⊢
  change t.day < u.day ∨ t.day = u.day ∧
    (t.second < u.second ∨ t.second = u.second ∧
      t.nano / 1000000 * 1000000 <
        u.nano / 1000000 * 1000000) at h
  omega

------------------------------------------------------------
-- Writing and Reading
------------------------------------------------------------

/- The text that an instant is written as. -/
theorem toJson_date
    (t : Instant) :
    (Value.date t).toJson = .string t.timestamp := by
  rw [Value.toJson]

/- What is read of the text that an instant is written as. -/
def reread?
    (t : Instant) : Option Instant :=
  (Value.date t).toJson.asString?.bind ofText?

theorem reread?_eq
    {t : Instant}
    (h : t.HasFourDigitYear) :
    t.reread? = some t.truncateMillis := by
  rw [reread?, toJson_date, Json.asString?, Option.bind_some,
    ofText?, ofTimestamp?_timestamp h]

/-
  The laws of an instant that is written and read back:
    * it is read, with whole milliseconds;
    * the mapping for dates gives exactly the instant if it
      has whole milliseconds, and only then;
    * once more, it is read back as it is;
    * an instant that is not before it is read back as one
      that is not before what it is read back as.
-/
structure RereadLaws
    (t : Instant) : Prop where
  reads : t.reread? = some t.truncateMillis
  exact :
    Mapping.toDate (Value.ofJson (Value.date t).toJson) =
        .ok (.date t) ↔
      1000000 ∣ t.nano
  idempotent : t.reread?.bind reread? = t.reread?
  monotone :
    ∀ u : Instant, u.HasFourDigitYear → u.lt t = false →
      ∃ t' u', t.reread? = some t' ∧ u.reread? = some u' ∧
        u'.lt t' = false

/- The last nanosecond of a leap second before 1970. -/
def leapSecond : Instant where
  day := -732
  second := 86399
  nano := 1999999999
  second_lt := by decide
  nano_lt := by decide
  leap_ends_minute := by decide

end Instant

end Conform
