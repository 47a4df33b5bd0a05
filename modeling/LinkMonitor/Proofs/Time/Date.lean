import LinkMonitor.Proofs.Time.Calendar
import Mathlib.Algebra.BigOperators.Group.Finset.Basic
import Mathlib.Tactic.Ring

/-!
# The date of a second

The rules of the calendar, and the seconds up to a date by counting the years, months and days before it.
`ofSeconds` tells the only date with so many seconds before it.
-/

namespace LinkMonitor
namespace CivilTime

/-! ### The rules of the calendar -/

/-- Every fourth year, but of the full centuries only every fourth. -/
def IsLeap (year : Int) : Prop := 4 ∣ year ∧ (100 ∣ year → 400 ∣ year)

instance (year : Int) : Decidable (IsLeap year) :=
  inferInstanceAs (Decidable (4 ∣ year ∧ (100 ∣ year → 400 ∣ year)))

def yearLength (year : Int) : Nat := if IsLeap year then 366 else 365

def monthLength (year : Int) : Nat → Nat
  | 2 => if IsLeap year then 29 else 28
  | 4 | 6 | 9 | 11 => 30
  | _ => 31

/-- A date of the calendar and a time of its day. -/
structure Valid (c : CivilTime) : Prop where
  month : 1 ≤ c.month ∧ c.month ≤ 12
  day : 1 ≤ c.day ∧ c.day ≤ monthLength c.year c.month
  hour : c.hour < 24
  minute : c.minute < 60
  second : c.second < 60

/-- Days from the first day of 1970 to the first day of `year`, less than zero for an earlier year. -/
def daysToYear (year : Int) : Int :=
  (∑ i ∈ Finset.range (year - 1970).toNat, yearLength (1970 + i) : Nat) -
    (∑ i ∈ Finset.range (1970 - year).toNat, yearLength (1969 - i) : Nat)

/-- Days from the first day of `year` to the first day of `month`. -/
def daysToMonth (year : Int) (month : Nat) : Nat :=
  ∑ i ∈ Finset.range (month - 1), monthLength year (i + 1)

/-- Seconds since the first second of 1970. -/
def sinceEpoch (c : CivilTime) : Int :=
  (daysToYear c.year + daysToMonth c.year c.month + (c.day - 1)) * 86400 +
    c.hour * 3600 + c.minute * 60 + c.second

/-! ### Years -/

theorem isLeapYear_iff_isLeap (year : Int) : isLeapYear year = true ↔ IsLeap year := by
  rw [isLeapYear_iff, IsLeap]
  omega

theorem daysToYear_next (year : Int) : daysToYear (year + 1) = daysToYear year + yearLength year := by
  rcases lt_or_ge year 1970 with before | since
  · obtain ⟨n, rfl⟩ : ∃ n : Nat, year = 1969 - n := ⟨(1969 - year).toNat, by omega⟩
    have left : (1970 - (1969 - (n : Int) + 1)).toNat = n := by omega
    have leftOne : (1970 - (1969 - (n : Int))).toNat = n + 1 := by omega
    have none : (1969 - (n : Int) - 1970).toNat = 0 := by omega
    have still : (1969 - (n : Int) + 1 - 1970).toNat = 0 := by omega
    rw [daysToYear, daysToYear, left, leftOne, none, still, Finset.sum_range_succ]
    omega
  · obtain ⟨n, rfl⟩ : ∃ n : Nat, year = 1970 + n := ⟨(year - 1970).toNat, by omega⟩
    have passed : (1970 + (n : Int) - 1970).toNat = n := by omega
    have passedOne : (1970 + (n : Int) + 1 - 1970).toNat = n + 1 := by omega
    have none : (1970 - (1970 + (n : Int))).toNat = 0 := by omega
    have still : (1970 - (1970 + (n : Int) + 1)).toNat = 0 := by omega
    rw [daysToYear, daysToYear, passed, passedOne, none, still, Finset.sum_range_succ]
    omega

theorem daysBeforeYear_step (year : Int) :
    daysBeforeYear (year + 1) = daysBeforeYear year + yearLength year := by
  rw [daysBeforeYear_next, yearLength]
  simp only [isLeapYear_iff_isLeap]
  split <;> omega

/-- The days counted year by year are those of the closed form. -/
theorem daysToYear_eq (year : Int) : daysToYear year = daysBeforeYear year - epochDay := by
  induction year using Int.inductionOn' (b := 1970) with
  | zero => rfl
  | succ year _ ih =>
    rw [daysToYear_next, daysBeforeYear_step, ih]
    omega
  | pred year _ ih =>
    have counted := daysToYear_next (year - 1)
    have closed := daysBeforeYear_step (year - 1)
    rw [Int.sub_add_cancel] at counted closed
    omega

/-- The days of a year are told as days of that year. -/
theorem yearOfDay_eq {year : Int} {n : Nat} (inside : n < yearLength year) :
    yearOfDay (daysBeforeYear year + n) = (year, n) := by
  have next := daysBeforeYear_step year
  have late := (yearOfDay_le_iff (daysBeforeYear year + n) year).mpr (by omega)
  have early := yearOfDay_le_iff (daysBeforeYear year + n) (year - 1)
  rw [Int.sub_add_cancel] at early
  have same : (yearOfDay (daysBeforeYear year + n)).1 = year := by omega
  have rest := yearOfDay_rest (daysBeforeYear year + n)
  rw [same] at rest
  exact Prod.ext same (by dsimp only; omega)

/-! ### Months -/

section Months

variable {lengths : List Nat}

/-- The `j`th day of the `i`th month, both counted from zero. -/
theorem monthOfDay_eq {i j : Nat} (month : i < lengths.length) (inside : j < lengths[i]) :
    monthOfDay lengths ((lengths.take i).sum + j) = (i + 1, j + 1) := by
  induction lengths generalizing i with
  | nil => simp at month
  | cons length rest ih =>
    cases i with
    | zero =>
      have inFirst : j < length := by simpa using inside
      simp [monthOfDay, inFirst]
    | succ i =>
      have later := ih (by simpa using month) (by simpa using inside)
      rw [List.take_succ_cons, List.sum_cons, monthOfDay, if_neg (by omega),
        show length + (rest.take i).sum + j - length = (rest.take i).sum + j by omega, later]

/-- Each day lies in one of the months. -/
theorem exists_month {day : Nat} (inside : day < lengths.sum) :
    ∃ i j, ∃ month : i < lengths.length, j < lengths[i] ∧ day = (lengths.take i).sum + j := by
  induction lengths generalizing day with
  | nil => simp at inside
  | cons length rest ih =>
    by_cases first : day < length
    · exact ⟨0, day, by simp, by simpa using first, by simp⟩
    · rw [List.sum_cons] at inside
      obtain ⟨i, j, month, inMonth, place⟩ := ih (show day - length < rest.sum by omega)
      refine ⟨i + 1, j, by simpa using month, by simpa using inMonth, ?_⟩
      rw [List.take_succ_cons, List.sum_cons]
      omega

end Months

theorem monthLength_le (year : Int) (month : Nat) : monthLength year month ≤ 31 := by
  unfold monthLength
  grind

theorem monthLengths_eq (year : Int) :
    monthLengths (isLeapYear year) = (List.range 12).map fun i => monthLength year (i + 1) := by
  by_cases leap : IsLeap year
  · simp [monthLengths, monthLength, (isLeapYear_iff_isLeap year).mpr leap, leap, List.range_succ]
  · have common : isLeapYear year = false := by
      rw [Bool.eq_false_iff, ne_eq, isLeapYear_iff_isLeap]
      exact leap
    simp [monthLengths, monthLength, common, leap, List.range_succ]

theorem monthLengths_length (leap : Bool) : (monthLengths leap).length = 12 := rfl

theorem getElem_monthLengths {year : Int} {i : Nat}
    (month : i < (monthLengths (isLeapYear year)).length) :
    (monthLengths (isLeapYear year))[i] = monthLength year (i + 1) := by
  simp [monthLengths_eq]

theorem monthLengths_sum (year : Int) : (monthLengths (isLeapYear year)).sum = yearLength year := by
  by_cases leap : IsLeap year <;> simp [monthLengths_eq, monthLength, yearLength, leap, List.range_succ]

theorem take_monthLengths_sum (year : Int) {i : Nat} (month : i < 12) :
    ((monthLengths (isLeapYear year)).take i).sum = daysToMonth year (i + 1) := by
  rw [monthLengths_eq, ← List.map_take, List.take_range, Nat.min_eq_left month.le, daysToMonth,
    Nat.add_sub_cancel]
  rfl

/-- A day of a month is a day of its year. -/
theorem daysToMonth_lt {year : Int} {i j : Nat} (month : i < 12)
    (inside : j < monthLength year (i + 1)) : daysToMonth year (i + 1) + j < yearLength year := by
  let lengths := monthLengths (isLeapYear year)
  have count : i < lengths.length := month
  have upTo : (lengths.take (i + 1)).sum = (lengths.take i).sum + lengths[i] :=
    List.sum_take_succ lengths i count
  have whole : (lengths.take (i + 1)).sum + (lengths.drop (i + 1)).sum = lengths.sum :=
    List.sum_take_add_sum_drop lengths (i + 1)
  have before : (lengths.take i).sum = daysToMonth year (i + 1) := take_monthLengths_sum year month
  have length : lengths[i] = monthLength year (i + 1) := getElem_monthLengths count
  have sum : lengths.sum = yearLength year := monthLengths_sum year
  omega

/-! ### Dates and seconds -/

/-- A date is told from its seconds. -/
theorem Valid.ofSeconds_sinceEpoch {c : CivilTime} (valid : c.Valid) : ofSeconds c.sinceEpoch = c := by
  obtain ⟨year, month, day, hour, minute, second⟩ := c
  obtain ⟨monthFrom, dayFrom, hours, minutes, seconds⟩ := valid
  dsimp only at monthFrom dayFrom hours minutes seconds
  obtain ⟨i, rfl⟩ : ∃ i, month = i + 1 := ⟨month - 1, by omega⟩
  obtain ⟨j, rfl⟩ : ∃ j, day = j + 1 := ⟨day - 1, by omega⟩
  have inMonth : j < monthLength year (i + 1) := by omega
  have inYear := daysToMonth_lt (by omega : i < 12) inMonth
  have whole : sinceEpoch ⟨year, i + 1, j + 1, hour, minute, second⟩ =
      (daysBeforeYear year + (daysToMonth year (i + 1) + j : Nat) - epochDay) * 86400 +
        (hour * 3600 + minute * 60 + second : Nat) := by
    simp only [sinceEpoch, daysToYear_eq]
    push_cast
    ring
  have days : sinceEpoch ⟨year, i + 1, j + 1, hour, minute, second⟩ / 86400 + epochDay =
      daysBeforeYear year + (daysToMonth year (i + 1) + j : Nat) := by omega
  have rest : (sinceEpoch ⟨year, i + 1, j + 1, hour, minute, second⟩ % 86400).toNat =
      hour * 3600 + minute * 60 + second := by omega
  have count : i < (monthLengths (isLeapYear year)).length := by
    rw [monthLengths_length]
    omega
  have placed := monthOfDay_eq count (by rw [getElem_monthLengths]; exact inMonth)
  rw [take_monthLengths_sum year (by omega)] at placed
  simp only [ofSeconds, days, rest, yearOfDay_eq inYear, placed, mk.injEq, true_and]
  omega

/-- Every second has a date. -/
theorem exists_valid (t : Int) : ∃ c : CivilTime, c.Valid ∧ c.sinceEpoch = t := by
  let day := t / 86400 + epochDay
  let year := (yearOfDay day).1
  let inDay := (t % 86400).toNat
  obtain ⟨start, finish⟩ : daysBeforeYear year ≤ day ∧ day < daysBeforeYear (year + 1) :=
    yearOfDay_spec day
  rw [daysBeforeYear_step] at finish
  obtain ⟨i, j, month, inMonth, place⟩ := exists_month
    (show (day - daysBeforeYear year).toNat < (monthLengths (isLeapYear year)).sum by
      rw [monthLengths_sum]
      omega)
  have count : i < 12 := month
  rw [getElem_monthLengths] at inMonth
  rw [take_monthLengths_sum year count] at place
  have months : 1 ≤ i + 1 ∧ i + 1 ≤ 12 := by omega
  have days : 1 ≤ j + 1 ∧ j + 1 ≤ monthLength year (i + 1) := by omega
  have hours : inDay / 3600 < 24 := by omega
  have minutes : inDay / 60 % 60 < 60 := by omega
  have seconds : inDay % 60 < 60 := by omega
  refine ⟨⟨year, i + 1, j + 1, inDay / 3600, inDay / 60 % 60, inDay % 60⟩,
    ⟨months, days, hours, minutes, seconds⟩, ?_⟩
  simp only [sinceEpoch, daysToYear_eq]
  push_cast
  omega

theorem ofSeconds_valid (t : Int) : (ofSeconds t).Valid := by
  obtain ⟨c, valid, rfl⟩ := exists_valid t
  rw [valid.ofSeconds_sinceEpoch]
  exact valid

theorem sinceEpoch_ofSeconds (t : Int) : (ofSeconds t).sinceEpoch = t := by
  obtain ⟨c, valid, rfl⟩ := exists_valid t
  rw [valid.ofSeconds_sinceEpoch]

/-- The date of a second is the only one with so many seconds before it. -/
theorem ofSeconds_eq_iff {t : Int} {c : CivilTime} :
    ofSeconds t = c ↔ c.Valid ∧ c.sinceEpoch = t := by
  constructor
  · rintro rfl
    exact ⟨ofSeconds_valid t, sinceEpoch_ofSeconds t⟩
  · rintro ⟨valid, rfl⟩
    exact valid.ofSeconds_sinceEpoch

end CivilTime
end LinkMonitor
