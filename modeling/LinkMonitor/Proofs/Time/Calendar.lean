import LinkMonitor.Proofs.Results
import LinkMonitor.Proofs.Text.Digits
import LinkMonitor.Time.Calendar

/-!
# Timestamps that have a text

A day lies in the year that `yearOfDay` says. A timestamp has a text exactly if its year has four digits
at most and is no earlier than the first.
-/

namespace LinkMonitor
namespace CivilTime

theorem isLeapYear_iff (year : Int) :
    isLeapYear year = true ↔ year % 4 = 0 ∧ (year % 100 ≠ 0 ∨ year % 400 = 0) := by
  simp [isLeapYear]

/-! ### The days of a year -/

section Parts

variable {cycles centuries fours years : Int}

/-- The days before a year by its place in the cycle of 400 years. -/
theorem daysBeforeYear_parts (hc : 0 ≤ centuries ∧ centuries ≤ 3) (hf : 0 ≤ fours ∧ fours ≤ 24)
    (hy : 0 ≤ years ∧ years ≤ 3) :
    daysBeforeYear (cycles * 400 + centuries * 100 + fours * 4 + years + 1) =
      cycles * 146097 + centuries * 36524 + fours * 1461 + years * 365 := by
  have byFour : (cycles * 400 + centuries * 100 + fours * 4 + years) / 4 =
      cycles * 100 + centuries * 25 + fours := by omega
  have byCentury : (cycles * 400 + centuries * 100 + fours * 4 + years) / 100 =
      cycles * 4 + centuries := by omega
  have byCycle : (cycles * 400 + centuries * 100 + fours * 4 + years) / 400 = cycles := by omega
  simp only [daysBeforeYear, Int.add_sub_cancel]
  omega

theorem isLeapYear_parts (hc : 0 ≤ centuries ∧ centuries ≤ 3) (hf : 0 ≤ fours ∧ fours ≤ 24)
    (hy : 0 ≤ years ∧ years ≤ 3) :
    isLeapYear (cycles * 400 + centuries * 100 + fours * 4 + years + 1) = true ↔
      years = 3 ∧ (fours = 24 → centuries = 3) := by
  rw [isLeapYear_iff]
  omega

end Parts

theorem daysBeforeYear_next (year : Int) :
    daysBeforeYear (year + 1) = daysBeforeYear year + 365 + if isLeapYear year then 1 else 0 := by
  simp only [daysBeforeYear, isLeapYear_iff]
  split <;> omega

theorem daysBeforeYear_le {y z : Int} (h : y ≤ z) : daysBeforeYear y ≤ daysBeforeYear z := by
  simp only [daysBeforeYear]
  omega

/-- The place of a day: its cycle, century, four years and year, and the days after the first of that
year. -/
theorem yearOfDay_parts (day : Int) : ∃ cycles centuries fours years : Int, ∃ rest : Nat,
    (0 ≤ centuries ∧ centuries ≤ 3) ∧ (0 ≤ fours ∧ fours ≤ 24) ∧ (0 ≤ years ∧ years ≤ 3) ∧
      yearOfDay day = (cycles * 400 + centuries * 100 + fours * 4 + years + 1, rest) ∧
      day = cycles * 146097 + centuries * 36524 + fours * 1461 + years * 365 + rest ∧
      (rest < 365 ∨ rest = 365 ∧ years = 3 ∧ (fours = 24 → centuries = 3)) := by
  have centuries : 0 ≤ min (day % 146097 / 36524) 3 ∧ min (day % 146097 / 36524) 3 ≤ 3 := by omega
  generalize inCentury : day % 146097 - min (day % 146097 / 36524) 3 * 36524 = d at *
  have fours : 0 ≤ d / 1461 ∧ d / 1461 ≤ 24 := by omega
  have years : 0 ≤ min (d % 1461 / 365) 3 ∧ min (d % 1461 / 365) 3 ≤ 3 := by omega
  have year : yearOfDay day = (day / 146097 * 400 + min (day % 146097 / 36524) 3 * 100 +
      d / 1461 * 4 + min (d % 1461 / 365) 3 + 1,
        (d % 1461 - min (d % 1461 / 365) 3 * 365).toNat) := by
    simp only [yearOfDay, inCentury]
  refine ⟨_, _, _, _, _, centuries, fours, years, year, ?_, ?_⟩
  · omega
  · omega

/-- A day comes after the first day of its year, or is that, and before the next year. -/
theorem yearOfDay_spec (day : Int) :
    daysBeforeYear (yearOfDay day).1 ≤ day ∧ day < daysBeforeYear ((yearOfDay day).1 + 1) := by
  obtain ⟨cycles, centuries, fours, years, rest, hc, hf, hy, year, place, inYear⟩ := yearOfDay_parts day
  rw [daysBeforeYear_next]
  simp only [year, isLeapYear_parts hc hf hy, daysBeforeYear_parts hc hf hy]
  split
  · omega
  · omega

/-- The day's number in its year, counted from zero. -/
theorem yearOfDay_rest (day : Int) :
    ((yearOfDay day).2 : Int) = day - daysBeforeYear (yearOfDay day).1 := by
  obtain ⟨cycles, centuries, fours, years, rest, hc, hf, hy, year, place, -⟩ := yearOfDay_parts day
  simp only [year, daysBeforeYear_parts hc hf hy]
  omega

theorem yearOfDay_le_iff (day year : Int) :
    (yearOfDay day).1 ≤ year ↔ day < daysBeforeYear (year + 1) := by
  obtain ⟨start, finish⟩ := yearOfDay_spec day
  constructor
  · intro h
    have order : daysBeforeYear ((yearOfDay day).1 + 1) ≤ daysBeforeYear (year + 1) :=
      daysBeforeYear_le (by omega)
    omega
  · intro h
    by_contra later
    have order : daysBeforeYear (year + 1) ≤ daysBeforeYear (yearOfDay day).1 :=
      daysBeforeYear_le (by omega)
    omega

/-! ### The range of the texts -/

/-- From the first second of year 1 to the last one of year 9999. -/
def HasText (t : Int) : Prop := -62135596800 ≤ t ∧ t ≤ 253402300799

instance (t : Int) : Decidable (HasText t) :=
  inferInstanceAs (Decidable (-62135596800 ≤ t ∧ t ≤ 253402300799))

theorem year_ofSeconds_iff (t : Int) :
    (1 ≤ (ofSeconds t).year ∧ (ofSeconds t).year ≤ 9999) ↔ HasText t := by
  have year : (ofSeconds t).year = (yearOfDay (t / 86400 + epochDay)).1 := rfl
  have first := yearOfDay_le_iff (t / 86400 + epochDay) 0
  have last := yearOfDay_le_iff (t / 86400 + epochDay) 9999
  have start : daysBeforeYear (0 + 1) = 0 := rfl
  have finish : daysBeforeYear (9999 + 1) = 3652059 := rfl
  have epoch : epochDay = 719162 := rfl
  rw [start] at first
  rw [finish] at last
  rw [year]
  unfold HasText
  omega

theorem ofTimestamp_of_hasText {t : Int} (h : HasText t) : ofTimestamp t = .ok (ofSeconds t) := by
  have year := (year_ofSeconds_iff t).mpr h
  have inClock : ¬(t < -0x8000000000000000 ∨ 0x8000000000000000 ≤ t) := by
    unfold HasText at h
    omega
  have narrow : ¬((ofSeconds t).year - 1900 < -0x80000000 ∨
      0x80000000 ≤ (ofSeconds t).year - 1900) := by omega
  rw [ofTimestamp, if_neg inClock, if_neg narrow, if_pos year]

theorem ofTimestamp_eq_ok {t : Int} {c : CivilTime} (h : ofTimestamp t = .ok c) :
    HasText t ∧ c = ofSeconds t := by
  unfold ofTimestamp at h
  dsimp only at h
  split at h
  · cases h
  split at h
  · cases h
  split at h
  · next year =>
    cases h
    exact ⟨(year_ofSeconds_iff t).mp year, rfl⟩
  · cases h

theorem twoDigits_eq (n : Nat) : twoDigits n = padLeft 2 '0' (toString n) := by
  rw [twoDigits, zeroPadded, if_neg (by omega), Int.natAbs_natCast]

end CivilTime

open CivilTime

theorem formatTimestamp_of_hasText {t : Int} (h : HasText t) : ∃ text, formatTimestamp t = .ok text := by
  rw [formatTimestamp, ofTimestamp_of_hasText h]
  exact ⟨_, rfl⟩

theorem formatTimestamp_eq_ok {t : Int} {text : String} (h : formatTimestamp t = .ok text) :
    HasText t ∧ text = toString (ofSeconds t).year ++ (ofSeconds t).textAfterYear ++ "Z" := by
  obtain ⟨c, read, h⟩ := ok_of_bind h
  obtain ⟨inRange, rfl⟩ := ofTimestamp_eq_ok read
  cases h
  exact ⟨inRange, rfl⟩

theorem not_hasText_of_error {t : Int} {e : TimeError} (failed : formatTimestamp t = .error e) :
    ¬HasText t := by
  intro h
  obtain ⟨text, found⟩ := formatTimestamp_of_hasText h
  rw [failed] at found
  cases found

/-! ### The characters of the texts -/

section Characters

variable {c : Char}

theorem notMem_natText (free : ∀ d < 10, d.digitChar ≠ c) (n : Nat) : c ∉ (toString n).toList := by
  have digits : (toString n).toList = Nat.toDigits 10 n := by
    simp [toString, Nat.repr]
  rw [digits]
  exact Text.notMem_toDigits (by decide) free

theorem notMem_intText (free : ∀ d < 10, d.digitChar ≠ c) (minus : c ≠ '-') (n : Int) :
    c ∉ (toString n).toList := by
  cases n with
  | ofNat n => exact notMem_natText free n
  | negSucc n =>
    have text : (toString (Int.negSucc n)).toList = '-' :: (toString (n + 1)).toList := by
      simp [toString, Int.repr]
    rw [text, List.mem_cons, not_or]
    exact ⟨minus, notMem_natText free (n + 1)⟩

theorem notMem_twoDigits (free : ∀ d < 10, d.digitChar ≠ c) (n : Nat) :
    c ∉ (twoDigits n).toList := by
  have zero : c ≠ '0' := fun h => free 0 (by decide) h.symm
  rw [twoDigits_eq, padLeft, String.toList_append, List.mem_append, not_or]
  refine ⟨?_, notMem_natText free n⟩
  simp [zero]

/-- The text of a time holds digits, `-`, `T`, `:` and `Z` and nothing else. -/
theorem notMem_formatTimestamp (free : ∀ d < 10, d.digitChar ≠ c) (marks : c ∉ "-T:Z".toList)
    {t : Int} {text : String} (h : formatTimestamp t = .ok text) : c ∉ text.toList := by
  obtain ⟨-, rfl⟩ := formatTimestamp_eq_ok h
  have each : c ≠ '-' ∧ c ≠ 'T' ∧ c ≠ ':' ∧ c ≠ 'Z' := by simpa using marks
  obtain ⟨minus, letterT, colon, letterZ⟩ := each
  simp only [textAfterYear, String.toList_append, List.mem_append, notMem_intText free minus,
    notMem_twoDigits free]
  simp [minus, letterT, colon, letterZ]

end Characters
end LinkMonitor
