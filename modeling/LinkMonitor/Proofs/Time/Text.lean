import LinkMonitor.Proofs.Text.DigitOrder
import LinkMonitor.Proofs.Time.Date

/-!
# Reading timestamps

What the text of a timestamp says is read from the text alone. It is the date of the timestamp, so that no
two timestamps have the same text. A timestamp without a text is refused for one of three reasons.
-/

namespace LinkMonitor
namespace CivilTime

/-- The number that decimal digits write. -/
def number? (s : List Char) : Option Nat :=
  if s ≠ [] ∧ s.all Char.isDigit then some (Nat.ofDigitChars 10 s 0) else none

/-- The time that is written with one digit or more for the year and two digits for every other part. -/
def ofText? (text : String) : Option CivilTime :=
  match text.toList.takeWhile Char.isDigit, text.toList.dropWhile Char.isDigit with
  | year, ['-', m, m', '-', d, d', 'T', h, h', ':', n, n', ':', s, s', 'Z'] => do
    return ⟨← number? year, ← number? [m, m'], ← number? [d, d'], ← number? [h, h'],
      ← number? [n, n'], ← number? [s, s']⟩
  | _, _ => none

theorem number?_toDigits (n : Nat) : number? (Nat.toDigits 10 n) = some n := by
  have digits : (Nat.toDigits 10 n).all Char.isDigit = true :=
    List.all_eq_true.mpr (Text.isDigit_toDigits n)
  rw [number?, if_pos ⟨Nat.toDigits_ne_nil, digits⟩, Nat.ofDigitChars_ten_toDigits]

/-! ### The parts of a text -/

theorem twoDigits_toList {n : Nat} (small : n < 100) :
    (twoDigits n).toList = [(n / 10).digitChar, (n % 10).digitChar] := by
  have padded : (twoDigits n).toList =
      List.replicate (2 - (Nat.toDigits 10 n).length) '0' ++ Nat.toDigits 10 n := by
    rw [twoDigits_eq]
    simp [padLeft, toString, Nat.repr]
  rw [padded]
  by_cases one : n < 10
  · rw [Nat.toDigits_of_lt_base one, Nat.div_eq_of_lt one, Nat.mod_eq_of_lt one]
    rfl
  · have digits : Nat.toDigits 10 n = [(n / 10).digitChar, (n % 10).digitChar] := by
      have split := Nat.toDigits_append_toDigits (by decide : 1 < 10) (show 0 < n / 10 by omega)
        (Nat.mod_lt n (by decide : 10 > 0))
      rw [Nat.div_add_mod] at split
      rw [← split, Nat.toDigits_of_lt_base (by omega), Nat.toDigits_of_lt_base (by omega)]
      rfl
    rw [digits]
    rfl

/-- Two digits write the number that they stand for. -/
theorem twoDigits_digits {n : Nat} (small : n < 100) :
    (∀ c ∈ (twoDigits n).toList, c.isDigit = true) ∧ Nat.ofDigitChars 10 (twoDigits n).toList 0 = n := by
  have ten : n / 10 < 10 := by omega
  have one : n % 10 < 10 := by omega
  rw [twoDigits_toList small]
  constructor
  · simp [Nat.isDigit_digitChar, ten, one]
  · simp only [Nat.ofDigitChars_cons, Nat.ofDigitChars_nil, Nat.toNat_digitChar_of_lt_ten ten,
      Nat.toNat_digitChar_of_lt_ten one]
    have zero : '0'.toNat = 48 := rfl
    omega

theorem number?_twoDigits {n : Nat} (small : n < 100) :
    number? [(n / 10).digitChar, (n % 10).digitChar] = some n := by
  obtain ⟨digits, value⟩ := twoDigits_digits small
  rw [twoDigits_toList small] at digits value
  rw [number?, if_pos ⟨by simp, List.all_eq_true.mpr digits⟩, value]

/-- The parts of a time within its year, from the greatest to the least. -/
def parts (c : CivilTime) : List Nat := [c.month, c.day, c.hour, c.minute, c.second]

/-- Two digits are enough for each part. -/
theorem Valid.small {c : CivilTime} (valid : c.Valid) :
    c.month < 100 ∧ c.day < 100 ∧ c.hour < 100 ∧ c.minute < 100 ∧ c.second < 100 := by
  obtain ⟨month, day, hour, minute, second⟩ := valid
  have longest := monthLength_le c.year c.month
  omega

theorem Valid.parts_lt_hundred {c : CivilTime} (valid : c.Valid) : ∀ n ∈ c.parts, n < 100 := by
  simpa [parts] using valid.small

/-- Two digits for each number, behind a mark. -/
def marked (marks : List Char) (numbers : List Nat) : List Char :=
  (List.zipWith (fun mark n => mark :: (twoDigits n).toList) marks numbers).flatten

theorem marked_nil : marked [] [] = [] := rfl

theorem marked_cons {mark : Char} {marks : List Char} {n : Nat} {numbers : List Nat} :
    marked (mark :: marks) (n :: numbers) = mark :: ((twoDigits n).toList ++ marked marks numbers) := by
  simp [marked]

/-- What follows the year in the text of a time. -/
def afterYear (c : CivilTime) : List Char := marked ['-', '-', 'T', ':', ':'] c.parts ++ ['Z']

theorem Valid.afterYear_eq {c : CivilTime} (valid : c.Valid) :
    c.afterYear = ['-', (c.month / 10).digitChar, (c.month % 10).digitChar,
      '-', (c.day / 10).digitChar, (c.day % 10).digitChar,
      'T', (c.hour / 10).digitChar, (c.hour % 10).digitChar,
      ':', (c.minute / 10).digitChar, (c.minute % 10).digitChar,
      ':', (c.second / 10).digitChar, (c.second % 10).digitChar, 'Z'] := by
  obtain ⟨month, day, hour, minute, second⟩ := valid.small
  simp only [afterYear, parts, marked_cons, marked_nil, twoDigits_toList, month, day, hour, minute, second,
    List.cons_append, List.nil_append]

/-- The text of a time in a year that is not negative. -/
theorem text_toList {c : CivilTime} {year : Nat} (named : c.year = year) :
    (toString c.year ++ c.textAfterYear ++ "Z").toList = Nat.toDigits 10 year ++ c.afterYear := by
  have digits : (toString c.year).toList = Nat.toDigits 10 year := by
    rw [named]
    simp [toString, Int.repr]
  simp only [textAfterYear, String.toList_append, digits]
  simp [afterYear, marked, parts]

theorem Valid.ofText?_text {c : CivilTime} (valid : c.Valid) (positive : 0 ≤ c.year) :
    ofText? (toString c.year ++ c.textAfterYear ++ "Z") = some c := by
  obtain ⟨year, named⟩ := Int.eq_ofNat_of_zero_le positive
  have digits := Text.isDigit_toDigits year
  have yearFirst : ∀ s, (Nat.toDigits 10 year ++ '-' :: s).takeWhile Char.isDigit =
      Nat.toDigits 10 year := by
    intro s
    rw [List.takeWhile_append_of_pos digits]
    simp
  have rest : ∀ s, (Nat.toDigits 10 year ++ '-' :: s).dropWhile Char.isDigit = '-' :: s := by
    intro s
    rw [List.dropWhile_append_of_pos digits]
    simp
  obtain ⟨month, day, hour, minute, second⟩ := valid.small
  rw [ofText?, text_toList named, valid.afterYear_eq, yearFirst, rest]
  simp only [number?_toDigits, number?_twoDigits, month, day, hour, minute, second]
  change some ⟨year, c.month, c.day, c.hour, c.minute, c.second⟩ = some c
  rw [← named]

/-! ### Timestamps -/

theorem ofTimestamp_eq_outsideClock {t : Int} :
    ofTimestamp t = .error .outsideClock ↔ ¬(-2 ^ 63 ≤ t ∧ t < 2 ^ 63) := by
  unfold ofTimestamp
  dsimp only
  split_ifs <;> simp <;> omega

theorem ofTimestamp_eq_yearTooWide {t : Int} :
    ofTimestamp t = .error .yearTooWide ↔
      (-2 ^ 63 ≤ t ∧ t < 2 ^ 63) ∧
        ¬(-2 ^ 31 ≤ (ofSeconds t).year - 1900 ∧ (ofSeconds t).year - 1900 < 2 ^ 31) := by
  unfold ofTimestamp
  dsimp only
  split_ifs <;> simp <;> omega

theorem ofTimestamp_eq_yearOutOfRange {t : Int} :
    (∃ year, ofTimestamp t = .error (.yearOutOfRange year)) ↔
      (-2 ^ 63 ≤ t ∧ t < 2 ^ 63) ∧
        (-2 ^ 31 ≤ (ofSeconds t).year - 1900 ∧ (ofSeconds t).year - 1900 < 2 ^ 31) ∧ ¬HasText t := by
  rw [← year_ofSeconds_iff]
  unfold ofTimestamp
  dsimp only
  split_ifs <;> simp <;> omega

end CivilTime

open CivilTime

theorem formatTimestamp_eq_error_iff {t : Int} {e : TimeError} :
    formatTimestamp t = .error e ↔ ofTimestamp t = .error e := by
  unfold formatTimestamp
  cases ofTimestamp t with
  | ok c => simp [bind, Except.bind, pure, Except.pure]
  | error e => simp [bind, Except.bind]

theorem exists_formatTimestamp_iff {t : Int} : (∃ text, formatTimestamp t = .ok text) ↔ HasText t := by
  constructor
  · rintro ⟨text, written⟩
    exact (formatTimestamp_eq_ok written).1
  · exact formatTimestamp_of_hasText

/-- The text of a timestamp is read as its date. -/
theorem ofText?_of_format {t : Int} {text : String} (written : formatTimestamp t = .ok text) :
    ofText? text = some (ofSeconds t) := by
  obtain ⟨inRange, rfl⟩ := formatTimestamp_eq_ok written
  have positive := ((year_ofSeconds_iff t).mpr inRange).1
  exact (ofSeconds_valid t).ofText?_text (by omega)

theorem formatTimestamp_injective {t u : Int} {text : String} (first : formatTimestamp t = .ok text)
    (second : formatTimestamp u = .ok text) : t = u := by
  have same : some (ofSeconds t) = some (ofSeconds u) :=
    (ofText?_of_format first).symm.trans (ofText?_of_format second)
  have date : ofSeconds t = ofSeconds u := Option.some.inj same
  calc
    t = (ofSeconds t).sinceEpoch := (sinceEpoch_ofSeconds t).symm
    _ = (ofSeconds u).sinceEpoch := by rw [date]
    _ = u := sinceEpoch_ofSeconds u

/-- Each timestamp `t` has exactly one date `c`. From the first second of year 1 to the last one of year
9999 it has a text, which says `c` and is the text of no other timestamp; all others are refused, by their
own size or by that of the year of `c`. -/
theorem formatTimestamp_faithful (t : Int) :
    ∃ c : CivilTime, (∀ d : CivilTime, d.Valid ∧ d.sinceEpoch = t ↔ d = c) ∧
      ((∃ text, formatTimestamp t = .ok text) ↔ -62135596800 ≤ t ∧ t ≤ 253402300799) ∧
      (∀ text, formatTimestamp t = .ok text →
        ofText? text = some c ∧ ∀ u, formatTimestamp u = .ok text → u = t) ∧
      (formatTimestamp t = .error .outsideClock ↔ ¬(-2 ^ 63 ≤ t ∧ t < 2 ^ 63)) ∧
      (formatTimestamp t = .error .yearTooWide ↔
        (-2 ^ 63 ≤ t ∧ t < 2 ^ 63) ∧ ¬(-2 ^ 31 ≤ c.year - 1900 ∧ c.year - 1900 < 2 ^ 31)) ∧
      ((∃ year, formatTimestamp t = .error (.yearOutOfRange year)) ↔
        (-2 ^ 63 ≤ t ∧ t < 2 ^ 63) ∧ (-2 ^ 31 ≤ c.year - 1900 ∧ c.year - 1900 < 2 ^ 31) ∧
          ¬(-62135596800 ≤ t ∧ t ≤ 253402300799)) ∧
      TimeError.yearTooWide.message = "[Errno 75] Value too large for defined data type" := by
  refine ⟨ofSeconds t, fun d => ?_, exists_formatTimestamp_iff, fun text written => ?_, ?_, ?_, ?_, rfl⟩
  · rw [← ofSeconds_eq_iff]
    exact eq_comm
  · exact ⟨ofText?_of_format written, fun u other => formatTimestamp_injective other written⟩
  · rw [formatTimestamp_eq_error_iff]
    exact ofTimestamp_eq_outsideClock
  · rw [formatTimestamp_eq_error_iff]
    exact ofTimestamp_eq_yearTooWide
  · simp only [formatTimestamp_eq_error_iff]
    exact ofTimestamp_eq_yearOutOfRange

example : formatTimestamp 951782400 = .ok "2000-02-29T00:00:00Z" := by decide +kernel

end LinkMonitor
