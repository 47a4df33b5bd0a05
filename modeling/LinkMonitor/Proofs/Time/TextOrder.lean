import LinkMonitor.Proofs.Time.Text
import Mathlib.Data.List.Forall2

/-!
# Timestamps in the order of their texts

Behind the year a text has the same width at all times and is ordered as the times of the year are. The
year has no leading zeros, so that texts are ordered as timestamps from the year 1000 on; before it the
leading digits of the years decide.
-/

namespace LinkMonitor
namespace CivilTime

/-! ### The parts of later times -/

theorem monthOfDay_pos (lengths : List Nat) (day : Nat) : 1 ≤ (monthOfDay lengths day).1 := by
  unfold monthOfDay
  grind

/-- A later day lies in a later month, or later in the same one. -/
theorem monthOfDay_lt {lengths : List Nat} {day later : Nat} (order : day < later) :
    (monthOfDay lengths day).1 < (monthOfDay lengths later).1 ∨
      (monthOfDay lengths day).1 = (monthOfDay lengths later).1 ∧
        (monthOfDay lengths day).2 < (monthOfDay lengths later).2 := by
  induction lengths generalizing day later with
  | nil => exact .inr ⟨rfl, Nat.succ_lt_succ order⟩
  | cons length rest ih =>
    have positive := monthOfDay_pos rest (later - length)
    by_cases early : later < length
    · rw [monthOfDay, monthOfDay, if_pos (by omega), if_pos early]
      exact .inr ⟨rfl, Nat.succ_lt_succ order⟩
    · by_cases first : day < length
      · rw [monthOfDay, monthOfDay, if_pos first, if_neg early]
        exact .inl (Nat.lt_succ_of_le positive)
      · have inRest := ih (show day - length < later - length by omega)
        rw [monthOfDay, monthOfDay, if_neg first, if_neg early]
        dsimp only
        omega

theorem yearOfDay_mono {day later : Int} (order : day ≤ later) :
    (yearOfDay day).1 ≤ (yearOfDay later).1 := by
  have finish := (yearOfDay_spec later).2
  exact (yearOfDay_le_iff day _).mpr (by omega)

theorem year_mono {t u : Int} (order : t ≤ u) : (ofSeconds t).year ≤ (ofSeconds u).year :=
  yearOfDay_mono (by omega)

theorem parts_lt {t u : Int} (order : t < u) (same : (ofSeconds t).year = (ofSeconds u).year) :
    (ofSeconds t).parts < (ofSeconds u).parts := by
  have rest := yearOfDay_rest (t / 86400 + epochDay)
  have rest' := yearOfDay_rest (u / 86400 + epochDay)
  have years : (yearOfDay (t / 86400 + epochDay)).1 = (yearOfDay (u / 86400 + epochDay)).1 := same
  simp only [parts, ofSeconds, List.cons_lt_cons_iff, years]
  rw [years] at rest
  rcases lt_or_eq_of_le (show t / 86400 ≤ u / 86400 by omega) with laterDay | sameDay
  · have laterInYear : (yearOfDay (t / 86400 + epochDay)).2 < (yearOfDay (u / 86400 + epochDay)).2 := by
      omega
    exact (monthOfDay_lt laterInYear).imp_right fun placed => ⟨placed.1, .inl placed.2⟩
  · rw [sameDay]
    refine .inr ⟨rfl, .inr ⟨rfl, ?_⟩⟩
    simp only [List.not_lt_nil, and_false, or_false]
    omega

/-- The years up to some year end with its last second. -/
theorem year_le_iff (t year : Int) :
    (ofSeconds t).year ≤ year ↔ t < (daysBeforeYear (year + 1) - epochDay) * 86400 := by
  have days := yearOfDay_le_iff (t / 86400 + epochDay) year
  change (yearOfDay (t / 86400 + epochDay)).1 ≤ year ↔ _
  omega

/-! ### Texts of one width -/

theorem twoDigits_append_lt {m n : Nat} {s t : List Char} (small : n < 100) (less : m < n) :
    (twoDigits m).toList ++ s < (twoDigits n).toList ++ t := by
  obtain ⟨digits, value⟩ := twoDigits_digits (less.trans small)
  obtain ⟨digits', value'⟩ := twoDigits_digits small
  have same : (twoDigits m).toList.length = (twoDigits n).toList.length := by
    rw [twoDigits_toList small, twoDigits_toList (less.trans small)]
    rfl
  have order := Text.lt_iff_ofDigitChars_lt digits digits' same
  rw [value, value'] at order
  have before := order.mpr less
  exact (Text.append_lt_append_iff same before.ne).mpr before

/-- Numbers of two digits behind the same marks are ordered as lists of numbers. -/
theorem marked_append_lt {marks : List Char} {a b : List Nat} {s t : List Char}
    (count : a.length = marks.length) (count' : b.length = marks.length) (small : ∀ n ∈ b, n < 100)
    (less : a < b) : marked marks a ++ s < marked marks b ++ t := by
  induction marks generalizing a b with
  | nil =>
    rw [List.eq_nil_of_length_eq_zero count, List.eq_nil_of_length_eq_zero count'] at less
    exact absurd less (lt_irrefl [])
  | cons mark marks ih =>
    obtain ⟨m, a, rfl⟩ := List.exists_cons_of_length_eq_add_one count
    obtain ⟨n, b, rfl⟩ := List.exists_cons_of_length_eq_add_one count'
    rw [marked_cons, marked_cons, List.cons_append, List.cons_append, List.append_assoc,
      List.append_assoc]
    refine List.cons_lt_cons_iff.mpr (.inr ⟨rfl, ?_⟩)
    rcases List.cons_lt_cons_iff.mp less with first | ⟨rfl, rest⟩
    · exact twoDigits_append_lt (small n List.mem_cons_self) first
    · refine List.append_left_lt (ih ?_ ?_ ?_ rest)
      · simpa using count
      · simpa using count'
      · exact fun k member => small k (List.mem_cons_of_mem m member)

theorem afterYear_lt {c d : CivilTime} (valid : d.Valid) (less : c.parts < d.parts) :
    c.afterYear < d.afterYear :=
  marked_append_lt rfl rfl valid.parts_lt_hundred less

/-- `YYYY-MM-DDTHH:MM:SSZ`: digits where the sample has them, and all else as in the sample. -/
def FixedWidth (text : String) : Prop :=
  List.Forall₂ (fun sample c => if sample.isDigit then c.isDigit = true else c = sample)
    "0000-00-00T00:00:00Z".toList text.toList

theorem fixedWidth_of_digits {c : CivilTime} {text : String} {year : List Char} (valid : c.Valid)
    (digits : ∀ d ∈ year, d.isDigit = true) (four : year.length = 4)
    (shown : text.toList = year ++ c.afterYear) : FixedWidth text := by
  obtain ⟨month, day, hour, minute, second⟩ := valid.small
  obtain ⟨y₁, y₂, y₃, y₄, rfl⟩ := List.length_eq_four.mp four
  simp only [List.forall_mem_cons] at digits
  have tens : ∀ n, n < 100 → n / 10 < 10 := by omega
  have ones : ∀ n, n % 10 < 10 := by omega
  rw [FixedWidth, shown, valid.afterYear_eq]
  simp [month, day, hour, minute, second, digits, Nat.isDigit_digitChar, tens, ones]

end CivilTime

open CivilTime

section Texts

variable {t u : Int} {a b : String}

/-- The text of a timestamp is the year and sixteen characters. -/
theorem toList_of_format (written : formatTimestamp t = .ok a) :
    ∃ year : Nat, (ofSeconds t).year = year ∧
      a.toList = Nat.toDigits 10 year ++ (ofSeconds t).afterYear ∧
      a.length = (Nat.toDigits 10 year).length + 16 := by
  obtain ⟨inRange, rfl⟩ := formatTimestamp_eq_ok written
  have positive := ((year_ofSeconds_iff t).mpr inRange).1
  obtain ⟨year, named⟩ := Int.eq_ofNat_of_zero_le (show 0 ≤ (ofSeconds t).year by omega)
  have shown := text_toList named
  refine ⟨year, named, shown, ?_⟩
  rw [← String.length_toList, shown, (ofSeconds_valid t).afterYear_eq, List.length_append]
  rfl

/-- The year 1000 is the first of four digits. -/
theorem fixedWidth_iff (written : formatTimestamp t = .ok a) : FixedWidth a ↔ -30610224000 ≤ t := by
  obtain ⟨year, named, shown, width⟩ := toList_of_format written
  have last := ((year_ofSeconds_iff t).mpr (formatTimestamp_eq_ok written).1).2
  have three : (Nat.toDigits 10 year).length ≤ 3 ↔ year < 10 ^ 3 :=
    Nat.length_toDigits_le_iff (by decide) (by decide)
  have four : (Nat.toDigits 10 year).length ≤ 4 ↔ year < 10 ^ 4 :=
    Nat.length_toDigits_le_iff (by decide) (by decide)
  have start := year_le_iff t 999
  have days : daysBeforeYear (999 + 1) = 364877 := rfl
  have epoch : epochDay = 719162 := rfl
  rw [days, epoch] at start
  constructor
  · intro fixed
    have same := fixed.length_eq
    rw [String.length_toList, String.length_toList, width] at same
    have sample : "0000-00-00T00:00:00Z".length = 20 := rfl
    omega
  · intro since
    exact fixedWidth_of_digits (ofSeconds_valid t) (Text.isDigit_toDigits year) (by omega) shown

/-- Texts are compared by as many leading digits of the later year as the earlier one has. -/
theorem format_lt_iff (earlier : t < u) (first : formatTimestamp t = .ok a)
    (second : formatTimestamp u = .ok b) :
    a < b ↔ (ofSeconds t).year ≤ (ofSeconds u).year / 10 ^ (b.length - a.length) := by
  obtain ⟨year, named, shown, width⟩ := toList_of_format first
  obtain ⟨later, named', shown', width'⟩ := toList_of_format second
  have order : year ≤ later := by
    have := year_mono earlier.le
    omega
  have behind : year = later → (ofSeconds t).afterYear < (ofSeconds u).afterYear := by
    rintro rfl
    exact afterYear_lt (ofSeconds_valid u) (parts_lt earlier (named.trans named'.symm))
  have difference : b.length - a.length =
      (Nat.toDigits 10 later).length - (Nat.toDigits 10 year).length := by omega
  obtain ⟨s, mark⟩ : ∃ s, (ofSeconds t).afterYear = '-' :: s := ⟨_, rfl⟩
  obtain ⟨s', mark'⟩ : ∃ s, (ofSeconds u).afterYear = '-' :: s := ⟨_, rfl⟩
  rw [String.lt_iff_toList_lt, shown, shown', difference, named, named', mark, mark']
  have tie : year = later → s < s' := by
    intro same
    have less := behind same
    rw [mark, mark'] at less
    exact (List.cons_lt_cons_iff.mp less).resolve_left (lt_irrefl '-') |>.2
  rw [Text.toDigits_mark_lt_iff (by decide) order tie]
  norm_cast

/-- The texts of two timestamps have one width and their order exactly if the earlier one is not before
the year 1000. For any two, the leading digits of the years decide. -/
theorem formatTimestamp_sorts (earlier : t < u) (first : formatTimestamp t = .ok a)
    (second : formatTimestamp u = .ok b) :
    (FixedWidth a ∧ FixedWidth b ∧ a < b ↔ -30610224000 ≤ t) ∧
      (a < b ↔ (ofSeconds t).year ≤ (ofSeconds u).year / 10 ^ (b.length - a.length)) := by
  have sorted := format_lt_iff earlier first second
  refine ⟨⟨fun ⟨fixed, _⟩ => (fixedWidth_iff first).mp fixed, fun since => ?_⟩, sorted⟩
  have fixed := (fixedWidth_iff first).mpr since
  have fixed' := (fixedWidth_iff second).mpr (by omega)
  refine ⟨fixed, fixed', sorted.mpr ?_⟩
  have width := fixed.length_eq
  have width' := fixed'.length_eq
  rw [String.length_toList, String.length_toList] at width width'
  rw [show b.length - a.length = 0 by omega, pow_zero, Int.ediv_one]
  exact year_mono earlier.le

end Texts

/-- From the last second of the year 99 to the first one of 990, and from that of 1000 to the end. -/
theorem formatTimestamp_sorts_leading :
    formatTimestamp (-59011459201) = .ok "99-12-31T23:59:59Z" ∧
      formatTimestamp (-30925756800) = .ok "990-01-01T00:00:00Z" ∧
      "99-12-31T23:59:59Z" < "990-01-01T00:00:00Z" ∧
      formatTimestamp (-30610224000) = .ok "1000-01-01T00:00:00Z" ∧
      formatTimestamp 253402300799 = .ok "9999-12-31T23:59:59Z" ∧
      FixedWidth "1000-01-01T00:00:00Z" ∧ FixedWidth "9999-12-31T23:59:59Z" ∧
      "1000-01-01T00:00:00Z" < "9999-12-31T23:59:59Z" := by
  have endOf99 : formatTimestamp (-59011459201) = .ok "99-12-31T23:59:59Z" := by decide +kernel
  have startOf990 : formatTimestamp (-30925756800) = .ok "990-01-01T00:00:00Z" := by decide +kernel
  have startOf1000 : formatTimestamp (-30610224000) = .ok "1000-01-01T00:00:00Z" := by decide +kernel
  have endOf9999 : formatTimestamp 253402300799 = .ok "9999-12-31T23:59:59Z" := by decide +kernel
  have leading := formatTimestamp_sorts (by decide) endOf99 startOf990
  have full := formatTimestamp_sorts (by decide) startOf1000 endOf9999
  exact ⟨endOf99, startOf990, leading.2.mpr (by decide +kernel), startOf1000, endOf9999,
    full.1.mpr (by decide)⟩

/-- The text of the last second of the year 999 comes after that of the next second. -/
theorem not_formatTimestamp_sorts_always :
    ¬∀ (t u : Int) (a b : String), t < u → formatTimestamp t = .ok a → formatTimestamp u = .ok b →
      FixedWidth a ∧ FixedWidth b ∧ a < b := by
  intro claim
  obtain ⟨-, -, sorted⟩ := claim (-30610224001) (-30610224000) "999-12-31T23:59:59Z"
    "1000-01-01T00:00:00Z" (by decide) (by decide +kernel) (by decide +kernel)
  exact absurd sorted (by decide)

end LinkMonitor
