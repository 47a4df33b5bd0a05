import LinkMonitor.Proofs.Text.Words
import LinkMonitor.Text.Lowercase

/-!
# Lower case and words

The small letters of a text are those of its words, as no letter depends on what is beyond a separator.
Whether the letters of ASCII are capitals does not matter.
-/

namespace LinkMonitor.Text

/-! ### Characters that end a word -/

/-- A character that is its own small letter, and that no case goes across. -/
structure EndsWord (c : Char) : Prop where
  uncased : isCased c = false
  seen : isCaseIgnorable c = false
  small : lowerChar c = c

instance (c : Char) : Decidable (EndsWord c) :=
  decidable_of_iff (isCased c = false ∧ isCaseIgnorable c = false ∧ lowerChar c = c)
    ⟨fun ⟨uncased, seen, small⟩ => ⟨uncased, seen, small⟩, fun h => ⟨h.uncased, h.seen, h.small⟩⟩

variable {c : Char}

theorem lowerAfter_cons (before rest : List Char) (sigma : c ≠ 'Σ') (dotted : c ≠ 'İ') :
    lowerAfter before (c :: rest) = lowerChar c :: lowerAfter (c :: before) rest := by
  rw [lowerAfter, if_neg sigma, if_neg dotted]
  rfl

namespace EndsWord

theorem lowerAfter_cons (ends : EndsWord c) (before rest : List Char) :
    lowerAfter before (c :: rest) = c :: lowerAfter (c :: before) rest := by
  have sigma : c ≠ 'Σ' := by
    rintro rfl
    exact absurd ends.uncased (by decide +kernel)
  have dotted : c ≠ 'İ' := by
    rintro rfl
    exact absurd ends.uncased (by decide +kernel)
  rw [Text.lowerAfter_cons before rest sigma dotted, ends.small]

theorem continuesWord_append (ends : EndsWord c) (s rest : List Char) :
    continuesWord (s ++ c :: rest) = continuesWord s := by
  rw [continuesWord, continuesWord, List.dropWhile_append]
  cases s.dropWhile isCaseIgnorable with
  | nil => simp [ends.seen, ends.uncased]
  | cons d s => simp

/-- What is beyond the end of a word before a text does not matter to it. -/
theorem lowerAfter_context (ends : EndsWord c) (near far s : List Char) :
    lowerAfter (near ++ c :: far) s = lowerAfter near s := by
  induction s generalizing near with
  | nil => rfl
  | cons d s ih =>
    rw [lowerAfter, lowerAfter, ends.continuesWord_append, ← List.cons_append, ih]

theorem lowerAfter_append (ends : EndsWord c) (before s rest : List Char) :
    lowerAfter before (s ++ c :: rest) = lowerAfter before s ++ c :: lowerAfter [] rest := by
  induction s generalizing before with
  | nil =>
    rw [List.nil_append, ends.lowerAfter_cons]
    exact congrArg _ (ends.lowerAfter_context [] before rest)
  | cons d s ih =>
    rw [List.cons_append, lowerAfter, lowerAfter, ends.continuesWord_append, ih, List.append_assoc]

end EndsWord

/-- The characters of the lower case of a text. -/
theorem mem_lowerAfter {before s : List Char} {d : Char} (member : d ∈ lowerAfter before s) :
    (∃ c ∈ s, d = lowerChar c) ∨ d ∈ ['σ', 'ς', 'i', '\u0307'] := by
  induction s generalizing before with
  | nil => cases member
  | cons c s ih =>
    rw [lowerAfter, List.mem_append] at member
    rcases member with here | later
    · split at here
      · split at here <;> simp_all
      · split at here
        · simp_all
        · exact .inl ⟨c, List.mem_cons_self, List.mem_singleton.mp here⟩
    · rcases ih later with ⟨c', among, same⟩ | special
      · exact .inl ⟨c', List.mem_cons_of_mem c among, same⟩
      · exact .inr special

theorem lowerAfter_ne_nil {before s : List Char} (filled : s ≠ []) : lowerAfter before s ≠ [] := by
  cases s with
  | nil => exact absurd rfl filled
  | cons c s =>
    rw [lowerAfter]
    split
    · simp
    · split <;> simp

/-! ### Words in lower case -/

section Separators

variable {separates : Char → Bool} (ends : ∀ c, separates c = true → EndsWord c)
include ends

theorem lowerAfter_gap {gap : List Char} (blank : ∀ c ∈ gap, separates c = true) (s : List Char) :
    lowerAfter [] (gap ++ s) = gap ++ lowerAfter [] s := by
  induction gap with
  | nil => rfl
  | cons c gap ih =>
    rw [List.forall_mem_cons] at blank
    have first := (ends c blank.1).lowerAfter_append [] [] (gap ++ s)
    rw [List.cons_append, ← List.nil_append (c :: (gap ++ s)), first, ih blank.2]
    rfl

theorem lowerAfter_word {word rest : List Char} (ended : ∀ c ∈ rest.head?, separates c = true) :
    lowerAfter [] (word ++ rest) = lowerAfter [] word ++ lowerAfter [] rest := by
  cases rest with
  | nil => simp [lowerAfter]
  | cons c rest =>
    have last := ends c (ended c rfl)
    have alone := last.lowerAfter_append [] [] rest
    rw [List.nil_append] at alone
    rw [last.lowerAfter_append, alone]
    rfl

/-- The words of the lower case are the lower case of the words. -/
theorem HasWords.lower {s : List Char} {words : List (List Char)}
    (letters : ∀ c, separates c = false → separates (lowerChar c) = false)
    (special : ['σ', 'ς', 'i', '\u0307'].any separates = false)
    (h : HasWords separates s words) :
    HasWords separates (lowerAfter [] s) (words.map (lowerAfter [])) := by
  induction h with
  | @nil gap blank =>
    have whole := lowerAfter_gap ends blank []
    rw [List.append_nil] at whole
    rw [whole]
    exact .nil (by simpa [lowerAfter] using blank)
  | @cons gap word rest words blank filled solid ended _ ih =>
    rw [List.append_assoc, lowerAfter_gap ends blank, lowerAfter_word ends ended, ← List.append_assoc,
      List.map_cons]
    refine .cons blank (lowerAfter_ne_nil filled) (fun d member => ?_) (fun d first => ?_) ih
    · rcases mem_lowerAfter member with ⟨c, among, rfl⟩ | among
      · exact letters c (solid c among)
      · simpa using List.any_eq_false.mp special d among
    · cases rest with
      | nil => cases first
      | cons c rest =>
        have blank := ended c rfl
        rw [(ends c blank).lowerAfter_cons] at first
        cases first
        exact blank

end Separators

/-! ### Capitals of ASCII -/

def capitals : List Char := (List.range 26).map fun i => Char.ofNat (65 + i)

theorem toLower_eq_or_mem_capitals (c : Char) : c.toLower = c ∨ c ∈ capitals := by
  delta Char.toLower
  split
  · next upper =>
    refine .inr (List.mem_map.mpr ⟨c.toNat - 65, ?_, ?_⟩)
    · have high : c.toNat ≤ 90 := upper.2
      rw [List.mem_range]
      omega
    · have low : 65 ≤ c.toNat := upper.1
      rw [Nat.add_sub_cancel' low, Char.ofNat_toNat]
  · exact .inl rfl

/-- What does not tell capitals from their small letters is not changed by lower case. -/
theorem apply_toLower {α : Type} [DecidableEq α] {f : Char → α}
    (alike : (capitals.all fun c => f c.toLower == f c) = true) (c : Char) : f c.toLower = f c := by
  rcases toLower_eq_or_mem_capitals c with same | capital
  · rw [same]
  · exact beq_iff_eq.mp (List.all_eq_true.mp alike c capital)

theorem isCased_toLower (c : Char) : isCased c.toLower = isCased c :=
  apply_toLower (by decide +kernel) c

theorem isCaseIgnorable_toLower (c : Char) : isCaseIgnorable c.toLower = isCaseIgnorable c :=
  apply_toLower (by decide +kernel) c

theorem lowerChar_toLower (c : Char) : lowerChar c.toLower = lowerChar c :=
  apply_toLower (by decide +kernel) c

theorem toLower_eq_iff {d : Char} (c : Char) (special : d ∉ capitals ++ capitals.map Char.toLower) :
    c.toLower = d ↔ c = d := by
  rcases toLower_eq_or_mem_capitals c with same | capital
  · rw [same]
  · rw [List.mem_append, not_or] at special
    constructor
    · rintro rfl
      exact absurd (List.mem_map_of_mem capital) special.2
    · rintro rfl
      exact absurd capital special.1

theorem continuesWord_map_toLower (s : List Char) :
    continuesWord (s.map Char.toLower) = continuesWord s := by
  have ignored : isCaseIgnorable ∘ Char.toLower = isCaseIgnorable := funext isCaseIgnorable_toLower
  have cased : isCased ∘ Char.toLower = isCased := funext isCased_toLower
  rw [continuesWord, continuesWord, List.dropWhile_map, ignored, List.head?_map, Option.map_map, cased]

/-- A text and the same one without capitals of ASCII have one lower case. -/
theorem lowerAfter_map_toLower (before s : List Char) :
    lowerAfter (before.map Char.toLower) (s.map Char.toLower) = lowerAfter before s := by
  induction s generalizing before with
  | nil => rfl
  | cons c s ih =>
    have sigma : c.toLower = 'Σ' ↔ c = 'Σ' := toLower_eq_iff c (by decide)
    have dotted : c.toLower = 'İ' ↔ c = 'İ' := toLower_eq_iff c (by decide)
    rw [List.map_cons, lowerAfter, lowerAfter, continuesWord_map_toLower, continuesWord_map_toLower,
      lowerChar_toLower, ← List.map_cons, ih]
    simp only [sigma, dotted]

end LinkMonitor.Text
