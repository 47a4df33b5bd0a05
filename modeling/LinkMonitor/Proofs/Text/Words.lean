import LinkMonitor.Text.Blank

/-!
# Words between separators

The words of a text are what stands between its separators. Any characters of the kind may stand around
the words, and any number of them, as long as there is one between two words.
-/

namespace LinkMonitor.Text

/-- The text is made of the words, one after the other, with separators around them. -/
inductive HasWords (separates : Char → Bool) : List Char → List (List Char) → Prop
  | nil {gap : List Char} (blank : ∀ c ∈ gap, separates c = true) : HasWords separates gap []
  | cons {gap word rest : List Char} {words : List (List Char)}
    (blank : ∀ c ∈ gap, separates c = true) (filled : word ≠ [])
    (solid : ∀ c ∈ word, separates c = false) (ended : ∀ c ∈ rest.head?, separates c = true)
    (others : HasWords separates rest words) :
    HasWords separates (gap ++ word ++ rest) (word :: words)

/-- The pieces between separators that are not empty. -/
def wordsBetween (separates : Char → Bool) (s : List Char) : List (List Char) :=
  (splitAt separates s).filter (!·.isEmpty)

section Words

variable {separates : Char → Bool} {gap word rest s : List Char} {words : List (List Char)}

theorem wordsBetween_cons {c : Char} (blank : separates c = true) :
    wordsBetween separates (c :: rest) = wordsBetween separates rest := by
  rw [wordsBetween, splitAt, if_pos blank]
  rfl

theorem wordsBetween_gap (blank : ∀ c ∈ gap, separates c = true) :
    wordsBetween separates (gap ++ rest) = wordsBetween separates rest := by
  induction gap with
  | nil => rfl
  | cons c gap ih =>
    rw [List.forall_mem_cons] at blank
    rw [List.cons_append, wordsBetween_cons blank.1, ih blank.2]

theorem solid_of_mem_splitAt {piece : List Char} (member : piece ∈ splitAt separates s) :
    ∀ c ∈ piece, separates c = false := by
  induction s generalizing piece with
  | nil =>
    rw [splitAt, List.mem_singleton] at member
    simp [member]
  | cons d s ih =>
    rw [splitAt] at member
    split at member
    · rcases List.mem_cons.mp member with rfl | later
      · simp
      · exact ih later
    · next solid =>
      have front : ∀ part ∈ splitAt separates s, ∀ c ∈ d :: part, separates c = false :=
        fun part among => List.forall_mem_cons.mpr ⟨by simpa using solid, ih among⟩
      cases pieces : splitAt separates s with
      | nil => exact absurd pieces (splitAt_ne_nil separates s)
      | cons first others =>
        rw [pieces] at member front
        rcases List.mem_cons.mp member with rfl | later
        · exact front first List.mem_cons_self
        · exact ih (pieces ▸ List.mem_cons_of_mem first later)

theorem splitAt_word (solid : ∀ c ∈ word, separates c = false)
    (ended : ∀ c ∈ rest.head?, separates c = true) :
    ∃ pieces, splitAt separates (word ++ rest) = word :: pieces ∧
      pieces.filter (!·.isEmpty) = wordsBetween separates rest := by
  induction word with
  | nil =>
    cases rest with
    | nil => exact ⟨[], rfl, rfl⟩
    | cons c rest =>
      have blank : separates c = true := ended c rfl
      refine ⟨splitAt separates rest, ?_, (wordsBetween_cons blank).symm⟩
      rw [List.nil_append, splitAt, if_pos blank]
  | cons c word ih =>
    rw [List.forall_mem_cons] at solid
    obtain ⟨pieces, split, others⟩ := ih solid.2
    refine ⟨pieces, ?_, others⟩
    rw [List.cons_append, splitAt, split]
    simp [solid.1]

theorem wordsBetween_word (filled : word ≠ []) (solid : ∀ c ∈ word, separates c = false)
    (ended : ∀ c ∈ rest.head?, separates c = true) :
    wordsBetween separates (word ++ rest) = word :: wordsBetween separates rest := by
  obtain ⟨pieces, split, others⟩ := splitAt_word solid ended
  rw [wordsBetween, split, List.filter_cons_of_pos (by simpa using filled), others]

namespace HasWords

theorem eq_wordsBetween (h : HasWords separates s words) : words = wordsBetween separates s := by
  induction h with
  | @nil gap blank =>
    have gone : wordsBetween separates (gap ++ []) = wordsBetween separates [] := wordsBetween_gap blank
    rw [List.append_nil] at gone
    rw [gone]
    rfl
  | cons blank filled solid ended _ ih =>
    rw [List.append_assoc, wordsBetween_gap blank, wordsBetween_word filled solid ended, ih]

theorem prepend (h : HasWords separates s words) (blank : ∀ c ∈ gap, separates c = true) :
    HasWords separates (gap ++ s) words := by
  cases h with
  | @nil more blank' => exact .nil (List.forall_mem_append.mpr ⟨blank, blank'⟩)
  | @cons more word rest words blank' filled solid ended others =>
    rw [← List.append_assoc, ← List.append_assoc]
    exact .cons (List.forall_mem_append.mpr ⟨blank, blank'⟩) filled solid ended others

theorem append (h : HasWords separates s words) (blank : ∀ c ∈ gap, separates c = true) :
    HasWords separates (s ++ gap) words := by
  induction h with
  | nil blank' => exact .nil (List.forall_mem_append.mpr ⟨blank', blank⟩)
  | @cons before word rest words blank' filled solid ended _ ih =>
    rw [List.append_assoc]
    refine .cons blank' filled solid (fun c first => ?_) ih
    cases rest with
    | nil => exact blank c (List.mem_of_mem_head? first)
    | cons d rest => exact ended c first

/-- Nothing has to stand in front of the first word. -/
theorem atStart (filled : word ≠ []) (solid : ∀ c ∈ word, separates c = false)
    (ended : ∀ c ∈ rest.head?, separates c = true) (others : HasWords separates rest words) :
    HasWords separates (word ++ rest) (word :: words) :=
  @cons separates [] word rest words nofun filled solid ended others

/-- A letter in front is part of the first word, or is a word itself. -/
theorem exists_cons {c : Char} (h : HasWords separates s words) (solid : separates c = false) :
    ∃ words', HasWords separates (c :: s) words' := by
  have alone : ∀ x ∈ [c], separates x = false := by simpa using solid
  cases h with
  | nil blank =>
    exact ⟨[[c]], .atStart (List.cons_ne_nil c []) alone
      (fun x first => blank x (List.mem_of_mem_head? first)) (.nil blank)⟩
  | @cons gap word rest words blank filled solid' ended others =>
    cases gap with
    | nil =>
      exact ⟨(c :: word) :: words, .atStart (List.cons_ne_nil c word)
        (List.forall_mem_cons.mpr ⟨solid, solid'⟩) ended others⟩
    | cons d gap =>
      refine ⟨[c] :: word :: words, .atStart (List.cons_ne_nil c []) alone (fun x first => ?_)
        (.cons blank filled solid' ended others)⟩
      cases first
      exact blank d List.mem_cons_self

end HasWords

theorem exists_hasWords (separates : Char → Bool) (s : List Char) :
    ∃ words, HasWords separates s words := by
  induction s with
  | nil => exact ⟨[], .nil nofun⟩
  | cons c s ih =>
    obtain ⟨words, h⟩ := ih
    cases kind : separates c with
    | true =>
      have blank : ∀ x ∈ [c], separates x = true := by simpa using kind
      exact ⟨words, h.prepend blank⟩
    | false => exact h.exists_cons kind

/-- Every text has its words, and no others. -/
theorem hasWords_iff : HasWords separates s words ↔ words = wordsBetween separates s := by
  refine ⟨HasWords.eq_wordsBetween, fun same => ?_⟩
  obtain ⟨words', h⟩ := exists_hasWords separates s
  rwa [same, ← h.eq_wordsBetween]

end Words

/-! ### Blanks at either end -/

theorem exists_stripWhile (p : Char → Bool) (s : List Char) :
    ∃ before after, s = before ++ stripWhile p s ++ after ∧ (∀ c ∈ before, p c = true) ∧
      ∀ c ∈ after, p c = true := by
  let rest := s.dropWhile p
  refine ⟨s.takeWhile p, (rest.reverse.takeWhile p).reverse, ?_, fun c member => ?_,
    fun c member => ?_⟩
  · have back : rest = stripWhile p s ++ (rest.reverse.takeWhile p).reverse := by
      rw [stripWhile, ← List.reverse_append, List.takeWhile_append_dropWhile, List.reverse_reverse]
    rw [List.append_assoc, ← back, List.takeWhile_append_dropWhile]
  · exact List.all_eq_true.mp List.all_takeWhile c member
  · exact List.all_eq_true.mp List.all_takeWhile c (List.mem_reverse.mp member)

/-- The words of a text are those of the text without some of the separators at its ends. -/
theorem wordsBetween_stripWhile {p separates : Char → Bool} (s : List Char)
    (blank : ∀ c, p c = true → separates c = true) :
    wordsBetween separates (stripWhile p s) = wordsBetween separates s := by
  obtain ⟨before, after, whole, front, back⟩ := exists_stripWhile p s
  obtain ⟨words, h⟩ := exists_hasWords separates (stripWhile p s)
  have around := (h.prepend fun c member => blank c (front c member)).append
    fun c member => blank c (back c member)
  rw [← whole] at around
  rw [← h.eq_wordsBetween, ← around.eq_wordsBetween]

end LinkMonitor.Text
