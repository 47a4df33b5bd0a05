import LinkMonitor.Config.EnabledChecks
import LinkMonitor.Proofs.Results
import LinkMonitor.Proofs.Text.Lowercase
import Mathlib.Data.List.Sort

/-!
# What an entry enables

An entry is read by its words alone: what they name has to be one kind and one stack. How often and in
which order they come, the case of their letters and what separates them does not matter.
-/

namespace LinkMonitor

/-- What is wrong with an entry. -/
inductive EntryFlaw
  | unknown
  | ambiguous
  | missing
  deriving DecidableEq, Repr

def EntryError.flaw : EntryError → EntryFlaw
  | .unknownToken .. => .unknown
  | .ambiguous .. => .ambiguous
  | .missingKind _ | .missingStack _ | .nothingEnabled => .missing

namespace EnabledChecks

open Text

/-! ### Separators -/

def separatorCodes : List Nat :=
  List.range' 9 5 ++ List.range' 28 5 ++ List.range' 0x2000 11 ++
    [0x2b, 0x2d, 0x2f, 0x5f, 0x85, 0xa0, 0x1680, 0x2028, 0x2029, 0x202f, 0x205f, 0x3000]

theorem isSeparator_iff (c : Char) : isSeparator c = true ↔ c.toNat ∈ separatorCodes := by
  have sign (d : Char) : (c == d) = true ↔ c.toNat = d.toNat := by
    rw [beq_iff_eq, Char.toNat_inj]
  have codes : '-'.toNat = 0x2d ∧ '+'.toNat = 0x2b ∧ '_'.toNat = 0x5f ∧ '/'.toNat = 0x2f := by decide
  simp only [isSeparator, isBlank, Bool.or_eq_true, Bool.and_eq_true, decide_eq_true_eq, sign,
    beq_iff_eq, separatorCodes, List.mem_append, List.mem_range'_1, List.mem_cons, List.not_mem_nil,
    or_false, codes]
  constructor <;> omega

theorem endsWord_of_isSeparator (c : Char) (h : isSeparator c = true) : EndsWord c := by
  have each : ∀ n ∈ separatorCodes, EndsWord (Char.ofNat n) := by decide +kernel
  have ends := each c.toNat ((isSeparator_iff c).mp h)
  rwa [Char.ofNat_toNat] at ends

theorem isSeparator_of_isBlank (c : Char) (h : isBlank c = true) : isSeparator c = true := by
  rw [isSeparator, h, Bool.or_true]

/-- No run of capitals has a separator among its small letters. -/
theorem notMem_separatorCodes {n : Nat} {r : Nat × Nat × Nat × Int} (run : r ∈ lowercaseRuns)
    (low : r.1 ≤ n) (high : n ≤ r.2.1) : ((n : Int) + r.2.2.2).toNat ∉ separatorCodes := by
  have apart : ∀ r ∈ lowercaseRuns, ∀ code ∈ separatorCodes,
      (code : Int) < r.1 + r.2.2.2 ∨ r.2.1 + r.2.2.2 < (code : Int) := by decide +kernel
  have positive : ∀ code ∈ separatorCodes, 0 < code := by decide
  intro member
  have outside := apart r run _ member
  have code := positive _ member
  omega

theorem isSeparator_lowerChar (c : Char) (h : isSeparator c = false) :
    isSeparator (lowerChar c) = false := by
  rw [lowerChar]
  split
  · have alike : isSeparator c.toLower = isSeparator c := apply_toLower (by decide +kernel) c
    rw [alike, h]
  · split
    · next r found =>
      have run := List.mem_of_find?_eq_some found
      have inside := List.find?_some found
      simp only [Bool.and_eq_true, decide_eq_true_eq] at inside
      have apart := notMem_separatorCodes run inside.1.1 inside.1.2
      generalize ((c.toNat : Int) + r.2.2.2).toNat = code at apart ⊢
      by_cases valid : code.isValidChar
      · have small : Char.ofNat code = Char.ofNatAux code valid := dif_pos valid
        rw [small, ← Bool.not_eq_true, isSeparator_iff]
        exact apart
      · have null : Char.ofNat code = '\x00' := dif_neg valid
        rw [null]
        decide
    · exact h

/-! ### Words -/

theorem tokens_eq (entry : String) :
    tokens entry = (wordsBetween isSeparator (lower (strip entry)).toList).map String.ofList := rfl

/-- The words of an entry, whatever stands between them, in lower case. -/
theorem tokens_of_hasWords {entry : String} {words : List (List Char)}
    (h : HasWords isSeparator entry.toList words) :
    tokens entry = words.map fun w => lower (String.ofList w) := by
  have inside : words = wordsBetween isSeparator (strip entry).toList := by
    rw [strip, String.toList_ofList, wordsBetween_stripWhile entry.toList isSeparator_of_isBlank,
      h.eq_wordsBetween]
  have small := (hasWords_iff.mpr inside).lower endsWord_of_isSeparator isSeparator_lowerChar (by decide)
  rw [tokens_eq, lower, String.toList_ofList, ← small.eq_wordsBetween, List.map_map]
  refine List.map_congr_left fun w _ => ?_
  rw [lower, String.toList_ofList, Function.comp]

/-! ### Names -/

section Order

variable {α : Type} [DecidableEq α]

/-- The first one comes earlier. -/
def Precedes (xs : List α) (x y : α) : Prop := xs.idxOf x < xs.idxOf y

instance (xs : List α) : DecidableRel (Precedes xs) := fun x y =>
  inferInstanceAs (Decidable (xs.idxOf x < xs.idxOf y))

instance (xs : List α) : Std.Irrefl (Precedes xs) := ⟨fun x => Nat.lt_irrefl (xs.idxOf x)⟩

instance (xs : List α) : Std.Antisymm (Precedes xs) :=
  ⟨fun _ _ early late => absurd early (Nat.lt_asymm late)⟩

end Order

/-- The values that the words name, each once, in the order of all values. -/
structure Names {α : Type} (all : List α) (token : α → Token) (words : List String) (values : List α) :
    Prop where
  ordered : values.Sublist all
  named (x : α) : x ∈ values ↔ ∃ w ∈ words, Token.ofString? w = some (token x)

theorem readToken_eq_ok_iff {entry word : String} {t : Token} :
    readToken entry word = .ok t ↔ Token.ofString? word = some t := by
  rw [readToken]
  split
  · next found => rw [found, Except.ok.injEq, Option.some.injEq]
  · next missing => simp [missing]

theorem readToken_eq_error_iff {entry word : String} {e : EntryError} :
    readToken entry word = .error e ↔ Token.ofString? word = none ∧ e = .unknownToken word entry := by
  rw [readToken]
  split
  · next found => simp [found]
  · next missing => rw [Except.error.injEq, and_iff_right missing, eq_comm]

/-- What the words name is what is read from them. -/
theorem names_iff {α : Type} [DecidableEq α] {all values : List α} {token : α → Token} {entry : String}
    {words : List String} {ts : List Token} (sorted : all.Pairwise (Precedes all))
    (complete : ∀ x, x ∈ all) (read : words.mapM (readToken entry) = .ok ts) :
    Names all token words values ↔ all.filter (fun x => ts.contains (token x)) = values := by
  have named (x : α) : ts.contains (token x) = true ↔ ∃ w ∈ words, Token.ofString? w = some (token x) := by
    simp only [List.contains_iff_mem, mem_of_mapM_eq_ok read, readToken_eq_ok_iff]
  constructor
  · rintro ⟨ordered, same⟩
    refine (sorted.sublist List.filter_sublist).eq_of_mem_iff (sorted.sublist ordered) fun x => ?_
    rw [List.mem_filter, and_iff_right (complete x), named, same]
  · rintro rfl
    refine ⟨List.filter_sublist, fun x => ?_⟩
    rw [List.mem_filter, and_iff_right (complete x), named]

/-! ### Verdicts -/

/-- Each word has a meaning. -/
def Known (words : List String) : Prop := ∀ w ∈ words, ∃ t, Token.ofString? w = some t

/-- What the words of an entry amount to. -/
inductive Judged (entry : String) (words : List String) : Except EntryError Combination → Prop
  | unknown {before after : List String} {word : String} (split : words = before ++ word :: after)
    (known : Known before) (strange : Token.ofString? word = none) :
    Judged entry words (.error (.unknownToken word entry))
  | ambiguous {kinds : List CheckKind} {families : List IpStack} (known : Known words)
    (kind : Names CheckKind.all .kind words kinds) (stack : Names IpStack.all .stack words families)
    (several : 1 < kinds.length ∨ 1 < families.length) :
    Judged entry words (.error (.ambiguous entry kinds families))
  | missingKind {families : List IpStack} (known : Known words)
    (kind : Names CheckKind.all .kind words []) (stack : Names IpStack.all .stack words families)
    (few : families.length ≤ 1) : Judged entry words (.error (.missingKind entry))
  | missingStack {kind : CheckKind} (known : Known words)
    (kind : Names CheckKind.all .kind words [kind]) (stack : Names IpStack.all .stack words []) :
    Judged entry words (.error (.missingStack entry))
  | combination {c : Combination} (known : Known words)
    (kind : Names CheckKind.all .kind words [c.kind])
    (stack : Names IpStack.all .stack words [c.stack]) : Judged entry words (.ok c)

section Reading

variable {entry : String} {words : List String} {ts : List Token}

theorem known_iff_readToken : Known words ↔ ∀ w ∈ words, ∃ t, readToken entry w = .ok t := by
  simp only [Known, readToken_eq_ok_iff]

theorem known_of_read (read : words.mapM (readToken entry) = .ok ts) : Known words := by
  rw [known_iff_readToken]
  intro w member
  have among : readToken entry w ∈ ts.map .ok := mapM_eq_ok_iff.mp read ▸ List.mem_map_of_mem member
  obtain ⟨t, -, found⟩ := List.mem_map.mp among
  exact ⟨t, found.symm⟩

/-- The first word that is not known decides. -/
theorem judged_of_read {e : EntryError} (read : words.mapM (readToken entry) = .error e) :
    ∃ word, Judged entry words (.error e) ∧ e = .unknownToken word entry := by
  obtain ⟨before, word, after, split, fine, fails⟩ := mapM_eq_error_iff.mp read
  obtain ⟨strange, rfl⟩ := readToken_eq_error_iff.mp fails
  exact ⟨word, .unknown split (known_iff_readToken.mpr fine) strange, rfl⟩

theorem Known.exists_read (known : Known words) (entry : String) :
    ∃ ts, words.mapM (readToken entry) = .ok ts := by
  cases read : words.mapM (readToken entry) with
  | ok ts => exact ⟨ts, rfl⟩
  | error e =>
    obtain ⟨before, word, after, rfl, -, fails⟩ := mapM_eq_error_iff.mp read
    obtain ⟨t, found⟩ := known word (by simp)
    rw [(readToken_eq_error_iff.mp fails).1] at found
    cases found

theorem names_kindsOf (read : words.mapM (readToken entry) = .ok ts) {kinds : List CheckKind} :
    Names CheckKind.all .kind words kinds ↔ kindsOf ts = kinds :=
  names_iff (by decide) (fun k => by cases k <;> decide) read

theorem names_stacksOf (read : words.mapM (readToken entry) = .ok ts) {families : List IpStack} :
    Names IpStack.all .stack words families ↔ stacksOf ts = families :=
  names_iff (by decide) (fun s => by cases s <;> decide) read

theorem Known.read (known : Known words) (entry : String) {kinds : List CheckKind}
    {families : List IpStack} (kind : Names CheckKind.all .kind words kinds)
    (stack : Names IpStack.all .stack words families) :
    ∃ ts, words.mapM (readToken entry) = .ok ts ∧ kindsOf ts = kinds ∧ stacksOf ts = families := by
  obtain ⟨ts, read⟩ := known.exists_read entry
  exact ⟨ts, read, (names_kindsOf read).mp kind, (names_stacksOf read).mp stack⟩

end Reading

theorem judged_parseEntry (entry : String) : Judged entry (tokens entry) (parseEntry entry) := by
  rw [parseEntry]
  cases read : (tokens entry).mapM (readToken entry) with
  | error e =>
    obtain ⟨-, judged, -⟩ := judged_of_read read
    exact judged
  | ok ts =>
    have known := known_of_read read
    have kind := (names_kindsOf read).mpr rfl
    have stack := (names_stacksOf read).mpr rfl
    simp only [bind, Except.bind]
    split
    · next k s one single =>
      rw [one] at kind
      rw [single] at stack
      exact .combination known kind stack
    · next unpaired =>
      split
      · next several => exact .ambiguous known kind stack several
      · split
        · next noKind =>
          rw [List.isEmpty_iff.mp noKind] at kind
          exact .missingKind known kind stack (by omega)
        · next few filled =>
          obtain ⟨k, one⟩ : ∃ k, kindsOf ts = [k] := List.length_eq_one_iff.mp (by
            have := List.length_pos_iff.mpr (mt List.isEmpty_iff.mpr filled)
            omega)
          have lone : stacksOf ts = [] := by
            match single : stacksOf ts with
            | [] => rfl
            | [s] => exact absurd single (unpaired k s one)
            | _ :: _ :: _ => simp [single] at few
          rw [one] at kind
          rw [lone] at stack
          exact .missingStack known kind stack

/-- An entry is read by its words alone. -/
theorem parseEntry_eq_iff {entry : String} {r : Except EntryError Combination} :
    parseEntry entry = r ↔ Judged entry (tokens entry) r := by
  refine ⟨fun h => h ▸ judged_parseEntry entry, fun h => ?_⟩
  rw [parseEntry]
  cases h with
  | unknown split known strange =>
    rw [mapM_eq_error_iff.mpr ⟨_, _, _, split, known_iff_readToken.mp known,
      readToken_eq_error_iff.mpr ⟨strange, rfl⟩⟩]
    rfl
  | ambiguous known kind stack several =>
    obtain ⟨ts, read, rfl, rfl⟩ := known.read entry kind stack
    rw [read]
    simp only [bind, Except.bind]
    split
    · next one single => simp [one, single] at several
    · rw [if_pos several]
      rfl
  | missingKind known kind stack few =>
    obtain ⟨ts, read, kinds, families⟩ := known.read entry kind stack
    rw [read]
    simp only [bind, Except.bind, kinds, families]
    rw [if_neg (by simpa using few)]
    rfl
  | missingStack known kind stack =>
    obtain ⟨ts, read, kinds, families⟩ := known.read entry kind stack
    rw [read]
    simp only [bind, Except.bind, kinds, families]
    rfl
  | combination known kind stack =>
    obtain ⟨ts, read, kinds, families⟩ := known.read entry kind stack
    rw [read]
    simp only [bind, Except.bind, kinds, families]
    rfl

/-! ### Words that do not matter -/

section Same

variable {words words' : List String} (same : ∀ w, w ∈ words' ↔ w ∈ words)
include same

theorem Known.congr : Known words' ↔ Known words := by
  simp only [Known, same]

theorem Names.congr {α : Type} {all : List α} {token : α → Token} {values : List α}
    (h : Names all token words values) : Names all token words' values :=
  ⟨h.ordered, by simpa only [same] using h.named⟩

/-- The same words, in any order and number, fail alike or enable the same. -/
theorem Judged.exists_of_same {entry : String} {r : Except EntryError Combination}
    (h : Judged entry words r) (entry' : String) :
    ∃ r', Judged entry' words' r' ∧ r'.mapError EntryError.flaw = r.mapError EntryError.flaw := by
  cases h with
  | @unknown before after word split known strange =>
    have unread : ¬Known words' := by
      rw [Known.congr same]
      intro known'
      obtain ⟨t, found⟩ := known' word (by simp [split])
      rw [strange] at found
      cases found
    cases read : words'.mapM (readToken entry') with
    | ok ts => exact absurd (known_of_read read) unread
    | error e =>
      obtain ⟨word', judged, rfl⟩ := judged_of_read read
      exact ⟨_, judged, rfl⟩
  | ambiguous known kind stack several =>
    exact ⟨_, .ambiguous ((Known.congr same).mpr known) (kind.congr same) (stack.congr same) several, rfl⟩
  | missingKind known kind stack few =>
    exact ⟨_, .missingKind ((Known.congr same).mpr known) (kind.congr same) (stack.congr same) few, rfl⟩
  | missingStack known kind stack =>
    exact ⟨_, .missingStack ((Known.congr same).mpr known) (kind.congr same) (stack.congr same), rfl⟩
  | combination known kind stack =>
    exact ⟨_, .combination ((Known.congr same).mpr known) (kind.congr same) (stack.congr same), rfl⟩

end Same

/-- Entries read alike if they have the same words, but for their order and number and the case of
letters of ASCII. -/
theorem mem_tokens_congr {entry entry' : String} {words words' : List (List Char)}
    (h : HasWords isSeparator entry.toList words) (h' : HasWords isSeparator entry'.toList words')
    (same : ∀ w, w ∈ words'.map (List.map Char.toLower) ↔ w ∈ words.map (List.map Char.toLower))
    (t : String) : t ∈ tokens entry' ↔ t ∈ tokens entry := by
  have small (ws : List (List Char)) : (ws.map fun w => lower (String.ofList w)) =
      (ws.map (List.map Char.toLower)).map fun w => lower (String.ofList w) := by
    rw [List.map_map]
    refine List.map_congr_left fun w _ => ?_
    rw [Function.comp, lower, lower, String.toList_ofList, String.toList_ofList]
    exact congrArg _ (lowerAfter_map_toLower [] w).symm
  rw [tokens_of_hasWords h, tokens_of_hasWords h', small words, small words']
  simp only [List.mem_map (l := List.map _ _), same]

/-- An entry enables what its words name: one kind and one stack. The first word without a meaning is
reported before more than one kind or stack, and that before a kind or a stack that is missing. Which
words there are decides, whatever their order, their number, their capitals and what separates them. -/
theorem parseEntry_language (entry : String) :
    ∃ words, HasWords isSeparator entry.toList words ∧
      tokens entry = words.map (fun w => lower (String.ofList w)) ∧
      HasWords isSeparator (lower (strip entry)).toList ((tokens entry).map String.toList) ∧
      (∀ r, parseEntry entry = r ↔ Judged entry (tokens entry) r) ∧
      ∀ entry' words', HasWords isSeparator entry'.toList words' →
        (∀ w, w ∈ words'.map (List.map Char.toLower) ↔ w ∈ words.map (List.map Char.toLower)) →
        (parseEntry entry').mapError EntryError.flaw = (parseEntry entry).mapError EntryError.flaw := by
  obtain ⟨words, h⟩ := exists_hasWords isSeparator entry.toList
  refine ⟨words, h, tokens_of_hasWords h, ?_, fun r => parseEntry_eq_iff, ?_⟩
  · rw [hasWords_iff, tokens_eq, List.map_map, String.toList_comp_ofList, List.map_id]
  · intro entry' words' h' same
    obtain ⟨r', judged, alike⟩ :=
      (judged_parseEntry entry).exists_of_same (mem_tokens_congr h h' same) entry'
    rw [parseEntry_eq_iff.mpr judged, alike]

theorem parseEntry_language_capitals :
    (parseEntry "  ICMP / v6--icmp ").mapError EntryError.flaw =
        (parseEntry "v6+icmp").mapError EntryError.flaw ∧
      parseEntry "v6+icmp" = .ok ⟨.icmp, .v6⟩ := by
  obtain ⟨words, h, -, -, -, alike⟩ := parseEntry_language "v6+icmp"
  obtain rfl := h.eq_wordsBetween
  refine ⟨alike _ _ (hasWords_iff.mpr rfl) fun w => ?_, rfl⟩
  have first : (wordsBetween isSeparator "  ICMP / v6--icmp ".toList).map (List.map Char.toLower) =
      ["icmp".toList, "v6".toList, "icmp".toList] := by decide +kernel
  have second : (wordsBetween isSeparator "v6+icmp".toList).map (List.map Char.toLower) =
      ["v6".toList, "icmp".toList] := by decide +kernel
  rw [first, second]
  simp only [List.mem_cons, List.not_mem_nil, or_false]
  rw [or_left_comm, or_self]

end EnabledChecks
end LinkMonitor
