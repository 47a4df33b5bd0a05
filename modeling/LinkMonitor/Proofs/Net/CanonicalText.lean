import LinkMonitor.Net.Address
import LinkMonitor.Proofs.Bytes.BigEndian
import LinkMonitor.Proofs.Text.Digits

/-!
# Reading canonical text back

The canonical text of an address of either stack is read as that address.
-/

namespace LinkMonitor
namespace Text

theorem splitAt_eq_splitOn (c : Char) (s : List Char) : splitAt (· == c) s = s.splitOn c := by
  induction s with
  | nil => rfl
  | cons x s ih =>
    rw [List.splitOn_cons_eq_if_modifyHead, splitAt, ih]
    obtain ⟨piece, pieces, split⟩ := List.exists_cons_of_ne_nil (List.splitOn_ne_nil c s)
    rw [split]
    rfl

theorem splitAt_of_notMem {c : Char} {s : List Char} (h : c ∉ s) : splitAt (· == c) s = [s] := by
  rw [splitAt_eq_splitOn, List.splitOn_eq_singleton h]

theorem splitAt_intercalate {c : Char} {pieces : List (List Char)} (h : ∀ p ∈ pieces, c ∉ p)
    (some : pieces ≠ []) : splitAt (· == c) ([c].intercalate pieces) = pieces := by
  rw [splitAt_eq_splitOn, List.splitOn_intercalate c h some]

theorem splitAt_append_cons (c : Char) (s t : List Char) :
    splitAt (· == c) (s ++ c :: t) = splitAt (· == c) s ++ splitAt (· == c) t := by
  simp only [splitAt_eq_splitOn, List.splitOn_append_cons_self]

theorem mem_intercalate {c x : Char} {pieces : List (List Char)} (h : x ∈ [c].intercalate pieces) :
    x = c ∨ ∃ p ∈ pieces, x ∈ p := by
  induction pieces with
  | nil => simp at h
  | cons p rest ih =>
    cases rest with
    | nil => exact .inr ⟨p, by simp, by simpa using h⟩
    | cons q rest =>
      rw [List.intercalate_cons_cons, List.mem_append, List.mem_append] at h
      rcases h with (here | sep) | there
      · exact .inr ⟨p, by simp, here⟩
      · exact .inl (by simpa using sep)
      · rcases ih there with same | ⟨p', member, inside⟩
        · exact .inl same
        · exact .inr ⟨p', List.mem_cons_of_mem _ member, inside⟩

end Text

namespace Address

/-! ### Version 4 -/

theorem octet?_toDigits {n : Nat} (h : n < 256) : octet? (Nat.toDigits 10 n) = some n := by
  have short : (Nat.toDigits 10 n).length ≤ 3 :=
    (Nat.length_toDigits_le_iff (by decide) (by decide)).mpr (by omega)
  have digits : (Nat.toDigits 10 n).all Char.isDigit = true :=
    List.all_eq_true.mpr (Text.isDigit_toDigits n)
  have plain : ¬((Nat.toDigits 10 n).head? = some '0' ∧ (Nat.toDigits 10 n).length ≠ 1) := by
    rintro ⟨zero, long⟩
    rcases Nat.eq_zero_or_pos n with rfl | pos
    · exact long rfl
    · exact Text.head?_toDigits_ne_zero (by decide) pos zero
  rw [octet?]
  simp only [Text.foldl_toDigits, digits, if_neg plain, if_neg (show ¬n > 255 by omega)]
  simp [short]

/-- The text of four bytes. -/
def dottedText (bytes : List UInt8) : List Char :=
  ['.'].intercalate (bytes.map fun b => Nat.toDigits 10 b.toNat)

theorem notMem_dottedText {c : Char} (bytes : List UInt8) (dot : c ≠ '.')
    (free : ∀ d < 10, d.digitChar ≠ c) : c ∉ dottedText bytes := by
  intro h
  rcases Text.mem_intercalate h with same | ⟨p, member, inside⟩
  · exact dot same
  · obtain ⟨b, -, rfl⟩ := List.mem_map.mp member
    exact Text.notMem_toDigits (by decide) free inside

theorem dotted?_dottedText (a b c d : UInt8) :
    dotted? (dottedText [a, b, c, d]) = some (Bytes.ofBigEndian [a, b, c, d]) := by
  have pieces : Text.splitAt (· == '.') (dottedText [a, b, c, d]) =
      [a, b, c, d].map fun b => Nat.toDigits 10 b.toNat := by
    refine Text.splitAt_intercalate (fun p hp => ?_) (by simp)
    obtain ⟨b, -, rfl⟩ := List.mem_map.mp hp
    exact Text.notMem_toDigits (by decide) (by decide)
  simp [dotted?, pieces, octet?_toDigits (UInt8.toNat_lt _), Bytes.ofBigEndian]

theorem text_v4_toList (bits : BitVec 32) :
    (v4 bits).text.toList = dottedText (Bytes.bigEndian 4 bits.toNat) := by
  simp [text, dottedText, Function.comp_def]

theorem parse?_text_v4 (bits : BitVec 32) : parse? (v4 bits).text = some (v4 bits) := by
  have value : dotted? (v4 bits).text.toList = some bits.toNat := by
    rw [text_v4_toList, show Bytes.bigEndian 4 bits.toNat = [_, _, _, _] from rfl, dotted?_dottedText]
    exact congrArg some (Bytes.ofBigEndian_bigEndian_of_lt 4 bits.isLt)
  have noSlash : '/' ∉ (v4 bits).text.toList := by
    rw [text_v4_toList]
    exact notMem_dottedText _ (by decide) (by decide)
  rw [parse?]
  simp [noSlash, value]

/-! ### Version 6 -/

/-- The text of groups, with a colon between any two. -/
def colonText (gs : List Nat) : List Char := [':'].intercalate (gs.map (Nat.toDigits 16))

theorem joinGroups_toList (gs : List Nat) : (joinGroups gs).toList = colonText gs := by
  simp [joinGroups, colonText, Function.comp_def]

theorem notMem_colonText {c : Char} (gs : List Nat) (colon : c ≠ ':')
    (free : ∀ d < 16, d.digitChar ≠ c) : c ∉ colonText gs := by
  intro h
  rcases Text.mem_intercalate h with same | ⟨p, member, inside⟩
  · exact colon same
  · obtain ⟨g, -, rfl⟩ := List.mem_map.mp member
    exact Text.notMem_toDigits (by decide) free inside

/-- The parts between the colons of a text of groups; no groups at all make one empty part. -/
def parts (gs : List Nat) : List (List Char) :=
  if gs = [] then [[]] else gs.map (Nat.toDigits 16)

theorem parts_ne_nil (gs : List Nat) : parts gs ≠ [] := by
  rw [parts]
  split
  · simp
  · simpa

theorem splitAt_colonText (gs : List Nat) : Text.splitAt (· == ':') (colonText gs) = parts gs := by
  rw [parts]
  split
  · next none => subst none; rfl
  · next some =>
    refine Text.splitAt_intercalate (fun p hp => ?_) (by simpa using some)
    obtain ⟨g, -, rfl⟩ := List.mem_map.mp hp
    exact Text.notMem_toDigits (by decide) (by decide)

theorem foldlM_toDigits (n : Nat) :
    (Nat.toDigits 16 n).foldlM (fun n c => (Text.hexValue? c).map (n * 16 + ·)) 0 = some n := by
  induction n using Nat.base_induction 16 (by decide) with
  | single m hm =>
    simp [Nat.toDigits_of_lt_base hm, Text.hexValue?_digitChar hm]
  | digit m k hk hm ih =>
    rw [← Nat.toDigits_append_toDigits (by decide) hm hk, List.foldlM_append, ih,
      Nat.toDigits_of_lt_base hk]
    simp [Text.hexValue?_digitChar hk, Nat.mul_comm]

theorem group?_toDigits {g : Nat} (h : g < 65536) : group? (Nat.toDigits 16 g) = some g := by
  have short : (Nat.toDigits 16 g).length ≤ 4 :=
    (Nat.length_toDigits_le_iff (by decide) (by decide)).mpr h
  rw [group?, foldlM_toDigits]
  simp [short]

theorem groups?_map (dottedEnd : Bool) {gs : List Nat} (h : ∀ g ∈ gs, g < 65536) :
    groups? dottedEnd (gs.map (Nat.toDigits 16)) = some gs := by
  have noDot (g : Nat) : '.' ∉ Nat.toDigits 16 g := Text.notMem_toDigits (by decide) (by decide)
  induction gs with
  | nil => rfl
  | cons g rest ih =>
    have first := group?_toDigits (h g (by simp))
    cases rest with
    | nil => simp [groups?, noDot, first]
    | cons g' rest =>
      have later := ih fun x hx => h x (List.mem_cons_of_mem _ hx)
      rw [List.map_cons] at later
      simp [groups?, first, later]

theorem side?_parts (dottedEnd : Bool) {gs : List Nat} (h : ∀ g ∈ gs, g < 65536) :
    side? dottedEnd (parts gs) = some gs := by
  rw [side?, parts]
  split
  · next none => simp [none]
  · next some =>
    have full : gs.map (Nat.toDigits 16) ≠ [[]] := by
      intro same
      obtain ⟨g, rest, rfl⟩ := List.exists_cons_of_ne_nil some
      simp at same
    rw [if_neg full, groups?_map dottedEnd h]

theorem takeWhile_map (gs : List Nat) (rest : List (List Char)) :
    (gs.map (Nat.toDigits 16) ++ rest).takeWhile (!·.isEmpty) =
      gs.map (Nat.toDigits 16) ++ rest.takeWhile (!·.isEmpty) := by
  refine List.takeWhile_append_of_pos fun p hp => ?_
  obtain ⟨g, -, rfl⟩ := List.mem_map.mp hp
  simp

theorem gap?_map (gs : List Nat) : gap? (gs.map (Nat.toDigits 16)) = none := by
  cases gs with
  | nil => rfl
  | cons g rest =>
    rcases List.eq_nil_or_concat rest with rfl | ⟨front, last, rfl⟩
    · rfl
    · have before := takeWhile_map front []
      rw [List.append_nil, List.takeWhile_nil, List.append_nil] at before
      have last' : (Nat.toDigits 16 last) ≠ [] := Nat.toDigits_ne_nil
      simp only [gap?, List.map_cons, List.map_append, List.map_nil, List.concat_eq_append,
        List.dropLast_concat, before, List.drop_left]
      split
      · next same => simp at same
      · rfl

/-- The gap is found behind the groups that come first. -/
theorem gap?_append (high low : List Nat) :
    gap? (parts high ++ [] :: parts low) = some (parts high, parts low) := by
  have nonempty := parts_ne_nil low
  have drop (front : List (List Char)) :
      (front ++ [] :: parts low).dropLast = front ++ [] :: (parts low).dropLast := by
    rw [List.dropLast_append_of_ne_nil (by simp), List.dropLast_cons_of_ne_nil nonempty]
  cases high with
  | nil =>
    have before := drop []
    rw [List.nil_append, List.nil_append] at before
    simp [gap?, parts.eq_1 [], before, nonempty]
  | cons g rest =>
    have shape : parts (g :: rest) = Nat.toDigits 16 g :: rest.map (Nat.toDigits 16) := by
      simp [parts]
    simp [gap?, shape, drop, nonempty]

/-- A run of the given start and length is within the groups, and all zeros. -/
def IsZeroRun (gs : List Nat) (run : Nat × Nat) : Prop :=
  run.1 + run.2 ≤ gs.length ∧ (gs.drop run.1).take run.2 = List.replicate run.2 0

theorem isZeroRun_takeWhile (gs : List Nat) {i : Nat} (h : i ≤ gs.length) :
    IsZeroRun gs (i, ((gs.drop i).takeWhile (· == 0)).length) := by
  have front := List.takeWhile_prefix (l := gs.drop i) (· == 0)
  constructor
  · have := front.length_le
    rw [List.length_drop] at this
    dsimp only
    omega
  · dsimp only
    rw [← List.prefix_iff_eq_take.mp front]
    refine List.eq_replicate_iff.mpr ⟨rfl, fun g hg => ?_⟩
    simpa using List.all_eq_true.mp List.all_takeWhile g hg

theorem longestZeroRun_isZeroRun (gs : List Nat) : IsZeroRun gs (longestZeroRun gs) := by
  have step (is : List Nat) (best : Nat × Nat) (inside : ∀ i ∈ is, i ≤ gs.length)
      (h : IsZeroRun gs best) :
      IsZeroRun gs (is.foldl (fun best i =>
        let run := ((gs.drop i).takeWhile (· == 0)).length
        if best.2 < run then (i, run) else best) best) := by
    induction is generalizing best with
    | nil => exact h
    | cons i is ih =>
      refine ih _ (fun j hj => inside j (List.mem_cons_of_mem _ hj)) ?_
      dsimp only
      split
      · exact isZeroRun_takeWhile gs (inside i (by simp))
      · exact h
  refine step _ _ (fun i hi => ?_) ⟨Nat.zero_le _, rfl⟩
  exact Nat.le_of_lt (List.mem_range.mp hi)

/-- What a run of zeros stands between, with the zeros put back. -/
theorem take_append_replicate_append_drop {gs : List Nat} {start run : Nat}
    (h : IsZeroRun gs (start, run)) :
    gs.take start ++ List.replicate run 0 ++ gs.drop (start + run) = gs := by
  obtain ⟨-, zeros⟩ := h
  dsimp only at zeros
  rw [← zeros, ← List.drop_drop, List.append_assoc, List.take_append_drop, List.take_append_drop]

theorem groups_length (n : Nat) : (groups n).length = 8 := by simp [groups]

theorem groups_lt {n g : Nat} (h : g ∈ groups n) : g < 65536 := by
  obtain ⟨i, -, rfl⟩ := List.mem_map.mp h
  exact Nat.mod_lt _ (by decide)

/-- The text of eight groups, with the gap for a run of zeros of more than one. -/
def gappedText (gs : List Nat) (start run : Nat) : List Char :=
  if run ≤ 1 then colonText gs
  else colonText (gs.take start) ++ ':' :: ':' :: colonText (gs.drop (start + run))

theorem notMem_gappedText {c : Char} (gs : List Nat) (start run : Nat) (colon : c ≠ ':')
    (free : ∀ d < 16, d.digitChar ≠ c) : c ∉ gappedText gs start run := by
  rw [gappedText]
  split
  · exact notMem_colonText gs colon free
  · simp [colon, notMem_colonText _ colon free]

theorem colonGroups?_gappedText {gs : List Nat} {start run : Nat} (full : gs.length = 8)
    (small : ∀ g ∈ gs, g < 65536) (zeros : IsZeroRun gs (start, run)) :
    colonGroups? (gappedText gs start run) = some gs := by
  rw [gappedText]
  split
  · have some : gs ≠ [] := by intro none; simp [none] at full
    rw [colonGroups?, splitAt_colonText, parts, if_neg some]
    simp [gap?_map, groups?_map true small, full]
  · next long =>
    have high : side? false (parts (gs.take start)) = some (gs.take start) :=
      side?_parts false fun g hg => small g (List.mem_of_mem_take hg)
    have low : side? true (parts (gs.drop (start + run))) = some (gs.drop (start + run)) :=
      side?_parts true fun g hg => small g (List.mem_of_mem_drop hg)
    have split : Text.splitAt (· == ':')
        (colonText (gs.take start) ++ ':' :: ':' :: colonText (gs.drop (start + run))) =
        parts (gs.take start) ++ [] :: parts (gs.drop (start + run)) := by
      have gap := Text.splitAt_append_cons ':' [] (colonText (gs.drop (start + run)))
      rw [List.nil_append] at gap
      rw [Text.splitAt_append_cons, gap, splitAt_colonText, splitAt_colonText]
      rfl
    have inside : start + run ≤ 8 := by simpa [full] using zeros.1
    have before : (gs.take start).length = start := by simp; omega
    have after : (gs.drop (start + run)).length = 8 - (start + run) := by simp [full]
    have missing : 8 - start - (8 - (start + run)) = run := by omega
    rw [colonGroups?, split]
    simp only [gap?_append, high, low, bind, Option.bind, before, after, missing,
      if_pos (show start + (8 - (start + run)) ≤ 7 by omega)]
    exact congrArg Option.some (take_append_replicate_append_drop zeros)

/-- Groups of 16 bits make up the number again. -/
theorem foldl_groups (count n : Nat) :
    ((List.range count).map fun i => (n >>> (16 * (count - 1 - i))) % 65536).foldl
      (fun n g => n * 65536 + g) 0 = n % 65536 ^ count := by
  induction count generalizing n with
  | zero => simp [Nat.mod_one]
  | succ count ih =>
    have front : (List.range count).map (fun i => (n >>> (16 * (count + 1 - 1 - i))) % 65536) =
        (List.range count).map fun i => ((n / 65536) >>> (16 * (count - 1 - i))) % 65536 := by
      refine List.map_congr_left fun i hi => ?_
      have below := List.mem_range.mp hi
      rw [show 16 * (count + 1 - 1 - i) = 16 + 16 * (count - 1 - i) by omega, Nat.shiftRight_add,
        Nat.shiftRight_eq_div_pow n 16, show 2 ^ 16 = 65536 from rfl]
    rw [List.range_succ, List.map_append, List.foldl_append, front, ih, Nat.pow_succ,
      Nat.mul_comm _ 65536, Nat.mod_mul]
    simp
    ring

theorem text_v6_toList (bits : BitVec 128) :
    (v6 bits).text.toList = gappedText (groups bits.toNat)
      (longestZeroRun (groups bits.toNat)).1 (longestZeroRun (groups bits.toNat)).2 := by
  simp only [text, gappedText]
  split <;> simp [joinGroups_toList]

/-- The canonical text of an address holds digits, dots and colons and nothing else. -/
theorem notMem_text {c : Char} (a : Address) (dot : c ≠ '.') (colon : c ≠ ':')
    (free : ∀ d < 16, d.digitChar ≠ c) : c ∉ a.text.toList := by
  cases a with
  | v4 bits =>
    rw [text_v4_toList]
    exact notMem_dottedText _ dot fun d small => free d (by omega)
  | v6 bits =>
    rw [text_v6_toList]
    exact notMem_gappedText _ _ _ colon free

theorem parse?_text_v6 (bits : BitVec 128) : parse? (v6 bits).text = some (v6 bits) := by
  have free (c : Char) (colon : c ≠ ':') (free : ∀ d < 16, d.digitChar ≠ c) :
      c ∉ (v6 bits).text.toList := by
    rw [text_v6_toList]
    exact notMem_gappedText _ _ _ colon free
  have read : colonGroups? (v6 bits).text.toList = some (groups bits.toNat) := by
    rw [text_v6_toList]
    exact colonGroups?_gappedText (groups_length _) (fun g => groups_lt)
      (longestZeroRun_isZeroRun _)
  have value : (groups bits.toNat).foldl (fun n g => n * 65536 + g) 0 = bits.toNat := by
    refine (foldl_groups 8 bits.toNat).trans (Nat.mod_eq_of_lt ?_)
    have := bits.isLt
    omega
  have noDots : dotted? (v6 bits).text.toList = none := by
    rw [dotted?, Text.splitAt_of_notMem (free '.' (by decide) (by decide))]
  have noScope : dropScope? (v6 bits).text.toList = some (v6 bits).text.toList := by
    rw [dropScope?, Text.splitAt_of_notMem (free '%' (by decide) (by decide))]
  rw [parse?]
  simp [free '/' (by decide) (by decide), noDots, noScope, read, value]

/-- The canonical text of an address is read as that address. -/
theorem parse?_text (a : Address) : parse? a.text = some a := by
  cases a with
  | v4 bits => exact parse?_text_v4 bits
  | v6 bits => exact parse?_text_v6 bits

end Address

/-! ### Canonical targets -/

namespace Target

/-- An address, written canonically. -/
def ofAddress (a : Address) : Target := ⟨a.text, a, Address.parse?_text a⟩

/-- The same address, written canonically. -/
def canonical (t : Target) : Target := ofAddress t.address

@[simp] theorem canonical_text (t : Target) : t.canonical.text = t.address.text := rfl

theorem canonical_of_text {t : Target} (h : t.text = t.address.text) : t.canonical = t :=
  Target.ext h.symm

end Target
end LinkMonitor
