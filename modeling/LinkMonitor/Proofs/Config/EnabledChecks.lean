import LinkMonitor.Proofs.Config.Daemon
import LinkMonitor.Proofs.Config.Entry
import LinkMonitor.Proofs.Net.CanonicalText

/-!
# What a list of entries enables

Entries are read one by one. What they enable is listed once, in the order of first mention, and the
values of the list, between commas, enable the same.
-/

namespace LinkMonitor
namespace EnabledChecks

open Text

/-! ### First mentions -/

/-- The elements of a list, each once, in the order in which they first come. -/
structure FirstMentions {α : Type} [DecidableEq α] (all once : List α) : Prop where
  same (x : α) : x ∈ once ↔ x ∈ all
  ordered : once.Pairwise (Precedes all)

section FirstMentions

variable {α : Type} [DecidableEq α] {all once : List α}

theorem FirstMentions.nodup (h : FirstMentions all once) : once.Nodup :=
  h.ordered.nodup

theorem FirstMentions.eq_nil_iff (h : FirstMentions all once) : once = [] ↔ all = [] := by
  simp only [List.eq_nil_iff_forall_not_mem, h.same]

theorem precedes_concat {x y z : α} (earlier : y ∈ all) (later : z ∈ all) :
    Precedes (all ++ [x]) y z ↔ Precedes all y z := by
  rw [Precedes, Precedes, List.idxOf_append_of_mem earlier, List.idxOf_append_of_mem later]

theorem eraseDups_concat (all : List α) (x : α) :
    (all ++ [x]).eraseDups = if x ∈ all then all.eraseDups else all.eraseDups ++ [x] := by
  rw [List.eraseDups_append]
  by_cases known : x ∈ all <;> simp [List.removeAll, known, List.eraseDups_cons]

theorem firstMentions_eraseDups (all : List α) : FirstMentions all all.eraseDups := by
  refine ⟨fun x => List.mem_eraseDups, ?_⟩
  induction all using List.reverseRecOn with
  | nil => exact .nil
  | append_singleton all x ih =>
    have before : all.eraseDups.Pairwise (Precedes (all ++ [x])) := by
      refine ih.imp_of_mem fun hy hz early => ?_
      rwa [precedes_concat (List.mem_eraseDups.mp hy) (List.mem_eraseDups.mp hz)]
    rw [eraseDups_concat]
    split
    · exact before
    · next new =>
      refine List.pairwise_append.mpr ⟨before, List.pairwise_singleton _ x, fun y hy z hz => ?_⟩
      obtain rfl := List.mem_singleton.mp hz
      have known := List.mem_eraseDups.mp hy
      rw [Precedes, List.idxOf_append_of_mem known, List.idxOf_append_of_notMem new]
      exact Nat.lt_add_right _ (List.idxOf_lt_length_of_mem known)

theorem firstMentions_iff : FirstMentions all once ↔ once = all.eraseDups := by
  refine ⟨fun h => ?_, fun same => same ▸ firstMentions_eraseDups all⟩
  have erased := firstMentions_eraseDups all
  exact h.ordered.eq_of_mem_iff erased.ordered fun x => (h.same x).trans (erased.same x).symm

/-- A list without duplicates mentions each element once. -/
theorem eraseDups_of_nodup (nodup : all.Nodup) : all.eraseDups = all := by
  induction all using List.reverseRecOn with
  | nil => rfl
  | append_singleton all x ih =>
    rw [← List.concat_eq_append, List.nodup_concat] at nodup
    rw [eraseDups_concat, if_neg nodup.1, ih nodup.2]

end FirstMentions

/-! ### Lists of entries -/

/-- Why a list of entries is refused: the first entry that is not blank and cannot be read, or there is
none that is not blank. -/
inductive Refused (entries : List String) : EntryError → Prop
  | entry {before after : List String} {entry : String} {e : EntryError}
    (split : entries = before ++ entry :: after)
    (fine : ∀ b ∈ before, isBlankEntry b = true ∨ ∃ c, parseEntry b = .ok c)
    (filled : isBlankEntry entry = false) (fails : parseEntry entry = .error e) : Refused entries e
  | nothing (blank : ∀ entry ∈ entries, isBlankEntry entry = true) : Refused entries .nothingEnabled

/-- The entries that say something. -/
def filledEntries (entries : List String) : List String := entries.filter fun e => !isBlankEntry e

section Entries

variable {entries : List String} {cs : List Combination} {e : EntryError}

theorem parseEntries_of_read {parsed : List Combination}
    (read : (filledEntries entries).mapM parseEntry = .ok parsed) :
    parseEntries entries = if parsed.isEmpty then .error .nothingEnabled else .ok parsed.eraseDups := by
  rw [parseEntries]
  change (filledEntries entries).mapM parseEntry >>= _ = _
  rw [read]
  rfl

theorem parseEntries_of_fails (fails : (filledEntries entries).mapM parseEntry = .error e) :
    parseEntries entries = .error e := by
  rw [parseEntries]
  change (filledEntries entries).mapM parseEntry >>= _ = _
  rw [fails]
  rfl

theorem parseEntries_eq_ok_iff :
    parseEntries entries = .ok cs ↔ ∃ parsed, (filledEntries entries).map parseEntry = parsed.map .ok ∧
      cs ≠ [] ∧ FirstMentions parsed cs := by
  constructor
  · intro h
    cases read : (filledEntries entries).mapM parseEntry with
    | error e =>
      rw [parseEntries_of_fails read] at h
      cases h
    | ok parsed =>
      rw [parseEntries_of_read read] at h
      split at h
      · cases h
      · next some =>
        cases h
        have first := firstMentions_eraseDups parsed
        exact ⟨parsed, mapM_eq_ok_iff.mp read, mt first.eq_nil_iff.mp (mt List.isEmpty_iff.mpr some), first⟩
  · rintro ⟨parsed, each, some, first⟩
    rw [parseEntries_of_read (mapM_eq_ok_iff.mpr each),
      if_neg (mt List.isEmpty_iff.mp (mt first.eq_nil_iff.mpr some)), firstMentions_iff.mp first]

theorem refused_of_fails (fails : (filledEntries entries).mapM parseEntry = .error e) :
    Refused entries e := by
  obtain ⟨before, entry, after, split, fine, first⟩ := mapM_eq_error_iff.mp fails
  rw [filledEntries, List.filter_eq_append_iff] at split
  obtain ⟨front, back, whole, kept, later⟩ := split
  rw [List.filter_eq_cons_iff] at later
  obtain ⟨blanks, rest, back', blank, filled, -⟩ := later
  have split : entries = (front ++ blanks) ++ entry :: rest := by
    rw [whole, back', List.append_assoc]
  refine .entry split (fun b member => ?_) (by simpa using filled) first
  by_cases empty : isBlankEntry b = true
  · exact .inl empty
  · rcases List.mem_append.mp member with early | gap
    · refine .inr (fine b ?_)
      rw [← kept]
      exact List.mem_filter.mpr ⟨early, by simpa using empty⟩
    · exact .inl (by simpa using blank b gap)

theorem parseEntries_eq_error_iff : parseEntries entries = .error e ↔ Refused entries e := by
  constructor
  · intro h
    cases read : (filledEntries entries).mapM parseEntry with
    | error e' =>
      rw [parseEntries_of_fails read] at h
      cases h
      exact refused_of_fails read
    | ok parsed =>
      rw [parseEntries_of_read read] at h
      split at h
      · next none =>
        cases h
        have each := mapM_eq_ok_iff.mp read
        rw [List.isEmpty_iff.mp none, List.map_nil, List.map_eq_nil_iff, filledEntries,
          List.filter_eq_nil_iff] at each
        exact .nothing (by simpa using each)
      · cases h
  · intro refused
    cases refused with
    | @entry before after entry e split fine filled fails =>
      subst split
      apply parseEntries_of_fails
      rw [filledEntries, List.filter_append, List.filter_cons_of_pos (by simpa using filled)]
      refine mapM_eq_error_iff.mpr ⟨_, entry, _, rfl, fun b member => ?_, fails⟩
      obtain ⟨among, some⟩ := List.mem_filter.mp member
      exact (fine b among).resolve_left (by simpa using some)
    | nothing blank =>
      have none : filledEntries entries = [] := List.filter_eq_nil_iff.mpr (by simpa using blank)
      have read : (filledEntries entries).mapM parseEntry = .ok [] := by
        rw [none]
        rfl
      exact parseEntries_of_read read

end Entries

/-! ### Texts -/

/-- Texts between commas. -/
structure Listed (text : String) (entries : List String) : Prop where
  some : entries ≠ []
  apart : ∀ entry ∈ entries, ',' ∉ entry.toList
  whole : String.intercalate "," entries = text

theorem Listed.eq_splitAt {text : String} {entries : List String} (listed : Listed text entries) :
    (splitAt (· == ',') text.toList).map String.ofList = entries := by
  obtain ⟨some, apart, rfl⟩ := listed
  have pieces : ∀ piece ∈ entries.map String.toList, ',' ∉ piece := by simpa using apart
  have comma : ",".toList = [','] := rfl
  rw [String.toList_intercalate, comma, splitAt_intercalate pieces (by simpa using some), List.map_map,
    String.ofList_comp_toList, List.map_id]

theorem listed_splitAt (text : String) :
    Listed text ((splitAt (· == ',') text.toList).map String.ofList) where
  some := by simpa using splitAt_ne_nil _ _
  apart := by
    intro entry member
    obtain ⟨piece, among, rfl⟩ := List.mem_map.mp member
    rw [String.toList_ofList]
    intro comma
    have solid := solid_of_mem_splitAt among ',' comma
    simp at solid
  whole := by
    rw [String.ext_iff, String.toList_intercalate, List.map_map, String.toList_comp_ofList, List.map_id,
      splitAt_eq_splitOn]
    exact List.intercalate_splitOn ','

theorem parse_of_listed {text : String} {entries : List String} (listed : Listed text entries) :
    parse text = parseEntries entries := by
  rw [parse, listed.eq_splitAt]

/-! ### Texts of combinations -/

theorem parseEntry_value (c : Combination) : parseEntry c.value = .ok c := by
  obtain ⟨kind, stack⟩ := c
  cases kind <;> cases stack <;> rfl

theorem isBlankEntry_value (c : Combination) : isBlankEntry c.value = false := by
  obtain ⟨kind, stack⟩ := c
  cases kind <;> cases stack <;> decide

theorem comma_notMem_value (c : Combination) : ',' ∉ c.value.toList := by
  obtain ⟨kind, stack⟩ := c
  cases kind <;> cases stack <;> decide

theorem listed_text {cs : List Combination} (some : cs ≠ []) :
    Listed (text cs) (cs.map Combination.value) where
  some := by simpa using some
  apart := by simpa using fun c _ => comma_notMem_value c
  whole := rfl

/-- The text of a list that enables something, and nothing twice, is read as that list. -/
theorem parse_text {cs : List Combination} (some : cs ≠ []) (nodup : cs.Nodup) :
    parse (text cs) = .ok cs := by
  have filled : filledEntries (cs.map Combination.value) = cs.map Combination.value := by
    rw [filledEntries, List.filter_eq_self]
    simp [isBlankEntry_value]
  rw [parse_of_listed (listed_text some), parseEntries_eq_ok_iff]
  refine ⟨cs, ?_, some, firstMentions_iff.mpr (eraseDups_of_nodup nodup).symm⟩
  rw [filled, List.map_map]
  exact List.map_congr_left fun c _ => parseEntry_value c

theorem enabled_of_parse {text : String} {cs : List Combination} (h : parse text = .ok cs) :
    cs ≠ [] ∧ cs.Nodup := by
  rw [parse, parseEntries_eq_ok_iff] at h
  obtain ⟨parsed, -, some, first⟩ := h
  exact ⟨some, first.nodup⟩

end EnabledChecks

/-! ### Settings -/

namespace Settings

variable {s : Settings}

theorem config_of_parse {enabled : List Combination}
    (h : EnabledChecks.parse s.enabledChecks = .ok enabled) :
    ∃ d : ConfigDraft, d.enabled = enabled ∧ s.config = DaemonConfig.make d := by
  rw [config, h]
  exact ⟨_, rfl, rfl⟩

theorem config_eq_entry_iff {e : EntryError} :
    s.config = .error (.entry e) ↔ EnabledChecks.parse s.enabledChecks = .error e := by
  cases read : EnabledChecks.parse s.enabledChecks with
  | error e' => simp [config, read]
  | ok enabled =>
    obtain ⟨d, rfl, same⟩ := config_of_parse read
    simp [same, DaemonConfig.make_ne_entry (EnabledChecks.enabled_of_parse read).1]

theorem config_ne_duplicates (s : Settings) (cs : List Combination) :
    s.config ≠ .error (.duplicates cs) := by
  cases read : EnabledChecks.parse s.enabledChecks with
  | error e => simp [config, read]
  | ok enabled =>
    obtain ⟨d, rfl, same⟩ := config_of_parse read
    rw [same]
    exact DaemonConfig.make_ne_duplicates (EnabledChecks.enabled_of_parse read).2

end Settings

namespace EnabledChecks

/-- A list of entries enables what its filled entries name, each once, in the order of first mention; it
is refused for the first of them that cannot be read, or when there is none. Texts are read so between
their commas, and the text of what is enabled is read back. So settings never describe a configuration
that enables nothing or something twice. -/
theorem parseEntries_inOrder :
    (∀ entries cs, parseEntries entries = .ok cs ↔
      ∃ parsed, (filledEntries entries).map parseEntry = parsed.map .ok ∧ cs ≠ [] ∧ cs.Nodup ∧
        FirstMentions parsed cs) ∧
    (∀ entries e, parseEntries entries = .error e ↔ Refused entries e) ∧
    (∀ s, ∃ entries, Listed s entries ∧ parse s = parseEntries entries) ∧
    (∀ entries cs, parseEntries entries = .ok cs → parse (text cs) = .ok cs) ∧
    ∀ s : Settings, (∀ e, s.config = .error (.entry e) ↔ parse s.enabledChecks = .error e) ∧
      ∀ cs, s.config ≠ .error (.duplicates cs) := by
  refine ⟨fun entries cs => ?_, fun entries e => parseEntries_eq_error_iff, fun s => ?_,
    fun entries cs h => ?_, fun s => ⟨fun e => Settings.config_eq_entry_iff, s.config_ne_duplicates⟩⟩
  · rw [parseEntries_eq_ok_iff]
    constructor
    · rintro ⟨parsed, each, some, first⟩
      exact ⟨parsed, each, some, first.nodup, first⟩
    · rintro ⟨parsed, each, some, -, first⟩
      exact ⟨parsed, each, some, first⟩
  · exact ⟨_, listed_splitAt s, rfl⟩
  · obtain ⟨parsed, -, some, first⟩ := parseEntries_eq_ok_iff.mp h
    exact parse_text some first.nodup

/-- Three filled entries, two of which mean the same. -/
theorem parseEntries_inOrder_aliases :
    parseEntries ["ICMP/v6", " http-v4", "", "ipv6+ping"] = .ok [⟨.icmp, .v6⟩, ⟨.http, .v4⟩] ∧
      parse (text [⟨.icmp, .v6⟩, ⟨.http, .v4⟩]) = .ok [⟨.icmp, .v6⟩, ⟨.http, .v4⟩] := by
  obtain ⟨accepted, -, -, again, -⟩ := parseEntries_inOrder
  have once : parseEntries ["ICMP/v6", " http-v4", "", "ipv6+ping"] =
      .ok [⟨.icmp, .v6⟩, ⟨.http, .v4⟩] := by
    refine (accepted _ _).mpr ⟨[⟨.icmp, .v6⟩, ⟨.http, .v4⟩, ⟨.icmp, .v6⟩], rfl, by simp, by decide, ?_⟩
    exact firstMentions_iff.mpr (by decide)
  exact ⟨once, again _ _ once⟩

end EnabledChecks
end LinkMonitor
