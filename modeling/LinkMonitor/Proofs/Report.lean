import LinkMonitor.Proofs.History.Partition
import LinkMonitor.Proofs.Host.Printing
import LinkMonitor.Proofs.Store.Resave
import LinkMonitor.Proofs.Store.RoundTrip
import LinkMonitor.Proofs.Time.Calendar
import LinkMonitor.Report

/-!
# Reports that are printed to the end

A report on a store that was loaded breaks off at a time that has no text, or when there are failures
to divide and the product of tolerance and period is no number. Nothing else breaks it off.
-/

namespace LinkMonitor

open CivilTime

/-! ### Times -/

/-- The times of all records have a text. -/
def Dated (records : List CheckRecord) : Prop := ∀ r ∈ records, HasText r.timestamp

instance (records : List CheckRecord) : Decidable (Dated records) :=
  inferInstanceAs (Decidable (∀ r ∈ records, HasText r.timestamp))

/-- Why the time of one of the records has no text. -/
def Undated (records : List CheckRecord) (e : TimeError) : Prop :=
  ∃ r ∈ records, formatTimestamp r.timestamp = .error e

variable {records part : List CheckRecord} {e : TimeError}

theorem Dated.of_subset (dated : Dated records) (inside : part ⊆ records) : Dated part :=
  fun r member => dated r (inside member)

theorem Undated.of_subset (undated : Undated part e) (inside : part ⊆ records) :
    Undated records e := by
  obtain ⟨r, member, failed⟩ := undated
  exact ⟨r, inside member, failed⟩

theorem Undated.not_dated (undated : Undated records e) : ¬Dated records := by
  obtain ⟨r, member, failed⟩ := undated
  exact fun dated => not_hasText_of_error failed (dated r member)

theorem hasText_of_between {first t last : Int} (low : HasText first) (high : HasText last)
    (after : first ≤ t) (before : t ≤ last) : HasText t := by
  unfold HasText at *
  omega

namespace Summary

theorem rows_of_ok {s : Summary} {first last : String}
    (early : formatTimestamp (s.first?.getD 0) = .ok first)
    (late : formatTimestamp (s.last?.getD 0) = .ok last) : ∃ rows, s.rows = .ok rows := by
  rw [rows]
  dsimp only
  rw [early, late]
  exact ⟨_, rfl⟩

/-- The rows of a summary tell the first and the last time; all others lie between. -/
theorem rows_cases (some : records ≠ []) :
    (Dated records ∧ ∃ rows, (ofRecords records).rows = .ok rows) ∨
      ∃ e, Undated records e ∧ (ofRecords records).rows = .error e := by
  have times : records.map CheckRecord.timestamp ≠ [] := by simpa using some
  obtain ⟨first, least⟩ := Option.ne_none_iff_exists'.mp (mt List.min?_eq_none_iff.mp times)
  obtain ⟨last, greatest⟩ := Option.ne_none_iff_exists'.mp (mt List.max?_eq_none_iff.mp times)
  have here : (ofRecords records).first?.getD 0 = first := by
    show (records.map CheckRecord.timestamp).min?.getD 0 = first
    rw [least, Option.getD_some]
  have there : (ofRecords records).last?.getD 0 = last := by
    show (records.map CheckRecord.timestamp).max?.getD 0 = last
    rw [greatest, Option.getD_some]
  obtain ⟨among, low⟩ := List.min?_eq_some_iff.mp least
  obtain ⟨among', high⟩ := List.max?_eq_some_iff.mp greatest
  have undated {t : Int} {e : TimeError} (among : t ∈ records.map CheckRecord.timestamp)
      (failed : formatTimestamp t = .error e) : Undated records e := by
    obtain ⟨r, member, rfl⟩ := List.mem_map.mp among
    exact ⟨r, member, failed⟩
  cases early : formatTimestamp first with
  | error e =>
    refine .inr ⟨e, undated among early, ?_⟩
    rw [rows]
    dsimp only
    rw [here, early]
    rfl
  | ok text =>
    cases late : formatTimestamp last with
    | error e =>
      refine .inr ⟨e, undated among' late, ?_⟩
      rw [rows]
      dsimp only
      rw [here, there, early, late]
      rfl
    | ok text' =>
      refine .inl ⟨fun r member => ?_, rows_of_ok (by rw [here, early]) (by rw [there, late])⟩
      have inside := List.mem_map_of_mem (f := CheckRecord.timestamp) member
      exact hasText_of_between (formatTimestamp_eq_ok early).1 (formatTimestamp_eq_ok late).1
        (low _ inside) (high _ inside)

end Summary

namespace Outage

theorem describe_of_dated {o : Outage} (dated : Dated o.records) :
    ∃ text, o.describe = .ok text := by
  obtain ⟨start, early⟩ := formatTimestamp_of_hasText (dated _ (List.head_mem o.records_ne_nil))
  obtain ⟨finish, late⟩ := formatTimestamp_of_hasText (dated _ (List.getLast_mem o.records_ne_nil))
  have first : formatTimestamp o.start = .ok start := early
  rw [describe, first]
  cases ended : o.finish? with
  | none => exact ⟨_, rfl⟩
  | some t =>
    have last : formatTimestamp t = .ok finish := by rw [finish?_eq_last ended]; exact late
    dsimp only
    rw [last]
    exact ⟨_, rfl⟩

end Outage

/-! ### Outages that are found -/

namespace OutageQuery

theorem failures_subset (q : OutageQuery) (records : List CheckRecord) :
    q.failures records ⊆ records := by
  intro r member
  have ordered := (latest_sublist _ _).subset (List.mem_filter.mp member).1
  split at ordered
  · exact List.mem_mergeSort.mp ordered
  · exact List.mem_mergeSort.mp (List.mem_filter.mp ordered).1

/-- There is nothing to divide, or the gap to divide it at is a number. -/
def Divides (q : OutageQuery) (records : List CheckRecord) : Prop :=
  q.failures records = [] ∨ ∃ gap, q.tolerance.mul q.period = .ok gap

end OutageQuery

open OutageQuery in
/-- The analysis succeeds exactly if it can divide the failures. -/
theorem outages_cases {q : OutageQuery} (records : List CheckRecord)
    (positive : q.period.le (.whole 0) = false) (cutoff : ∀ n, q.cutoff = some n → 0 ≤ n) :
    (q.Divides records ∧ ∃ os, outages q records = .ok os ∧ ∀ o ∈ os, o.records ⊆ records) ∨
      (¬q.Divides records ∧ ∃ e, q.tolerance.mul q.period = .error e ∧
        outages q records = .error (.gap e)) := by
  cases product : q.tolerance.mul q.period with
  | ok gap =>
    obtain ⟨found, run, groups⟩ : ∃ found : List Outage,
        outages q records = .ok (Outage.rankByRecency found) ∧
        found.map Outage.records = (q.failures records).splitBy (isClose gap) :=
      outages_of_groups positive cutoff product
    refine .inl ⟨.inr ⟨gap, product⟩, _, run, fun o member => ?_⟩
    have group : o.records ∈ (q.failures records).splitBy (isClose gap) := by
      rw [← groups]
      exact List.mem_map_of_mem (List.mem_mergeSort.mp member)
    exact List.Subset.trans (groups_sound q records gap _ group).2 (q.failures_subset records)
  | error e =>
    have stops : outages q records =
        if (q.failures records).isEmpty then .ok [] else .error (.gap e) := by
      rw [outages_of_positive positive cutoff, product]
      rfl
    by_cases none : q.failures records = []
    · refine .inl ⟨.inl none, [], ?_, by simp⟩
      rw [stops, none]
      rfl
    · refine .inr ⟨?_, e, rfl, ?_⟩
      · rintro (nothing | ⟨gap, known⟩)
        · exact none nothing
        · rw [product] at known
          cases known
      · rw [stops, if_neg (by simpa using none)]

namespace Report

open LinkMonitor.Action

/-! ### Sections -/

/-- What can break off a report on these records. -/
inductive BreaksOff (q : OutageQuery) (records : List CheckRecord) : ReportError → Prop
  | undated {e : TimeError} : Undated records e → BreaksOff q records (.time e)
  | gap {e : NumberError} : q.tolerance.mul q.period = .error e →
      BreaksOff q records (.analysis (.gap e))

variable {h : Host} {q : OutageQuery} {failure : ReportError → Prop}

theorem table_prints (rows : List (String × String)) : PrintsIf h True failure (table rows) :=
  (PrintsIf.forM fun _ _ => PrintsIf.line _ _).congr (by simp)

theorem summary_prints (c : Category) (inside : part ⊆ records) :
    PrintsIf h (Dated part) (BreaksOff q records) (summary c (Summary.ofRecords part)) := by
  unfold summary
  refine (PrintsIf.line _ _).andThen fun _ => ?_
  split
  · next empty =>
    have none : part = [] := List.eq_nil_of_length_eq_zero empty
    refine ((PrintsIf.line _ _).andThen fun _ => PrintsIf.line _ _).congr ?_
    simp [none, Dated]
  · next full =>
    have some : part ≠ [] := fun none => full (by rw [none]; rfl)
    rcases Summary.rows_cases some with ⟨dated, rows, found⟩ | ⟨e, undated, failed⟩
    · exact (PrintsIf.of_ok found ((table_prints rows).andThen fun _ => PrintsIf.line _ _)).congr
        (by simp [dated])
    · exact PrintsIf.of_error failed (.undated (undated.of_subset inside)) undated.not_dated

/-- The summary over all records tells whether all of them have a time. -/
theorem summaries_print (records : List CheckRecord) :
    PrintsIf h (Dated records) (BreaksOff q records)
      ((summarize records).forM fun p => summary p.1 p.2) := by
  have each : PrintsIf h (∀ c ∈ Category.all, Dated (records.filter c.includes))
      (BreaksOff q records)
      (Category.all.forM fun c => summary c (Summary.ofRecords (records.filter c.includes))) :=
    PrintsIf.forM fun c _ => summary_prints c (List.filter_subset_self _)
  have mapped : ((summarize records).forM fun p => summary p.1 p.2) =
      Category.all.forM fun c => summary c (Summary.ofRecords (records.filter c.includes)) :=
    List.forM_map ..
  rw [mapped]
  refine each.congr ⟨fun dated => ?_, fun dated c _ => dated.of_subset (List.filter_subset_self _)⟩
  have general := dated .general (by decide)
  have whole : records.filter Category.general.includes = records :=
    List.filter_eq_self.mpr fun _ _ => rfl
  rwa [whole] at general

theorem outage_prints {o : Outage} (dated : Dated o.records) :
    PrintsIf h True failure (outage o) := by
  obtain ⟨text, found⟩ := Outage.describe_of_dated dated
  exact PrintsIf.of_ok found (PrintsIf.lines _ _)

theorem outages_print {os : List Outage} (dated : ∀ o ∈ os, Dated o.records) :
    PrintsIf h True failure (do
      if os.isEmpty then print "None"
      os.forM outage
      print "") := by
  have rest : PrintsIf h True failure (do
      os.forM outage
      print "") :=
    ((PrintsIf.forM fun o member => outage_prints (dated o member)).congr (by simp)).andThen
      fun _ => PrintsIf.line _ _
  dsimp only
  split
  · exact (PrintsIf.line _ _).andThen fun _ => rest
  · exact rest

theorem outageSection_prints (bySeverity : Bool) (positive : q.period.le (.whole 0) = false)
    (cutoff : ∀ n, q.cutoff = some n → 0 ≤ n) (dated : Dated records) :
    PrintsIf h (q.Divides records) (BreaksOff q records)
      (outageSection q bySeverity records) := by
  unfold outageSection
  refine (PrintsIf.line _ _).andThen fun _ => ?_
  rcases outages_cases records positive cutoff with
    ⟨divides, os, found, inside⟩ | ⟨fails, e, product, failed⟩
  · refine PrintsIf.of_ok found ((outages_print fun o member => ?_).congr (by simp [divides]))
    refine dated.of_subset (inside o ?_)
    split at member
    · exact List.mem_mergeSort.mp member
    · exact member
  · exact PrintsIf.of_error failed (.gap product) fails

end Report

/-! ### The whole report -/

variable {path : Path} {readonly : Bool} {bytes : List UInt8} {s : Store} {h : Host}

namespace Store

theorem requirePath_own (own : s.path = some path) : s.requirePath none = .ok path := by
  have here : (none <|> s.path) = some path := own
  rw [requirePath, here]

theorem hashOfFile_own {t : FileTree} (own : s.path = some path)
    (content : t.contentAt path = .ok bytes) :
    s.hashOfFile t = .ok (Bytes.hex (Sha256.digest bytes)) := by
  rw [← hashOfFile_eq_ok s content, hashOfFile, hashOfFile, requirePath_own own]
  rfl

theorem sizeOnDisk_own {t : FileTree} (own : s.path = some path)
    (content : t.contentAt path = .ok bytes) : s.sizeOnDisk t = .ok bytes.length := by
  rw [sizeOnDisk, requirePath_own own]
  simp only [bind, Except.bind, (FileTree.of_contentAt content).1]
  rfl

theorem peekVersion_of_reads (reads : Reads h path bytes)
    (decoded : decodeFile path readonly bytes = .ok s) :
    (peekVersion path).run h = (.ok s.version, h) := by
  rw [peekVersion_of_read (readStoreFile_of_reads reads),
    (versionOf_of_decodeFile path readonly bytes).1 s decoded]

end Store

namespace Report

open LinkMonitor.Action Store

/-- A store that was loaded, and its file, can be described. -/
theorem metadata_run (reads : Reads h path bytes)
    (decoded : decodeFile path readonly bytes = .ok s) :
    ∃ rows, (metadata s).run h = (.ok rows, h) := by
  obtain ⟨own, -, -⟩ := decodeFile_eq_ok decoded
  obtain ⟨envelope, encoded⟩ := exists_encodeBytes_of_decodeFile decoded
  have canonical := canonicalBytes_eq_ok encoded
  have memory : s.sizeInMemory = .ok envelope.length := by
    rw [sizeInMemory, canonical]
    rfl
  have display : s.displayHash = .ok (Bytes.hex (Blake2b.digest 16 envelope)) := by
    rw [displayHash, canonical]
    rfl
  rw [metadata, run_bind, run_files]
  dsimp only
  rw [run_bind, run_ofExcept, memory]
  dsimp only
  rw [run_bind, run_ofExcept, sizeOnDisk_own own reads.content]
  dsimp only
  rw [run_bind, run_ofExcept, display]
  dsimp only
  rw [run_bind, run_ofExcept, hashOfFile_own own reads.content]
  dsimp only
  rw [run_bind, run_ofExcept, requirePath_own own]
  dsimp only
  rw [run_bind, peekVersion_of_reads reads decoded]
  exact ⟨_, rfl⟩

/-- The report on a store that was loaded is printed to the end if all records have a time and the
failures can be divided. -/
theorem render_prints {q : OutageQuery} (bySeverity : Bool)
    (positive : q.period.le (.whole 0) = false) (cutoff : ∀ n, q.cutoff = some n → 0 ≤ n)
    (reads : Reads h path bytes) (decoded : decodeFile path readonly bytes = .ok s) :
    PrintsIf h (Dated s.records ∧ q.Divides s.records) (BreaksOff q s.records)
      (render q bySeverity s) := by
  unfold render
  refine (summaries_print s.records).bind fun dated _ => ?_
  refine ((outageSection_prints bySeverity positive cutoff dated).bind fun _ _ => ?_).congr
    (and_iff_left trivial)
  refine (PrintsIf.line _ _).andThen fun _ => ?_
  have known : PrintsIf h True (BreaksOff q s.records) ((metadata s).mapError .store) := by
    intro before
    have reads' : Reads { h with printed := before } path bytes := ⟨reads.calm, reads.content⟩
    obtain ⟨rows, ran⟩ := metadata_run reads' decoded
    rw [run_mapError, ran]
    exact .inl ⟨trivial, rows, before, rfl⟩
  exact known.andThen fun rows => table_prints rows

end Report
end LinkMonitor
