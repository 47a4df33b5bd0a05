import LinkMonitor.Proofs.Check.Execute
import LinkMonitor.Proofs.Command.Options
import LinkMonitor.Proofs.Command.Reader
import LinkMonitor.Proofs.Net.CanonicalText
import LinkMonitor.Proofs.Report

/-!
# Viewing a store

`dump` and `analyze` show every store that can be loaded. The only records that `dump` cannot show are
those whose time has no text; `analyze` also needs a gap to divide the failures at.
-/

namespace LinkMonitor

open CivilTime

/-! ### Lines for records -/

namespace CheckRecord

theorem notMem_outcomeText (r : CheckRecord) : '[' ∉ r.outcomeText.toList := by
  rw [outcomeText]
  split
  · simp only [String.toList_append, List.mem_append, notMem_natText (c := '[') (by decide)]
    decide
  · next cause _ => cases cause <;> decide

/-- No tag begins in the line for a record whose target is written canonically. -/
theorem notMem_describe {r : CheckRecord} {line : String}
    (canonical : r.target.text = r.target.address.text) (described : r.describe = .ok line) :
    '[' ∉ line.toList := by
  obtain ⟨text, time, same⟩ := ok_of_bind described
  cases same
  have stamp := notMem_formatTimestamp (c := '[') (by decide) (by decide) time
  have kind : '[' ∉ r.kind.label.toList := by cases r.kind <;> decide
  have stack : '[' ∉ r.stack.label.toList := by cases r.stack <;> decide
  have target : '[' ∉ r.target.text.toList := by
    rw [canonical]
    exact Address.notMem_text _ (by decide) (by decide) (by decide)
  simp [padRight, stamp, kind, stack, target, r.notMem_outcomeText]

end CheckRecord

namespace Program

open LinkMonitor.Action Store

variable {h : Host} {records : List CheckRecord}

/-- A time without text breaks off a list of records. -/
def DumpFails (records : List CheckRecord) (e : ProgramError) : Prop :=
  ∃ cause, Undated records cause ∧ e = .time cause

theorem printRecord_prints {r : CheckRecord} (member : r ∈ records)
    (canonical : r.target.text = r.target.address.text) :
    PrintsIf h (HasText r.timestamp) (DumpFails records) (printRecord r) := by
  unfold printRecord
  rcases r.describe_cases with ⟨dated, line, described⟩ | ⟨e, undated, failed⟩
  · have untagged := Markup.untagged_of_notMem (CheckRecord.notMem_describe canonical described)
    have plain := (untagged.printable []).exists_plainText
    have prints : PrintsIf h True (DumpFails records)
        ((Console.printWhole .output line).mapError .markup) := by
      refine PrintsIf.of_run fun k => ?_
      obtain ⟨text, plain⟩ := plain k.emoji
      obtain ⟨printed, ran⟩ := Console.printWhole_run .output k plain
      rw [run_mapError, ran]
      exact ⟨(), printed, rfl⟩
    exact PrintsIf.of_ok described (prints.congr (by simp [dated]))
  · exact PrintsIf.of_error failed ⟨e, ⟨r, member, undated⟩, rfl⟩ (not_hasText_of_error undated)

theorem say_noChecks (k : Host) :
    ∃ printed, (say "[dim]No checks[/dim]").run k = (.ok (), { k with printed }) := by
  have cut : Markup.pieces "[dim]No checks[/dim]".toList =
      [.tag "dim".toList 0, .plain "No checks".toList, .tag "/dim".toList 14] := by decide +kernel
  have opened : Markup.follow [] "dim".toList 0 = .ok ["dim"] := by decide +kernel
  have closed : Markup.follow ["dim"] "/dim".toList 14 = .ok [] := by decide +kernel
  have inside : Markup.plainOf k.emoji ["dim"] [.plain "No checks".toList, .tag "/dim".toList 14] =
      .ok (Emoji.replaceCodes k.emoji (Markup.unescape "No checks".toList) ++ []) := by
    rw [Markup.plainOf, Markup.plainOf, closed]
    rfl
  obtain ⟨text, plain⟩ : ∃ text, Markup.plainText k.emoji "[dim]No checks[/dim]" = .ok text := by
    rw [Markup.plainText, cut, Markup.plainOf, opened]
    change ∃ text, (do return List.filter _ (← Markup.plainOf k.emoji ["dim"] _)) = Except.ok text
    rw [inside]
    exact ⟨_, rfl⟩
  obtain ⟨printed, ran⟩ := Console.printWrapped_run .output "[dim]No checks[/dim]" k
  rw [plain] at ran
  rw [say, run_mapError, ran]
  exact ⟨printed, rfl⟩

theorem printRecords_prints (canonical : CheckRecord.AllCanonical records) :
    PrintsIf h (Dated records) (DumpFails records) (printRecords records) := by
  have lines : PrintsIf h (Dated records) (DumpFails records) (records.forM printRecord) :=
    PrintsIf.forM fun r member => printRecord_prints member (canonical r member)
  unfold printRecords
  split
  · refine PrintsIf.andThen (PrintsIf.of_run fun k => ?_) fun _ => lines
    obtain ⟨printed, ran⟩ := say_noChecks k
    exact ⟨(), printed, ran⟩
  · exact lines

/-! ### Commands -/

/-- The command ends with status 0 if the condition holds; if not, one of the failures leaves it
without a status. -/
def EndsIf (condition : Prop) (failure : ProgramError → Prop) (command : Run Nat) (h : Host) : Prop :=
  (condition ∧ (command.run h).1 = .ok 0) ∨
    (¬condition ∧ ∃ e, failure e ∧ (command.run h).1 = .error e)

variable {config : DaemonConfig} {bytes : List UInt8} {s : Store} {condition : Prop}
  {failure : ProgramError → Prop} {command : Run Nat}

theorem EndsIf.ok (ends : EndsIf condition failure command h) (holds : condition) :
    (command.run h).1 = .ok 0 := by
  rcases ends with ⟨-, ran⟩ | ⟨fails, -⟩
  · exact ran
  · exact absurd holds fails

theorem EndsIf.error (ends : EndsIf condition failure command h) (fails : ¬condition) :
    ∃ e, failure e ∧ (command.run h).1 = .error e := by
  rcases ends with ⟨holds, -⟩ | ⟨-, failed⟩
  · exact absurd holds fails
  · exact failed

/-- A command that loads a store and shows it. -/
theorem view_endsIf {view : Store → Run Unit} (reads : Reads h config.storePath bytes)
    (decoded : decodeFile config.storePath true bytes = .ok s)
    (prints : ∀ journal, PrintsIf { h with journal } condition failure (view s))
    (other : ∀ cause, ¬failure (.store cause)) :
    EndsIf condition failure (tellingStoreErrors do
      let store ← load config true
      view store
      return 0) h := by
  obtain ⟨journal, loading⟩ := load_run_ok reads decoded
  rw [EndsIf, tellingStoreErrors_run, run_bind, loading]
  dsimp only
  rw [run_bind]
  rcases prints journal h.printed with ⟨holds, x, printed, ran⟩ | ⟨fails, e, printed, cause, ran⟩
  · replace ran : (view s).run { h with journal } = (.ok x, { h with journal, printed }) := ran
    rw [ran]
    exact .inl ⟨holds, rfl⟩
  · replace ran : (view s).run { h with journal } = (.error e, { h with journal, printed }) := ran
    rw [ran]
    refine .inr ⟨fails, e, cause, ?_⟩
    cases e with
    | store e => exact absurd cause (other e)
    | _ => rfl

theorem dump_endsIf (failedOnly : Bool) (reads : Reads h config.storePath bytes)
    (decoded : decodeFile config.storePath false bytes = .ok s) :
    let shown := s.records.filter fun r => !(failedOnly && r.isSuccess)
    EndsIf (Dated shown) (DumpFails shown) (tellingStoreErrors (dump failedOnly config)) h := by
  intro shown
  obtain ⟨-, -, canonical⟩ := decodeFile_eq_ok decoded
  refine view_endsIf reads (decodeFile_readonly decoded true) (fun journal => ?_) ?_
  · exact printRecords_prints fun r member => canonical r (List.mem_filter.mp member).1
  · rintro cause ⟨e, -, same⟩
    cases same

/-- What `analyze` looks for. -/
def outageQuery (options : AnalysisOptions) (config : DaemonConfig) : OutageQuery where
  period := .whole config.period
  enabled := config.enabled
  stack := options.stack
  cutoff := options.cutoff
  tolerance := .float config.tolerance

/-- A time without text breaks off a report, and so does a gap that is no number. -/
def AnalyzeFails (q : OutageQuery) (records : List CheckRecord) (e : ProgramError) : Prop :=
  ∃ cause, Report.BreaksOff q records cause ∧ e = reportError cause

theorem analyze_endsIf {options : AnalysisOptions} (cutoff : ∀ n, options.cutoff = some n → 0 ≤ n)
    (reads : Reads h config.storePath bytes)
    (decoded : decodeFile config.storePath false bytes = .ok s) :
    let q := outageQuery options config
    EndsIf (Dated s.records ∧ q.Divides s.records) (AnalyzeFails q s.records)
      (tellingStoreErrors (analyze options config)) h := by
  intro q
  have positive : q.period.le (.whole 0) = false := by
    have := config.period_pos
    show decide (config.period ≤ 0) = false
    simpa using this
  have decoded' := decodeFile_readonly decoded true
  refine view_endsIf reads decoded' (fun journal => ?_) ?_
  · have reads' : Reads { h with journal } config.storePath bytes := ⟨reads.calm, reads.content⟩
    exact (Report.render_prints options.bySeverity positive cutoff reads' decoded').mapError
      fun e cause => ⟨e, cause, rfl⟩
  · rintro cause ⟨e, breaks, same⟩
    cases breaks <;> cases same

/-- For every file that can be loaded: `dump` ends with status 0 if the records that it shows have a
time, `analyze` if all of them have one and the failures can be divided. -/
theorem viewing_endsIf {settings : Settings} (transport : Transport) {args args' : List String}
    {store : Option String} {failedOnly : Bool} {options : AnalysisOptions}
    (dumps : ReaderCommand.parse args = .ok ⟨store, .dump failedOnly⟩)
    (analyzes : ReaderCommand.parse args' = .ok ⟨store, .analyze options⟩)
    (configured : configuration settings store = .ok config)
    (loaded : ((Store.load config.storePath).run h).1 = .ok s) :
    let shown := s.records.filter fun r => !(failedOnly && r.isSuccess)
    let q := outageQuery options config
    EndsIf (Dated shown) (DumpFails shown) (reader settings transport args) h ∧
      EndsIf (Dated s.records ∧ q.Divides s.records) (AnalyzeFails q s.records)
        (reader settings transport args') h := by
  intro shown q
  obtain ⟨bytes, reads, decoded⟩ := reads_of_load loaded
  rw [reader_eq dumps configured (by simp), reader_eq analyzes configured (by simp)]
  exact ⟨dump_endsIf failedOnly reads decoded,
    analyze_endsIf (fun n given => ReaderCommand.cutoff_nonneg_of_parse analyzes given) reads decoded⟩

/-- A host with one file. -/
def hostWith (envelope : List UInt8) : Host where
  files := ⟨[(["checks"], .file (Deflate.deflate envelope))]⟩

theorem load_hostWith {envelope : List UInt8} {version : FormatVersion}
    (encoded : Envelope.encodeBytes version records = .ok envelope)
    (canonical : CheckRecord.AllCanonical records) :
    ∃ s, ((Store.load checksPath).run (hostWith envelope)).1 = .ok s ∧ s.records = records := by
  obtain ⟨s, decoded, -, found⟩ := decodeFile_of_canonical checksPath false encoded canonical
  exact ⟨s, (load_run rfl rfl decoded).1, found⟩

/-- At the usual period and tolerance, outages are divided at gaps of 90 seconds. -/
theorem divides_checksSettings (options : AnalysisOptions) (period : config.period = 60)
    (tolerance : config.tolerance = .finite (3 / 2)) :
    (outageQuery options config).tolerance.mul (outageQuery options config).period =
      .ok (.float (.finite 90)) := by
  show (Number.float config.tolerance).mul (.whole config.period) = _
  rw [period, tolerance]
  decide +kernel

theorem viewing_endsIf_twoRecords : ∃ envelope,
    Envelope.encodeBytes .v1 Envelope.twoRecords = .ok envelope ∧
    ((reader checksSettings (fun _ => .pending) ["dump", "--failed"]).run
      (hostWith envelope)).1 = .ok 0 ∧
    ((reader checksSettings (fun _ => .pending) ["analyze", "--by-severity"]).run
      (hostWith envelope)).1 = .ok 0 := by
  obtain ⟨envelope, encoded⟩ :
      ∃ envelope, Envelope.encodeBytes .v1 Envelope.twoRecords = .ok envelope := ⟨_, rfl⟩
  obtain ⟨config, configured, place, period, tolerance⟩ := configuration_checksSettings
  obtain ⟨s, loaded, records⟩ := load_hostWith encoded
    (by simp [CheckRecord.AllCanonical, Envelope.twoRecords, Target.ofAddress])
  rw [← place] at loaded
  have dumps : ReaderCommand.parse ["dump", "--failed"] = .ok ⟨none, .dump true⟩ := by
    decide +kernel
  have analyzes : ReaderCommand.parse ["analyze", "--by-severity"] =
      .ok ⟨none, .analyze ⟨none, none, true⟩⟩ := by decide +kernel
  obtain ⟨dumped, analyzed⟩ :=
    viewing_endsIf (fun _ => .pending) dumps analyzes configured loaded
  have dated : Dated s.records := by
    rw [records]
    decide
  exact ⟨envelope, encoded, dumped.ok (dated.of_subset (List.filter_subset_self _)),
    analyzed.ok ⟨dated, .inr ⟨_, divides_checksSettings _ period tolerance⟩⟩⟩

/-- A success in the first second of the year 10000. -/
def lateRecord : CheckRecord :=
  ⟨253402300800, .http, .ofAddress (.v4 0x01010101#32), .success ⟨12, by decide⟩⟩

theorem undated_lateRecord {e : TimeError} (undated : Undated [lateRecord] e) :
    e = .yearOutOfRange 10000 := by
  have refused : formatTimestamp lateRecord.timestamp = .error (.yearOutOfRange 10000) := by
    decide +kernel
  obtain ⟨r, member, failed⟩ := undated
  rw [List.mem_singleton.mp member, refused] at failed
  exact (Except.error.inj failed).symm

/-- A file that can be loaded, but neither dumped nor analysed. -/
theorem viewing_without_time : ∃ envelope s,
    Envelope.encodeBytes .v1 [lateRecord] = .ok envelope ∧
    ((Store.load checksPath).run (hostWith envelope)).1 = .ok s ∧
    ((reader checksSettings (fun _ => .pending) ["dump"]).run (hostWith envelope)).1 =
      .error (.time (.yearOutOfRange 10000)) ∧
    ((reader checksSettings (fun _ => .pending) ["analyze"]).run (hostWith envelope)).1 =
      .error (.time (.yearOutOfRange 10000)) := by
  obtain ⟨envelope, encoded⟩ :
      ∃ envelope, Envelope.encodeBytes .v1 [lateRecord] = .ok envelope := ⟨_, rfl⟩
  obtain ⟨config, configured, place, period, tolerance⟩ := configuration_checksSettings
  obtain ⟨s, loaded, records⟩ := load_hostWith encoded
    (by simp [CheckRecord.AllCanonical, lateRecord, Target.ofAddress])
  refine ⟨envelope, s, encoded, loaded, ?_⟩
  rw [← place] at loaded
  obtain ⟨bytes, reads, decoded⟩ := reads_of_load loaded
  constructor
  · have parsed : ReaderCommand.parse ["dump"] = .ok ⟨none, .dump false⟩ := by decide +kernel
    rw [reader_eq parsed configured (by simp), readerCommand]
    have ends := dump_endsIf false reads decoded
    rw [records] at ends
    obtain ⟨e, ⟨cause, undated, rfl⟩, ran⟩ := ends.error (by decide)
    rw [ran, undated_lateRecord undated]
  · have parsed : ReaderCommand.parse ["analyze"] = .ok ⟨none, .analyze {}⟩ := by decide +kernel
    rw [reader_eq parsed configured (by simp), readerCommand]
    let options : AnalysisOptions := {}
    have uncut : ∀ n, options.cutoff = some n → 0 ≤ n := fun _ none => by cases none
    have ends := analyze_endsIf uncut reads decoded
    rw [records] at ends
    obtain ⟨e, ⟨cause, breaks, rfl⟩, ran⟩ :=
      ends.error fun holds => absurd holds.1 (by decide)
    rw [ran]
    cases breaks with
    | undated undated => rw [undated_lateRecord undated]; rfl
    | gap failed =>
      rw [divides_checksSettings _ period tolerance] at failed
      cases failed

end Program
end LinkMonitor
