import LinkMonitor.Command.Program
import LinkMonitor.Proofs.Console.Markup
import LinkMonitor.Proofs.Store.Migration
import LinkMonitor.Proofs.Store.Resave
import LinkMonitor.Proofs.Store.RoundTrip
import LinkMonitor.Proofs.Time.Calendar

/-!
# Running a command of the reader

A command line that names a command, under a valid configuration, runs that command and nothing else;
only failures of the store are told to the user.
-/

namespace LinkMonitor.Program

open Markup

/-! ### Messages -/

theorem say_run {markup : String} (prints : Printable [] markup.toList) (h : Host) :
    ∃ printed, (say markup).run h = (.ok (), { h with printed }) := by
  obtain ⟨text, plain⟩ := prints.exists_plainText h.emoji
  obtain ⟨printed, ran⟩ := Console.printWrapped_run .output markup h
  rw [plain] at ran
  rw [say, Action.run_mapError, ran]
  exact ⟨printed, rfl⟩

theorem complain_run {markup : String} (prints : Printable [] markup.toList) (h : Host) :
    ∃ printed, (complain markup).run h = (.ok (), { h with printed }) := by
  obtain ⟨text, plain⟩ := prints.exists_plainText h.emoji
  obtain ⟨printed, ran⟩ := Console.printWrapped_run .errors markup h
  rw [plain] at ran
  rw [complain, Action.run_mapError, ran]
  exact ⟨printed, rfl⟩

/-! ### Commands -/

theorem tellingStoreErrors_run (command : Run Nat) (h : Host) :
    (tellingStoreErrors command).run h = match command.run h with
      | (.ok status, k) => (.ok status, k)
      | (.error (.store e), k) =>
        (do
          complain ("[red]Store error:[/red] " ++ e.message)
          return 1 : Run Nat).run k
      | (.error e, k) => (.error e, k) := by
  rw [tellingStoreErrors, Action.run_bind, Action.run_attempt]
  rcases command.run h with ⟨r, k⟩
  cases r with
  | ok status => rfl
  | error e => cases e <;> rfl

theorem tellingStoreErrors_of_ok {command : Run Nat} {h k : Host} {status : Nat}
    (ran : command.run h = (.ok status, k)) :
    (tellingStoreErrors command).run h = (.ok status, k) := by
  rw [tellingStoreErrors_run, ran]

/-- A failure of the store whose message holds no tag ends a command with status 1. -/
theorem tellingStoreErrors_of_store {command : Run Nat} {h k : Host} {e : StoreError}
    (failed : command.run h = (.error (.store e), k)) (untagged : '[' ∉ e.message.toList) :
    ∃ printed, (tellingStoreErrors command).run h = (.ok 1, { k with printed }) := by
  have message : ("[red]Store error:[/red] " ++ e.message).toList =
      "[red]".toList ++ ("Store error:".toList ++ ("[/red]".toList ++ (" " ++ e.message).toList)) := by
    simp
  have prints : Printable [] ("[red]Store error:[/red] " ++ e.message).toList := by
    rw [message]
    refine printable_titled (by decide) (by decide) (untagged_of_notMem ?_)
    simpa using untagged
  obtain ⟨printed, told⟩ := complain_run prints k
  rw [tellingStoreErrors_run, failed]
  dsimp only
  rw [Action.run_bind, told]
  exact ⟨printed, rfl⟩

variable {config : DaemonConfig}

theorem load_run_ok {h : Host} {bytes : List UInt8} {readonly : Bool} {s : Store}
    (reads : Store.Reads h config.storePath bytes)
    (decoded : Store.decodeFile config.storePath readonly bytes = .ok s) :
    ∃ journal, (load config readonly).run h = (.ok s, { h with journal }) := by
  obtain ⟨journal, ran⟩ := Store.load_run_of_reads reads decoded
  rw [load, Action.run_mapError, ran]
  exact ⟨journal, rfl⟩

variable {settings : Settings} {transport : Transport} {args : List String} {store : Option String}
  {command : ReaderCommand}

/-- The command that a command line names is run under its configuration. -/
theorem reader_eq (parsed : ReaderCommand.parse args = .ok ⟨store, command⟩)
    (configured : configuration settings store = .ok config) (other : command ≠ .version) :
    reader settings transport args =
      tellingStoreErrors (readerCommand transport command config) := by
  rw [reader, parsed]
  cases command with
  | version => exact absurd rfl other
  | analyze | dump | test | rewrite | migrate =>
    show Program.configured settings store _ = _
    rw [Program.configured, configured]

/-! ### Settings for a store in the current directory -/

def checksSettings : Settings := { storePath := "checks" }

theorem configuration_checksSettings : ∃ config, configuration checksSettings none = .ok config ∧
    config.storePath = Store.checksPath ∧ config.period = 60 ∧
    config.tolerance = .finite (3 / 2) := by
  have facts : (configuration checksSettings none).map (fun config =>
      (config.storePath, config.period, config.tolerance)) =
      .ok (Store.checksPath, 60, .finite (3 / 2)) := by decide +kernel
  cases configured : configuration checksSettings none with
  | error e =>
    rw [configured] at facts
    cases facts
  | ok config =>
    rw [configured] at facts
    have same := Except.ok.inj facts
    rw [Prod.mk.injEq, Prod.mk.injEq] at same
    exact ⟨config, rfl, same⟩

end LinkMonitor.Program
