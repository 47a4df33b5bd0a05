import LinkMonitor.Command.Program
import LinkMonitor.Proofs.Console.Markup
import LinkMonitor.Proofs.Daemon.OneInstance

/-!
# Whom the control commands take for the daemon

A look at the table passes over this process and the one that started it. The pid file is believed,
whomever it names.
-/

namespace LinkMonitor

namespace Instance

variable {config : DaemonConfig} {h k : Host} {p : ProcessInfo} {pid : Int}

/-- The pid file of the configuration names a process that runs the daemon. -/
def Recorded (config : DaemonConfig) (h : Host) (p : ProcessInfo) : Prop :=
  ∃ path, config.pidFile = some path ∧ Guard.NamesLive config.daemonName path h p.pid p

/-- The table has a process that runs the daemon and is neither this one nor its parent. -/
structure Listed (config : DaemonConfig) (h : Host) (p : ProcessInfo) : Prop where
  member : p ∈ h.processes.map ProcessRow.snapshot
  running : p.isRunning config.daemonName = true
  other : p.pid ≠ h.pid
  foreign : p.pid ≠ h.parentPid

/-- What the table shows. -/
def listed? (config : DaemonConfig) (h : Host) : Option ProcessInfo :=
  Guard.findRunning config.daemonName (h.processes.map ProcessRow.snapshot) [h.pid, h.parentPid]

theorem listed_of_eq_some (found : listed? config h = some p) : Listed config h p := by
  obtain ⟨member, apart, running⟩ := Guard.findRunning_eq_some found
  rw [List.mem_pair, not_or] at apart
  exact ⟨member, running, apart.1, apart.2⟩

theorem find_eq (config : DaemonConfig) (h : Host) :
    (find config).run h =
      match config.pidFile with
      | none => (.ok (listed? config h), h)
      | some path => match (Guard.recorded config.daemonName path).run h with
        | (.ok (some p), k) => (.ok (some p), k)
        | (.ok none, k) => (.ok (listed? config k), k)
        | (.error e, k) => (.error e, k) := by
  rw [find]
  cases config.pidFile with
  | none => rfl
  | some path =>
    dsimp only
    rw [Action.run_bind]
    rcases (Guard.recorded config.daemonName path).run h with ⟨_ | _ | p, k⟩ <;> rfl

/-- Whom the pid file names is found first. -/
theorem find_of_recorded (recorded : Recorded config h p) :
    (find config).run h = (.ok (some p), h) := by
  obtain ⟨path, here, live⟩ := recorded
  rw [find_eq, here]
  dsimp only
  rw [Guard.recorded_of_namesLive live]

/-- Anyone else is from the table. -/
theorem find_run (config : DaemonConfig) (h : Host) :
    ∃ r journal, (find config).run h = (r, { h with journal }) ∧
      ∀ p, r = .ok (some p) → Recorded config h p ∨ Listed config h p := by
  rw [find_eq]
  cases here : config.pidFile with
  | none =>
    refine ⟨_, h.journal, rfl, fun p found => ?_⟩
    exact .inr (listed_of_eq_some (Except.ok.inj found))
  | some path =>
    obtain ⟨r, journal, ran⟩ := Guard.recorded_run config.daemonName path h
    dsimp only
    rw [ran]
    rcases r with e | _ | q
    · exact ⟨.error e, journal, rfl, nofun⟩
    · refine ⟨_, journal, rfl, fun p found => ?_⟩
      obtain ⟨member, running, other, foreign⟩ := listed_of_eq_some (Except.ok.inj found)
      exact .inr ⟨member, running, other, foreign⟩
    · refine ⟨_, journal, rfl, fun p found => ?_⟩
      cases found
      exact .inl ⟨path, here, Guard.namesLive_of_recorded ran⟩

theorem stop_run (config : DaemonConfig) (h : Host) :
    (stop config).run h = match (find config).run h with
      | (.ok (some p), k) => (.ok (some p.pid), { k with
          terminated := k.terminated ++ [p.pid]
          journal := k.journal ++ [⟨.info, .general,
            "Sent SIGTERM to " ++ config.daemonName ++ " (pid " ++ toString p.pid ++ ")"⟩] })
      | (.ok none, k) => (.ok none, k)
      | (.error e, k) => (.error e, k) := by
  rw [stop, Action.run_bind]
  rcases (find config).run h with ⟨_ | _ | p, k⟩ <;> rfl

end Instance

namespace Program

/-- What is told about the daemon that has been found. -/
def report (config : DaemonConfig) : Option ProcessInfo → Run Nat
  | none => do
    say (config.daemonName ++ " is [red]not running[/red]")
    return 1
  | some p => do
    say (config.daemonName ++ " is [green]running[/green] (pid " ++ toString p.pid ++ ")")
    let about := "Store " ++ config.storePath.text ++ ": "
    match ← Action.attempt (Store.peekVersion config.storePath) with
    | .ok version => say (about ++ "version " ++ toString version.tag)
    | .error e => say (about ++ "[yellow]" ++ e.message ++ "[/yellow]")
    return 0

theorem info_run (config : DaemonConfig) (h : Host) :
    (info config).run h = match (Instance.find config).run h with
      | (.ok found, k) => (report config found).run k
      | (.error e, k) => (.error (.file e), k) := by
  rw [info, Action.run_bind, Action.run_mapError]
  rcases (Instance.find config).run h with ⟨_ | _ | p, k⟩ <;> rfl

/-- The command asks the same processes to terminate. -/
theorem stopDaemon_terminated (config : DaemonConfig) (h : Host) :
    ((stopDaemon config).run h).2.terminated = ((Instance.stop config).run h).2.terminated := by
  rw [stopDaemon, Action.run_bind, Action.run_mapError]
  rcases (Instance.stop config).run h with ⟨e | _ | pid, k⟩
  · rfl
  · dsimp only
    rw [Action.run_bind, complain, Action.run_mapError]
    obtain ⟨printed, ran⟩ := Console.printWrapped_run .errors
      (config.daemonName ++ " is not running") k
    rw [ran]
    cases Markup.plainText k.emoji _ <;> rfl
  · dsimp only
    rw [Action.run_bind, say, Action.run_mapError]
    obtain ⟨printed, ran⟩ := Console.printWrapped_run .output
      ("Asked " ++ config.daemonName ++ " (pid " ++ toString pid ++ ") to stop") k
    rw [ran]
    cases Markup.plainText k.emoji _ <;> rfl

end Program

namespace Instance

variable {config : DaemonConfig} {h : Host} {pid : Int}

/-- A control command takes its own process, or the one that started it, for the daemon exactly if the pid
file names that process and it runs the program. Then it is asked to terminate, and reported. -/
theorem finds_self_iff_recorded (config : DaemonConfig) (h : Host) (pid : Int)
    (self : pid = h.pid ∨ pid = h.parentPid) :
    ∃ found journal, (find config).run h = (found, { h with journal }) ∧
      ((∃ p, found = .ok (some p) ∧ p.pid = pid) ↔ ∃ p, Recorded config h p ∧ p.pid = pid) ∧
      (((Program.stopDaemon config).run h).2.terminated = h.terminated ++ [pid] ↔
        ∃ p, Recorded config h p ∧ p.pid = pid) ∧
      (Program.info config).run h = match found with
        | .ok p? => (Program.report config p?).run { h with journal }
        | .error e => (.error (.file e), { h with journal }) := by
  obtain ⟨found, journal, ran, whence⟩ := find_run config h
  -- The table never shows this process or its parent, so who is found must be recorded.
  have same : (∃ p, found = .ok (some p) ∧ p.pid = pid) ↔ ∃ p, Recorded config h p ∧ p.pid = pid := by
    constructor
    · rintro ⟨p, rfl, rfl⟩
      rcases whence p rfl with recorded | listed
      · exact ⟨p, recorded, rfl⟩
      · exact absurd self (not_or.mpr ⟨listed.other, listed.foreign⟩)
    · rintro ⟨p, recorded, rfl⟩
      have first := find_of_recorded recorded
      rw [ran] at first
      exact ⟨p, congrArg Prod.fst first, rfl⟩
  refine ⟨found, journal, ran, same, ?_, ?_⟩
  · rw [← same, Program.stopDaemon_terminated, stop_run, ran]
    rcases found with e | _ | p <;> simp
  · rw [Program.info_run, ran]
    cases found <;> rfl

/-- A pid file that a daemon has left behind, whose number this process has been given since. -/
def leftover : Host where
  files := ⟨[(["pid"], .file (toString (500 : Int) ++ "\n").toUTF8.toList)]⟩
  processes := [{ pid := 500, name := some "netpulsed" }]
  pid := 500
  parentPid := 499

theorem leftover_recorded : Recorded Machine.pidConfig leftover ⟨500, "netpulsed", []⟩ := by
  refine ⟨Machine.pidPath, rfl, ⟨_, rfl, ?_⟩, rfl, by decide⟩
  exact PidFile.parse?_line ⟨by decide, by decide⟩

/-- The process stops itself. -/
theorem finds_self_iff_recorded_leftover :
    leftover.pid = 500 ∧ ((Program.stopDaemon Machine.pidConfig).run leftover).2.terminated = [500] := by
  obtain ⟨-, -, -, -, stops, -⟩ :=
    finds_self_iff_recorded Machine.pidConfig leftover 500 (.inl rfl)
  exact ⟨rfl, stops.mpr ⟨_, leftover_recorded, rfl⟩⟩

/-- The search does not always pass over this process. -/
theorem not_passes_over_self :
    ¬∀ (config : DaemonConfig) (h k : Host) (p : ProcessInfo),
      (find config).run h = (.ok (some p), k) → p.pid ≠ h.pid ∧ p.pid ≠ h.parentPid := by
  intro never
  exact (never Machine.pidConfig leftover leftover _ (find_of_recorded leftover_recorded)).1 rfl

end Instance
end LinkMonitor
