import LinkMonitor.Proofs.Daemon.OneInstance

/-!
# The pid file of a process that is alive

The guard goes by what a look at the process of the pid file shows, and that is less than the table shows
where something is kept back. A process that cannot be opened, or does not tell its name, counts as gone,
and its pid file is removed. The table has the process all the same, so the guard refuses after that,
unless it is to skip it.
-/

namespace LinkMonitor

open PidFile

namespace ProcessRow

variable {name : String} {row : ProcessRow}

/-- A look at the process shows its name and its command line, or a name that tells the program. -/
structure Shown (name : String) (row : ProcessRow) : Prop where
  opened : row.openFault = none
  named : row.nameFault = none
  told : row.cmdlineFault = none ∨ row.cmdlineFault = some .denied ∧ row.name.getD "" = name

/-- Where the table shows that a process runs the program, so does a look at it unless what tells so is
kept back. -/
theorem runs_iff_shown (listed : row.snapshot.isRunning name = true) :
    row.Runs name ↔ row.Shown name := by
  constructor
  · rintro ⟨-, info, seen, running⟩
    unfold inspect? at seen
    split at seen
    · cases seen
    · next free =>
      obtain ⟨opened, named⟩ : row.openFault = none ∧ row.nameFault = none := by simpa using free
      split at seen
      · cases seen
      · next denied =>
        cases seen
        have same : row.name.getD "" = name := by simpa [ProcessInfo.isRunning] using running
        exact ⟨opened, named, .inr ⟨denied, same⟩⟩
      · next whole => exact ⟨opened, named, .inl whole⟩
  · intro shown
    refine ⟨listed, ?_⟩
    rcases shown.told with whole | ⟨denied, same⟩
    · exact ⟨row.snapshot, by simp [inspect?, snapshot, shown.opened, shown.named, whole], listed⟩
    · refine ⟨⟨row.pid, row.name.getD "", []⟩, ?_, by simp [ProcessInfo.isRunning, same]⟩
      simp [inspect?, shown.opened, shown.named, denied]

end ProcessRow

namespace Guard

variable {name : String} {path : Path} {h : Host} {pid : Int} {own : Option Int} {row : ProcessRow}

theorem inspected_of_find? (found : h.processes.find? (fun r => r.pid == pid) = some row) :
    inspected h pid = row.inspect? := by
  rw [inspected, found, Option.bind_some]

/-- A pid file whose process is not seen to run the program is removed. -/
theorem checkPidFile_of_unseen {own : Int} (records : Records h.files path pid) (other : pid ≠ own)
    (unseen : ∀ info, inspected h pid = some info → info.isRunning name = false) :
    ∃ u journal, (checkPidFile name path none own).run h = (.ok (), { h with files := u, journal }) ∧
      ∀ bytes, u.contentAt path ≠ .ok bytes := by
  have ⟨bytes, content, _⟩ := records
  obtain ⟨u, removed⟩ := FileTree.removeFile_of_contentAt content
  have nobody : (inspected h pid).filter (fun p => p.isRunning name) = none := by
    rw [Option.filter_eq_none_iff]
    intro info seen
    simp [unseen info seen]
  refine ⟨u, h.journal ++ [⟨.info, .general, "Removing stale pid file " ++ path.text⟩], ?_,
    FileTree.contentAt_of_removeFile removed⟩
  rw [checkPidFile, Action.run_bind, Action.run_mapError, read_of_records records]
  dsimp only
  rw [if_neg other, Action.run_bind, Action.run_mapError, recorded_of_records records, nobody]
  dsimp only
  rw [Action.info, Action.run_bind, Action.run_write]
  dsimp only
  rw [Action.run_mapError, remove, Action.run_bind, Action.run_files]
  dsimp only
  rw [removed]
  rfl

theorem scan_of_listed {own : Int} {skipped : List Int} (member : row ∈ h.processes)
    (other : row.pid ≠ own) (apart : row.pid ∉ skipped)
    (listed : row.snapshot.isRunning name = true) :
    ∃ p, (scan name own skipped).run h = (.error (.alreadyRunning p name), h) := by
  rcases scan_run name own skipped h with refused | ⟨-, idle⟩
  · exact refused
  · rw [idle row member other apart] at listed
    cases listed

/-- The guard goes on to the table without the pid file. -/
theorem ensureNotRunning_of_unseen (skipped : List Int) (records : Records h.files path pid)
    (other : pid ≠ own.getD h.pid)
    (unseen : ∀ info, inspected h pid = some info → info.isRunning name = false) :
    ∃ k, (ensureNotRunning name (some path) none own skipped).run h =
        (scan name (own.getD h.pid) skipped).run k ∧
      k.processes = h.processes ∧ ∀ bytes, k.files.contentAt path ≠ .ok bytes := by
  obtain ⟨u, journal, ran, gone⟩ := checkPidFile_of_unseen records other unseen
  refine ⟨{ h with files := u, journal }, ?_, rfl, gone⟩
  rw [ensureNotRunning_eq]
  dsimp only
  rw [Action.run_bind, ran]

/-- What scans the table leaves the files alone. -/
theorem scan_files (name : String) (own : Int) (skipped : List Int) (h : Host) :
    ((scan name own skipped).run h).2.files = h.files := by
  rcases scan_run name own skipped h with ⟨p, ran⟩ | ⟨ran, -⟩ <;> rw [ran]

/-- The pid file names another process, and the table shows that it runs the program. If a look at it
shows so too, the guard refuses and leaves everything as it is. If not, the pid file is removed, and the
guard refuses unless the process is to be skipped. -/
theorem ensureNotRunning_of_live (skipped : List Int) (records : Records h.files path pid)
    (other : pid ≠ own.getD h.pid)
    (found : h.processes.find? (fun r => r.pid == pid) = some row)
    (listed : row.snapshot.isRunning name = true) :
    let left := (ensureNotRunning name (some path) none own skipped).run h
    (row.Shown name → left = (.error (.alreadyRunning pid name), h)) ∧
      (¬row.Shown name → (∀ bytes, left.2.files.contentAt path ≠ .ok bytes) ∧
        (pid ∉ skipped → ∃ p, left.1 = .error (.alreadyRunning p name))) := by
  intro left
  have seen : inspected h pid = row.inspect? := inspected_of_find? found
  have same : row.pid = pid := by simpa using List.find?_some found
  constructor
  · intro shown
    obtain ⟨-, info, looked, running⟩ := (ProcessRow.runs_iff_shown listed).mpr shown
    have live : NamesLive name path h pid info := ⟨records, seen.trans looked, running⟩
    have refused : left = (.error (.alreadyRunning info.pid name), h) :=
      ensureNotRunning_of_namesLive own skipped other live
    rw [refused, pid_of_inspected live.seen]
  · intro hidden
    have unseen : ∀ info, inspected h pid = some info → info.isRunning name = false := by
      intro info looked
      rw [seen] at looked
      by_contra running
      refine hidden ((ProcessRow.runs_iff_shown listed).mp ⟨listed, info, looked, ?_⟩)
      simpa using running
    obtain ⟨k, ran, table, gone⟩ := ensureNotRunning_of_unseen skipped records other unseen
    have passed : left = (scan name (own.getD h.pid) skipped).run k := ran
    rw [passed]
    refine ⟨?_, fun apart => ?_⟩
    · rw [scan_files]
      exact gone
    · have member : row ∈ k.processes := by
        rw [table]
        exact List.mem_of_find?_eq_some found
      obtain ⟨p, refused⟩ := scan_of_listed member (same ▸ other) (same ▸ apart) listed
      exact ⟨p, congrArg Prod.fst refused⟩

/-- A daemon that is alive and has left its number, and what is kept back when it is looked at. -/
def besideDaemon (row : ProcessRow) : Host where
  files := ⟨[(["pid"], .file (toString (42 : Int) ++ "\n").toUTF8.toList)]⟩
  processes := [{ row with pid := 42, name := some "netpulsed" }]
  pid := 500
  parentPid := 499

theorem besideDaemon_records (row : ProcessRow) :
    Records (besideDaemon row).files Machine.pidPath 42 :=
  ⟨_, rfl, parse?_line ⟨by decide, by decide⟩⟩

/-- The command line is kept back, and the name is enough. -/
theorem ensureNotRunning_of_live_denied :
    let h := besideDaemon { pid := 42, cmdlineFault := some .denied }
    (ensureNotRunning "netpulsed" (some Machine.pidPath) none none [499]).run h =
      (.error (.alreadyRunning 42 "netpulsed"), h) := by
  intro h
  have live := @ensureNotRunning_of_live "netpulsed" Machine.pidPath h 42 none
    { pid := 42, name := some "netpulsed", cmdlineFault := some .denied } [499]
    (besideDaemon_records _) (by decide) rfl (by decide)
  exact live.1 ⟨rfl, rfl, .inr ⟨rfl, rfl⟩⟩

/-- The daemon may not be opened, so the guard takes it for gone and removes its pid file. -/
theorem not_keeps_live_pidFile :
    ¬∀ (name : String) (path : Path) (h : Host) (pid : Int) (row : ProcessRow),
      Records h.files path pid → pid ≠ h.pid → row ∈ h.processes → row.pid = pid →
      row.snapshot.isRunning name = true →
      (∃ p, ((ensureNotRunning name (some path)).run h).1 = .error (.alreadyRunning p name)) ∧
        ((ensureNotRunning name (some path)).run h).2.files.contentAt path =
          h.files.contentAt path := by
  intro always
  let row : ProcessRow := { pid := 42, name := some "netpulsed", openFault := some .denied }
  let h : Host := besideDaemon row
  have records : Records h.files Machine.pidPath 42 := besideDaemon_records row
  obtain ⟨-, kept⟩ := always "netpulsed" Machine.pidPath h 42 row records (by decide)
    List.mem_cons_self rfl (by decide)
  have ⟨bytes, content, _⟩ := records
  obtain ⟨k, ran, -, gone⟩ := @ensureNotRunning_of_unseen "netpulsed" Machine.pidPath h 42 none []
    records (by decide) nofun
  rw [ran, scan_files, content] at kept
  exact gone bytes kept

end Guard
end LinkMonitor
