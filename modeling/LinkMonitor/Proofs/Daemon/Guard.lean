import LinkMonitor.Daemon.Guard
import LinkMonitor.Proofs.Files.Tree
import LinkMonitor.Proofs.Host.Action
import LinkMonitor.Proofs.Numeric.WholeText

/-!
# The pid file and the guard

What is written to a pid file is read from it again. The guard does nothing to the files but remove the
pid file, and not that one which names a live instance; what it lets pass is alone in the table.
-/

namespace LinkMonitor

theorem toList_loop (bytes : ByteArray) (i : Nat) (before : List UInt8) :
    ByteArray.toList.loop bytes i before = before.reverse ++ bytes.data.toList.drop i := by
  fun_induction ByteArray.toList.loop bytes i before with
  | case1 i before inside ih =>
    have here : i < bytes.data.toList.length := inside
    have next : bytes.get! i = bytes.data.toList[i] := getElem!_pos bytes.data i inside
    rw [ih, List.drop_eq_getElem_cons here, next, List.reverse_cons, List.append_assoc]
    rfl
  | case2 i before outside =>
    rw [List.drop_eq_nil_of_le (Nat.le_of_not_lt outside), List.append_nil]

/-- The bytes of a text are those of no other text. -/
theorem fromUTF8?_toUTF8 (s : String) : String.fromUTF8? ⟨s.toUTF8.toList.toArray⟩ = some s := by
  have same : (⟨s.toUTF8.toList.toArray⟩ : ByteArray) = s.toUTF8 := by
    rw [ByteArray.toList, toList_loop, List.drop_zero, List.reverse_nil, List.nil_append]
  rw [same, String.fromUTF8?, String.toUTF8_eq_toByteArray, dif_pos s.isValidUTF8]
  rfl

namespace PidFile

variable {path : Path} {pid : Int} {t u : FileTree}

/-- The file at the path names this process. -/
def Records (t : FileTree) (path : Path) (pid : Int) : Prop :=
  ∃ bytes, t.contentAt path = .ok bytes ∧ parse? bytes = some pid

theorem read_run (path : Path) (h : Host) :
    ∃ r journal, (read path).run h = (r, { h with journal }) := by
  rw [read, Action.run_bind, Action.run_files]
  dsimp only
  cases h.files.contentAt path with
  | error e =>
    dsimp only
    split
    · exact ⟨.ok none, h.journal, rfl⟩
    · exact ⟨.error e, h.journal, rfl⟩
  | ok bytes =>
    dsimp only
    cases parse? bytes with
    | some pid => exact ⟨.ok (some pid), h.journal, rfl⟩
    | none => exact ⟨.ok none, _, rfl⟩

theorem read_of_records {h : Host} (records : Records h.files path pid) :
    (read path).run h = (.ok (some pid), h) := by
  obtain ⟨bytes, content, parsed⟩ := records
  rw [read, Action.run_bind, Action.run_files]
  dsimp only
  rw [content]
  dsimp only
  rw [parsed]
  rfl

theorem records_of_read {h k : Host} (ran : (read path).run h = (.ok (some pid), k)) :
    Records h.files path pid := by
  rw [read, Action.run_bind, Action.run_files] at ran
  dsimp only at ran
  rcases content : h.files.contentAt path with e | bytes
  · rw [content] at ran
    dsimp only at ran
    split at ran <;> cases ran
  · rw [content] at ran
    dsimp only at ran
    rcases parsed : parse? bytes with _ | n
    · rw [parsed] at ran
      cases ran
    · rw [parsed] at ran
      cases ran
      exact ⟨bytes, content, parsed⟩

/-- The numbers that processes have. -/
def IsPid (pid : Int) : Prop := 0 ≤ pid ∧ pid < 0x80000000

theorem parse?_line (number : IsPid pid) :
    parse? (toString pid ++ "\n").toUTF8.toList = some pid := by
  obtain ⟨n, rfl⟩ := Int.eq_ofNat_of_zero_le number.1
  have small : n < 10 ^ 10 := by
    have := number.2
    omega
  have short : (Nat.toDigits 10 n).length ≤ 10 :=
    (Nat.length_toDigits_le_iff (by decide) (by decide)).mpr small
  rw [parse?, fromUTF8?_toUTF8, Option.bind_some]
  exact WholeText.parse?_line (short.trans (by decide))

theorem write_run (path : Path) (number : IsPid pid) (h : Host) :
    ∃ r u, (write path pid).run h = (r, { h with files := u }) ∧ (r = .ok () → Records u path pid) := by
  rw [write, Action.run_bind, Action.run_changeFilesPartly]
  rcases h.files.makeDirectories path.parent with ⟨t, e | _⟩
  · exact ⟨.error e, t, rfl, nofun⟩
  · dsimp only
    rw [Action.run_changeFiles]
    dsimp only
    cases put : t.putFile path (toString pid ++ "\n").toUTF8.toList with
    | error e => exact ⟨.error e, t, rfl, nofun⟩
    | ok u =>
      exact ⟨.ok (), u, rfl, fun _ => ⟨_, FileTree.contentAt_of_putFile put, parse?_line number⟩⟩

/-- The same files, or without the pid file. -/
inductive Swept (path? : Option Path) (t : FileTree) : FileTree → Prop
  | kept : Swept path? t t
  | removed {path : Path} {u : FileTree} (here : path? = some path)
    (gone : t.removeFile path = .ok u) : Swept path? t u

/-- Whoever sweeps writes nothing. -/
theorem Swept.contentAt {bytes : List UInt8} (swept : Swept (some path) t u)
    (content : u.contentAt path = .ok bytes) : t.contentAt path = .ok bytes := by
  cases swept with
  | kept => exact content
  | removed here gone =>
    cases here
    exact absurd content (FileTree.contentAt_of_removeFile gone bytes)

theorem remove_run (path : Path) (h : Host) :
    ∃ r u, (remove path).run h = (r, { h with files := u }) ∧ Swept (some path) h.files u := by
  rw [remove, Action.run_bind, Action.run_files]
  dsimp only
  cases removed : h.files.removeFile path with
  | ok u => exact ⟨.ok (), u, rfl, .removed rfl removed⟩
  | error e =>
    dsimp only
    split
    · exact ⟨.ok (), h.files, rfl, .kept⟩
    · exact ⟨.error e, h.files, rfl, .kept⟩

end PidFile

namespace Guard

open PidFile

variable {name : String} {path : Path} {h : Host}

/-- What a look at the process of a number shows. -/
def inspected (h : Host) (pid : Int) : Option ProcessInfo :=
  (h.processes.find? fun r => r.pid == pid).bind ProcessRow.inspect?

/-- The pid file names a process that is alive and runs the program. -/
structure NamesLive (name : String) (path : Path) (h : Host) (pid : Int) (info : ProcessInfo) :
    Prop where
  records : Records h.files path pid
  seen : inspected h pid = some info
  running : info.isRunning name = true

theorem recorded_run (name : String) (path : Path) (h : Host) :
    ∃ r journal, (recorded name path).run h = (r, { h with journal }) := by
  obtain ⟨r, journal, ran⟩ := read_run path h
  rw [recorded, Action.run_bind, ran]
  rcases r with e | _ | pid
  · exact ⟨.error e, journal, rfl⟩
  · exact ⟨.ok none, journal, rfl⟩
  · exact ⟨.ok ((inspected h pid).filter fun p => p.isRunning name), journal, rfl⟩

theorem recorded_of_records {pid : Int} (records : Records h.files path pid) :
    (recorded name path).run h =
      (.ok ((inspected h pid).filter fun p => p.isRunning name), h) := by
  rw [recorded, Action.run_bind, read_of_records records]
  rfl

theorem recorded_of_namesLive {pid : Int} {info : ProcessInfo} (live : NamesLive name path h pid info) :
    (recorded name path).run h = (.ok (some info), h) := by
  rw [recorded_of_records live.records, live.seen]
  simp [live.running]

theorem pid_of_inspected {pid : Int} {info : ProcessInfo} (seen : inspected h pid = some info) :
    info.pid = pid := by
  obtain ⟨row, found, shown⟩ := Option.bind_eq_some_iff.mp seen
  have same : row.pid = pid := by simpa using List.find?_some found
  rw [← same]
  unfold ProcessRow.inspect? at shown
  split at shown
  · cases shown
  · split at shown <;> cases shown <;> rfl

theorem namesLive_of_recorded {info : ProcessInfo} {k : Host}
    (ran : (recorded name path).run h = (.ok (some info), k)) :
    NamesLive name path h info.pid info := by
  rw [recorded, Action.run_bind] at ran
  rcases reading : (PidFile.read path).run h with ⟨e | _ | pid, j⟩
  · rw [reading] at ran
    cases ran
  · rw [reading] at ran
    cases ran
  · obtain ⟨r, journal, silent⟩ := read_run path h
    obtain rfl : j = { h with journal } := congrArg Prod.snd (reading.symm.trans silent)
    rw [reading] at ran
    have kept : (inspected h pid).filter (fun p => p.isRunning name) = some info :=
      Except.ok.inj (congrArg Prod.fst ran)
    obtain ⟨seen, running⟩ := Option.filter_eq_some_iff.mp kept
    obtain rfl := pid_of_inspected seen
    exact ⟨records_of_read reading, seen, running⟩

theorem findRunning_eq_some {table : List ProcessInfo} {skipped : List Int} {p : ProcessInfo}
    (found : findRunning name table skipped = some p) :
    p ∈ table ∧ p.pid ∉ skipped ∧ p.isRunning name = true := by
  have fit := List.find?_some found
  rw [Bool.and_eq_true, Bool.not_eq_true', List.contains_eq_mem, decide_eq_false_iff_not] at fit
  exact ⟨List.mem_of_find?_eq_some found, fit⟩

theorem checkPidFile_run (name : String) (path : Path) (own : Int) (h : Host) :
    ∃ r u journal, (checkPidFile name path none own).run h = (r, { h with files := u, journal }) ∧
      Swept (some path) h.files u := by
  obtain ⟨r, journal, ran⟩ := read_run path h
  rw [checkPidFile, Action.run_bind, Action.run_mapError, ran]
  rcases r with e | _ | pid
  · exact ⟨.error (.file e), h.files, journal, rfl, .kept⟩
  · exact ⟨.ok (), h.files, journal, rfl, .kept⟩
  · dsimp only
    split
    · exact ⟨.ok (), h.files, journal, rfl, .kept⟩
    · obtain ⟨r, journal, ran⟩ := recorded_run name path { h with journal }
      rw [Action.run_bind, Action.run_mapError, ran]
      rcases r with e | _ | owner
      · exact ⟨.error (.file e), h.files, journal, rfl, .kept⟩
      · dsimp only
        rw [Action.info, Action.run_bind, Action.run_write]
        dsimp only
        rw [Action.run_mapError]
        obtain ⟨r, u, removed, swept⟩ := remove_run path { h with journal := journal ++
          [⟨.info, .general, "Removing stale pid file " ++ path.text⟩] }
        rw [removed]
        rcases r with e | _
        · exact ⟨.error (.file e), u, _, rfl, swept⟩
        · exact ⟨.ok (), u, _, rfl, swept⟩
      · exact ⟨.error (.alreadyRunning owner.pid name), h.files, journal, rfl, .kept⟩

theorem checkPidFile_of_namesLive {own pid : Int} {info : ProcessInfo} (other : pid ≠ own)
    (live : NamesLive name path h pid info) :
    (checkPidFile name path none own).run h = (.error (.alreadyRunning info.pid name), h) := by
  rw [checkPidFile, Action.run_bind, Action.run_mapError, read_of_records live.records]
  dsimp only
  rw [if_neg other, Action.run_bind, Action.run_mapError, recorded_of_namesLive live]
  rfl

/-- The guard after the pid file has been looked at. -/
def scan (name : String) (own : Int) (skipped : List Int) : Action GuardError Unit := do
  match findRunning name (← processes) (own :: skipped) with
  | some p => throw (.alreadyRunning p.pid name)
  | none => return ()

theorem ensureNotRunning_eq (name : String) (pidFile : Option Path) (own : Option Int)
    (skipped : List Int) (h : Host) :
    (ensureNotRunning name pidFile none own skipped).run h =
      match pidFile with
      | none => (scan name (own.getD h.pid) skipped).run h
      | some path =>
        (do
          checkPidFile name path none (own.getD h.pid)
          scan name (own.getD h.pid) skipped : Action GuardError Unit).run h := by
  cases pidFile <;> rfl

theorem scan_run (name : String) (own : Int) (skipped : List Int) (h : Host) :
    (∃ p, (scan name own skipped).run h = (.error (.alreadyRunning p name), h)) ∨
      (scan name own skipped).run h = (.ok (), h) ∧ ∀ row ∈ h.processes, row.pid ≠ own →
        row.pid ∉ skipped → row.snapshot.isRunning name = false := by
  have listed : (processes : Action GuardError _).run h =
      (.ok (h.processes.map ProcessRow.snapshot), h) := rfl
  rw [scan, Action.run_bind, listed]
  dsimp only
  cases found : findRunning name (h.processes.map ProcessRow.snapshot) (own :: skipped) with
  | some p => exact .inl ⟨_, rfl⟩
  | none =>
    refine .inr ⟨rfl, fun row member other apart => ?_⟩
    have idle := List.find?_eq_none.mp found row.snapshot (List.mem_map_of_mem member)
    have foreign : row.snapshot.pid ∉ own :: skipped := List.not_mem_cons_of_ne_of_not_mem other apart
    simpa [foreign] using idle

/-- The guard removes the pid file or changes no file, and whom it lets pass is the only one in the
table that runs the program. -/
theorem ensureNotRunning_run (name : String) (pidFile : Option Path) (skipped : List Int) (h : Host) :
    ∃ r u journal, (ensureNotRunning name pidFile none none skipped).run h =
        (r, { h with files := u, journal }) ∧
      Swept pidFile h.files u ∧
      (r = .ok () → ∀ row ∈ h.processes, row.pid ≠ h.pid → row.pid ∉ skipped →
        row.snapshot.isRunning name = false) := by
  rw [ensureNotRunning_eq, Option.getD_none]
  cases pidFile with
  | none =>
    dsimp only
    rcases scan_run name h.pid skipped h with ⟨p, ran⟩ | ⟨ran, alone⟩
    · exact ⟨.error (.alreadyRunning p name), h.files, h.journal, ran, .kept, nofun⟩
    · exact ⟨.ok (), h.files, h.journal, ran, .kept, fun _ => alone⟩
  | some path =>
    obtain ⟨r, u, journal, ran, swept⟩ := checkPidFile_run name path h.pid h
    dsimp only
    rw [Action.run_bind, ran]
    rcases r with e | _
    · exact ⟨.error e, u, journal, rfl, swept, nofun⟩
    · rcases scan_run name h.pid skipped { h with files := u, journal } with
        ⟨p, ran⟩ | ⟨ran, alone⟩
      · exact ⟨.error (.alreadyRunning p name), u, journal, ran, swept, nofun⟩
      · exact ⟨.ok (), u, journal, ran, swept, fun _ => alone⟩

/-- The guard stops at a pid file that names another process which runs the program. -/
theorem ensureNotRunning_of_namesLive {pid : Int} {info : ProcessInfo} (own : Option Int)
    (skipped : List Int) (other : pid ≠ own.getD h.pid) (live : NamesLive name path h pid info) :
    (ensureNotRunning name (some path) none own skipped).run h =
      (.error (.alreadyRunning info.pid name), h) := by
  rw [ensureNotRunning_eq]
  dsimp only
  rw [Action.run_bind, checkPidFile_of_namesLive other live]

end Guard

end LinkMonitor
