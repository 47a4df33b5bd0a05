import LinkMonitor.Daemon.Service
import LinkMonitor.Proofs.Daemon.Guard
import LinkMonitor.Proofs.Daemon.Ledger
import Mathlib.Logic.Function.Basic
import Mathlib.Logic.Relation

/-!
# At most one daemon

Daemons start, pass their guard or are refused, write the pid file, exit and remove it, while any of
them may be killed at any time and any other program may come to have the number of one that is gone.
The steps that a daemon takes are those of its service. That it passes its guard is one step, so whoever
does is alone among the daemons that are alive, and those that come later find it there.
-/

namespace LinkMonitor

open PidFile

namespace Service

variable {config : DaemonConfig} {h k : Host}

/-- A service that its guard refuses ends there. -/
theorem run_of_refused {e : ServiceError} (refused : (passGuard config).run h = (.error e, k))
    (around : Surroundings) (fuel : Nat) : run around config fuel h = ({ status := .error e }, k) := by
  rw [run, claim, Action.run_bind, refused]

theorem passGuard_run (config : DaemonConfig) (h : Host) :
    ∃ r u journal, (passGuard config).run h = (r, { h with files := u, journal }) ∧
      Swept config.pidFile h.files u ∧
      (r = .ok () → ∀ row ∈ h.processes, row.pid ≠ h.pid → row.pid ≠ h.parentPid →
        row.snapshot.isRunning config.daemonName = false) := by
  have parent : (Guard.parentPid : Action ServiceError Int).run h = (.ok h.parentPid, h) := rfl
  obtain ⟨r, u, journal, ran, swept, alone⟩ :=
    Guard.ensureNotRunning_run config.daemonName config.pidFile [h.parentPid] h
  rw [passGuard, Action.run_bind, parent]
  dsimp only
  rw [Action.run_mapError, ran]
  rcases r with e | _
  · exact ⟨.error (.guard e), u, journal, rfl, swept, nofun⟩
  · refine ⟨.ok (), u, journal, rfl, swept, fun _ row member other apart => ?_⟩
    exact alone rfl row member other (by simpa using apart)

theorem passGuard_of_namesLive {path : Path} {pid : Int} {info : ProcessInfo}
    (here : config.pidFile = some path) (other : pid ≠ h.pid)
    (live : Guard.NamesLive config.daemonName path h pid info) :
    (passGuard config).run h =
      (.error (.guard (.alreadyRunning info.pid config.daemonName)), h) := by
  have parent : (Guard.parentPid : Action ServiceError Int).run h = (.ok h.parentPid, h) := rfl
  rw [passGuard, Action.run_bind, parent]
  dsimp only
  rw [Action.run_mapError, here, Guard.ensureNotRunning_of_namesLive none _ other live]

theorem record_run (config : DaemonConfig) (number : IsPid h.pid) :
    ∃ r u, (record config).run h = (r, { h with files := u }) ∧
      (r = .ok () → ∀ path, config.pidFile = some path → Records u path h.pid) := by
  have own : (Guard.ownPid : Action ServiceError Int).run h = (.ok h.pid, h) := rfl
  rw [record]
  cases config.pidFile with
  | none => exact ⟨.ok (), h.files, rfl, nofun⟩
  | some path =>
    dsimp only
    rw [Action.run_bind, own]
    dsimp only
    obtain ⟨r, u, ran, records⟩ := write_run path number h
    rw [Action.run_mapError, ran]
    rcases r with e | _
    · exact ⟨.error (.file e), u, rfl, nofun⟩
    · refine ⟨.ok (), u, rfl, ?_⟩
      rintro _ _ ⟨⟩
      exact records rfl

theorem release_run (config : DaemonConfig) (h : Host) :
    ∃ r u, (release config).run h = (r, { h with files := u }) ∧ Swept config.pidFile h.files u := by
  rw [release]
  cases config.pidFile with
  | none => exact ⟨.ok (), h.files, rfl, .kept⟩
  | some path =>
    dsimp only
    obtain ⟨r, u, ran, swept⟩ := remove_run path h
    rw [Action.run_mapError, ran]
    rcases r with e | _
    · exact ⟨.error (.file e), u, rfl, swept⟩
    · exact ⟨.ok (), u, rfl, swept⟩

end Service

/-! ### Processes of a machine -/

/-- A process that is taken for the program by whoever lists all processes or looks at it alone. -/
structure ProcessRow.Runs (name : String) (row : ProcessRow) : Prop where
  listed : row.snapshot.isRunning name = true
  inspected : ∃ info, row.inspect? = some info ∧ info.isRunning name = true

/-- How far a process has come with its service. -/
inductive Phase
  /-- The process runs some other program. -/
  | bystander
  | starting
  | refused
  /-- Past its guard, with the pid file to be written next. -/
  | admitted
  | serving
  /-- In its exit, with the pid file to be removed next. -/
  | leaving
  /-- Nothing is left to do but to end. -/
  | finished
  deriving DecidableEq

/-- Whether a daemon has passed its guard. -/
def Phase.hasPassed : Phase → Bool
  | bystander | starting | refused => false
  | admitted | serving | leaving | finished => true

structure Process where
  row : ProcessRow
  phase : Phase

/-- A process when it appears: a daemon before its guard, or a bystander, which may look like
anything. -/
structure Process.IsNew (config : DaemonConfig) (pid : Int) (p : Process) : Prop where
  own : p.row.pid = pid
  phase : p.phase = .bystander ∨
    p.phase = .starting ∧ IsPid pid ∧ p.row.Runs config.daemonName

theorem Process.IsNew.waiting {config : DaemonConfig} {pid : Int} {p : Process}
    (new : p.IsNew config pid) : p.phase.hasPassed = false ∧ p.phase ≠ .serving := by
  rcases new.phase with phase | ⟨phase, -⟩
  · rw [phase]
    decide
  · rw [phase]
    decide

/-- The files, and the processes that are alive, by their numbers. -/
structure Machine where
  files : FileTree
  live : Int → Option Process

namespace Machine

/-- What the process of this number finds around it. Its parent, which its guard does not count, is no
daemon. -/
structure Shows (s : Machine) (pid : Int) (h : Host) : Prop where
  files : h.files = s.files
  pid : h.pid = pid
  processes : ∀ row, row ∈ h.processes ↔ ∃ i p, s.live i = some p ∧ p.row = row
  parent : ∀ p, s.live h.parentPid = some p → p.phase = .bystander

/-- The process `p` of this number has come to another phase, and the files have changed. -/
def turn (s : Machine) (pid : Int) (p : Process) (phase : Phase) (files : FileTree) : Machine :=
  ⟨files, Function.update s.live pid (some { p with phase })⟩

def kill (s : Machine) (pid : Int) (files : FileTree) : Machine :=
  ⟨files, Function.update s.live pid none⟩

/-- A step that the process of this number takes, or that it is the subject of. -/
inductive Step (config : DaemonConfig) (s : Machine) (pid : Int) : Machine → Prop
  | appear {p : Process} (free : s.live pid = none) (new : p.IsNew config pid) :
    Step config s pid ⟨s.files, Function.update s.live pid (some p)⟩
  | guard {p : Process} {h k : Host} {r : Except ServiceError Unit} (here : s.live pid = some p)
    (phase : p.phase = .starting) (shows : s.Shows pid h)
    (ran : (Service.passGuard config).run h = (r, k)) :
    Step config s pid (s.turn pid p (if r.isOk then .admitted else .refused) k.files)
  | record {p : Process} {h k : Host} {r : Except ServiceError Unit} (here : s.live pid = some p)
    (phase : p.phase = .admitted) (files : h.files = s.files) (own : h.pid = pid)
    (ran : (Service.record config).run h = (r, k)) :
    Step config s pid (s.turn pid p (if r.isOk then .serving else .finished) k.files)
  /-- A process that is killed while it writes its pid file may leave anything there. -/
  | tear {p : Process} {files : FileTree} (here : s.live pid = some p) (phase : p.phase = .admitted) :
    Step config s pid (s.kill pid files)
  | exit {p : Process} (here : s.live pid = some p) (phase : p.phase = .serving) :
    Step config s pid (s.turn pid p .leaving s.files)
  | release {p : Process} {h k : Host} {r : Except ServiceError Unit} (here : s.live pid = some p)
    (phase : p.phase = .leaving) (files : h.files = s.files)
    (ran : (Service.release config).run h = (r, k)) :
    Step config s pid (s.turn pid p .finished k.files)
  /-- A process ends or is killed. -/
  | finish {p : Process} (here : s.live pid = some p) : Step config s pid (s.kill pid s.files)
  /-- Other files come, go and change. -/
  | elsewhere {files : FileTree} (same : ∀ path, config.pidFile = some path →
      files.contentAt path = s.files.contentAt path) : Step config s pid ⟨files, s.live⟩

/-- Any number of steps. -/
def Reaches (config : DaemonConfig) : Machine → Machine → Prop :=
  Relation.ReflTransGen fun s t => ∃ pid, Step config s pid t

/-- What holds of all processes at any time. -/
structure Orderly (config : DaemonConfig) (s : Machine) : Prop where
  own : ∀ i p, s.live i = some p → p.row.pid = i
  daemon : ∀ i p, s.live i = some p → p.phase ≠ .bystander → IsPid i ∧ p.row.Runs config.daemonName
  single : ∀ i j p q, s.live i = some p → s.live j = some q → p.phase.hasPassed = true →
    q.phase.hasPassed = true → i = j
  recorded : ∀ i p path, s.live i = some p → p.phase = .serving → config.pidFile = some path →
    Records s.files path i

variable {config : DaemonConfig} {s t : Machine} {pid : Int} {p : Process} {files : FileTree}

theorem update_eq_some {live : Int → Option Process} {i : Int} {q : Process} {new : Option Process}
    (found : Function.update live pid new i = some q) :
    i = pid ∧ new = some q ∨ i ≠ pid ∧ live i = some q := by
  by_cases here : i = pid
  · subst here
    rw [Function.update_self] at found
    exact .inl ⟨rfl, found⟩
  · rw [Function.update_of_ne here] at found
    exact .inr ⟨here, found⟩

namespace Orderly

theorem of_new (new : ∀ i p, s.live i = some p → p.IsNew config i) : Orderly config s := by
  constructor
  · exact fun i p here => (new i p here).own
  · exact fun i p here daemon => (new i p here).phase.elim (absurd · daemon) And.right
  · intro i j p q here _ passed
    rw [(new i p here).waiting.1] at passed
    cases passed
  · exact fun i p path here serving => absurd serving (new i p here).waiting.2

/-- Files may change as long as the pid file of a daemon that serves keeps its number. -/
theorem of_files (orderly : Orderly config s)
    (kept : ∀ i p path, s.live i = some p → p.phase = .serving → config.pidFile = some path →
      Records files path i) : Orderly config ⟨files, s.live⟩ :=
  ⟨orderly.own, orderly.daemon, orderly.single, kept⟩

/-- A process comes, or the one that was there is now another one. -/
theorem put (orderly : Orderly config s) (own : p.row.pid = pid)
    (daemon : p.phase ≠ .bystander → IsPid pid ∧ p.row.Runs config.daemonName)
    (alone : p.phase.hasPassed = true → ∀ i q, s.live i = some q → q.phase.hasPassed = true → i = pid)
    (recorded : p.phase = .serving → ∀ path, config.pidFile = some path →
      Records s.files path pid) :
    Orderly config ⟨s.files, Function.update s.live pid (some p)⟩ := by
  constructor
  · intro i q found
    rcases update_eq_some found with ⟨rfl, ⟨⟩⟩ | ⟨-, found⟩
    · exact own
    · exact orderly.own i q found
  · intro i q found
    rcases update_eq_some found with ⟨rfl, ⟨⟩⟩ | ⟨-, found⟩
    · exact daemon
    · exact orderly.daemon i q found
  · intro i j q r foundq foundr passedq passedr
    rcases update_eq_some foundq with ⟨rfl, ⟨⟩⟩ | ⟨-, beforeq⟩ <;>
      rcases update_eq_some foundr with ⟨rfl, ⟨⟩⟩ | ⟨-, beforer⟩
    · rfl
    · exact (alone passedq j r beforer passedr).symm
    · exact alone passedr i q beforeq passedq
    · exact orderly.single i j q r beforeq beforer passedq passedr
  · intro i q path found serving
    rcases update_eq_some found with ⟨rfl, ⟨⟩⟩ | ⟨-, found⟩
    · exact recorded serving path
    · exact orderly.recorded i q path found serving

theorem remove (orderly : Orderly config s) (pid : Int) : Orderly config (s.kill pid s.files) := by
  have kept {i : Int} {q : Process} (found : Function.update s.live pid none i = some q) :
      s.live i = some q := by
    rcases update_eq_some found with ⟨-, ⟨⟩⟩ | ⟨-, found⟩
    exact found
  constructor
  · exact fun i q found => orderly.own i q (kept found)
  · exact fun i q found => orderly.daemon i q (kept found)
  · exact fun i j q r foundq foundr => orderly.single i j q r (kept foundq) (kept foundr)
  · exact fun i q path found => orderly.recorded i q path (kept found)

/-- Beside a daemon that has passed its guard and does not serve, none serves. -/
theorem none_serves (orderly : Orderly config s) (here : s.live pid = some p)
    (passed : p.phase.hasPassed = true) (idle : p.phase ≠ .serving) {i : Int} {q : Process}
    (found : s.live i = some q) : q.phase ≠ .serving := by
  intro serving
  have same : i = pid := orderly.single i pid q p found here (by rw [serving]; rfl) passed
  subst same
  rw [here] at found
  cases found
  exact idle serving

/-- The table shows a daemon to whoever looks at it, alone or among all. -/
theorem inspected_eq (orderly : Orderly config s) {h : Host} (shows : s.Shows pid h) {i : Int}
    {q : Process} (found : s.live i = some q) : Guard.inspected h i = q.row.inspect? := by
  have own := orderly.own i q found
  have listed : q.row ∈ h.processes := (shows.processes q.row).mpr ⟨i, q, found, rfl⟩
  cases row : h.processes.find? fun r => r.pid == i with
  | none => exact absurd own (by simpa using List.find?_eq_none.mp row q.row listed)
  | some r =>
    obtain ⟨j, q', found', rfl⟩ := (shows.processes r).mp (List.mem_of_find?_eq_some row)
    have same : q'.row.pid = i := by simpa using List.find?_some row
    rw [orderly.own j q' found'] at same
    subst same
    rw [found] at found'
    cases found'
    rw [Guard.inspected, row, Option.bind_some]

/-- A guard that is passed leaves no other daemon that has passed its own. -/
theorem alone_of_passGuard (orderly : Orderly config s) {h k : Host} (shows : s.Shows pid h)
    (ran : (Service.passGuard config).run h = (.ok (), k)) (i : Int) (q : Process)
    (found : s.live i = some q) (passed : q.phase.hasPassed = true) : i = pid := by
  obtain ⟨r, u, journal, ran', -, alone⟩ := Service.passGuard_run config h
  rw [ran] at ran'
  cases ran'
  by_contra other
  have daemon : q.phase ≠ .bystander := by
    intro bystander
    rw [bystander] at passed
    cases passed
  have own := orderly.own i q found
  have listed : q.row ∈ h.processes := (shows.processes q.row).mpr ⟨i, q, found, rfl⟩
  have notSelf : q.row.pid ≠ h.pid := by rwa [own, shows.pid]
  have notParent : q.row.pid ≠ h.parentPid := by
    intro parent
    exact daemon (shows.parent q (by rw [← parent, own, found]))
  have running := (orderly.daemon i q found daemon).2.listed
  rw [alone rfl q.row listed notSelf notParent] at running
  cases running

/-- A guard leaves the pid file to a daemon that serves. -/
theorem records_of_passGuard (orderly : Orderly config s) {h k : Host} {r : Except ServiceError Unit}
    (shows : s.Shows pid h) (ran : (Service.passGuard config).run h = (r, k)) {i : Int} {q : Process}
    {path : Path} (found : s.live i = some q) (other : i ≠ pid) (serving : q.phase = .serving)
    (here : config.pidFile = some path) : Records k.files path i := by
  have records := orderly.recorded i q path found serving here
  obtain ⟨info, inspected, running⟩ :=
    (orderly.daemon i q found (by rw [serving]; decide)).2.inspected
  have live : Guard.NamesLive config.daemonName path h i info := by
    refine ⟨?_, ?_, running⟩
    · rwa [shows.files]
    · rwa [orderly.inspected_eq shows found]
  have refused := Service.passGuard_of_namesLive here (shows.pid ▸ other) live
  rw [ran] at refused
  cases refused
  rwa [shows.files]

/-- A daemon goes on, in files in which those that serve find their numbers. -/
theorem turn (orderly : Orderly config s) {phase : Phase} (here : s.live pid = some p)
    (daemon : p.phase ≠ .bystander)
    (kept : ∀ i q path, s.live i = some q → q.phase = .serving → config.pidFile = some path →
      Records files path i)
    (alone : phase.hasPassed = true → ∀ i q, s.live i = some q → q.phase.hasPassed = true → i = pid)
    (recorded : phase = .serving → ∀ path, config.pidFile = some path → Records files path pid) :
    Orderly config (s.turn pid p phase files) :=
  (orderly.of_files kept).put (orderly.own pid p here) (fun _ => orderly.daemon pid p here daemon)
    alone recorded

/-- A daemon that has passed its guard goes on, alone with its pid file. -/
theorem turn_of_passed (orderly : Orderly config s) {phase : Phase} (here : s.live pid = some p)
    (passed : p.phase.hasPassed = true) (idle : p.phase ≠ .serving)
    (recorded : phase = .serving → ∀ path, config.pidFile = some path → Records files path pid) :
    Orderly config (s.turn pid p phase files) := by
  refine orderly.turn here ?_ (fun i q path found serving => ?_) (fun _ i q found other => ?_) recorded
  · intro bystander
    rw [bystander] at passed
    cases passed
  · exact absurd serving (orderly.none_serves here passed idle found)
  · exact orderly.single i pid q p found here other passed

theorem step (orderly : Orderly config s) (step : Step config s pid t) : Orderly config t := by
  cases step with
  | appear free new =>
    obtain ⟨unpassed, idle⟩ := new.waiting
    refine orderly.put new.own (fun daemon => ?_) (fun passed => ?_) fun serving => ?_
    · exact new.phase.elim (absurd · daemon) And.right
    · rw [unpassed] at passed
      cases passed
    · exact absurd serving idle
  | @guard p h k r here phase shows ran =>
    refine orderly.turn here (by rw [phase]; decide) (fun i q path found serving => ?_)
      (fun passed => ?_) fun serving => ?_
    · have other : i ≠ pid := by
        rintro rfl
        rw [here] at found
        cases found
        rw [phase] at serving
        cases serving
      exact orderly.records_of_passGuard shows ran found other serving
    · cases r with
      | ok _ => exact orderly.alone_of_passGuard shows ran
      | error e => cases passed
    · cases r <;> cases serving
  | @record p h k r here phase files own ran =>
    have number := (orderly.daemon pid p here (by rw [phase]; decide)).1
    obtain ⟨r, u, ran', records⟩ := Service.record_run config (own ▸ number : IsPid h.pid)
    rw [ran] at ran'
    cases ran'
    refine orderly.turn_of_passed here (by rw [phase]; rfl) (by rw [phase]; decide) fun serving => ?_
    cases r with
    | ok _ => exact own ▸ records rfl
    | error e => cases serving
  | tear here phase =>
    refine (orderly.of_files fun i q path found serving => ?_).remove pid
    exact absurd serving
      (orderly.none_serves here (by rw [phase]; rfl) (by rw [phase]; decide) found)
  | exit here phase =>
    refine orderly.turn here (by rw [phase]; decide) orderly.recorded
      (fun _ i q found passed => ?_) nofun
    exact orderly.single i pid q _ found here passed (by rw [phase]; rfl)
  | release here phase files ran =>
    exact orderly.turn_of_passed here (by rw [phase]; rfl) (by rw [phase]; decide) nofun
  | finish here => exact orderly.remove pid
  | elsewhere same =>
    refine orderly.of_files fun i q path found serving here => ?_
    obtain ⟨bytes, content, parsed⟩ := orderly.recorded i q path found serving here
    exact ⟨bytes, (same path here).trans content, parsed⟩

theorem of_reaches (orderly : Orderly config s) (reached : Reaches config s t) :
    Orderly config t := by
  induction reached with
  | refl => exact orderly
  | tail _ further ih =>
    obtain ⟨pid, further⟩ := further
    exact ih.step further

end Orderly

/-- What comes into the pid file is written by a daemon that has passed its guard. -/
theorem written_by_admitted {path : Path} {bytes : List UInt8} (step : Step config s pid t)
    (here : config.pidFile = some path) (content : t.files.contentAt path = .ok bytes) :
    s.files.contentAt path = .ok bytes ∨ ∃ p, s.live pid = some p ∧ p.phase = .admitted := by
  cases step with
  | appear | exit | finish => exact .inl content
  | @guard p h k r live phase shows ran =>
    obtain ⟨r, u, journal, ran', swept, -⟩ := Service.passGuard_run config h
    rw [ran] at ran'
    cases ran'
    rw [here] at swept
    rw [← shows.files]
    exact .inl (swept.contentAt content)
  | record live phase | tear live phase => exact .inr ⟨_, live, phase⟩
  | @release p h k r live phase files ran =>
    obtain ⟨r, u, ran', swept⟩ := Service.release_run config h
    rw [ran] at ran'
    cases ran'
    rw [here] at swept
    rw [← files]
    exact .inl (swept.contentAt content)
  | elsewhere same => exact .inl ((same path here).symm.trans content)

end Machine

/-- Whatever processes come, go and take each other's numbers, and whatever is in the pid file at
first: of the daemons that are alive at most one has passed its guard. One that is refused ends at its
guard, which at most removes the pid file, and nobody writes there but who has passed. As long as a
daemon serves, its number is what is read from the pid file. -/
theorem one_daemon (config : DaemonConfig) {s t : Machine}
    (new : ∀ pid p, s.live pid = some p → p.IsNew config pid) (reached : s.Reaches config t) :
    (∀ i j p q, t.live i = some p → t.live j = some q → p.phase.hasPassed = true →
      q.phase.hasPassed = true → i = j) ∧
    (∀ pid p path h, t.live pid = some p → p.phase = .serving → config.pidFile = some path →
      h.files = t.files → (PidFile.read path).run h = (.ok (some pid), h)) ∧
    (∀ pid u path bytes, t.Step config pid u → config.pidFile = some path →
      u.files.contentAt path = .ok bytes → t.files.contentAt path = .ok bytes ∨
        ∃ p, t.live pid = some p ∧ p.phase = .admitted) ∧
    ∀ h k e, (Service.passGuard config).run h = (.error e, k) →
      PidFile.Swept config.pidFile h.files k.files ∧
      ∀ around fuel, Service.run around config fuel h = ({ status := .error e }, k) := by
  have orderly : t.Orderly config := (Machine.Orderly.of_new new).of_reaches reached
  refine ⟨orderly.single, ?_, ?_, ?_⟩
  · intro pid p path h live serving here files
    have records := orderly.recorded pid p path live serving here
    exact PidFile.read_of_records (files ▸ records)
  · exact fun pid u path bytes step here content => Machine.written_by_admitted step here content
  · intro h k e refused
    obtain ⟨r, u, journal, ran, swept, -⟩ := Service.passGuard_run config h
    rw [refused] at ran
    cases ran
    exact ⟨swept, Service.run_of_refused refused⟩

namespace Machine

/-- A daemon that has just started. -/
def newDaemon (pid : Int) : Process := ⟨{ pid, name := some "netpulsed" }, .starting⟩

def pidPath : Path := ⟨"", ["pid"]⟩

def pidConfig : DaemonConfig := { ControlLoop.sampleConfig with pidFile := some pidPath }

/-- A machine with nothing but one daemon. -/
def lone (phase : Phase) (files : FileTree) : Machine :=
  ⟨files, Function.update (fun _ => none) 5 (some { newDaemon 5 with phase })⟩

theorem newDaemon_isNew {pid : Int} (number : IsPid pid) : (newDaemon pid).IsNew pidConfig pid :=
  ⟨rfl, .inr ⟨rfl, number, rfl, _, rfl, rfl⟩⟩

theorem row_of_lone {phase : Phase} {files : FileTree} {i : Int} {p : Process}
    (found : (lone phase files).live i = some p) : p.row = (newDaemon 5).row := by
  rw [lone] at found
  dsimp only at found
  rcases update_eq_some found with ⟨-, ⟨⟩⟩ | ⟨-, ⟨⟩⟩
  rfl

theorem turn_lone (phase next : Phase) (files u : FileTree) :
    (lone phase files).turn 5 { newDaemon 5 with phase } next u = lone next u := by
  simp only [turn, lone, Function.update_idem]

theorem record_pidConfig (h : Host) (empty : h.files = {}) :
    ((Service.record pidConfig).run h).1 = .ok () := by
  have made : h.files.makeDirectories pidPath.parent = (h.files, .ok ()) := by
    rw [empty]
    have here : ({} : FileTree).resolve pidPath.parent = .ok [] := rfl
    exact FileTree.makeDirectories_of_directory here rfl
  show (Action.run ((PidFile.write pidPath h.pid).mapError ServiceError.file) h).1 = _
  rw [Action.run_mapError, PidFile.write, Action.run_bind, Action.run_changeFilesPartly, made, empty]
  rfl

/-- On an empty machine a daemon comes to serve. -/
theorem exists_serving : ∃ u, Reaches pidConfig ⟨{}, fun _ => none⟩ (lone .serving u) := by
  let first : Host := { pid := 5, parentPid := 1, processes := [(newDaemon 5).row] }
  have shown : (lone .starting {}).Shows 5 first := by
    refine ⟨rfl, rfl, fun row => ⟨fun member => ?_, ?_⟩, fun p (found : none = some p) => ?_⟩
    · exact ⟨5, newDaemon 5, rfl, (List.mem_singleton.mp member).symm⟩
    · rintro ⟨i, p, found, rfl⟩
      exact List.mem_singleton.mpr (row_of_lone found)
    · cases found
  have started : Step pidConfig ⟨{}, fun _ => none⟩ 5 (lone .starting {}) :=
    .appear rfl (newDaemon_isNew ⟨by decide, by decide⟩)
  have passed : Step pidConfig (lone .starting {}) 5 (lone .admitted {}) :=
    turn_lone .starting .admitted {} {} ▸ .guard rfl rfl shown rfl
  obtain ⟨r, u, ran, -⟩ := Service.record_run (h := { pid := 5 }) pidConfig ⟨by decide, by decide⟩
  have written := record_pidConfig { pid := 5 } rfl
  rw [ran] at written
  obtain rfl : r = .ok () := written
  have recorded : Step pidConfig (lone .admitted {}) 5 (lone .serving u) :=
    turn_lone .admitted .serving {} u ▸ .record rfl rfl rfl rfl ran
  exact ⟨u, .tail (.tail (.single ⟨5, started⟩) ⟨5, passed⟩) ⟨5, recorded⟩⟩

/-- A second daemon that starts while the first one serves is refused, and the pid file stays. -/
theorem one_daemon_twice :
    ∃ t : Machine, Reaches pidConfig ⟨{}, fun _ => none⟩ t ∧
      (∃ p, t.live 5 = some p ∧ p.phase = .serving) ∧
      (∃ q, t.live 6 = some q ∧ q.phase = .refused) ∧
      (PidFile.read pidPath).run { files := t.files } = (.ok (some 5), { files := t.files }) := by
  obtain ⟨u, serving⟩ := exists_serving
  let rivals : Machine := ⟨u, Function.update (lone .serving u).live 6 (some (newDaemon 6))⟩
  let second : Host :=
    { files := u, pid := 6, parentPid := 1, processes := [(newDaemon 5).row, (newDaemon 6).row] }
  have shown : rivals.Shows 6 second := by
    refine ⟨rfl, rfl, fun row => ⟨fun member => ?_, ?_⟩, fun p (found : none = some p) => ?_⟩
    · rcases List.mem_pair.mp member with rfl | rfl
      · exact ⟨5, _, rfl, rfl⟩
      · exact ⟨6, _, rfl, rfl⟩
    · rintro ⟨i, p, found, rfl⟩
      rcases update_eq_some found with ⟨-, ⟨⟩⟩ | ⟨-, found⟩
      · exact List.mem_pair.mpr (.inr rfl)
      · exact List.mem_pair.mpr (.inl (row_of_lone found))
    · cases found
  have started : Step pidConfig (lone .serving u) 6 rivals :=
    .appear rfl (newDaemon_isNew ⟨by decide, by decide⟩)
  obtain ⟨r, k, ran⟩ : ∃ r k, (Service.passGuard pidConfig).run second = (r, k) := ⟨_, _, rfl⟩
  have guarded : Step pidConfig rivals 6
      (rivals.turn 6 (newDaemon 6) (if r.isOk then .admitted else .refused) k.files) :=
    .guard rfl rfl shown ran
  have reached := (serving.tail ⟨6, started⟩).tail ⟨6, guarded⟩
  obtain ⟨single, reads, -, -⟩ := one_daemon pidConfig
    (fun pid p (found : none = some p) => by cases found) reached
  cases r with
  | ok _ => exact absurd (single 5 6 _ _ rfl rfl rfl rfl) (by decide)
  | error e =>
    exact ⟨_, reached, ⟨_, rfl, rfl⟩, ⟨_, rfl, rfl⟩, reads 5 _ pidPath _ rfl rfl rfl rfl⟩

end Machine

end LinkMonitor
