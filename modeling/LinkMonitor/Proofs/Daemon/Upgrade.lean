import LinkMonitor.Proofs.Command.Maintenance
import LinkMonitor.Proofs.Daemon.ExitStatus
import LinkMonitor.Proofs.Daemon.Pass

/-!
# A store that is migrated under a running daemon

A save gives the file the version of the store that the daemon has in hand, and a reload gives this store
the version of the file. So if the file is migrated in the meantime, the first of the two decides which
version remains.
-/

namespace LinkMonitor

/-- The versions of the store in hand and of its file. -/
structure Versions where
  store : FormatVersion
  file : FormatVersion

namespace Versions

def next (v : Versions) : LoopEvent → Versions
  | .save _ (.ok _) => ⟨v.store, v.store⟩
  | .reload (.ok _) => ⟨v.file, v.file⟩
  | _ => v

theorem next_of_isQuiet (v : Versions) {e : LoopEvent} (quiet : e.isQuiet = true) : v.next e = v := by
  cases e <;> first | rfl | cases quiet

theorem foldl_next_of_isQuiet (v : Versions) {es : List LoopEvent}
    (quiet : ∀ e ∈ es, e.isQuiet = true) : es.foldl next v = v := by
  refine List.foldlRecOn es next (motive := fun later => later = v) rfl fun later same e member => ?_
  rw [next_of_isQuiet later (quiet e member), same]

/-- Versions that agree stay as they are. -/
theorem foldl_next_of_same (version : FormatVersion) (es : List LoopEvent) :
    es.foldl next ⟨version, version⟩ = ⟨version, version⟩ := by
  refine List.foldl_fixed' (fun e => ?_) es
  unfold next
  split <;> rfl

end Versions

/-- A save that works comes before all reloads that work. -/
def savesFirst : List LoopEvent → Bool
  | [] => false
  | .save _ (.ok _) :: _ => true
  | .reload (.ok _) :: _ => false
  | _ :: es => savesFirst es

/-- The first save or reload that works decides about the version of the file. -/
theorem Versions.file_foldl_next (v : Versions) (es : List LoopEvent) :
    (es.foldl next v).file = if savesFirst es then v.store else v.file := by
  fun_induction savesFirst es with
  | case1 => rfl
  | case2 isLast records es =>
    rw [List.foldl_cons, next, foldl_next_of_same]
    rfl
  | case3 records es =>
    rw [List.foldl_cons, next, foldl_next_of_same]
    rfl
  | case4 e es noSave noReload ih =>
    have same : v.next e = v := by
      unfold next
      split
      · next isLast records => exact absurd rfl (noSave isLast records)
      · next records => exact absurd rfl (noReload records)
      · rfl
    rw [List.foldl_cons, same, ih]

namespace ControlLoop

open Step

variable {around : Surroundings} {config : DaemonConfig} {l l' m : ControlLoop} {h h' k : Host}
  {v : Versions}

/-! ### What goes on from some time -/

/-- Operations, in any order and with any result, lead from the first loop and host to the others. -/
inductive Onward (around : Surroundings) (l : ControlLoop) (h : Host) : ControlLoop → Host → Prop
  | refl : Onward around l h l h
  | perform {m : ControlLoop} {k : Host} {l' : ControlLoop} {h' : Host} {r : Except LoopError Unit}
      (o : Operation) (before : Onward around l h m k)
      (ran : (o.perform around).run m k = (r, l', h')) : Onward around l h l' h'

/-- The rest of a run is made of operations. -/
theorem Onward.of_passes {fuel : Nat} {r : Except LoopError (Option Nat)}
    (ran : (passes around fuel).run l h = (r, l', h')) : Onward around l h l' h' := by
  have working : Maintains (Onward around l h) (fun _ => Onward around l h) (work around fuel) :=
    work_maintains (fun o => maintains_of_result fun before ran => before.perform o ran) fuel
  rw [passes, onStoreError_run] at ran
  rcases worked : (work around fuel).run l h with ⟨x, m, k⟩
  have after := working.result .refl worked
  rw [worked] at ran
  rcases x with e | status
  · cases e with
    | store e =>
      cases ran
      exact (after.perform (.note .error "Fatal store error, stopping the daemon") rfl).perform
        (.enter .stopped) rfl
    | _ =>
      cases ran
      exact after
  · cases ran
    exact after

/-! ### The versions in the course of a run -/

/-- The store in hand belongs to the file, and these are their versions. -/
structure Versioned (config : DaemonConfig) (v : Versions) (l : ControlLoop) (h : Host) : Prop where
  placed : Placed config l
  store : l.store.map Store.version = some v.store
  file : Store.HasVersion h.files config.storePath v.file

theorem Versioned.of_effect {o : Operation} {r : Except LoopError Unit}
    (alone : LeavesFile around config.storePath) (versioned : Versioned config v l h)
    (effect : Effect around l h o r l' h') :
    ∃ es, l'.events = l.events ++ es ∧ Versioned config (es.foldl Versions.next v) l' h' := by
  have placed := versioned.placed.of_effect effect
  obtain ⟨⟨rfl, s, store, own⟩, version, file⟩ := versioned
  have known : s.version = v.store := by
    rw [store] at version
    exact Option.some.inj version
  cases effect with
  | quiet idle calm others =>
    obtain ⟨es, quiet, events⟩ := calm.events
    refine ⟨es, events, placed, ?_, ?_⟩
    · rw [Versions.foldl_next_of_isQuiet v quiet, calm.store, version]
    · rw [Versions.foldl_next_of_isQuiet v quiet]
      exact file.of_contentAt (others.contentAt alone)
  | @appended _ m _ _ _ batch checked begun calm others =>
    obtain ⟨es, quiet, events⟩ := calm.events
    have same : (es ++ [LoopEvent.batch batch]).foldl Versions.next v = v := by
      rw [List.foldl_append, Versions.foldl_next_of_isQuiet v quiet]
      rfl
    refine ⟨es ++ [.batch batch], ?_, placed, ?_, ?_⟩
    · rw [appendBatch, events, List.append_assoc]
    · rw [same, appendBatch, calm.store, store]
      exact congrArg some known
    · rw [same]
      exact file.of_contentAt (others.contentAt alone)
  | @saved isLast s' _ ran =>
    rw [store, Option.getD_some] at ran
    obtain ⟨same, has⟩ := Store.HasVersion.of_save ran own
    rw [known] at has
    exact ⟨_, rfl, placed, congrArg some (same.trans known), has⟩
  | notSaved retrySave ran files outcome =>
    refine ⟨_, rfl, placed, version, ?_⟩
    rw [files]
    exact file.of_extends (Store.save_error ran)
  | @reloaded fresh _ loaded files =>
    -- A file has one version, so the store in hand takes over that of the file.
    have same := (Store.HasVersion.of_load loaded).unique file
    exact ⟨_, rfl, placed, congrArg some same, files ▸ file⟩
  | notReloaded state loaded files outcome =>
    exact ⟨_, rfl, placed, version, files ▸ file⟩

theorem Onward.versioned (alone : LeavesFile around config.storePath)
    (versioned : Versioned config v l h) (onward : Onward around l h l' h') :
    ∃ es, l'.events = l.events ++ es ∧ Versioned config (es.foldl Versions.next v) l' h' := by
  induction onward with
  | refl => exact ⟨[], by simp, versioned⟩
  | perform o before ran ih =>
    obtain ⟨es, events, middle⟩ := ih
    obtain ⟨fs, events', after⟩ := middle.of_effect alone (perform_effect ran)
    refine ⟨es ++ fs, by rw [events', events, List.append_assoc], ?_⟩
    rwa [List.foldl_append]

theorem Reached.placed (reached : Reached around config l) : Placed config l := by
  induction reached with
  | opened ran => exact (complete_of_openStore ran).2.placed
  | performed o before ran ih => exact ih.of_effect (perform_effect ran)

/-- The store in hand is older than the file that has been migrated. From then on the file is of the
current version until a save works, and it goes back to the older version with the first save that works
exactly if no reload has worked before that one. -/
theorem upgrade_kept_unless_saved_first {s : Store} (alone : LeavesFile around config.storePath)
    (reached : Reached around config l) (store : l.store = some s) (older : s.version ≠ .current)
    (migrated : (Program.migrate config).run k = (.ok 0, h)) :
    Store.HasVersion h.files config.storePath .current ∧
    (∀ l' h', Onward around l h l' h' → ∃ es, l'.events = l.events ++ es ∧
      Store.HasVersion h'.files config.storePath (if savesFirst es then s.version else .current) ∧
      (Store.HasVersion h'.files config.storePath s.version ↔ savesFirst es = true)) ∧
    ∀ fuel r l' h', (passes around fuel).run l h = (r, l', h') → Onward around l h l' h' := by
  have has := Program.migrate_hasVersion migrated
  refine ⟨has, fun l' h' onward => ?_, fun fuel r l' h' ran => .of_passes ran⟩
  have versioned : Versioned config ⟨s.version, .current⟩ l h :=
    ⟨reached.placed, by rw [store]; rfl, has⟩
  obtain ⟨es, events, after⟩ := onward.versioned alone versioned
  have file := after.file
  rw [Versions.file_foldl_next] at file
  refine ⟨es, events, file, fun found => ?_, fun first => ?_⟩
  · by_contra later
    rw [if_neg later] at file
    exact older (found.unique file)
  · rwa [if_pos first] at file

/-! ### A migration that is undone -/

/-- A file of version 0 with one record, which is early enough for version 1. -/
def earlyHost : Host where
  files := ⟨[(["checks"], .file (Deflate.deflate
    (Envelope.header .v0 1 ++ Envelope.body (Envelope.legacyFields.take 1))))]⟩

/-- What the file of `earlyHost` is read as. -/
theorem exists_decodeFile_early : ∃ s bytes,
    earlyHost.files.contentAt sampleConfig.storePath = .ok bytes ∧ bytes ≠ [] ∧
    Store.decodeFile sampleConfig.storePath false bytes = .ok s ∧ s.version = .v0 ∧
    ∀ r ∈ s.records, r.timestamp < 0x8000000000000000 := by
  have few : (Envelope.legacyFields.take 1).length ≤ 0xffffffff := by decide
  have decoded := Envelope.decode_header_body few fun f member =>
    Envelope.legacyFields_wellFormed f (List.mem_of_mem_take member)
  obtain ⟨s, read, version, records⟩ :=
    Store.decodeFile_of_decode sampleConfig.storePath false (Deflate.inflate_deflate _) decoded
  refine ⟨s, _, rfl, by decide +kernel, read, version, fun r member => ?_⟩
  rw [records] at member
  rw [List.mem_singleton.mp member]
  decide

/-- A daemon that has been asked to stop has opened the file. -/
theorem exists_opened_early : ∃ l s, Reached silence sampleConfig l ∧ l.store = some s ∧
    l.signals.stopRequested = true ∧ s.path = some sampleConfig.storePath ∧ s.readonly = false ∧
    s.version = .v0 ∧ ∃ envelope, Envelope.encodeBytes s.version s.records = .ok envelope := by
  obtain ⟨s, bytes, content, filled, decoded, version, -⟩ := exists_decodeFile_early
  obtain ⟨own, writable, -⟩ := Store.decodeFile_eq_ok decoded
  have loaded := (Store.load_run (h := earlyHost) content rfl decoded).1
  rw [← Store.loadOrCreate_of_occupied (Store.not_vacant_of_content content filled)] at loaded
  rcases opened : openStore.run ((Service.newLoop sampleConfig 1).receive [.stop]) earlyHost with
    ⟨r, l, j⟩
  rcases openStore_cases opened with ⟨e, -, failed, -⟩ | ⟨s', i, rfl, opening, -, rfl⟩
  · cases loaded.symm.trans failed
  · have same := congrArg Prod.fst opening
    cases loaded.symm.trans same
    exact ⟨_, s, .opened opened, rfl, rfl, own, writable, version,
      Store.exists_encodeBytes_of_decodeFile decoded⟩

/-- Somebody has migrated the file. -/
theorem exists_migrated_early : ∃ h bytes, (Program.migrate sampleConfig).run earlyHost = (.ok 0, h) ∧
    h.files.contentAt sampleConfig.storePath = .ok bytes ∧ Store.Faultless h := by
  obtain ⟨s, bytes, content, -, decoded, version, early⟩ := exists_decodeFile_early
  obtain ⟨few, fit⟩ := Store.fits_of_decodeFile decoded
  rw [version] at fit
  obtain ⟨envelope, encoded⟩ := Envelope.exists_encodeBytes few (Envelope.fits_of_upgrade fit early)
  have keeps : Program.Maintainable sampleConfig earlyHost bytes :=
    ⟨⟨rfl, content⟩, fun _ => rfl, by decide, Markup.untagged_of_notMem (by decide)⟩
  obtain ⟨files, journal, printed, ran, after⟩ :=
    Program.migrate_run_of_lt keeps decoded version early encoded
  exact ⟨_, _, ran, after, fun _ => rfl⟩

theorem leavesFile_silence (path : Path) : LeavesFile silence path :=
  ⟨fun _ _ _ => rfl, fun _ _ => rfl, fun _ _ => rfl, fun _ _ => rfl⟩

/-- The run of the daemon comes to its end. -/
theorem exists_stopped_early : ∃ l s h l' h' records, Reached silence sampleConfig l ∧
    l.store = some s ∧ s.version = .v0 ∧
    (Program.migrate sampleConfig).run earlyHost = (.ok 0, h) ∧
    (passes silence 1).run l h = (.ok (some 0), l', h') ∧
    l'.events = l.events ++ [.save true (.ok records)] ∧
    Store.HasVersion h'.files sampleConfig.storePath .v0 := by
  obtain ⟨l, s, reached, store, stop, own, writable, version, envelope, encoded⟩ :=
    exists_opened_early
  obtain ⟨h, bytes, migrated, content, faultless⟩ := exists_migrated_early
  have saves (journal : List Notice) : ∃ t k, s.save.run { h with journal } = (.ok t, k) := by
    obtain ⟨fileHash, files, saving, -⟩ := Store.save_of_content (h := { h with journal }) content
      faultless (by decide) own writable encoded
    exact ⟨_, _, saving⟩
  have inHand : (l.receive []).store.getD {} = s := by rw [receive, store, Option.getD_some]
  obtain ⟨t, k, l', h', journal, saved, ran, events, files⟩ :=
    passes_of_stop (p := l.receive []) 0 (run_interlude silence l h) stop (by rw [inHand]; exact saves)
  rw [inHand] at saved
  have has := (Store.HasVersion.of_save saved own).2
  rw [version, ← files] at has
  refine ⟨l, s, h, l', h', t.records, reached, store, version, migrated, ran, ?_, has⟩
  rw [events, receive, List.map_nil, List.append_nil]

/-- The migration is undone by the last save. -/
theorem upgrade_kept_unless_saved_first_early : ∃ l h l' h', Reached silence sampleConfig l ∧
    (Program.migrate sampleConfig).run earlyHost = (.ok 0, h) ∧
    Store.HasVersion h.files sampleConfig.storePath .current ∧
    (passes silence 1).run l h = (.ok (some 0), l', h') ∧
    Store.HasVersion h'.files sampleConfig.storePath .v0 := by
  obtain ⟨l, s, h, l', h', records, reached, store, version, migrated, ran, events, -⟩ :=
    exists_stopped_early
  obtain ⟨has, versions, rest⟩ := upgrade_kept_unless_saved_first
    (leavesFile_silence sampleConfig.storePath) reached store (by rw [version]; decide) migrated
  obtain ⟨es, more, -, back⟩ := versions l' h' (rest 1 _ l' h' ran)
  rw [version] at back
  refine ⟨l, h, l', h', reached, migrated, has, ran, back.mpr ?_⟩
  rw [← List.append_cancel_left (events.symm.trans more)]
  rfl

/-- A migration that is completed between two steps does not always last. -/
theorem not_upgrade_always_kept :
    ¬∀ (around : Surroundings) (config : DaemonConfig) (l : ControlLoop) (s : Store) (k h : Host),
      LeavesFile around config.storePath → Reached around config l → l.store = some s →
      s.version ≠ .current → (Program.migrate config).run k = (.ok 0, h) →
      ∀ fuel r l' h', (passes around fuel).run l h = (r, l', h') →
        ¬Store.HasVersion h'.files config.storePath s.version := by
  intro always
  obtain ⟨l, s, h, l', h', records, reached, store, version, migrated, ran, -, has⟩ :=
    exists_stopped_early
  refine always silence sampleConfig l s earlyHost h (leavesFile_silence _) reached store
    (by rw [version]; decide) migrated 1 _ l' h' ran ?_
  rwa [version]

end ControlLoop
end LinkMonitor
