import LinkMonitor.Proofs.Store.Operation
import LinkMonitor.Proofs.Store.RoundTrip

/-!
# A store is a log

However a store is used, with failures anywhere and files changed by others in between, records are only
ever added at its end, its version only goes up, and each file that it was saved to holds what the store
held then.
-/

namespace LinkMonitor.Store

open FileTree

/-- What of a store goes to its file. -/
structure Snapshot where
  version : FormatVersion
  records : List CheckRecord

def snapshot (s : Store) : Snapshot := ⟨s.version, s.records⟩

/-- The file at the path decodes to the snapshot, with the canonical text of its targets. -/
def Snapshot.IsAt (x : Snapshot) (path : Path) (t : FileTree) : Prop :=
  ∃ bytes s, t.contentAt path = .ok bytes ∧ decodeFile path false bytes = .ok s ∧
    s.version = x.version ∧ s.records = x.records.map CheckRecord.canonical

theorem Snapshot.IsAt.of_contentAt {x : Snapshot} {path : Path} {t u : FileTree} (here : x.IsAt path t)
    (same : ∀ bytes, t.contentAt path = .ok bytes → u.contentAt path = .ok bytes) :
    x.IsAt path u := by
  obtain ⟨bytes, s, content, decoded⟩ := here
  exact ⟨bytes, s, same bytes content, decoded⟩

theorem snapshot_isAt {s : Store} {path : Path} {t : FileTree} {envelope : List UInt8}
    (encoded : Envelope.encodeBytes s.version s.records = .ok envelope)
    (content : t.contentAt path = .ok (Deflate.deflate envelope)) : s.snapshot.IsAt path t :=
  ⟨_, _, content, decodeFile_deflate path false encoded, rfl, rfl⟩

/-! ### Sessions -/

/-- A store in use. -/
structure Session where
  store : Store
  host : Host
  /-- What the store held at the last save to the file at a path, as long as nobody else has changed
  that file. -/
  saved : Path → Option Snapshot := fun _ => none

/-- The store is asked for something, or others change the host: its files, its clock, what will
fail. -/
inductive Move
  | operation (o : Operation)
  | outside (host : Host)

/-- The records that a move adds. -/
def Move.added : Move → List CheckRecord
  | operation o => o.added
  | outside _ => []

namespace Session

/-- The notes after a save. Paths that lead to the same file as the target have a new file, too. -/
def noting (x : Session) (target : Path) : Path → Option Snapshot := fun p =>
  if p = target ∨ place p = place target ∧ (x.saved p).isSome then some x.store.snapshot
  else x.saved p

/-- The notes after an operation with this result. -/
def notes (x : Session) : Operation → Except StoreError Answer → Path → Option Snapshot
  | .save path, .ok _ => match path <|> x.store.path with
    | some target => x.noting target
    | none => x.saved
  | _, _ => x.saved

def next (x : Session) : Move → Session
  | .operation o =>
    let result := o.perform.run x.store x.host
    ⟨result.2.1, result.2.2, x.notes o result.1⟩
  | .outside h =>
    { x with
      host := h
      saved := fun p =>
        if h.files.contentAt p = x.host.files.contentAt p then x.saved p else none }

theorem next_operation (x : Session) (o : Operation) :
    x.next (.operation o) =
      ⟨(o.perform.run x.store x.host).2.1, (o.perform.run x.store x.host).2.2,
        x.notes o (o.perform.run x.store x.host).1⟩ := by
  rw [next]

def play (x : Session) (moves : List Move) : Session := moves.foldl next x

/-- The files that the store was saved to hold what it held then, which is a part of what it holds
now. -/
def Faithful (x : Session) : Prop :=
  ∀ path snapshot, x.saved path = some snapshot →
    snapshot.IsAt path x.host.files ∧ snapshot.records <+: x.store.records

variable {x : Session}

theorem Faithful.of_kept (faithful : x.Faithful) {s : Store} {h : Host} {batch : List CheckRecord}
    (grown : s.records = x.store.records ++ batch)
    (kept : ∀ p bytes, x.host.files.contentAt p = .ok bytes → h.files.contentAt p = .ok bytes) :
    Faithful ⟨s, h, x.saved⟩ := by
  intro path snapshot noted
  obtain ⟨here, part⟩ := faithful path snapshot noted
  refine ⟨here.of_contentAt (kept path), part.trans ?_⟩
  rw [grown]
  exact List.prefix_append _ _

theorem Faithful.of_replacement (faithful : x.Faithful) {s : Store} {h : Host} {target : Path}
    {envelope : List UInt8} (same : s.records = x.store.records)
    (encoded : Envelope.encodeBytes x.store.version x.store.records = .ok envelope)
    (replacement : Replacement target (Deflate.deflate envelope) x.host.files h.files) :
    Faithful ⟨s, h, x.noting target⟩ := by
  intro path snapshot noted
  rw [show s.records = x.store.records from same]
  replace noted : x.noting target path = some snapshot := noted
  rw [noting] at noted
  split at noted
  · next here =>
    obtain rfl := Option.some.inj noted
    refine ⟨snapshot_isAt encoded ?_, List.prefix_refl _⟩
    rcases here with rfl | ⟨shared, known⟩
    · exact replacement.contentAt
    · obtain ⟨before, noted⟩ := Option.isSome_iff_exists.mp known
      obtain ⟨⟨bytes, _, content, -⟩, -⟩ := faithful path before noted
      rw [replacement.contentAt_of_file content, if_pos shared]
  · next other =>
    obtain ⟨here, part⟩ := faithful path snapshot noted
    refine ⟨here.of_contentAt fun bytes content => ?_, part⟩
    have apart : place path ≠ place target := fun shared =>
      other (.inr ⟨shared, by rw [noted]; rfl⟩)
    rw [replacement.contentAt_of_file content, if_neg apart]

theorem notes_save {path : Option Path} {target : Path} (found : (path <|> x.store.path) = some target)
    (a : Answer) : x.notes (.save path) (.ok a) = x.noting target := by
  rw [notes, found]

theorem notes_error (x : Session) (o : Operation) (e : StoreError) :
    x.notes o (.error e) = x.saved := by
  cases o <;> rfl

theorem notes_query {o : Operation} (query : o.isQuery = true) (r : Except StoreError Answer) :
    x.notes o r = x.saved := by
  cases o <;> first | rfl | cases query

theorem Faithful.next (faithful : x.Faithful) (m : Move) : (x.next m).Faithful := by
  cases m with
  | outside h =>
    intro path snapshot noted
    replace noted : (if h.files.contentAt path = x.host.files.contentAt path then x.saved path
      else none) = some snapshot := noted
    split at noted
    · next same =>
      obtain ⟨here, part⟩ := faithful path snapshot noted
      exact ⟨here.of_contentAt fun _ content => same.trans content, part⟩
    · cases noted
  | operation o =>
    have effect := perform_effect o x.store x.host
    rw [next_operation]
    generalize o.perform.run x.store x.host = result at effect ⊢
    have unchanged (p : Path) (bytes : List UInt8) (content : x.host.files.contentAt p = .ok bytes) :
        x.host.files.contentAt p = .ok bytes := content
    cases effect with
    | addCheck record => exact faithful.of_kept rfl unchanged
    | addChecks batch => exact faithful.of_kept rfl unchanged
    | migrated | upToDate => exact faithful.of_kept (List.append_nil _).symm unchanged
    | saved writable found encoded replaced =>
      obtain ⟨replacement⟩ := replaced
      rw [notes_save found]
      exact faithful.of_replacement rfl encoded replacement
    | failed idle untouched =>
      rw [notes_error]
      exact faithful.of_kept (List.append_nil _).symm untouched.readable
    | told query =>
      rw [notes_query query]
      exact faithful.of_kept (List.append_nil _).symm unchanged

theorem Faithful.play (faithful : x.Faithful) (moves : List Move) : (x.play moves).Faithful := by
  induction moves generalizing x with
  | nil => exact faithful
  | cons m moves ih => exact ih (faithful.next m)

/-! ### What moves do to a store -/

/-- What a move leaves as it was, in the state it is made in. -/
structure Spares (x : Session) (m : Move) : Prop where
  records : (x.next m).store.records = x.store.records ++ m.added
  readonly : (x.next m).store.readonly = x.store.readonly
  version : (x.next m).store.version = x.store.version ∨
    x.store.version.tag < FormatVersion.current.tag ∧ (x.next m).store.version = .current ∧
      m = .operation .migrate ∧
      (Operation.migrate.perform.run x.store x.host).1 = .ok (.changed true)
  locked : x.store.readonly = true → (x.next m).store.version = x.store.version ∧
    ∀ o, m = .operation o → (x.next m).host.files = x.host.files
  failed : ∀ o e, m = .operation o → (o.perform.run x.store x.host).1 = .error e →
    (x.next m).store = x.store

theorem tag_lt_of_needsMigration {s : Store} (outdated : s.needsMigration = true) :
    s.version.tag < FormatVersion.current.tag := by
  obtain ⟨next, later⟩ := Option.isSome_iff_exists.mp outdated
  obtain ⟨after, within⟩ := FormatVersion.tag_next? later
  omega

theorem next_spares (x : Session) (m : Move) : x.Spares m := by
  cases m with
  | outside h =>
    have other (o : Operation) : Move.outside h ≠ .operation o := Move.noConfusion
    refine ⟨(List.append_nil _).symm, rfl, .inl rfl, fun _ => ⟨rfl, fun o same => ?_⟩,
      fun o _ same _ => ?_⟩
    · exact absurd same (other o)
    · exact absurd same (other o)
  | operation o =>
    have effect := perform_effect o x.store x.host
    have after := next_operation x o
    rcases ran : o.perform.run x.store x.host with ⟨r, s, h⟩
    rw [ran] at effect after
    constructor
    · rw [after]; exact effect.records_eq
    · rw [after]; exact effect.readonly_eq
    · rw [after]
      rcases effect.version_eq with same | ⟨rfl, changed, outdated, current⟩
      · exact .inl same
      · exact .inr ⟨tag_lt_of_needsMigration outdated, current, rfl, by rw [ran]; exact changed⟩
    · intro locked
      rw [after]
      obtain ⟨version, files⟩ := effect.of_locked locked
      exact ⟨version, fun _ _ => files⟩
    · rintro _ e ⟨⟩ failed
      rw [ran] at failed
      obtain rfl : r = .error e := failed
      rw [after]
      exact effect.store_of_error

theorem Spares.tag_le {m : Move} (spares : x.Spares m) :
    x.store.version.tag ≤ (x.next m).store.version.tag := by
  rcases spares.version with same | ⟨outdated, current, -⟩
  · rw [same]
  · rw [current]
    exact Nat.le_of_lt outdated

theorem play_records (x : Session) (moves : List Move) :
    (x.play moves).store.records = x.store.records ++ moves.flatMap Move.added := by
  induction moves generalizing x with
  | nil => exact (List.append_nil _).symm
  | cons m moves ih =>
    show ((x.next m).play moves).store.records = _
    rw [ih, (next_spares x m).records, List.flatMap_cons, List.append_assoc]

theorem play_readonly (x : Session) (moves : List Move) :
    (x.play moves).store.readonly = x.store.readonly := by
  induction moves generalizing x with
  | nil => rfl
  | cons m moves ih =>
    show ((x.next m).play moves).store.readonly = _
    rw [ih, (next_spares x m).readonly]

theorem play_tag_le (x : Session) (moves : List Move) :
    x.store.version.tag ≤ (x.play moves).store.version.tag := by
  induction moves generalizing x with
  | nil => exact Nat.le_refl _
  | cons m moves ih => exact (next_spares x m).tag_le.trans (ih _)

/-- A save with nothing in its way is noted for its target. -/
theorem saved_next_save {path : Option Path} {target : Path} {envelope : List UInt8}
    (writable : x.store.readonly = false) (found : (path <|> x.store.path) = some target)
    (ready : Ready target x.host)
    (encoded : Envelope.encodeBytes x.store.version x.store.records = .ok envelope) :
    (x.next (.operation (.save path))).saved target = some x.store.snapshot := by
  obtain ⟨hash, k, written⟩ := exists_writeTo ready encoded
  have unlocked : ¬x.store.readonly = true := Bool.eq_false_iff.mp writable
  rw [next_operation, Operation.perform, InPlace.run_bind, saveInPlace_run, if_neg unlocked, found]
  dsimp only
  rw [written]
  show x.notes (.save path) (.ok .nothing) target = _
  rw [notes_save found, noting, if_pos (.inl rfl)]

end Session

/-- Whatever is asked of a store, in whatever order and with whatever failures, while others change
files: the store holds the records that it had at first and behind them those that were added, in their
order. It stays readonly or writable. Its version only goes up, by a migration that succeeds and brings
it to the current one; an operation that fails leaves the store as it is, and a readonly store keeps
its version and all files. Each file that it was saved to, if nobody else has changed it, decodes to
the version and the records at the last save to it, and these are the first ones of those it has now. -/
theorem append_only (s : Store) (h : Host) (moves : List Move) :
    let x : Session := ⟨s, h, fun _ => none⟩
    (x.play moves).store.records = s.records ++ moves.flatMap Move.added ∧
    (x.play moves).store.readonly = s.readonly ∧
    (∀ before m after, moves = before ++ m :: after →
      (x.play before).Spares m ∧
      (x.play before).store.version.tag ≤ (x.play moves).store.version.tag) ∧
    ∀ path snapshot, (x.play moves).saved path = some snapshot →
      snapshot.IsAt path (x.play moves).host.files ∧
      snapshot.records <+: (x.play moves).store.records := by
  intro x
  have fresh : x.Faithful := nofun
  refine ⟨x.play_records moves, x.play_readonly moves, ?_, fresh.play moves⟩
  rintro before m after rfl
  have further : x.play (before ++ m :: after) = (x.play before).play (m :: after) :=
    List.foldl_append
  rw [further]
  exact ⟨Session.next_spares _ m, Session.play_tag_le _ _⟩

/-- Two records are saved and one of them is added once more: the file keeps the two, and the store has
three. -/
theorem append_only_checks :
    let more : CheckRecord := ⟨-1, .http, .ofAddress (.v6 1), .success 65534⟩
    let x : Session := ⟨{ records := Envelope.twoRecords }, {}, fun _ => none⟩
    let y := x.play [.operation (.save (some checksPath)), .operation (.addCheck more)]
    y.store.records = Envelope.twoRecords ++ [more] ∧
      Snapshot.IsAt ⟨.current, Envelope.twoRecords⟩ checksPath y.host.files := by
  intro more x y
  obtain ⟨envelope, encoded⟩ :
      ∃ envelope, Envelope.encodeBytes x.store.version x.store.records = .ok envelope := ⟨_, rfl⟩
  obtain ⟨records, -, -, files⟩ := append_only { records := Envelope.twoRecords } {}
    [.operation (.save (some checksPath)), .operation (.addCheck more)]
  have noted : (x.next (.operation (.save (some checksPath)))).saved checksPath =
      some x.store.snapshot := Session.saved_next_save rfl rfl ready_checksPath encoded
  exact ⟨records, (files checksPath x.store.snapshot noted).1⟩

end LinkMonitor.Store
