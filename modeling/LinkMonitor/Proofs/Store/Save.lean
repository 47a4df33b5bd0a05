import LinkMonitor.Proofs.Deflate.Deflater
import LinkMonitor.Proofs.Files.Tree
import LinkMonitor.Proofs.Host.Action
import LinkMonitor.Proofs.Store.Read
import Mathlib.Data.List.Nodup
import Mathlib.Data.List.Perm.Subperm

/-!
# Saving a store
-/

namespace LinkMonitor.Store

open FileTree

/-! ### The temporary file -/

theorem temporaryName_injective (name : String) : Function.Injective (temporaryName name) := by
  intro i j h
  have chars := congrArg String.toList h
  simp only [temporaryName, padLeft, String.toList_append, String.toList_ofList] at chars
  have digits := List.append_cancel_left (List.append_cancel_right chars)
  have value := congrArg (fun s => Nat.ofDigitChars 10 s 0) digits
  simpa [Nat.ofDigitChars_append, Nat.toString_eq_ofList_toDigits] using value

theorem temporaryName_ne_slash (name : String) (k : Nat) : temporaryName name k ≠ "/" := by
  intro h
  have chars := congrArg String.toList h
  simp [temporaryName] at chars

theorem isTop_temporary (d : Location) (name : String) (k : Nat) :
    isTop (d ++ [temporaryName name k]) = false := by
  cases d with
  | nil => simp [isTop, temporaryName_ne_slash]
  | cons a d => simp [isTop]

theorem mem_of_find?_eq_some {t : FileTree} {l : Location} (h : isTop l = false)
    (found : t.find? l ≠ none) : l ∈ t.entries.map Prod.fst := by
  rw [find?, if_neg (by simp [h])] at found
  by_contra missing
  apply found
  rw [List.lookup_eq_none_iff]
  intro p hp
  have : l ≠ p.1 := fun same => missing (List.mem_map.mpr ⟨p, hp, same.symm⟩)
  simpa using this

/-- There are more names to choose from than entries in the tree. -/
theorem temporaryLocation_free (t : FileTree) (d : Location) (name : String) :
    t.find? (temporaryLocation t d name) = none := by
  rw [temporaryLocation]
  cases found : (List.range (t.entries.length + 1)).find?
      (fun k => (t.find? (d ++ [temporaryName name k])).isNone) with
  | some k => simpa using List.find?_some found
  | none =>
    exfalso
    have taken : ∀ k < t.entries.length + 1,
        d ++ [temporaryName name k] ∈ t.entries.map Prod.fst := by
      intro k hk
      have := List.find?_eq_none.mp found k (List.mem_range.mpr hk)
      exact mem_of_find?_eq_some (isTop_temporary d name k) (by simpa using this)
    -- So many different names cannot all be taken by so few entries.
    have injective : Function.Injective fun k => d ++ [temporaryName name k] := by
      intro i j same
      have last := List.append_cancel_left same
      exact temporaryName_injective name (List.singleton_inj.mp last)
    have distinct := (List.nodup_range (n := t.entries.length + 1)).map injective
    have inside : (List.range (t.entries.length + 1)).map (fun k => d ++ [temporaryName name k]) ⊆
        t.entries.map Prod.fst := by
      intro l hl
      obtain ⟨k, hk, rfl⟩ := List.mem_map.mp hl
      exact taken k (List.mem_range.mp hk)
    have few := (distinct.subperm inside).length_le
    simp only [List.length_map, List.length_range] at few
    omega

/-! ### What a save needs -/

/-- The paths that a file can be put at through a temporary one beside it. -/
structure Suitable (target : Path) : Prop where
  named : ∃ name, target.names.getLast? = some name ∧ name ≠ ".."
  short : (temporaryName target.name 0).utf8ByteSize ≤ maxNameSize
  parentShort : target.parent.text.utf8ByteSize ≤ maxPathSize

/-- No failure strikes a step of a save. -/
def Faultless (h : Host) : Prop := ∀ step, h.saveFaults step = none

/-- Nothing of a host keeps a save from the target. -/
structure Ready (target : Path) (h : Host) : Prop where
  suitable : Suitable target
  faultless : Faultless h
  made : (h.files.makeDirectories target.parent).2 = .ok ()
  outer : ∃ d, (h.files.makeDirectories target.parent).1.resolve target.parent = .ok d
  free : ∃ l, (h.files.makeDirectories target.parent).1.resolve target = .ok l ∧
    (h.files.makeDirectories target.parent).1.find? l ≠ some .directory

/-- The ways in which writing to a target can fail, and what each of them is due to. -/
inductive WriteFailure (s : Store) (target : Path) (h : Host) : StoreError → Prop
  | unprepared (e : FileError) (cause : ¬Ready target h) :
    WriteFailure s target h (.unprepared target e)
  | unwritable (e : FileError) (cause : ¬Ready target h) :
    WriteFailure s target h (.unwritable target e)
  | encoding (e : EncodeError) (cause : Envelope.encodeBytes s.version s.records = .error e) :
    WriteFailure s target h (.encoding e)

theorem not_faultless {h : Host} {step : SaveStep} {fault : FileFault}
    (struck : h.saveFaults step = some fault) : ¬Faultless h := by
  intro faultless
  rw [faultless step] at struck
  cases struck

/-! ### The temporary file is made -/

/-- Directories are made first, and stay; the temporary file is made last, where nothing is yet. -/
theorem prepare_run (target : Path) (h : Host) :
    (∃ e t, ¬Ready target h ∧ AddsDirectories target.parent h.files t ∧
      (prepare target).run h = (.error e, { h with files := t })) ∨
    ∃ t d, t = (h.files.makeDirectories target.parent).1 ∧ t.resolve target.parent = .ok d ∧
      (temporaryName target.name 0).utf8ByteSize ≤ maxNameSize ∧
      (prepare target).run h =
        (.ok (temporaryLocation t d target.name),
          { h with files := t.insert (temporaryLocation t d target.name) (.file []) }) := by
  have adds := makeDirectories_adds h.files target.parent
  unfold prepare
  rw [Action.run_bind, Action.run_get]
  dsimp only
  split
  · next fault struck =>
    exact .inl ⟨_, h.files, mt Ready.faultless (not_faultless struck), AddsDirectories.refl _ _, rfl⟩
  · simp only [Action.run_bind, Action.run_changeFilesPartly, Action.run_files,
      Action.run_ofExcept]
    have ready_made (ready : Ready target h) := ready.made
    have ready_outer (ready : Ready target h) := ready.outer
    generalize h.files.makeDirectories target.parent = made at adds ready_made ready_outer ⊢
    obtain ⟨t, r⟩ := made
    cases r with
    | error e => exact .inl ⟨e, t, (fun ready => by cases ready_made ready), adds, rfl⟩
    | ok _ =>
      dsimp only at adds ready_outer ⊢
      cases outer : t.resolve target.parent with
      | error fault =>
        refine .inl ⟨_, t, fun ready => ?_, adds, rfl⟩
        obtain ⟨d, reached⟩ := ready_outer ready
        rw [outer] at reached
        cases reached
      | ok d =>
        dsimp only [blame]
        split
        · next long =>
          exact .inl ⟨_, t, fun ready => Nat.not_lt_of_le ready.suitable.short long, adds, rfl⟩
        · next short =>
          split
          · next fault struck =>
            exact .inl ⟨_, t, mt Ready.faultless (not_faultless struck), adds, rfl⟩
          · exact .inr ⟨t, d, rfl, outer, Nat.le_of_not_lt short, rfl⟩

/-! ### The temporary file is filled -/

/-- What has been compressed so far, and what of it is in the file. -/
structure Writer.HasWritten (w : Writer) (input sent : List UInt8) : Prop where
  deflated : w.deflater.HasWritten input sent
  hashed : w.hasher = .after sent

variable {temporary : Location} {target : Path} {h : Host}

theorem Writer.write_run (temporary : Location) (h : Host) {w : Writer} {sent : List UInt8}
    (hashed : w.hasher = .after sent) (bytes : List UInt8) :
    (∃ e, ¬Faultless h ∧ (w.write temporary bytes).run h = (.error e, h)) ∨
      (w.write temporary bytes).run h =
        (.ok { w with hasher := .after (sent ++ bytes), pieces := w.pieces + 1 },
          { h with files := h.files.appendTo temporary bytes }) := by
  unfold Writer.write
  rw [Action.run_bind, Action.run_get]
  dsimp only
  split
  · next fault struck => exact .inl ⟨_, not_faultless struck, rfl⟩
  · rw [← Sha256.Hasher.update_after, ← hashed]
    exact .inr rfl

/-- What the deflater has put out is written, if it is anything. -/
theorem Writer.put_run (target : Path) {w : Writer} {input sent bytes : List UInt8}
    (deflated : w.deflater.HasWritten input (sent ++ bytes)) (hashed : w.hasher = .after sent)
    (file : h.files.find? temporary = some (.file sent)) :
    (∃ e, ¬Faultless h ∧
      (Writer.put temporary target w bytes).run h = (.error (.unwritable target e), h)) ∨
    ∃ w' u, w'.HasWritten input (sent ++ bytes) ∧ SameBut temporary h.files u ∧
      u.find? temporary = some (.file (sent ++ bytes)) ∧
      (Writer.put temporary target w bytes).run h = (.ok w', { h with files := u }) := by
  cases bytes with
  | nil =>
    rw [List.append_nil] at deflated ⊢
    exact .inr ⟨w, h.files, ⟨deflated, hashed⟩, fun _ _ => rfl, file, rfl⟩
  | cons b bytes =>
    rw [Writer.put, List.isEmpty_cons, if_neg (by decide), Action.run_mapError]
    rcases Writer.write_run temporary h hashed (b :: bytes) with
      ⟨e, struck, written⟩ | written
    · exact .inl ⟨e, struck, by rw [written]⟩
    · rw [written]
      refine .inr ⟨⟨w.deflater, .after (sent ++ b :: bytes), w.pieces + 1⟩,
        h.files.appendTo temporary (b :: bytes), ⟨deflated, rfl⟩, sameBut_appendTo _ _ _, ?_, rfl⟩
      exact find?_appendTo_self _ file

/-- Chunks only go to the temporary file. When all are through it has what the deflater put out. -/
theorem writeChunks_run (target : Path) (chunks : Envelope.Chunks) {w : Writer}
    {input sent : List UInt8} (begun : w.HasWritten input sent)
    (file : h.files.find? temporary = some (.file sent)) :
    ∃ u, SameBut temporary h.files u ∧
      ((∃ e, ¬Faultless h ∧ (writeChunks temporary target chunks w).run h =
          (.error (.unwritable target e), { h with files := u })) ∨
        (∃ e, chunks.collect = .error e ∧ (writeChunks temporary target chunks w).run h =
          (.error (.encoding e), { h with files := u })) ∨
        ∃ w' all sent', chunks.collect = .ok all ∧ w'.HasWritten (input ++ all.flatten) sent' ∧
          u.find? temporary = some (.file sent') ∧
          (writeChunks temporary target chunks w).run h = (.ok w', { h with files := u })) := by
  induction chunks generalizing w input sent h with
  | done =>
    refine ⟨h.files, fun _ _ => rfl, .inr (.inr ⟨w, [], sent, rfl, ?_, file, rfl⟩)⟩
    rwa [List.flatten_nil, List.append_nil]
  | failed e => exact ⟨h.files, fun _ _ => rfl, .inr (.inl ⟨e, rfl, rfl⟩)⟩
  | next chunk rest ih =>
    have deflated := begun.deflated.compress chunk
    rw [writeChunks, Envelope.Chunks.collect]
    generalize w.deflater.compress chunk = compressed at deflated ⊢
    obtain ⟨bytes, deflater⟩ := compressed
    dsimp only at deflated ⊢
    rw [Action.run_bind]
    have hashed : ({ w with deflater } : Writer).hasher = .after sent := begun.hashed
    rcases Writer.put_run target deflated hashed file with
      ⟨e, struck, ran⟩ | ⟨w', u, written, same, file', ran⟩
    · exact ⟨h.files, fun _ _ => rfl, .inl ⟨e, struck, by rw [ran]⟩⟩
    · rw [ran]
      obtain ⟨v, same', ⟨e, struck, rest⟩ | ⟨e, failed, rest⟩ |
        ⟨w'', all, sent', collected, rest⟩⟩ := @ih { h with files := u } _ _ _ written file'
      · exact ⟨v, same.trans same', .inl ⟨e, struck, rest⟩⟩
      · exact ⟨v, same.trans same', .inr (.inl ⟨e, by rw [failed]; rfl, rest⟩)⟩
      · refine ⟨v, same.trans same', .inr (.inr ⟨w'', chunk :: all, sent', ?_, ?_⟩)⟩
        · rw [collected]; rfl
        · rwa [List.flatten_cons, ← List.append_assoc]

/-- A file that is filled holds the stream, and the hash is that of the stream. -/
theorem fill_run (target : Path) (s : Store) (file : h.files.find? temporary = some (.file [])) :
    ∃ u, SameBut temporary h.files u ∧
      ((∃ e, ¬Faultless h ∧ (fill temporary target (Envelope.chunks s.version s.records)).run h =
          (.error (.unwritable target e), { h with files := u })) ∨
        (∃ e, Envelope.encodeBytes s.version s.records = .error e ∧
          (fill temporary target (Envelope.chunks s.version s.records)).run h =
            (.error (.encoding e), { h with files := u })) ∨
        ∃ envelope, Envelope.encodeBytes s.version s.records = .ok envelope ∧
          u.find? temporary = some (.file (Deflate.deflate envelope)) ∧
          (fill temporary target (Envelope.chunks s.version s.records)).run h =
            (.ok (Bytes.hex (Sha256.digest (Deflate.deflate envelope))), { h with files := u })) := by
  have begun : ({} : Writer).HasWritten [] [] := ⟨Deflate.Deflater.hasWritten_nil, rfl⟩
  rw [fill, Action.run_bind, Envelope.encodeBytes, Envelope.encode]
  obtain ⟨u, same, ⟨e, struck, ran⟩ | ⟨e, failed, ran⟩ |
    ⟨w, all, sent, collected, written, file', ran⟩⟩ :=
      writeChunks_run target (Envelope.chunks s.version s.records) begun file
  · exact ⟨u, same, .inl ⟨e, struck, by rw [ran]⟩⟩
  · exact ⟨u, same, .inr (.inl ⟨e, by rw [failed]; rfl, by rw [ran]⟩)⟩
  · rw [ran, collected]
    dsimp only
    rw [Action.run_bind, Action.run_mapError]
    rcases Writer.write_run temporary { h with files := u } written.hashed w.deflater.finish with
      ⟨e, struck, ran⟩ | ran
    · exact ⟨u, same, .inl ⟨e, struck, by rw [ran]⟩⟩
    · have whole := written.deflated.finish
      rw [List.nil_append] at whole
      refine ⟨_, same.trans (sameBut_appendTo _ _ w.deflater.finish),
        .inr (.inr ⟨all.flatten, rfl, ?_, ?_⟩)⟩
      · rw [find?_appendTo_self _ file', whole]
      · rw [ran]
        dsimp only
        rw [Action.run_pure, Sha256.Hasher.digest_after, whole]

/-! ### The temporary file is renamed -/

theorem rename_eq_ok {t u : FileTree} (renamed : rename temporary target t = .ok u) :
    ∃ name l e, target.names.getLast? = some name ∧ name ≠ ".." ∧ t.resolve target = .ok l ∧
      t.find? l ≠ some .directory ∧ t.find? temporary = some e ∧
      u = (t.erase temporary).insert l e := by
  unfold rename at renamed
  split at renamed
  · cases renamed
  · next proper =>
    obtain ⟨name, last⟩ := Option.ne_none_iff_exists'.mp fun none => proper (.inl none)
    have down : name ≠ ".." := fun up => proper (.inr (up ▸ last))
    cases reached : t.resolve target with
    | error fault => simp [reached, bind, Except.bind] at renamed
    | ok l =>
      simp only [reached, bind, Except.bind, pure, Except.pure] at renamed
      split at renamed
      · cases renamed
      · next e found apart =>
        cases renamed
        exact ⟨name, l, e, last, down, rfl, fun same => apart same, found, rfl⟩
      · cases renamed

/-- The way to the target does not pass through the temporary file or the target itself. -/
theorem contentAt_of_rename {t u : FileTree} {bytes : List UInt8}
    (found : t.find? temporary = some (.file bytes)) (renamed : rename temporary target t = .ok u) :
    u.contentAt target = .ok bytes := by
  obtain ⟨-, l, e, -, -, reached, free, same, rfl⟩ := rename_eq_ok renamed
  obtain rfl : .file bytes = e := Option.some.inj (found.symm.trans same)
  have kept : KeepsDirectories t ((t.erase temporary).insert l (.file bytes)) := by
    intro k directory
    have one : k ≠ l := by rintro rfl; exact free directory
    have two : k ≠ temporary := by rintro rfl; simp [found] at directory
    rw [find?_insert_of_ne _ _ one, find?_erase_of_ne _ two, directory]
  exact contentAt_eq_ok.mpr ⟨l, resolve_of_keepsDirectories kept reached,
    find?_insert_self _ _ (isTop_of_find?_ne free)⟩

/-- A whole file comes to the place of the target at once. It was filled under a name of its own, in
a tree that has grown by nothing but directories. -/
structure Replacement (target : Path) (bytes : List UInt8) (t u : FileTree) where
  /-- With the directories of the target. -/
  grown : FileTree
  temporary : Location
  /-- With the whole temporary file, right before it is renamed. -/
  filled : FileTree
  /-- Where the target leads. -/
  place : Location
  adds : AddsDirectories target.parent t grown
  reached : grown.resolve target = .ok place
  unused : grown.find? temporary = none
  beside : SameBut temporary grown filled
  content : filled.find? temporary = some (.file bytes)
  renamed : rename temporary target filled = .ok u
  result : ∀ l, u.find? l = if l = place then some (.file bytes) else grown.find? l

theorem Replacement.contentAt {bytes : List UInt8} {t u : FileTree}
    (r : Replacement target bytes t u) : u.contentAt target = .ok bytes :=
  contentAt_of_rename r.content r.renamed

namespace Replacement

variable {bytes : List UInt8} {t u : FileTree}

/-- The file comes to no place where a directory was. -/
theorem keepsDirectories (r : Replacement target bytes t u) : KeepsDirectories t u := by
  intro l directory
  have before := r.adds.extended l _ directory
  obtain ⟨-, place, -, -, -, reached, free, -⟩ := rename_eq_ok r.renamed
  have apart : l ≠ r.temporary := by
    rintro rfl
    rw [r.unused] at before
    cases before
  have after : r.filled.find? l = some .directory := (r.beside l apart).trans before
  have elsewhere : l ≠ r.place := by
    rintro rfl
    rw [(eq_place_of_resolve reached).trans (eq_place_of_resolve r.reached).symm] at free
    exact free after
  rw [r.result, if_neg elsewhere, before]

/-- Whatever path had a file leads to the new one, if it leads to the same place, and to the old one if
it does not. -/
theorem contentAt_of_file (r : Replacement target bytes t u) {p : Path} {old : List UInt8}
    (content : t.contentAt p = .ok old) :
    u.contentAt p = .ok (if FileTree.place p = FileTree.place target then bytes else old) := by
  obtain ⟨l, reached, found⟩ := contentAt_eq_ok.mp content
  refine contentAt_eq_ok.mpr ⟨l, resolve_of_keepsDirectories r.keepsDirectories reached, ?_⟩
  rw [r.result, eq_place_of_resolve reached, eq_place_of_resolve r.reached]
  split
  · rfl
  · rw [← eq_place_of_resolve reached, r.adds.extended l _ found]

end Replacement

theorem temporaryName_ne (name : String) (k : Nat) : name ≠ temporaryName name k := by
  intro same
  have lengths := congrArg String.length same
  simp only [temporaryName, String.length_append] at lengths
  have : (".tmp" : String).length = 4 := rfl
  omega

/-- When a temporary file beside the target is renamed, nothing else changes. -/
theorem find?_of_rename {t u v : FileTree} {d : Location} {k : Nat} {bytes : List UInt8}
    (outer : t.resolve target.parent = .ok d)
    (unused : t.find? (d ++ [temporaryName target.name k]) = none)
    (beside : SameBut (d ++ [temporaryName target.name k]) t u)
    (content : u.find? (d ++ [temporaryName target.name k]) = some (.file bytes))
    (renamed : rename (d ++ [temporaryName target.name k]) target u = .ok v) :
    ∃ place, t.resolve target = .ok place ∧ v.find? (d ++ [temporaryName target.name k]) = none ∧
      ∀ l, v.find? l = if l = place then some (.file bytes) else t.find? l := by
  obtain ⟨name, place, e, last, down, reached, free, same, rfl⟩ := rename_eq_ok renamed
  obtain rfl : .file bytes = e := Option.some.inj (content.symm.trans same)
  have noDirectory : t.find? (d ++ [temporaryName target.name k]) ≠ some .directory := by
    simp [unused]
  have noDirectory' : u.find? (d ++ [temporaryName target.name k]) ≠ some .directory := by
    simp [content]
  have outer' := resolve_of_keepsDirectories (beside.keepsDirectories noDirectory) outer
  have shape := resolve_eq_append last down outer' reached
  have own : target.name = name := by rw [Path.name, last, Option.getD_some]
  have apart : d ++ [temporaryName target.name k] ≠ place := by
    intro same
    rw [shape, own] at same
    exact temporaryName_ne name k (List.singleton_inj.mp (List.append_cancel_left same)).symm
  have gone : ((u.erase (d ++ [temporaryName target.name k])).insert place (.file bytes)).find?
      (d ++ [temporaryName target.name k]) = none := by
    rw [find?_insert_of_ne _ _ apart, find?_erase_self u (isTop_of_find?_ne noDirectory)]
  refine ⟨place, resolve_of_keepsDirectories (beside.symm.keepsDirectories noDirectory') reached,
    gone, fun l => ?_⟩
  by_cases here : l = place
  · subst here
    rw [if_pos rfl, find?_insert_self _ _ (isTop_of_find?_ne free)]
  · rw [if_neg here, find?_insert_of_ne _ _ here]
    by_cases there : l = d ++ [temporaryName target.name k]
    · rw [there, unused, ← gone, find?_insert_of_ne _ _ apart]
    · rw [find?_erase_of_ne _ there, beside l there]

/-- Only a target that is no proper place for a file keeps the temporary file from its place. -/
theorem exists_rename {t u : FileTree} {l : Location} {bytes : List UInt8}
    (suitable : Suitable target) (reached : t.resolve target = .ok l)
    (free : t.find? l ≠ some .directory) (unused : t.find? temporary = none)
    (beside : SameBut temporary t u) (content : u.find? temporary = some (.file bytes)) :
    ∃ v, rename temporary target u = .ok v := by
  obtain ⟨name, last, down⟩ := suitable.named
  have proper : ¬(target.names.getLast? = none ∨ target.names.getLast? = some "..") := by
    rw [last]
    simpa using down
  have noDirectory : t.find? temporary ≠ some .directory := by simp [unused]
  have reached' := resolve_of_keepsDirectories (beside.keepsDirectories noDirectory) reached
  have free' : u.find? l ≠ some .directory := by
    by_cases here : l = temporary
    · rw [here, content]; simp
    · rwa [beside l here]
  rw [rename, if_neg proper, reached']
  simp only [bind, Except.bind, pure, Except.pure]
  split
  · next directory => exact absurd directory free'
  · exact ⟨_, rfl⟩
  · next none _ => rw [content] at none; cases none

theorem install_run (temporary : Location) (target : Path) (h : Host) :
    (∃ e, (¬Faultless h ∨ ∃ fault, rename temporary target h.files = .error fault) ∧
      (install temporary target).run h = (.error e, h)) ∨
    ∃ t, rename temporary target h.files = .ok t ∧
      (install temporary target).run h = (.ok (), { h with files := t }) := by
  unfold install
  simp only [Action.run_bind, Action.run_get]
  split
  · next fault struck => exact .inl ⟨_, .inl (not_faultless struck), rfl⟩
  · split
    · next fault struck => exact .inl ⟨_, .inl (not_faultless struck), rfl⟩
    · split
      · next fault struck => exact .inl ⟨_, .inl (not_faultless struck), rfl⟩
      · simp only [Action.run_changeFiles]
        cases rename temporary target h.files with
        | error fault => exact .inl ⟨_, .inr ⟨fault, rfl⟩, rfl⟩
        | ok t => exact .inr ⟨t, rfl, rfl⟩

/-! ### A whole save -/

theorem discard_run (temporary : Location) (h : Host) :
    (discard temporary).run h = (.ok (), { h with
      files := if (h.files.find? temporary).isSome then h.files.erase temporary else h.files }) := rfl

/-- What is removed was not there before. -/
theorem find?_discarded {t u : FileTree} (unused : t.find? temporary = none)
    (beside : SameBut temporary t u) (l : Location) :
    (if (u.find? temporary).isSome then u.erase temporary else u).find? l = t.find? l := by
  have noDirectory : t.find? temporary ≠ some .directory := by simp [unused]
  by_cases here : l = temporary
  · subst here
    split
    · rw [find?_erase_self u (isTop_of_find?_ne noDirectory), unused]
    · next gone => rw [unused, Option.not_isSome_iff_eq_none.mp gone]
  · split
    · rw [find?_erase_of_ne _ here, beside l here]
    · exact beside l here

/-- The temporary file is filled and renamed, or something is wrong with the host or the records. -/
theorem replace_run (target : Path) (s : Store) (file : h.files.find? temporary = some (.file [])) :
    (∃ u, SameBut temporary h.files u ∧
      ((∃ e, (¬Faultless h ∨ ∃ v bytes fault, SameBut temporary h.files v ∧
            v.find? temporary = some (.file bytes) ∧ rename temporary target v = .error fault) ∧
          (s.replace temporary target).run h =
            (.error (.unwritable target e), { h with files := u })) ∨
        ∃ e, Envelope.encodeBytes s.version s.records = .error e ∧
          (s.replace temporary target).run h = (.error (.encoding e), { h with files := u }))) ∨
    ∃ envelope u v, Envelope.encodeBytes s.version s.records = .ok envelope ∧
      SameBut temporary h.files u ∧
      u.find? temporary = some (.file (Deflate.deflate envelope)) ∧
      rename temporary target u = .ok v ∧
      (s.replace temporary target).run h =
        (.ok (Bytes.hex (Sha256.digest (Deflate.deflate envelope))), { h with files := v }) := by
  rw [replace, Action.run_bind]
  obtain ⟨u, beside, ⟨e, struck, ran⟩ | ⟨e, failed, ran⟩ | ⟨envelope, encoded, content, ran⟩⟩ :=
    fill_run target s file
  · exact .inl ⟨u, beside, .inl ⟨e, .inl struck, by rw [ran]⟩⟩
  · exact .inl ⟨u, beside, .inr ⟨e, failed, by rw [ran]⟩⟩
  · rw [ran]
    dsimp only
    rw [Action.run_bind, Action.run_mapError]
    rcases install_run temporary target { h with files := u } with
      ⟨e, cause, ran⟩ | ⟨v, renamed, ran⟩
    · refine .inl ⟨u, beside, .inl ⟨e, cause.imp id fun ⟨fault, failed⟩ => ?_, by rw [ran]⟩⟩
      exact ⟨u, _, fault, beside, content, failed⟩
    · exact .inr ⟨envelope, u, v, encoded, beside, content, renamed, by rw [ran]; rfl⟩

/-- A save that fails leaves everything where it was and adds nothing but directories; one that
succeeds has put the compressed envelope in the place of the target. -/
theorem writeTo_run (s : Store) (target : Path) (h : Host) :
    (∃ e t, WriteFailure s target h e ∧ AddsDirectories target.parent h.files t ∧
      (s.writeTo target).run h = (.error e, { h with files := t })) ∨
    ∃ envelope t, Envelope.encodeBytes s.version s.records = .ok envelope ∧ Suitable target ∧
      Nonempty (Replacement target (Deflate.deflate envelope) h.files t) ∧
      (s.writeTo target).run h =
        (.ok (Bytes.hex (Sha256.digest (Deflate.deflate envelope))), { h with files := t }) := by
  rw [writeTo, Action.run_bind, Action.run_mapError]
  rcases prepare_run target h with ⟨e, t, cause, adds, ran⟩ | ⟨t, d, made, outer, short, ran⟩
  · exact .inl ⟨_, t, .unprepared e cause, adds, by rw [ran]⟩
  · have adds : AddsDirectories target.parent h.files t := made ▸ makeDirectories_adds _ _
    obtain ⟨k, named⟩ : ∃ k, temporaryLocation t d target.name = d ++ [temporaryName target.name k] :=
      ⟨_, rfl⟩
    have unused := temporaryLocation_free t d target.name
    have inner := isTop_temporary d target.name k
    rw [ran, named]
    rw [named] at unused
    generalize location : d ++ [temporaryName target.name k] = temporary at unused inner ⊢
    have empty : SameBut temporary t (t.insert temporary (.file [])) := sameBut_insert _ _ _
    dsimp only
    rw [Action.run_bind, Action.run_attempt]
    have file : ({ h with files := t.insert temporary (.file []) } : Host).files.find? temporary =
        some (.file []) := find?_insert_self t _ inner
    rcases replace_run target s file with
      ⟨u, beside, ⟨e, cause, ran⟩ | ⟨e, failed, ran⟩⟩ |
      ⟨envelope, u, v, encoded, beside, content, renamed, ran⟩
    · refine .inl ⟨.unwritable target e, _, .unwritable e fun ready => ?_,
        adds.congr (find?_discarded unused (empty.trans beside)), by rw [ran]; rfl⟩
      rcases cause with struck | ⟨v, bytes, fault, beside, content, failed⟩
      · exact struck ready.faultless
      · obtain ⟨l, reached, free⟩ := ready.free
        rw [← made] at reached free
        obtain ⟨w, renamed⟩ := exists_rename ready.suitable reached free unused
          (empty.trans beside) content
        rw [failed] at renamed
        cases renamed
    · exact .inl ⟨.encoding e, _, .encoding e failed,
        adds.congr (find?_discarded unused (empty.trans beside)), by rw [ran]; rfl⟩
    · subst location
      obtain ⟨name, -, -, last, down, -⟩ := rename_eq_ok renamed
      obtain ⟨place, reached, gone, result⟩ :=
        find?_of_rename outer unused (empty.trans beside) content renamed
      have suitable : Suitable target := ⟨⟨name, last, down⟩, short, size_of_resolve outer⟩
      refine .inr ⟨envelope, v, encoded, suitable,
        ⟨⟨t, _, u, place, adds, reached, unused, empty.trans beside, content, renamed, result⟩⟩, ?_⟩
      rw [ran]
      dsimp only
      rw [Action.run_bind, discard_run, gone]
      rfl

/-- Nothing is missing when the target is a file already. -/
theorem ready_of_content (suitable : Suitable target) (faultless : Faultless h) {bytes : List UInt8}
    (content : h.files.contentAt target = .ok bytes) : Ready target h := by
  obtain ⟨l, reached, found⟩ := contentAt_eq_ok.mp content
  obtain ⟨name, last, down⟩ := suitable.named
  obtain ⟨d, walked, directory, -⟩ := walk_of_resolve last down reached
  have outer : h.files.resolve target.parent = .ok d := by
    rw [resolve, if_neg (Nat.not_lt_of_le suitable.parentShort)]
    exact walked
  have made := makeDirectories_of_directory outer directory
  constructor
  · exact suitable
  · exact faultless
  · rw [made]
  · rw [made]; exact ⟨d, outer⟩
  · rw [made]; exact ⟨l, reached, by simp [found]⟩

theorem exists_writeTo {s : Store} {envelope : List UInt8} (ready : Ready target h)
    (encoded : Envelope.encodeBytes s.version s.records = .ok envelope) :
    ∃ hash k, (s.writeTo target).run h = (.ok hash, k) := by
  rcases writeTo_run s target h with ⟨e, t, failed, -⟩ | ⟨envelope', t, -, -, -, ran⟩
  · cases failed with
    | unprepared e cause => exact absurd ready cause
    | unwritable e cause => exact absurd ready cause
    | encoding e cause => rw [encoded] at cause; cases cause
  · exact ⟨_, _, ran⟩

/-! ### Saving in place -/

theorem InPlace.run_bind {α β : Type} (x : InPlace α) (f : α → InPlace β) (s : Store) (h : Host) :
    (x >>= f).run s h = match x.run s h with
      | (.ok a, s, h) => (f a).run s h
      | (.error e, s, h) => (.error e, s, h) := by
  show (match Id.run (StateT.run (ExceptT.run x) (s, h)) with
    | (r, k) => Id.run (StateT.run (ExceptT.bindCont f r) k)) = _
  rw [InPlace.run]
  rcases Id.run (StateT.run (ExceptT.run x) (s, h)) with ⟨r, s, h⟩
  cases r <;> rfl

/-- Place and hash are noted only when all is done. -/
theorem saveInPlace_run (path : Option Path) (s : Store) (h : Host) :
    (saveInPlace path).run s h =
      if s.readonly then (.error .readonlySave, s, h)
      else match path <|> s.path with
        | none => (.error .noPathToSaveTo, s, h)
        | some target => match (s.writeTo target).run h with
          | (.ok hash, h) => (.ok (), { s with path := some target, fileHash := some hash }, h)
          | (.error e, h) => (.error e, s, h) := by
  have stored : InPlace.store.run s h = (.ok s, s, h) := rfl
  rw [saveInPlace, InPlace.run_bind, stored]
  dsimp only
  split
  · rfl
  · cases (path <|> s.path) with
    | none => rfl
    | some target =>
      have acted : (InPlace.act (s.writeTo target)).run s h =
          (((s.writeTo target).run h).1, s, ((s.writeTo target).run h).2) := rfl
      dsimp only
      rw [InPlace.run_bind, acted]
      rcases (s.writeTo target).run h with ⟨r, k⟩
      cases r <;> rfl

theorem save_run (path : Option Path) (s : Store) (h : Host) :
    (s.save path).run h =
      if s.readonly then (.error .readonlySave, h)
      else match path <|> s.path with
        | none => (.error .noPathToSaveTo, h)
        | some target => match (s.writeTo target).run h with
          | (.ok hash, h) => (.ok { s with path := some target, fileHash := some hash }, h)
          | (.error e, h) => (.error e, h) := by
  have same : (s.save path).run h =
      (((saveInPlace path).run s h).1.map fun () => ((saveInPlace path).run s h).2.1,
        ((saveInPlace path).run s h).2.2) := rfl
  rw [same, saveInPlace_run]
  split
  · rfl
  · cases (path <|> s.path) with
    | none => rfl
    | some target =>
      dsimp only
      rcases (s.writeTo target).run h with ⟨r, k⟩
      cases r <;> rfl

/-- What there is after a save that succeeded. -/
theorem save_eq_ok {path : Option Path} {s s' : Store} {h h' : Host}
    (saved : (s.save path).run h = (.ok s', h')) :
    ∃ target envelope, s.readonly = false ∧ (path <|> s.path) = some target ∧
      Envelope.encodeBytes s.version s.records = .ok envelope ∧ Suitable target ∧
      h'.files.contentAt target = .ok (Deflate.deflate envelope) ∧
      s' = { s with
        path := some target
        fileHash := some (Bytes.hex (Sha256.digest (Deflate.deflate envelope))) } := by
  rw [save_run] at saved
  split at saved
  · cases saved
  · next writable =>
    split at saved
    · cases saved
    · next target found =>
      rcases writeTo_run s target h with
        ⟨e, t, -, -, ran⟩ | ⟨envelope, t, encoded, suitable, ⟨replacement⟩, ran⟩
      · rw [ran] at saved
        cases saved
      · rw [ran] at saved
        cases saved
        exact ⟨target, envelope, Bool.eq_false_iff.mpr writable, found, encoded, suitable,
          replacement.contentAt, rfl⟩

theorem exists_save {path : Option Path} {s : Store} {envelope : List UInt8}
    (writable : s.readonly = false) (found : (path <|> s.path) = some target)
    (ready : Ready target h) (encoded : Envelope.encodeBytes s.version s.records = .ok envelope) :
    ∃ s', ((s.save path).run h).1 = .ok s' := by
  obtain ⟨hash, k, ran⟩ := exists_writeTo ready encoded
  refine ⟨{ s with path := some target, fileHash := some hash }, ?_⟩
  rw [save_run, writable, if_neg (by decide), found]
  dsimp only
  rw [ran]

end LinkMonitor.Store
