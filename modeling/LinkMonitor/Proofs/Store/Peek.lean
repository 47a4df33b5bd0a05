import LinkMonitor.Proofs.Deflate.Front
import LinkMonitor.Proofs.Store.Open

/-!
# Looking at the version

The version that is read from the front of a file is the one that a load finds, and where the front is
refused a load fails as well.
-/

namespace LinkMonitor

namespace Deflate

open Inflater

theorem of_inflate_finished {bytes output rest : List UInt8}
    (finished : inflate bytes = .finished output rest) :
    (run none (start.feed bytes)).2 ≠ .invalid ∧
      (run none (start.feed bytes)).1.output.reverse = output := by
  rw [inflate] at finished
  split at finished
  · cases finished
  · next t _ valid same =>
    rw [same]
    refine ⟨valid, ?_⟩
    split at finished
    · cases finished
      rfl
    · cases finished

theorem readsFront_start (count : Nat) (bytes : List UInt8) (pos : 0 < count) :
    ∃ pieces ≤ bytes.length / 64 + 2,
      ReadsFront count start bytes pieces (inflateFront count start bytes) := by
  have nothing : run (some count) (start.feed []) = (start, .starved) := run_of_stop rfl
  have valid : (run (some count) (start.feed [])).2 ≠ .invalid := by
    rw [nothing]
    exact Stop.noConfusion
  have reads := readsFront_inflateFront [] bytes valid (by rwa [nothing])
  rwa [nothing] at reads

/-- What the loop has read, or the stream is invalid. -/
theorem result_of_readsFront {count pieces : Nat} {bytes : List UInt8} {result : Option (List UInt8)}
    (reads : ReadsFront count start bytes pieces result) :
    (result = none → inflate bytes = .invalid) ∧
      ∀ first, result = some first → first = front count bytes := by
  have here : start = (run (some count) (start.feed [])).1 := by
    rw [show run (some count) (start.feed []) = (start, .starved) from run_of_stop rfl]
  obtain ⟨invalid, first⟩ := reads.result_eq here
  refine ⟨fun none => ?_, first⟩
  have bad := invalid none
  rw [List.nil_append] at bad
  rw [inflate]
  split
  · rfl
  · next t stop valid same =>
    rw [same] at bad
    exact absurd bad valid

end Deflate

namespace Envelope

theorem readVersion_take (bytes : List UInt8) :
    readVersion (bytes.take versionPrefixSize) = readVersion bytes := by
  match bytes with
  | [] | [_] | [_, _] | [_, _, _] | [_, _, _, _] => rfl
  | _ :: _ :: _ :: _ :: _ :: _ => rfl

theorem readVersion_of_decode {bytes : List UInt8} {version : FormatVersion}
    {records : List CheckRecord} (h : decode bytes = .ok (version, records)) :
    readVersion bytes = .ok version := by
  obtain ⟨version', known, h⟩ := ok_of_bind h
  split at h
  · cases h
  · obtain ⟨⟨read, c⟩, -, h⟩ := ok_of_bind h
    dsimp only at h
    split at h
    · cases h
      exact known
    · cases h

/-- An unknown version is found in the first five bytes, and nowhere else. -/
theorem readVersion_of_unsupported {bytes : List UInt8} {tag : Nat}
    (h : decode bytes = .error (.unsupportedVersion tag)) :
    readVersion bytes = .error (.unsupportedVersion tag) := by
  have refused := (decode_ok_iff_isEnvelope bytes).2 _ h
  rw [Refused] at refused
  split at refused
  · next cause =>
    rcases readVersion_cases bytes with ⟨-, -, -, -, small⟩ | ⟨e, failed, refused'⟩
    · exact absurd cause.2.2 (Nat.not_lt_of_le small)
    · rw [Refused, if_pos cause, ← refused] at refused'
      rw [failed, refused']
  · cases refused

end Envelope

namespace Store

open Deflate Deflate.Inflater

/-- What the front of a file tells about its version; there is none if the file is no stream. -/
def versionOf (path : Path) : Option (List UInt8) → Except StoreError FormatVersion
  | none => .error (.notCompressed path)
  | some first =>
    match Envelope.readVersion first with
    | .ok version => .ok version
    | .error e => .error (.decoding e)

theorem peekVersion_of_unread {path : Path} {h k : Host} {e : StoreError}
    (unread : (readStoreFile path).run h = (.error e, k)) :
    (peekVersion path).run h = (.error e, k) := by
  rw [peekVersion, Action.run_bind, unread]

theorem peekVersion_of_read {path : Path} {h k : Host} {bytes : List UInt8}
    (read : (readStoreFile path).run h = (.ok bytes, k)) :
    (peekVersion path).run h =
      (versionOf path (inflateFront Envelope.versionPrefixSize start bytes), k) := by
  rw [peekVersion, Action.run_bind, read]
  dsimp only
  cases inflateFront Envelope.versionPrefixSize start bytes with
  | none => rfl
  | some first =>
    simp only [versionOf]
    cases Envelope.readVersion first <;> rfl

theorem readStoreFile_of_reads {path : Path} {bytes : List UInt8} {h : Host}
    (reads : Reads h path bytes) : (readStoreFile path).run h = (.ok bytes, h) := by
  rw [readStoreFile_run, reads.calm, readBytes_eq reads.content]

/-- In a whole stream the front tells what the whole envelope tells. -/
theorem versionOf_front (path : Path) {bytes envelope : List UInt8}
    (whole : inflate bytes = .finished envelope []) :
    versionOf path (inflateFront Envelope.versionPrefixSize start bytes) =
      match Envelope.readVersion envelope with
      | .ok version => .ok version
      | .error e => .error (.decoding e) := by
  obtain ⟨pieces, -, reads⟩ := readsFront_start Envelope.versionPrefixSize bytes (by decide)
  obtain ⟨invalid, first⟩ := result_of_readsFront reads
  cases read : inflateFront Envelope.versionPrefixSize start bytes with
  | none =>
    rw [invalid read] at whole
    cases whole
  | some found =>
    rw [versionOf, first found read, front, (of_inflate_finished whole).2, Envelope.readVersion_take]

variable {path : Path} {bytes : List UInt8} {readonly : Bool}

theorem decodeFile_stream (path : Path) (readonly : Bool) (bytes : List UInt8) :
    (∃ e, decodeFile path readonly bytes = .error e ∧ ∀ e', e ≠ .decoding e') ∨
    ∃ envelope, inflate bytes = .finished envelope [] ∧
      ((∃ s, decodeFile path readonly bytes = .ok s ∧
        Envelope.decode envelope = .ok (s.version, s.records)) ∨
      ∃ e, decodeFile path readonly bytes = .error (.decoding e) ∧
        Envelope.decode envelope = .error e) := by
  rw [decodeFile, readEnvelope_eq]
  cases found : inflate bytes with
  | invalid => exact .inl ⟨_, rfl, fun _ same => by cases same⟩
  | truncated => exact .inl ⟨_, rfl, fun _ same => by cases same⟩
  | finished output rest =>
    cases rest with
    | cons b others => exact .inl ⟨_, rfl, fun _ same => by cases same⟩
    | nil =>
      refine .inr ⟨output, rfl, ?_⟩
      simp only [List.isEmpty_nil, if_true, bind, Except.bind]
      cases decoded : Envelope.decode output with
      | error e => exact .inr ⟨e, rfl, rfl⟩
      | ok content => exact .inl ⟨_, rfl, rfl⟩

/-- Where a file decodes, or is of an unknown version, its front tells the same. -/
theorem versionOf_of_decodeFile (path : Path) (readonly : Bool) (bytes : List UInt8) :
    (∀ s, decodeFile path readonly bytes = .ok s →
      versionOf path (inflateFront Envelope.versionPrefixSize start bytes) = .ok s.version) ∧
    ∀ tag, decodeFile path readonly bytes = .error (.decoding (.unsupportedVersion tag)) →
      versionOf path (inflateFront Envelope.versionPrefixSize start bytes) =
        .error (.decoding (.unsupportedVersion tag)) := by
  rcases decodeFile_stream path readonly bytes with
    ⟨e, failed, other⟩ | ⟨envelope, whole, ⟨s, ran, decoded⟩ | ⟨e, failed, refused⟩⟩
  · rw [failed]
    exact ⟨nofun, fun tag same => absurd (Except.error.inj same) (other _)⟩
  · rw [ran, versionOf_front path whole, Envelope.readVersion_of_decode decoded]
    refine ⟨fun s' same => ?_, nofun⟩
    rw [Except.ok.inj same]
  · rw [failed, versionOf_front path whole]
    refine ⟨nofun, fun tag same => ?_⟩
    obtain rfl : e = .unsupportedVersion tag := StoreError.decoding.inj (Except.error.inj same)
    rw [Envelope.readVersion_of_unsupported refused]

/-- The version from the front of a file is that of the whole file, if that can be loaded; an unknown
version is the same from both; and where the front is refused so is the file. The front is read in a
number of pieces that the size of the file bounds, and is what the stream puts out first, whatever may be
wrong with it further on. -/
theorem peekVersion_agrees (path : Path) (readonly : Bool) (h : Host) :
    (∀ s, ((load path readonly).run h).1 = .ok s → (peekVersion path).run h = (.ok s.version, h)) ∧
    (∀ tag, ((load path readonly).run h).1 = .error (.decoding (.unsupportedVersion tag)) →
      (peekVersion path).run h = (.error (.decoding (.unsupportedVersion tag)), h)) ∧
    (∀ e, ((peekVersion path).run h).1 = .error e →
      ∃ e', ((load path readonly).run h).1 = .error e') ∧
    ∀ bytes, Reads h path bytes → ∃ pieces result,
      ReadsFront Envelope.versionPrefixSize start bytes pieces result ∧
      pieces ≤ bytes.length / 64 + 2 ∧
      (result = none → inflate bytes = .invalid) ∧
      (∀ first, result = some first → first = front Envelope.versionPrefixSize bytes) ∧
      (peekVersion path).run h = (versionOf path result, h) := by
  have silent : ((readStoreFile path).run h).2 = h := by
    rw [readStoreFile_run]
    split <;> rfl
  have loaded : ((load path readonly).run h).1 =
      ((readStoreFile path).run h).1 >>= decodeFile path readonly := load_result path h
  rcases reading : (readStoreFile path).run h with ⟨r, k⟩
  rw [reading] at loaded silent
  obtain rfl : k = h := silent
  cases r with
  | error e =>
    -- What keeps the file from being read is the same for both.
    replace loaded : ((load path readonly).run k).1 = .error e := loaded
    rw [loaded, peekVersion_of_unread reading]
    refine ⟨nofun, fun tag same => ?_, fun _ _ => ⟨e, rfl⟩, fun bytes reads => ?_⟩
    · rw [Except.error.inj same]
    · rw [readStoreFile_of_reads reads] at reading
      cases reading
  | ok bytes =>
    replace loaded : ((load path readonly).run k).1 = decodeFile path readonly bytes := loaded
    obtain ⟨accepted, unsupported⟩ := versionOf_of_decodeFile path readonly bytes
    rw [loaded, peekVersion_of_read reading]
    refine ⟨fun s ran => by rw [accepted s ran], fun tag ran => by rw [unsupported tag ran],
      fun e failed => ?_, fun bytes' reads => ?_⟩
    · cases ran : decodeFile path readonly bytes with
      | error e' => exact ⟨e', rfl⟩
      | ok s =>
        rw [accepted s ran] at failed
        cases failed
    · rw [readStoreFile_of_reads reads] at reading
      cases reading
      obtain ⟨pieces, few, reads⟩ := readsFront_start Envelope.versionPrefixSize bytes (by decide)
      obtain ⟨invalid, first⟩ := result_of_readsFront reads
      exact ⟨pieces, _, reads, few, invalid, first, rfl⟩

/-- A store file, and one of an unknown version. -/
theorem peekVersion_agrees_sevenNext :
    let host (envelope : List UInt8) : Host :=
      { files := ⟨[(["checks"], .file (deflate envelope))]⟩ }
    let unknown := host (Envelope.magic ++ [7, 0, 0, 0, 0])
    (∃ envelope, Envelope.encodeBytes .v1 Envelope.twoRecords = .ok envelope ∧
      (peekVersion checksPath).run (host envelope) = (.ok .v1, host envelope)) ∧
    (peekVersion checksPath).run unknown = (.error (.decoding (.unsupportedVersion 7)), unknown) ∧
    (∃ e, ((load checksPath).run unknown).1 = .error e) ∧
    ∃ pieces result, pieces ≤ 2 ∧
      ReadsFront 5 start (deflate (Envelope.magic ++ [7, 0, 0, 0, 0])) pieces result := by
  intro host unknown
  obtain ⟨envelope, encoded⟩ :
      ∃ envelope, Envelope.encodeBytes .v1 Envelope.twoRecords = .ok envelope := ⟨_, rfl⟩
  have known := load_run (h := host envelope) rfl rfl (decodeFile_deflate checksPath false encoded)
  have refused : ((load checksPath).run unknown).1 =
      .error (.decoding (.unsupportedVersion 7)) := by
    rw [load_result]
    show decodeFile checksPath false (deflate _) = _
    rw [decodeFile, readEnvelope_eq, inflate_deflate]
    rfl
  obtain ⟨-, unsupported, fails, reading⟩ := peekVersion_agrees checksPath false unknown
  have peeked := unsupported 7 refused
  refine ⟨⟨envelope, encoded, (peekVersion_agrees checksPath false (host envelope)).1 _ known.1⟩,
    peeked, fails _ (by rw [peeked]), ?_⟩
  obtain ⟨pieces, result, reads, few, -⟩ := reading _ ⟨rfl, rfl⟩
  have size : (deflate (Envelope.magic ++ [7, 0, 0, 0, 0])).length = 20 := by
    rw [deflate, storedBlocks, if_pos (by decide)]
    rfl
  rw [size] at few
  exact ⟨pieces, result, few, reads⟩

end Store
end LinkMonitor
