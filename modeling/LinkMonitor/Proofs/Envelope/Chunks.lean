import LinkMonitor.Proofs.Envelope.Representable
import LinkMonitor.Store.Basic

/-!
# Envelopes in chunks

An envelope is made chunk by chunk: its header, and then groups of records, each of which ends with the
record that makes it long enough. Put together the chunks are the whole envelope. There is one unless a
record has a timestamp that its layout has no room for.
-/

namespace LinkMonitor

/-- The bytes that one record takes. -/
def FormatVersion.recordSize : FormatVersion → IpStack → Nat
  | .v0, .v4 => 17
  | .v0, .v6 => 29
  | .v1, .v4 => 16
  | .v1, .v6 => 28

namespace Envelope

open Layout

variable {version : FormatVersion} {records : List CheckRecord} {pieces : List (List UInt8)}

/-! ### The encodings of the records -/

theorem length_of_encode? {r : CheckRecord} {bytes : List UInt8}
    (encoded : Layout.encode? version r = some bytes) :
    bytes.length = version.recordSize r.stack := by
  have address : r.target.address.packed.length = Address.size r.stack :=
    Address.packed_length r.target.address
  cases version with
  | v0 =>
    have fixed : bytes.length = 13 + Address.size r.stack := by
      change encodeFlagged? r = some bytes at encoded
      unfold encodeFlagged? at encoded
      split at encoded
      · cases encoded
        simp [address]
        omega
      · cases encoded
    rw [fixed]
    cases r.stack <;> rfl
  | v1 =>
    have fixed : bytes.length = 12 + Address.size r.stack := by
      change encodeTagged? r = some bytes at encoded
      unfold encodeTagged? at encoded
      split at encoded
      · cases encoded
        simp [address, Bytes.signedBigEndian]
        omega
      · cases encoded
    rw [fixed]
    cases r.stack <;> rfl

theorem recordSize_bounds (version : FormatVersion) (stack : IpStack) :
    0 < version.recordSize stack ∧ version.recordSize stack ≤ 29 := by
  cases version <;> cases stack <;> decide

theorem encodeRecord_eq_ok {r : CheckRecord} {piece : List UInt8}
    (h : encodeRecord version r = .ok piece) : Layout.encode? version r = some piece := by
  unfold encodeRecord at h
  split at h
  · next found =>
    cases h
    exact found
  · cases h

theorem encodeRecord_of_not_fits {r : CheckRecord} (never : ¬version.Fits r.timestamp) :
    encodeRecord version r = .error (.unrepresentable r) := by
  rw [← exists_encode?_iff] at never
  unfold encodeRecord
  split
  · next bytes found => exact absurd ⟨bytes, found⟩ never
  · rfl

theorem forall₂_of_mapM (encoded : records.mapM (encodeRecord version) = .ok pieces) :
    List.Forall₂ (fun r piece => Layout.encode? version r = some piece) records pieces := by
  induction records generalizing pieces with
  | nil =>
    cases encoded
    exact .nil
  | cons r records ih =>
    rw [List.mapM_cons] at encoded
    obtain ⟨piece, first, encoded⟩ := ok_of_bind encoded
    obtain ⟨others, later, encoded⟩ := ok_of_bind encoded
    cases encoded
    exact .cons (encodeRecord_eq_ok first) (ih later)

theorem fits_of_forall₂
    (encoded : List.Forall₂ (fun r piece => Layout.encode? version r = some piece) records pieces) :
    ∀ r ∈ records, version.Fits r.timestamp := by
  induction encoded with
  | nil => simp
  | cons first _ ih =>
    have fit := (exists_encode?_iff version _).mp ⟨_, first⟩
    exact List.forall_mem_cons.mpr ⟨fit, ih⟩

theorem flatten_length
    (encoded : List.Forall₂ (fun r piece => Layout.encode? version r = some piece) records pieces) :
    pieces.flatten.length = (records.map fun r => version.recordSize r.stack).sum := by
  induction encoded with
  | nil => rfl
  | cons first _ ih => simp [length_of_encode? first, ih]

theorem piece_length (encoded : records.mapM (encodeRecord version) = .ok pieces) :
    ∀ piece ∈ pieces, 0 < piece.length ∧ piece.length ≤ 29 := by
  intro piece member
  obtain ⟨r, -, found⟩ := (mem_of_mapM_eq_ok encoded piece).mp member
  rw [length_of_encode? (encodeRecord_eq_ok found)]
  exact recordSize_bounds version r.stack

/-- The first record that has no encoding is what is complained about. -/
theorem mapM_encodeRecord_of_not_fits {before after : List CheckRecord} {r : CheckRecord}
    (fit : ∀ x ∈ before, version.Fits x.timestamp) (never : ¬version.Fits r.timestamp) :
    (before ++ r :: after).mapM (encodeRecord version) = .error (.unrepresentable r) := by
  obtain ⟨pieces, encoded⟩ := exists_mapM_encodeRecord fit
  rw [List.mapM_append, encoded, List.mapM_cons, encodeRecord_of_not_fits never]
  rfl

/-! ### Groups of records -/

/-- Pieces in groups. Each group but the last one is long enough for a chunk, and none is so without its
last piece. -/
structure Packed (pieces : List (List UInt8)) (groups : List (List (List UInt8))) : Prop where
  whole : groups.flatten = pieces
  filled : ∀ group ∈ groups, group ≠ []
  long : ∀ group ∈ groups.dropLast, chunkSize ≤ group.flatten.length
  prompt : ∀ group ∈ groups, group.dropLast.flatten.length < chunkSize

namespace Packed

variable {groups : List (List (List UInt8))}

theorem nil : Packed [] [] := by
  constructor <;> simp

/-- What is left at the end makes one group. -/
theorem rest (some : pieces ≠ []) (short : pieces.flatten.length < chunkSize) :
    Packed pieces [pieces] := by
  refine ⟨by simp, by simpa using some, by simp, ?_⟩
  intro group member
  rw [List.mem_singleton.mp member]
  have front := ((List.dropLast_sublist pieces).flatten).length_le
  omega

/-- A group ends with the piece that makes it long enough. -/
theorem cons {before : List (List UInt8)} {piece : List UInt8} (packed : Packed pieces groups)
    (short : before.flatten.length < chunkSize)
    (long : chunkSize ≤ before.flatten.length + piece.length) :
    Packed (before ++ piece :: pieces) ((before ++ [piece]) :: groups) := by
  constructor
  · simp [packed.whole]
  · intro group member
    rcases List.mem_cons.mp member with rfl | later
    · simp
    · exact packed.filled group later
  · intro group member
    cases groups with
    | nil => simp at member
    | cons next groups =>
      rw [List.dropLast_cons_cons] at member
      rcases List.mem_cons.mp member with rfl | later
      · simpa using long
      · exact packed.long group later
  · intro group member
    rcases List.mem_cons.mp member with rfl | later
    · simpa using short
    · exact packed.prompt group later

end Packed

/-- The chunks of records are their encodings in groups, with the pieces before them that still wait. -/
theorem collect_recordChunks (encoded : records.mapM (encodeRecord version) = .ok pieces)
    {waiting : List (List UInt8)} {size : Nat} (counted : waiting.reverse.flatten.length = size)
    (short : size < chunkSize) :
    ∃ groups, (recordChunks version waiting size records).collect = .ok (groups.map List.flatten) ∧
      Packed (waiting.reverse ++ pieces) groups := by
  induction records generalizing pieces waiting size with
  | nil =>
    rw [List.mapM_nil] at encoded
    cases encoded
    rw [recordChunks, List.append_nil]
    by_cases none : waiting = []
    · subst none
      exact ⟨[], rfl, Packed.nil⟩
    · rw [if_neg (by simpa using none)]
      refine ⟨[waiting.reverse], rfl, Packed.rest (by simpa using none) ?_⟩
      omega
  | cons r records ih =>
    rw [List.mapM_cons] at encoded
    obtain ⟨piece, first, encoded⟩ := ok_of_bind encoded
    obtain ⟨others, later, encoded⟩ := ok_of_bind encoded
    cases encoded
    rw [recordChunks, first]
    dsimp only
    by_cases full : chunkSize ≤ size + piece.length
    · obtain ⟨groups, chunked, packed⟩ := @ih others later [] 0 rfl (by decide)
      rw [if_pos full]
      refine ⟨(waiting.reverse ++ [piece]) :: groups, ?_, ?_⟩
      · rw [Chunks.collect, chunked, List.reverse_cons]
        rfl
      · subst counted
        exact packed.cons short full
    · have longer : (piece :: waiting).reverse.flatten.length = size + piece.length := by
        simp [← counted]
      obtain ⟨groups, chunked, packed⟩ := ih later longer (by omega)
      rw [if_neg full]
      refine ⟨groups, chunked, ?_⟩
      rwa [List.reverse_cons, List.append_assoc] at packed

/-! ### The chunks of an envelope -/

/-- The chunks of an envelope are its header and the encodings of the records in groups, and have the
sizes of these. -/
structure Streams (version : FormatVersion) (records : List CheckRecord) (pieces : List (List UInt8))
    (groups : List (List (List UInt8))) (chunks : List (List UInt8)) : Prop where
  encoded : List.Forall₂ (fun r piece => Layout.encode? version r = some piece) records pieces
  grouped : groups.flatten = pieces
  parts : chunks = header version records.length :: groups.map List.flatten
  filled : ∀ chunk ∈ chunks, chunk ≠ []
  long : ∀ chunk ∈ chunks.tail.dropLast, 65536 ≤ chunk.length
  short : ∀ chunk ∈ chunks.tail, chunk.length < 65536 + 29
  whole : chunks.flatten = header version records.length ++ pieces.flatten
  size : chunks.flatten.length = 9 + (records.map fun r => version.recordSize r.stack).sum

theorem streams_of_packed {groups : List (List (List UInt8))}
    (encoded : records.mapM (encodeRecord version) = .ok pieces) (packed : Packed pieces groups) :
    Streams version records pieces groups
      (header version records.length :: groups.map List.flatten) := by
  have each := forall₂_of_mapM encoded
  have sizes (group : List (List UInt8)) (member : group ∈ groups) :
      ∀ piece ∈ group, 0 < piece.length ∧ piece.length ≤ 29 := by
    intro piece inside
    apply piece_length encoded
    rw [← packed.whole]
    exact List.mem_flatten_of_mem member inside
  have whole : (header version records.length :: groups.map List.flatten).flatten =
      header version records.length ++ pieces.flatten := by
    rw [List.flatten_cons, ← List.flatten_flatten, packed.whole]
  refine ⟨each, packed.whole, rfl, ?_, ?_, ?_, whole, ?_⟩
  · intro chunk member
    rcases List.mem_cons.mp member with rfl | later
    · simp [header, magic]
    · obtain ⟨group, among, rfl⟩ := List.mem_map.mp later
      obtain ⟨piece, others, rfl⟩ := List.exists_cons_of_ne_nil (packed.filled group among)
      have pos := (sizes _ among piece (by simp)).1
      have some : piece ≠ [] := List.ne_nil_of_length_pos pos
      simp [some]
  · intro chunk member
    rw [List.tail_cons, ← List.map_dropLast] at member
    obtain ⟨group, among, rfl⟩ := List.mem_map.mp member
    exact packed.long group among
  · intro chunk member
    rw [List.tail_cons] at member
    obtain ⟨group, among, rfl⟩ := List.mem_map.mp member
    have some := packed.filled group among
    have front : group.dropLast.flatten.length < 65536 := packed.prompt group among
    have final := (sizes group among _ (List.getLast_mem some)).2
    rw [← List.dropLast_append_getLast some, List.flatten_append, List.flatten_singleton,
      List.length_append]
    omega
  · rw [whole, List.length_append, header_length, flatten_length each]
    rfl

theorem encode_of_mapM_ok (few : records.length ≤ 0xffffffff)
    (encoded : records.mapM (encodeRecord version) = .ok pieces) :
    ∃ groups chunks, encode version records = .ok chunks ∧
      Streams version records pieces groups chunks := by
  obtain ⟨groups, chunked, packed⟩ := @collect_recordChunks _ _ _ encoded [] 0 rfl (by decide)
  refine ⟨groups, _, ?_, streams_of_packed encoded packed⟩
  rw [encode, chunks, if_neg (by omega), Chunks.collect, chunked]
  rfl

theorem encode_of_mapM_error {e : EncodeError} (few : records.length ≤ 0xffffffff)
    (failed : records.mapM (encodeRecord version) = .error e) :
    encode version records = .error e := by
  have bytes : encodeBytes version records = .error e := by
    rw [encodeBytes_eq, if_neg (by omega), failed]
    rfl
  rw [encodeBytes] at bytes
  cases h : encode version records with
  | ok chunks =>
    rw [h] at bytes
    cases bytes
  | error e' =>
    rw [h] at bytes
    cases bytes
    rfl

theorem sizeInMemory_of_encode {s : Store} {chunks : List (List UInt8)}
    (encoded : encode s.version s.records = .ok chunks) :
    s.sizeInMemory = .ok chunks.flatten.length := by
  rw [Store.sizeInMemory, Store.canonicalBytes, encodeBytes, encoded]
  rfl

/-- An envelope comes in chunks exactly if every record has a timestamp that its layout has room for; else
the first record that has none is complained about. The first chunk is the header, the others are whole
records in their order, at least 64 KiB of them in all but the last chunk. All chunks together are as
long as the store says. -/
theorem encode_streams (version : FormatVersion) {records : List CheckRecord}
    (few : records.length ≤ 0xffffffff) :
    ((∃ chunks, encode version records = .ok chunks) ↔ ∀ r ∈ records, version.Fits r.timestamp) ∧
    (∀ before r after, records = before ++ r :: after →
      (∀ x ∈ before, version.Fits x.timestamp) → ¬version.Fits r.timestamp →
      encode version records = .error (.unrepresentable r)) ∧
    ∀ chunks, encode version records = .ok chunks →
      (∃ pieces groups, Streams version records pieces groups chunks) ∧
      ∀ s : Store, s.version = version → s.records = records →
        s.sizeInMemory = .ok chunks.flatten.length := by
  refine ⟨⟨?_, ?_⟩, ?_, ?_⟩
  · rintro ⟨chunks, encoded⟩
    obtain ⟨pieces, whole, -, -⟩ := encode_eq_ok encoded
    exact fits_of_forall₂ (forall₂_of_mapM whole)
  · intro fit
    obtain ⟨pieces, whole⟩ := exists_mapM_encodeRecord fit
    obtain ⟨groups, chunks, encoded, -⟩ := encode_of_mapM_ok few whole
    exact ⟨chunks, encoded⟩
  · intro before r after split fit never
    subst split
    exact encode_of_mapM_error few (mapM_encodeRecord_of_not_fits fit never)
  · intro chunks encoded
    constructor
    · obtain ⟨pieces, whole, -, -⟩ := encode_eq_ok encoded
      obtain ⟨groups, chunks', encoded', streams⟩ := encode_of_mapM_ok few whole
      rw [encoded] at encoded'
      cases encoded'
      exact ⟨pieces, groups, streams⟩
    · intro s version_eq records_eq
      apply sizeInMemory_of_encode
      rw [version_eq, records_eq, encoded]

/-- Records that fill one chunk exactly: nothing waits for another chunk behind it. -/
theorem encode_streams_full :
    ∃ chunk, encode .v1 (List.replicate 4096 ⟨0, .icmp, .ofAddress (.v4 0), .failure .timeout⟩) =
      .ok [header .v1 4096, chunk] ∧ chunk.length = 65536 := by
  let r : CheckRecord := ⟨0, .icmp, .ofAddress (.v4 0), .failure .timeout⟩
  have count : (List.replicate 4096 r).length = 4096 := List.length_replicate
  have few : (List.replicate 4096 r).length ≤ 0xffffffff := by
    rw [count]
    decide
  obtain ⟨succeeds, -, all⟩ := encode_streams .v1 few
  have fit : ∀ x ∈ List.replicate 4096 r, FormatVersion.v1.Fits x.timestamp := by
    intro x member
    rw [List.eq_of_mem_replicate member]
    exact ⟨by decide, by decide⟩
  obtain ⟨chunks, encoded⟩ := succeeds.mpr fit
  obtain ⟨⟨pieces, groups, streams⟩, -⟩ := all chunks encoded
  have whole : chunks.flatten.length = 9 + 65536 := by
    rw [streams.size, List.map_replicate, List.sum_replicate]
    rfl
  have long := streams.long
  have filled := streams.filled
  rw [streams.parts, count] at encoded whole long filled
  rw [List.flatten_cons, List.length_append, header_length, headerSize] at whole
  rw [List.tail_cons] at long
  generalize groups.map List.flatten = later at encoded whole long filled
  -- There is something after the header, and a full chunk leaves no room for another one.
  cases later with
  | nil => simp at whole
  | cons chunk more =>
    cases more with
    | nil =>
      simp only [List.flatten_singleton] at whole
      exact ⟨chunk, encoded, by omega⟩
    | cons next more =>
      have full : 65536 ≤ chunk.length := long chunk (by simp)
      have some : 0 < next.length := List.length_pos_of_ne_nil (filled next (by simp))
      simp only [List.flatten_cons, List.length_append] at whole
      omega

end Envelope
end LinkMonitor
