import LinkMonitor.Envelope.Basic
import LinkMonitor.Proofs.Bytes.BigEndian
import LinkMonitor.Proofs.Net.CanonicalText
import LinkMonitor.Proofs.Results
import Mathlib.Data.List.Forall2

/-!
# Decoding envelopes

An envelope decodes to the records that it was made of, with the canonical text of their targets.
-/

namespace LinkMonitor

/-! ### Canonical records -/

namespace CheckRecord

/-- The same record with the canonical text of its target. -/
def canonical (r : CheckRecord) : CheckRecord := { r with target := r.target.canonical }

theorem canonical_of_text {r : CheckRecord} (h : r.target.text = r.target.address.text) :
    r.canonical = r := by
  rw [canonical, Target.canonical_of_text h]

/-- The targets of all records are written canonically. -/
def AllCanonical (records : List CheckRecord) : Prop :=
  ∀ r ∈ records, r.target.text = r.target.address.text

theorem map_canonical_of_allCanonical {records : List CheckRecord} (h : AllCanonical records) :
    records.map canonical = records := by
  have same (r : CheckRecord) (hr : r ∈ records) : r.canonical = id r := canonical_of_text (h r hr)
  rw [List.map_congr_left same, List.map_id]

@[simp] theorem canonical_canonical (r : CheckRecord) : r.canonical.canonical = r.canonical :=
  canonical_of_text rfl

theorem targetOn_text (t : Target) : targetOn t.stack t.address.text = .ok t.canonical := by
  have parsed := Target.parse_text t.canonical
  rw [Target.canonical_text] at parsed
  rw [targetOn, parsed]
  exact if_pos rfl

theorem latencyOf_val (n : Latency) : latencyOf (n.val : Int) = .ok n := by
  have := n.isLt
  rw [latencyOf, dif_pos (by omega)]
  rfl

end CheckRecord

theorem Address.ofPacked_packed (a : Address) : ofPacked a.stack a.packed = a := by
  cases a with
  | v4 bits =>
    have value := Bytes.ofBigEndian_bigEndian_of_lt 4 bits.isLt
    simp [ofPacked, packed, stack, value]
  | v6 bits =>
    have value := Bytes.ofBigEndian_bigEndian_of_lt 16 bits.isLt
    simp [ofPacked, packed, stack, value]

/-! ### Fields -/

theorem Bytes.take?_append {α : Type} {front rest : List α} {count : Nat}
    (width : front.length = count) : take? count (front ++ rest) = some (front, rest) := by
  subst width
  simp [take?]

theorem Cursor.take?_append {front : List UInt8} {count : Nat} (width : front.length = count)
    (rest : List UInt8) (offset : Nat) :
    (⟨front ++ rest, offset⟩ : Cursor).take? count = some (front, ⟨rest, offset + count⟩) := by
  rw [take?, Bytes.take?_append width]
  rfl

/-- Four fields that stand behind one another. -/
theorem Bytes.fields_append {α : Type} {a b c : List α} {i j k : Nat} (ha : a.length = i)
    (hb : b.length = j) (hc : c.length = k) (d : List α) :
    (a ++ b ++ c ++ d).take i = a ∧ ((a ++ b ++ c ++ d).drop i).take j = b ∧
      ((a ++ b ++ c ++ d).drop (i + j)).take k = c ∧ (a ++ b ++ c ++ d).drop (i + j + k) = d := by
  have second : (a ++ b ++ c ++ d).drop i = b ++ (c ++ d) := by
    rw [List.append_assoc, List.append_assoc, List.drop_left' ha]
  have third : (a ++ b ++ c ++ d).drop (i + j) = c ++ d := by
    rw [← List.drop_drop, second, List.drop_left' hb]
  refine ⟨?_, ?_, ?_, ?_⟩
  · rw [List.append_assoc, List.append_assoc, List.take_left' ha]
  · rw [second, List.take_left' hb]
  · rw [third, List.take_left' hc]
  · rw [← List.drop_drop, third, List.drop_left' hc]

namespace Layout

theorem readTarget_packed (t : Target) (rest : List UInt8) (offset : Nat) :
    readTarget t.stack ⟨t.address.packed ++ rest, offset⟩ =
      .ok (t.canonical, ⟨rest, offset + Address.size t.stack⟩) := by
  have same : Address.ofPacked t.stack t.address.packed = t.address :=
    Address.ofPacked_packed t.address
  have width : t.address.packed.length = Address.size t.stack := Address.packed_length t.address
  rw [readTarget, Cursor.take?_append width]
  simp only [same, CheckRecord.targetOn_text]

theorem outcomeOf_val (n : Latency) : outcomeOf (n.val : Int) = .ok (.success n) := by
  rw [outcomeOf, CheckRecord.latencyOf_val]

theorem latencyField_lt (o : Outcome) : latencyField o < 256 ^ 2 := by
  cases o with
  | success n =>
    have := n.isLt
    simp only [latencyField]
    omega
  | failure cause => simp only [latencyField, noLatency]; decide

theorem noLatency_ne (n : Latency) : n.val ≠ noLatency := by
  have := n.isLt
  simp only [noLatency]
  omega

/-! ### Version 0 -/

theorem flags_lt (k : CheckKind) (o : Outcome) : kindFlag k + outcomeFlag o < 256 ^ 2 := by
  rcases k with _ | _ <;> rcases o with n | ⟨_ | _ | _⟩ <;> simp only [outcomeFlag] <;> decide

theorem kindOfFlags_flags (k : CheckKind) (o : Outcome) :
    kindOfFlags (kindFlag k + outcomeFlag o) = .ok k := by
  rcases k with _ | _ <;> rcases o with n | ⟨_ | _ | _⟩ <;> simp only [outcomeFlag] <;> rfl

theorem outcomeOfFlags_flags (k : CheckKind) (o : Outcome) :
    outcomeOfFlags (kindFlag k + outcomeFlag o) (latencyField o) = .ok o := by
  cases o with
  | success n =>
    have flag : hasFlag (kindFlag k + outcomeFlag (.success n)) successFlag = true := by
      cases k <;> simp only [outcomeFlag] <;> rfl
    rw [outcomeOfFlags, if_pos flag, latencyField, if_neg (noLatency_ne n), outcomeOf_val]
  | failure cause => rcases k with _ | _ <;> rcases cause with _ | _ | _ <;> rfl

theorem stackOfFamily?_family (stack : IpStack) : stackOfFamily? (family stack) = some stack := by
  cases stack <;> rfl

theorem family_lt (stack : IpStack) : family stack < 256 ^ 1 := by cases stack <;> decide

theorem decodeFlagged_encodeFlagged {r : CheckRecord} {bytes : List UInt8}
    (h : encodeFlagged? r = some bytes) (rest : List UInt8) (offset : Nat) :
    ∃ offset', decodeFlagged ⟨bytes ++ rest, offset⟩ = .ok (r.canonical, ⟨rest, offset'⟩) := by
  rw [encodeFlagged?] at h
  split at h
  · next range =>
    cases h
    have time : Bytes.ofBigEndian (Bytes.bigEndian 8 r.timestamp.toNat) = r.timestamp.toNat :=
      Bytes.ofBigEndian_bigEndian_of_lt 8 (by omega)
    have flags := Bytes.ofBigEndian_bigEndian_of_lt 2 (flags_lt r.kind r.outcome)
    have latency := Bytes.ofBigEndian_bigEndian_of_lt 2 (latencyField_lt r.outcome)
    have family := Bytes.ofBigEndian_bigEndian_of_lt 1 (family_lt r.stack)
    have signed : (r.timestamp.toNat : Int) = r.timestamp := Int.toNat_of_nonneg range.1
    obtain ⟨first, second, third, fourth⟩ := Bytes.fields_append
      (Bytes.bigEndian_length 8 r.timestamp.toNat)
      (Bytes.bigEndian_length 2 (kindFlag r.kind + outcomeFlag r.outcome))
      (Bytes.bigEndian_length 2 (latencyField r.outcome))
      (Bytes.bigEndian 1 (Layout.family r.stack))
    refine ⟨offset + 13 + Address.size r.stack, ?_⟩
    rw [decodeFlagged, List.append_assoc _ r.target.address.packed rest,
      Cursor.take?_append (by simp)]
    simp only [first, second, third, fourth, time, flags, latency, family, signed,
      stackOfFamily?_family, kindOfFlags_flags, outcomeOfFlags_flags]
    rw [CheckRecord.stack, readTarget_packed]
    rfl
  · cases h

/-! ### Version 1 -/

theorem combinationTag_lt (c : Combination) : combinationTag c < 256 ^ 1 := by
  obtain ⟨_ | _, _ | _⟩ := c <;> decide

theorem combinationOfTag?_tag (c : Combination) : combinationOfTag? (combinationTag c) = some c := by
  obtain ⟨_ | _, _ | _⟩ := c <;> rfl

theorem causeTag_lt (cause? : Option FailureCause) : causeTag cause? < 256 ^ 1 := by
  rcases cause? with _ | _ | _ | _ <;> decide

theorem causeOfTag?_tag (cause? : Option FailureCause) :
    causeOfTag? (causeTag cause?) = some cause? := by
  rcases cause? with _ | _ | _ | _ <;> rfl

theorem outcomeOfTag_cause (o : Outcome) : outcomeOfTag o.cause? (latencyField o) = .ok o := by
  cases o with
  | success n =>
    rw [Outcome.cause?, outcomeOfTag, latencyField, if_neg (noLatency_ne n), outcomeOf_val]
  | failure cause => rfl

theorem decodeTagged_encodeTagged {r : CheckRecord} {bytes : List UInt8}
    (h : encodeTagged? r = some bytes) (rest : List UInt8) (offset : Nat) :
    ∃ offset', decodeTagged ⟨bytes ++ rest, offset⟩ = .ok (r.canonical, ⟨rest, offset'⟩) := by
  rw [encodeTagged?] at h
  split at h
  · next range =>
    cases h
    have time : Bytes.ofSignedBigEndian (Bytes.signedBigEndian 8 r.timestamp) = r.timestamp :=
      Bytes.ofSignedBigEndian_signedBigEndian 8 (by omega) (by omega)
    have combination := Bytes.ofBigEndian_bigEndian_of_lt 1 (combinationTag_lt r.combination)
    have cause := Bytes.ofBigEndian_bigEndian_of_lt 1 (causeTag_lt r.outcome.cause?)
    have latency := Bytes.ofBigEndian_bigEndian_of_lt 2 (latencyField_lt r.outcome)
    obtain ⟨first, second, third, fourth⟩ := Bytes.fields_append
      (Bytes.bigEndian_length 8 (r.timestamp % ((1 <<< (8 * 8) : Nat) : Int)).toNat)
      (Bytes.bigEndian_length 1 (combinationTag r.combination))
      (Bytes.bigEndian_length 1 (causeTag r.outcome.cause?))
      (Bytes.bigEndian 2 (latencyField r.outcome))
    refine ⟨offset + 12 + Address.size r.stack, ?_⟩
    rw [decodeTagged, List.append_assoc _ r.target.address.packed rest,
      Cursor.take?_append (by simp [Bytes.signedBigEndian])]
    rw [← Bytes.signedBigEndian] at first second third fourth
    simp only [first, second, third, fourth, time, combination, cause, latency,
      combinationOfTag?_tag, causeOfTag?_tag, outcomeOfTag_cause]
    rw [show r.combination.stack = r.target.stack from rfl, readTarget_packed]
    rfl
  · cases h

theorem decode_encode? {version : FormatVersion} {r : CheckRecord} {bytes : List UInt8}
    (h : encode? version r = some bytes) (rest : List UInt8) (offset : Nat) :
    ∃ offset', decode version ⟨bytes ++ rest, offset⟩ = .ok (r.canonical, ⟨rest, offset'⟩) := by
  cases version with
  | v0 => exact decodeFlagged_encodeFlagged h rest offset
  | v1 => exact decodeTagged_encodeTagged h rest offset

end Layout

/-! ### Envelopes -/

namespace Envelope

theorem decodeRecords_encodeRecords {version : FormatVersion} {records : List CheckRecord}
    {pieces : List (List UInt8)} (h : records.mapM (encodeRecord version) = .ok pieces)
    (before : List CheckRecord) (rest : List UInt8) (offset : Nat) :
    ∃ offset', decodeRecords version records.length before ⟨pieces.flatten ++ rest, offset⟩ =
      .ok (before.reverse ++ records.map CheckRecord.canonical, ⟨rest, offset'⟩) := by
  induction records generalizing pieces before offset with
  | nil =>
    cases h
    exact ⟨offset, by simp [decodeRecords]⟩
  | cons r records ih =>
    rw [List.mapM_cons] at h
    obtain ⟨piece, first, h⟩ := ok_of_bind h
    obtain ⟨others, later, h⟩ := ok_of_bind h
    cases h
    have encoded : Layout.encode? version r = some piece := by
      rw [encodeRecord] at first
      split at first
      · next bytes found => cases first; exact found
      · cases first
    obtain ⟨middle, read⟩ := Layout.decode_encode? encoded (others.flatten ++ rest) offset
    obtain ⟨last, decoded⟩ := ih later (r.canonical :: before) middle
    refine ⟨last, ?_⟩
    rw [List.length_cons, decodeRecords, List.flatten_cons, List.append_assoc, read]
    simp only [decoded]
    simp

theorem flatten_collect_next (chunk : List UInt8) (rest : Chunks) :
    List.flatten <$> (Chunks.next chunk rest).collect =
      (chunk ++ ·) <$> (List.flatten <$> rest.collect) := by
  rw [Chunks.collect]
  cases rest.collect <;> rfl

/-- Chunks only regroup the bytes of the records, with those that wait before them. -/
theorem flatten_collect_recordChunks (version : FormatVersion) (waiting : List (List UInt8))
    (size : Nat) (records : List CheckRecord) :
    List.flatten <$> (recordChunks version waiting size records).collect =
      (fun pieces => waiting.reverse.flatten ++ pieces.flatten) <$>
        records.mapM (encodeRecord version) := by
  induction records generalizing waiting size with
  | nil =>
    rw [recordChunks, List.mapM_nil]
    cases waiting with
    | nil => rfl
    | cons piece waiting => simp [Chunks.collect, bind, Except.bind, pure, Except.pure]
  | cons r records ih =>
    rw [recordChunks, List.mapM_cons]
    cases encodeRecord version r with
    | error e => rfl
    | ok piece =>
      dsimp only
      split
      · rw [flatten_collect_next, ih]
        cases records.mapM (encodeRecord version) with
        | error e => rfl
        | ok pieces => simp [bind, Except.bind, pure, Except.pure]
      · rw [ih]
        cases records.mapM (encodeRecord version) with
        | error e => rfl
        | ok pieces => simp [bind, Except.bind, pure, Except.pure]

theorem encodeBytes_eq (version : FormatVersion) (records : List CheckRecord) :
    encodeBytes version records =
      if records.length > 0xffffffff then .error (.tooMany records.length)
      else (fun pieces => header version records.length ++ pieces.flatten) <$>
        records.mapM (encodeRecord version) := by
  rw [encodeBytes, encode, chunks]
  split
  · rfl
  · rw [flatten_collect_next, flatten_collect_recordChunks]
    cases records.mapM (encodeRecord version) <;> rfl

theorem encode_eq_ok {version : FormatVersion} {records : List CheckRecord}
    {chunks : List (List UInt8)} (h : encode version records = .ok chunks) :
    ∃ pieces, records.mapM (encodeRecord version) = .ok pieces ∧ records.length ≤ 0xffffffff ∧
      chunks.flatten = header version records.length ++ pieces.flatten := by
  have whole : encodeBytes version records = .ok chunks.flatten := by
    rw [encodeBytes, h]
    rfl
  rw [encodeBytes_eq] at whole
  split at whole
  · cases whole
  · next few =>
    cases encoded : records.mapM (encodeRecord version) with
    | error e =>
      rw [encoded] at whole
      cases whole
    | ok pieces =>
      rw [encoded] at whole
      exact ⟨pieces, rfl, Nat.le_of_not_lt few, (Except.ok.inj whole).symm⟩

theorem header_length (version : FormatVersion) (count : Nat) :
    (header version count).length = headerSize := by
  simp [header, magic, headerSize]

theorem readVersion_header (version : FormatVersion) (count : Nat) (rest : List UInt8) :
    readVersion (header version count ++ rest) = .ok version := by
  cases version <;> rfl

theorem header_count (version : FormatVersion) {count : Nat} (h : count ≤ 0xffffffff) :
    Bytes.ofBigEndian ((header version count).drop versionPrefixSize) = count := by
  have counted : (header version count).drop versionPrefixSize = Bytes.bigEndian 4 count := by
    simp [header, magic, versionPrefixSize]
  rw [counted, Bytes.ofBigEndian_bigEndian_of_lt 4 (by omega)]

theorem decode_of_encode {version : FormatVersion} {records : List CheckRecord}
    {chunks : List (List UInt8)} (h : encode version records = .ok chunks) :
    decode chunks.flatten = .ok (version, records.map CheckRecord.canonical) := by
  obtain ⟨pieces, encoded, few, shape⟩ := encode_eq_ok h
  obtain ⟨offset, read⟩ := decodeRecords_encodeRecords encoded [] [] headerSize
  rw [List.append_nil] at read
  rw [decode, shape, readVersion_header]
  simp only [bind, Except.bind, Bytes.take?_append (header_length version records.length),
    header_count version few, read]
  rfl

theorem decode_of_encodeBytes {version : FormatVersion} {records : List CheckRecord}
    {bytes : List UInt8} (h : encodeBytes version records = .ok bytes) :
    decode bytes = .ok (version, records.map CheckRecord.canonical) := by
  rw [encodeBytes] at h
  cases encoded : encode version records with
  | error e =>
    rw [encoded] at h
    cases h
  | ok chunks =>
    rw [encoded] at h
    cases h
    exact decode_of_encode encoded

theorem encodeRecord_canonical {version : FormatVersion} {r : CheckRecord} {piece : List UInt8}
    (h : encodeRecord version r = .ok piece) : encodeRecord version r.canonical = .ok piece := by
  have same : Layout.encode? version r.canonical = Layout.encode? version r := by
    cases version <;> rfl
  rw [encodeRecord] at h ⊢
  rw [same]
  cases found : Layout.encode? version r with
  | none => rw [found] at h; cases h
  | some bytes => rw [found] at h; exact h

/-- The text of a target does not show in the bytes. -/
theorem encodeBytes_map_canonical {version : FormatVersion} {records : List CheckRecord}
    {bytes : List UInt8} (h : encodeBytes version records = .ok bytes) :
    encodeBytes version (records.map CheckRecord.canonical) = .ok bytes := by
  have mapped {records : List CheckRecord} {pieces : List (List UInt8)}
      (h : records.mapM (encodeRecord version) = .ok pieces) :
      (records.map CheckRecord.canonical).mapM (encodeRecord version) = .ok pieces := by
    induction records generalizing pieces with
    | nil => exact h
    | cons r records ih =>
      rw [List.mapM_cons] at h
      obtain ⟨piece, first, h⟩ := ok_of_bind h
      obtain ⟨others, later, h⟩ := ok_of_bind h
      rw [List.map_cons, List.mapM_cons, encodeRecord_canonical first, ih later]
      exact h
  rw [encodeBytes_eq] at h ⊢
  rw [List.length_map]
  split at h
  · cases h
  · next few =>
    rw [if_neg few]
    cases encoded : records.mapM (encodeRecord version) with
    | error e => rw [encoded] at h; cases h
    | ok pieces => rw [encoded] at h; rw [mapped encoded]; exact h

/-- The records that come back have the same times, kinds and outcomes, and the same addresses in
canonical text; they are the same records if the text was canonical before. -/
theorem decode_encode (version : FormatVersion) (records : List CheckRecord)
    (chunks : List (List UInt8)) (h : encode version records = .ok chunks) :
    ∃ bytes decoded, encodeBytes version records = .ok bytes ∧
      decode bytes = .ok (version, decoded) ∧
      List.Forall₂ (fun r d : CheckRecord =>
        d.timestamp = r.timestamp ∧ d.kind = r.kind ∧ d.stack = r.stack ∧
          d.latency? = r.latency? ∧ d.outcome.cause? = r.outcome.cause? ∧
          d.target.address = r.target.address ∧ d.target.text = r.target.address.text)
        records decoded ∧
      ((∀ r ∈ records, r.target.text = r.target.address.text) → decoded = records) := by
  refine ⟨chunks.flatten, records.map CheckRecord.canonical, ?_, decode_of_encode h, ?_, ?_⟩
  · rw [encodeBytes, h]
    rfl
  · rw [List.forall₂_map_right_iff, List.forall₂_same]
    exact fun r _ => ⟨rfl, rfl, rfl, rfl, rfl, rfl, rfl⟩
  · exact CheckRecord.map_canonical_of_allCanonical

/-- A loopback success before 1970 and a failure on the other stack. -/
def twoRecords : List CheckRecord :=
  [⟨-1, .http, .ofAddress (.v6 1), .success 65534⟩,
    ⟨1700000000, .icmp, .ofAddress (.v4 0x01010101#32), .failure .timeout⟩]

theorem decode_encode_twoRecords :
    ∃ bytes, encodeBytes .v1 twoRecords = .ok bytes ∧ decode bytes = .ok (.v1, twoRecords) := by
  obtain ⟨chunks, encoded⟩ : ∃ chunks, encode .v1 twoRecords = .ok chunks := ⟨_, rfl⟩
  obtain ⟨bytes, decoded, written, read, -, same⟩ := decode_encode .v1 twoRecords chunks encoded
  have canonical : ∀ r ∈ twoRecords, r.target.text = r.target.address.text := by
    simp [twoRecords, Target.ofAddress]
  exact ⟨bytes, written, same canonical ▸ read⟩

end Envelope
end LinkMonitor
