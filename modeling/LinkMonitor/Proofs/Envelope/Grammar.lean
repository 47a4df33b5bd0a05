import LinkMonitor.Proofs.Envelope.Fields

/-!
# The grammar of envelopes

An envelope is a header and as many well-formed records as it says, with nothing behind them. Decoding
accepts just these. Everything else is either of an unknown version or malformed.
-/

namespace LinkMonitor

/-- The bytes are malformed. Neither an unknown version nor parts that make no record are counted. -/
def DecodeError.isMalformed : DecodeError → Bool
  | .unsupportedVersion _ | .invalidCheck _ => false
  | _ => true

/-! ### One record -/

namespace Layout

theorem readTarget_error {stack : IpStack} {c : Cursor} {e : DecodeError}
    (h : readTarget stack c = .error e) : e.isMalformed = true := by
  rcases readTarget_cases stack c with ⟨address, rest, -, -, found⟩ | short
  · rw [found] at h
    cases h
  · rw [short] at h
    cases h
    rfl

theorem kindOfFlags_error {flags : Nat} {e : DecodeError} (h : kindOfFlags flags = .error e) :
    e.isMalformed = true := by
  rw [kindOfFlags] at h
  split at h
  · cases h
    rfl
  · split at h <;> cases h <;> rfl

theorem outcomeOfFlags_error {flags : Nat} {latency : UInt16} {e : DecodeError}
    (h : outcomeOfFlags flags latency.toNat = .error e) : e.isMalformed = true := by
  rw [outcomeOfFlags] at h
  split at h
  · rw [outcomeOf_fieldOrZero] at h
    cases h
  · split at h <;> cases h
    rfl

theorem outcomeOfTag_error {cause? : Option FailureCause} {latency : UInt16} {e : DecodeError}
    (h : outcomeOfTag cause? latency.toNat = .error e) : e.isMalformed = true := by
  cases cause? with
  | some cause => cases h
  | none =>
    rw [outcomeOfTag] at h
    split at h
    · cases h
      rfl
    · next some =>
      rw [outcomeOf_field (mt toNat_eq_noLatency.mpr some)] at h
      cases h

theorem decodeFlagged_error {c : Cursor} {e : DecodeError} (h : decodeFlagged c = .error e) :
    e.isMalformed = true := by
  rcases FlaggedFields.front_or_truncated c with
    broken | ⟨time, flags, latency, family, rest, input⟩
  · rw [broken] at h
    cases h
    rfl
  · rw [input, FlaggedFields.decodeFlagged_front] at h
    split at h
    · cases h
      rfl
    · rcases error_of_bind h with failed | ⟨⟨target, middle⟩, -, h⟩
      · exact readTarget_error failed
      · rcases error_of_bind h with failed | ⟨kind, -, h⟩
        · exact kindOfFlags_error failed
        · rcases error_of_bind h with failed | ⟨outcome, -, h⟩
          · exact outcomeOfFlags_error failed
          · cases h

theorem decodeTagged_error {c : Cursor} {e : DecodeError} (h : decodeTagged c = .error e) :
    e.isMalformed = true := by
  rcases TaggedFields.front_or_truncated c with
    broken | ⟨time, combination, outcomeTag, latency, rest, input⟩
  · rw [broken] at h
    cases h
    rfl
  · rw [input, TaggedFields.decodeTagged_front] at h
    split at h
    · cases h
      rfl
    · cases h
      rfl
    · rcases error_of_bind h with failed | ⟨⟨target, middle⟩, -, h⟩
      · exact readTarget_error failed
      · rcases error_of_bind h with failed | ⟨outcome, -, h⟩
        · exact outcomeOfTag_error failed
        · cases h

theorem decode_error {version : FormatVersion} {c : Cursor} {e : DecodeError}
    (h : decode version c = .error e) : e.isMalformed = true := by
  cases version with
  | v0 => exact decodeFlagged_error h
  | v1 => exact decodeTagged_error h

end Layout

/-! ### Records one after the other -/

namespace Envelope

open Layout

variable {version : FormatVersion} {more : List UInt8}

/-- The bytes of all records. -/
def body (fields : List (Fields version)) : List UInt8 := (fields.map Fields.bytes).flatten

theorem body_cons (f : Fields version) (fields : List (Fields version)) :
    body (f :: fields) = f.bytes ++ body fields := rfl

theorem decodeRecords_body {fields : List (Fields version)} (h : ∀ f ∈ fields, f.WellFormed)
    (before : List CheckRecord) (rest : List UInt8) (offset : Nat) :
    decodeRecords version fields.length before ⟨body fields ++ rest, offset⟩ =
      .ok (before.reverse ++ fields.map Fields.record,
        ⟨rest, offset + (body fields).length⟩) := by
  induction fields generalizing before offset with
  | nil => simp [decodeRecords, body]
  | cons f fields ih =>
    have first := Fields.decode_bytes (h f (by simp)) (body fields ++ rest) offset
    have later := ih (fun g hg => h g (List.mem_cons_of_mem _ hg)) (f.record :: before)
      (offset + f.bytes.length)
    rw [List.length_cons, decodeRecords, body_cons, List.append_assoc, first]
    dsimp only
    rw [later, List.reverse_cons, List.append_assoc, List.length_append, Nat.add_assoc]
    rfl

theorem exists_of_decodeRecords {count : Nat} {before records : List CheckRecord} {c c' : Cursor}
    (h : decodeRecords version count before c = .ok (records, c')) :
    ∃ fields : List (Fields version), fields.length = count ∧ (∀ f ∈ fields, f.WellFormed) ∧
      c.rest = body fields ++ c'.rest ∧ records = before.reverse ++ fields.map Fields.record := by
  induction count generalizing before c with
  | zero =>
    cases h
    exact ⟨[], rfl, by simp, rfl, by simp⟩
  | succ count ih =>
    rw [decodeRecords] at h
    split at h
    · cases h
    · next r middle read =>
      obtain ⟨f, wellFormed, front, rfl⟩ := Fields.exists_of_decode read
      obtain ⟨fields, width, all, behind, rfl⟩ := ih h
      refine ⟨f :: fields, ?_, ?_, ?_, ?_⟩
      · rw [List.length_cons, width]
      · exact List.forall_mem_cons.mpr ⟨wellFormed, all⟩
      · rw [front, behind, body_cons, List.append_assoc]
      · rw [List.reverse_cons, List.append_assoc]
        rfl

theorem decodeRecords_error {count : Nat} {before : List CheckRecord} {c : Cursor}
    {e : DecodeError} (h : decodeRecords version count before c = .error e) :
    e.isMalformed = true := by
  induction count generalizing before c with
  | zero => cases h
  | succ count ih =>
    rw [decodeRecords] at h
    split at h
    · next failed =>
      cases h
      exact decode_error failed
    · exact ih h

/-! ### Whole envelopes -/

/-- A header that tells version and number of the records, then so many well-formed records, then
nothing. -/
def IsEnvelope (bytes : List UInt8) : Prop :=
  ∃ (version : FormatVersion) (fields : List (Fields version)),
    fields.length ≤ 0xffffffff ∧ (∀ f ∈ fields, f.WellFormed) ∧
      bytes = header version fields.length ++ body fields

theorem decode_header_body {fields : List (Fields version)} (few : fields.length ≤ 0xffffffff)
    (h : ∀ f ∈ fields, f.WellFormed) :
    decode (header version fields.length ++ body fields) =
      .ok (version, fields.map Fields.record) := by
  have read := decodeRecords_body h [] [] headerSize
  rw [List.append_nil] at read
  rw [decode, readVersion_header]
  simp only [bind, Except.bind, Bytes.take?_append (header_length version fields.length),
    header_count version few, read]
  rfl

/-- How bytes that are no envelope have to be refused: the version is unknown if there are five bytes
with the magic in front and a tag above 1 behind it. -/
def Refused (bytes : List UInt8) (e : DecodeError) : Prop :=
  if 5 ≤ bytes.length ∧ bytes.take 4 = magic ∧ 1 < (bytes.getD 4 0).toNat then
    e = .unsupportedVersion (bytes.getD 4 0).toNat
  else e.isMalformed = true

theorem tag_of_ofTag? {tag : UInt8} (h : FormatVersion.ofTag? tag.toNat = some version) :
    Bytes.bigEndian 1 version.tag = [tag] ∧ tag.toNat ≤ 1 := by
  rw [FormatVersion.ofTag?.eq_def] at h
  split at h
  · next same =>
    cases h
    exact ⟨by rw [← UInt8.ofNat_toNat (x := tag), same]; rfl, by omega⟩
  · next same =>
    cases h
    exact ⟨by rw [← UInt8.ofNat_toNat (x := tag), same]; rfl, by omega⟩
  · cases h

theorem lt_of_ofTag?_eq_none {tag : Nat} (h : FormatVersion.ofTag? tag = none) : 1 < tag := by
  rw [FormatVersion.ofTag?.eq_def] at h
  split at h
  · cases h
  · cases h
  · next zero one =>
    simp only [imp_false] at zero one
    omega

/-- What the first five bytes tell. -/
theorem readVersion_cases (bytes : List UInt8) :
    (∃ version rest, readVersion bytes = .ok version ∧
      bytes = magic ++ Bytes.bigEndian 1 version.tag ++ rest ∧ (bytes.getD 4 0).toNat ≤ 1) ∨
    ∃ e, readVersion bytes = .error e ∧ Refused bytes e := by
  match bytes with
  | [] | [a] | [a, b] | [a, b, c] | [a, b, c, d] => exact .inr ⟨_, rfl, rfl⟩
  | a :: b :: c :: d :: tag :: rest =>
    by_cases named : [a, b, c, d] = magic
    · cases known : FormatVersion.ofTag? tag.toNat with
      | some version =>
        obtain ⟨byte, small⟩ := tag_of_ofTag? known
        refine .inl ⟨version, rest, ?_, ?_, small⟩
        · simp only [readVersion, if_pos named, known]
        · rw [byte, ← named]
          rfl
      | none =>
        refine .inr ⟨.unsupportedVersion tag.toNat, ?_, ?_⟩
        · simp only [readVersion, if_pos named, known]
        · have above : 1 < ((a :: b :: c :: d :: tag :: rest).getD 4 0).toNat :=
            lt_of_ofTag?_eq_none known
          rw [Refused, if_pos ⟨by simp, named, above⟩]
          rfl
    · refine .inr ⟨.badMagic [a, b, c, d], ?_, ?_⟩
      · simp only [readVersion, if_neg named]
      · rw [Refused, if_neg (by rintro ⟨-, same, -⟩; exact named same)]
        rfl

theorem header_of_readVersion {rest : List UInt8} {head : List UInt8} (width : head.length = 9)
    (front : head ++ rest = magic ++ Bytes.bigEndian 1 version.tag ++ more) :
    head = header version (Bytes.ofBigEndian (head.drop versionPrefixSize)) ∧
      Bytes.ofBigEndian (head.drop versionPrefixSize) ≤ 0xffffffff := by
  have size : (head.drop versionPrefixSize).length = 4 := by simp [versionPrefixSize, width]
  have small := Bytes.ofBigEndian_lt (head.drop versionPrefixSize)
  have same := Bytes.bigEndian_ofBigEndian (head.drop versionPrefixSize)
  rw [size] at small same
  have first : head.take versionPrefixSize = magic ++ Bytes.bigEndian 1 version.tag := by
    have taken := congrArg (List.take versionPrefixSize) front
    rwa [List.take_append_of_le_length (by simp [versionPrefixSize, width]),
      List.take_left' (by simp [versionPrefixSize, magic])] at taken
  refine ⟨?_, by omega⟩
  rw [header, same, ← first, List.take_append_drop]

/-- Where the version is known nothing but the bytes can be to blame. -/
theorem refused_of_known {bytes : List UInt8} {e : DecodeError} (known : (bytes.getD 4 0).toNat ≤ 1)
    (h : e.isMalformed = true) : Refused bytes e := by
  rw [Refused, if_neg (by omega)]
  exact h

theorem decode_cases (bytes : List UInt8) :
    (∃ (version : FormatVersion) (fields : List (Fields version)),
      fields.length ≤ 0xffffffff ∧ (∀ f ∈ fields, f.WellFormed) ∧
        bytes = header version fields.length ++ body fields ∧
        decode bytes = .ok (version, fields.map Fields.record)) ∨
    ∃ e, decode bytes = .error e ∧ Refused bytes e := by
  rcases readVersion_cases bytes with ⟨version, more, known, front, small⟩ | ⟨e, failed, refused⟩
  · cases taken : Bytes.take? headerSize bytes with
    | none =>
      right
      refine ⟨.truncatedHeader, ?_, refused_of_known small rfl⟩
      rw [decode, known]
      simp only [bind, Except.bind, taken]
      rfl
    | some parts =>
      obtain ⟨head, rest⟩ := parts
      obtain ⟨split, width⟩ := Bytes.take?_eq_some taken
      rw [split] at front
      obtain ⟨same, few⟩ := header_of_readVersion width front
      cases read : decodeRecords version (Bytes.ofBigEndian (head.drop versionPrefixSize)) []
          ⟨rest, headerSize⟩ with
      | error e =>
        right
        refine ⟨e, ?_, refused_of_known small (decodeRecords_error read)⟩
        rw [decode, known]
        simp only [bind, Except.bind, taken, read]
      | ok result =>
        obtain ⟨records, c⟩ := result
        obtain ⟨fields, count, wellFormed, behind, shape⟩ := exists_of_decodeRecords read
        cases last : c.rest with
        | nil =>
          left
          refine ⟨version, fields, count ▸ few, wellFormed, ?_, ?_⟩
          · rw [split, count, ← same, show rest = body fields ++ c.rest from behind, last,
              List.append_nil]
          · rw [decode, known]
            simp only [bind, Except.bind, taken, read, last, shape]
            rfl
        | cons b others =>
          right
          refine ⟨.trailingBytes (b :: others).length
            (Bytes.ofBigEndian (head.drop versionPrefixSize)), ?_, refused_of_known small rfl⟩
          rw [decode, known]
          simp only [bind, Except.bind, taken, read, last]
          rfl
  · exact .inr ⟨e, by rw [decode, failed]; rfl, refused⟩

theorem decode_allCanonical {bytes : List UInt8} {version : FormatVersion}
    {records : List CheckRecord} (h : decode bytes = .ok (version, records)) :
    CheckRecord.AllCanonical records := by
  rcases decode_cases bytes with ⟨version', fields, -, -, -, decoded⟩ | ⟨e, failed, -⟩
  · rw [h] at decoded
    cases decoded
    exact Fields.records_allCanonical fields
  · rw [h] at failed
    cases failed

/-- Decoding accepts envelopes and nothing else. What it refuses is of an unknown version or
malformed, and which of the two can be told from the first five bytes. -/
theorem decode_ok_iff_isEnvelope (bytes : List UInt8) :
    ((∃ content, decode bytes = .ok content) ↔ IsEnvelope bytes) ∧
      ∀ e, decode bytes = .error e → Refused bytes e := by
  refine ⟨⟨?_, ?_⟩, fun e failed => ?_⟩
  · rintro ⟨content, decoded⟩
    rcases decode_cases bytes with ⟨version, fields, few, wellFormed, shape, -⟩ | ⟨e, failed, -⟩
    · exact ⟨version, fields, few, wellFormed, shape⟩
    · rw [failed] at decoded
      cases decoded
  · rintro ⟨version, fields, few, wellFormed, rfl⟩
    exact ⟨_, decode_header_body few wellFormed⟩
  · rcases decode_cases bytes with ⟨version, fields, -, -, -, decoded⟩ | ⟨e', failed', refused⟩
    · rw [decoded] at failed
      cases failed
    · rw [failed'] at failed
      cases failed
      exact refused

end Envelope
end LinkMonitor
