import LinkMonitor.Proofs.Envelope.Grammar

/-!
# Encoding what was decoded

An envelope that was decoded can be encoded again. The bytes that come out are those of the normal
fields: only flags and latencies may differ from the bytes that went in.
-/

namespace LinkMonitor.Envelope

open Layout

variable {version : FormatVersion} {records : List CheckRecord}

theorem mapM_encodeRecord {fields : List (Fields version)} (h : ∀ f ∈ fields, f.WellFormed) :
    (fields.map Fields.record).mapM (encodeRecord version) =
      .ok (fields.map fun f => f.normal.bytes) := by
  induction fields with
  | nil => rfl
  | cons f fields ih =>
    have first : encodeRecord version f.record = .ok f.normal.bytes := by
      rw [encodeRecord, Fields.encode?_record (h f (by simp))]
    rw [List.map_cons, List.mapM_cons, first, ih fun g hg => h g (List.mem_cons_of_mem _ hg)]
    rfl

theorem encodeBytes_of_pieces {pieces : List (List UInt8)} (few : records.length ≤ 0xffffffff)
    (h : records.mapM (encodeRecord version) = .ok pieces) :
    encodeBytes version records = .ok (header version records.length ++ pieces.flatten) := by
  rw [encodeBytes_eq, if_neg (Nat.not_lt_of_le few), h]
  rfl

theorem body_normal_length (fields : List (Fields version)) :
    (body (fields.map Fields.normal)).length = (body fields).length := by
  induction fields with
  | nil => rfl
  | cons f fields ih =>
    rw [List.map_cons, body_cons, body_cons, List.length_append, List.length_append, ih,
      Fields.normal_bytes_length]

/-- What was decoded can be encoded, to as many bytes, which decode to the same again. Header, times,
families, tags and addresses are those of before; flags and latencies are normal. -/
theorem encodeBytes_of_decode (bytes : List UInt8) (version : FormatVersion)
    (records : List CheckRecord) (h : decode bytes = .ok (version, records)) :
    ∃ (fields : List (Fields version)) (normal : List UInt8), (∀ f ∈ fields, f.WellFormed) ∧
      bytes = header version fields.length ++ body fields ∧
      encodeBytes version records = .ok normal ∧
      normal = header version fields.length ++ body (fields.map Fields.normal) ∧
      normal.length = bytes.length ∧ decode normal = .ok (version, records) := by
  rcases decode_cases bytes with ⟨version', fields, few, wellFormed, shape, decoded⟩ | ⟨e, failed, -⟩
  · rw [h] at decoded
    cases decoded
    have encoded := encodeBytes_of_pieces (by rwa [List.length_map]) (mapM_encodeRecord wellFormed)
    have written : encodeBytes version (fields.map Fields.record) =
        .ok (header version fields.length ++ body (fields.map Fields.normal)) := by
      rw [encoded, List.length_map, body, List.map_map]
      rfl
    refine ⟨fields, _, wellFormed, shape, written, rfl, ?_, ?_⟩
    · rw [shape, List.length_append, List.length_append, body_normal_length]
    · rw [decode_of_encodeBytes written, CheckRecord.map_canonical_of_allCanonical]
      exact Fields.records_allCanonical fields
  · rw [h] at failed
    cases failed

/-- A success with two causes, an unknown flag and no latency, and a failure with a latency. -/
def legacyFields : List (Fields .v0) :=
  [(⟨5, 0x420f, 0xffff, 4, [1, 1, 1, 1]⟩ : FlaggedFields),
    (⟨0xffffffffffffffff, 0x1804, 7, 6, List.replicate 15 0 ++ [1]⟩ : FlaggedFields)]

theorem legacyFields_wellFormed : ∀ f ∈ legacyFields, f.WellFormed := by
  refine List.forall_mem_cons.mpr ⟨?_, List.forall_mem_singleton.mpr ?_⟩
  · exact FlaggedFields.WellFormed.mk (by decide) (by decide) (by decide) (by decide)
  · exact FlaggedFields.WellFormed.mk (by decide) (by decide) (by decide) (by decide)

theorem encodeBytes_of_decode_legacyFields :
    ∃ records, decode (header .v0 2 ++ body legacyFields) = .ok (.v0, records) ∧
      ∃ (fields : List (Fields .v0)) (normal : List UInt8), (∀ f ∈ fields, f.WellFormed) ∧
        header .v0 2 ++ body legacyFields = header .v0 fields.length ++ body fields ∧
        encodeBytes .v0 records = .ok normal ∧
        normal = header .v0 fields.length ++ body (fields.map Fields.normal) ∧
        normal.length = 55 ∧ decode normal = .ok (.v0, records) := by
  have decoded := decode_header_body (by decide) legacyFields_wellFormed
  exact ⟨_, decoded, encodeBytes_of_decode _ .v0 _ decoded⟩

end LinkMonitor.Envelope
