import LinkMonitor.Proofs.Envelope.RoundTrip

/-!
# The fields of a record

What stands in the bytes of a record, in either layout, and which fields are well formed. Decoding
accepts the well-formed fields only and takes them for one record. Encoding that record writes the
fields back in their normal form.
-/

namespace LinkMonitor

theorem Address.packed_ofPacked {stack : IpStack} {bytes : List UInt8}
    (width : bytes.length = size stack) : (ofPacked stack bytes).packed = bytes := by
  have value := Bytes.ofBigEndian_lt bytes
  have same := Bytes.bigEndian_ofBigEndian bytes
  rw [width] at value same
  cases stack with
  | v4 =>
    have small : Bytes.ofBigEndian bytes < 2 ^ 32 := value
    rwa [ofPacked, packed, BitVec.toNat_ofNat, Nat.mod_eq_of_lt small]
  | v6 =>
    have small : Bytes.ofBigEndian bytes < 2 ^ 128 := value
    rwa [ofPacked, packed, BitVec.toNat_ofNat, Nat.mod_eq_of_lt small]

theorem Bytes.take?_eq_some {α : Type} {items front rest : List α} {count : Nat}
    (h : take? count items = some (front, rest)) : items = front ++ rest ∧ front.length = count := by
  simp only [take?, List.splitAt_eq] at h
  split at h
  · next width =>
    cases h
    exact ⟨(List.take_append_drop count items).symm, width⟩
  · cases h

namespace Layout

/-! ### What both layouts share -/

theorem readTarget_append {stack : IpStack} {address : List UInt8}
    (width : address.length = Address.size stack) (rest : List UInt8) (offset : Nat) :
    readTarget stack ⟨address ++ rest, offset⟩ =
      .ok (.ofAddress (.ofPacked stack address), ⟨rest, offset + Address.size stack⟩) := by
  have read := readTarget_packed (.ofAddress (.ofPacked stack address)) rest offset
  have there : (Target.ofAddress (Address.ofPacked stack address)).stack = stack :=
    Address.ofPacked_stack stack address
  have bytes : (Target.ofAddress (Address.ofPacked stack address)).address.packed = address :=
    Address.packed_ofPacked width
  rwa [there, bytes] at read

theorem take?_of_short {c : Cursor} {count : Nat} (short : c.rest.length < count) :
    c.take? count = none := by
  have few : ¬count ≤ c.rest.length := Nat.not_le_of_lt short
  simp [Cursor.take?, Bytes.take?, few]

/-- The bytes of a target are there, or too few bytes are left. -/
theorem readTarget_cases (stack : IpStack) (c : Cursor) :
    (∃ address rest, address.length = Address.size stack ∧ c.rest = address ++ rest ∧
      readTarget stack c =
        .ok (.ofAddress (.ofPacked stack address), ⟨rest, c.offset + Address.size stack⟩)) ∨
      readTarget stack c = .error (.truncatedAddress c.offset) := by
  by_cases short : c.rest.length < Address.size stack
  · right
    rw [readTarget, take?_of_short short]
  · left
    have width : (c.rest.take (Address.size stack)).length = Address.size stack := by
      rw [List.length_take]
      omega
    have split := (List.take_append_drop (Address.size stack) c.rest).symm
    refine ⟨_, _, width, split, ?_⟩
    have read := readTarget_append width (c.rest.drop (Address.size stack)) c.offset
    rwa [List.take_append_drop] at read

theorem exists_time {bytes : List UInt8} (width : bytes.length = 8) :
    ∃ time : UInt64, bytes = Bytes.bigEndian 8 time.toNat := by
  have value := Bytes.ofBigEndian_lt bytes
  have same := Bytes.bigEndian_ofBigEndian bytes
  rw [width] at value same
  exact ⟨.ofNat (Bytes.ofBigEndian bytes), by rw [UInt64.toNat_ofNat_of_lt' value, same]⟩

theorem exists_short {bytes : List UInt8} (width : bytes.length = 2) :
    ∃ field : UInt16, bytes = Bytes.bigEndian 2 field.toNat := by
  have value := Bytes.ofBigEndian_lt bytes
  have same := Bytes.bigEndian_ofBigEndian bytes
  rw [width] at value same
  exact ⟨.ofNat (Bytes.ofBigEndian bytes), by rw [UInt16.toNat_ofNat_of_lt' value, same]⟩

/-- The latency of a success; the value that stands for no latency counts as zero. -/
def latencyOfField (field : UInt16) : Latency :=
  if h : field = 0xffff then ⟨0, by decide⟩
  else ⟨field.toNat, by
    have := field.toNat_lt
    have : field.toNat ≠ 65535 := fun same => h (UInt16.toNat_inj.mp same)
    omega⟩

theorem latencyOfField_val {field : UInt16} (h : field ≠ 0xffff) :
    (latencyOfField field).val = field.toNat := by
  rw [latencyOfField, dif_neg h]

theorem toNat_eq_noLatency {field : UInt16} : field.toNat = noLatency ↔ field = 0xffff := by
  rw [← UInt16.toNat_inj]
  rfl

theorem outcomeOf_field {field : UInt16} (h : field ≠ 0xffff) :
    outcomeOf field.toNat = .ok (.success (latencyOfField field)) := by
  rw [← latencyOfField_val h, outcomeOf_val]

theorem outcomeOf_fieldOrZero (field : UInt16) :
    outcomeOf (if field.toNat = noLatency then 0 else field.toNat) =
      .ok (.success (latencyOfField field)) := by
  by_cases none : field = 0xffff
  · rw [if_pos (toNat_eq_noLatency.mpr none), latencyOfField, dif_pos none]
    rfl
  · rw [if_neg (mt toNat_eq_noLatency.mp none), outcomeOf_field none]

/-! ### Version 0 -/

/-- The fields of a record of version 0. -/
structure FlaggedFields where
  time : UInt64
  flags : UInt16
  latency : UInt16
  family : UInt8
  address : List UInt8
  deriving DecidableEq

namespace FlaggedFields

def has (f : FlaggedFields) (flag : Nat) : Bool := hasFlag f.flags.toNat flag

/-- The address has the size of its family, there is one kind, which is not DNS, and a failure has one
cause at most. -/
structure WellFormed (f : FlaggedFields) : Prop where
  address : f.family = 4 ∧ f.address.length = 4 ∨ f.family = 6 ∧ f.address.length = 16
  notDns : f.has dnsFlag = false
  oneKind : f.has httpFlag ≠ f.has icmpFlag
  oneCause : ¬(f.has successFlag = false ∧ f.has timeoutFlag = true ∧ f.has unreachableFlag = true)

def front (time : UInt64) (flags latency : UInt16) (family : UInt8) : List UInt8 :=
  Bytes.bigEndian 8 time.toNat ++ Bytes.bigEndian 2 flags.toNat ++
    Bytes.bigEndian 2 latency.toNat ++ [family]

def bytes (f : FlaggedFields) : List UInt8 :=
  front f.time f.flags f.latency f.family ++ f.address

def stack (f : FlaggedFields) : IpStack := if f.family = 4 then .v4 else .v6

def kind (f : FlaggedFields) : CheckKind := if f.has httpFlag then .http else .icmp

def cause (f : FlaggedFields) : FailureCause :=
  if f.has timeoutFlag then .timeout else if f.has unreachableFlag then .unreachable else .error

def outcome (f : FlaggedFields) : Outcome :=
  if f.has successFlag then .success (latencyOfField f.latency) else .failure f.cause

/-- The record that the fields are taken for. -/
def record (f : FlaggedFields) : CheckRecord :=
  ⟨f.time.toNat, f.kind, .ofAddress (.ofPacked f.stack f.address), f.outcome⟩

/-- Only the flag of the kind and one flag of the outcome are kept. A failure has no latency, and a
success without one has zero. -/
def normal (f : FlaggedFields) : FlaggedFields :=
  { f with
    flags := (if f.has httpFlag then 0x1000 else 0x4000) +
      (if f.has successFlag then 0x0001 else if f.has timeoutFlag then 0x0002
        else if f.has unreachableFlag then 0x0004 else 0)
    latency := if f.has successFlag then (if f.latency = 0xffff then 0 else f.latency) else 0xffff }

theorem front_length (time : UInt64) (flags latency : UInt16) (family : UInt8) :
    (front time flags latency family).length = 13 := by
  simp [front]

theorem exists_front {bytes : List UInt8} (width : bytes.length = 13) :
    ∃ time flags latency family, bytes = front time flags latency family := by
  obtain ⟨time, first⟩ := exists_time (show (bytes.take 8).length = 8 by simp; omega)
  obtain ⟨flags, second⟩ := exists_short (show ((bytes.drop 8).take 2).length = 2 by simp; omega)
  obtain ⟨latency, third⟩ := exists_short (show ((bytes.drop 10).take 2).length = 2 by simp; omega)
  obtain ⟨family, last⟩ := List.length_eq_one_iff.mp (show (bytes.drop 12).length = 1 by simp; omega)
  refine ⟨time, flags, latency, family, ?_⟩
  rw [front, ← first, ← second, ← third, ← last, List.append_assoc, List.append_assoc]
  rw [← List.drop_drop (i := 2) (j := 10), List.take_append_drop,
    ← List.drop_drop (i := 2) (j := 8), List.take_append_drop, List.take_append_drop]

/-- What is done with the fields, in order. -/
theorem decodeFlagged_front (time : UInt64) (flags latency : UInt16) (family : UInt8)
    (rest : List UInt8) (offset : Nat) :
    decodeFlagged ⟨front time flags latency family ++ rest, offset⟩ =
      match stackOfFamily? family.toNat with
      | none => .error (.badFamily family.toNat (offset + 13))
      | some stack => do
        let (target, c) ← readTarget stack ⟨rest, offset + 13⟩
        let kind ← kindOfFlags flags.toNat
        let outcome ← outcomeOfFlags flags.toNat latency.toNat
        return (⟨time.toNat, kind, target, outcome⟩, c) := by
  obtain ⟨first, second, third, fourth⟩ := Bytes.fields_append
    (Bytes.bigEndian_length 8 time.toNat) (Bytes.bigEndian_length 2 flags.toNat)
    (Bytes.bigEndian_length 2 latency.toNat) [family]
  have time' := Bytes.ofBigEndian_bigEndian_of_lt 8 time.toNat_lt
  have flags' := Bytes.ofBigEndian_bigEndian_of_lt 2 flags.toNat_lt
  have latency' := Bytes.ofBigEndian_bigEndian_of_lt 2 latency.toNat_lt
  have family' : Bytes.ofBigEndian [family] = family.toNat := by simp [Bytes.ofBigEndian]
  have decoded := decodeFlagged.eq_def ⟨front time flags latency family ++ rest, offset⟩
  rw [Cursor.take?_append (front_length time flags latency family)] at decoded
  simp only [front, first, second, third, fourth, time', flags', latency', family'] at decoded
  exact decoded

variable {f : FlaggedFields}

theorem kindOfFlags_eq_ok_iff {k : CheckKind} : kindOfFlags f.flags.toNat = .ok k ↔
    f.has dnsFlag = false ∧ f.has httpFlag ≠ f.has icmpFlag ∧ k = f.kind := by
  cases dns : hasFlag f.flags.toNat dnsFlag <;> cases http : hasFlag f.flags.toNat httpFlag <;>
    cases icmp : hasFlag f.flags.toNat icmpFlag <;>
    simp [kindOfFlags, kind, has, dns, http, icmp, eq_comm (a := k)]

theorem outcomeOfFlags_eq_ok_iff {o : Outcome} :
    outcomeOfFlags f.flags.toNat f.latency.toNat = .ok o ↔
      ¬(f.has successFlag = false ∧ f.has timeoutFlag = true ∧ f.has unreachableFlag = true) ∧
        o = f.outcome := by
  have success := outcomeOf_fieldOrZero f.latency
  cases worked : hasFlag f.flags.toNat successFlag <;>
    cases late : hasFlag f.flags.toNat timeoutFlag <;>
    cases away : hasFlag f.flags.toNat unreachableFlag <;>
    simp [outcomeOfFlags, outcome, cause, has, worked, late, away, success, eq_comm (a := o)]

theorem stackOfFamily?_eq_some_iff {family : UInt8} {stack : IpStack} :
    stackOfFamily? family.toNat = some stack ↔
      family = 4 ∧ stack = .v4 ∨ family = 6 ∧ stack = .v6 := by
  rw [← UInt8.toNat_inj, ← UInt8.toNat_inj, stackOfFamily?.eq_def]
  split
  · next same => simp [same, eq_comm]
  · next same => simp [same, eq_comm]
  · next other one => simp_all

theorem WellFormed.stackOfFamily? (h : f.WellFormed) :
    stackOfFamily? f.family.toNat = some f.stack := by
  rw [stackOfFamily?_eq_some_iff, stack]
  rcases h.address with ⟨same, -⟩ | ⟨same, -⟩ <;> simp [same]

theorem WellFormed.address_length (h : f.WellFormed) :
    f.address.length = Address.size f.stack := by
  rw [stack]
  rcases h.address with ⟨same, width⟩ | ⟨same, width⟩ <;> simp [same, width, Address.size]

theorem WellFormed.bytes_length (h : f.WellFormed) :
    f.bytes.length = 13 + Address.size f.stack := by
  rw [bytes, List.length_append, front_length, h.address_length]

theorem decodeFlagged_bytes (h : f.WellFormed) (rest : List UInt8) (offset : Nat) :
    decodeFlagged ⟨f.bytes ++ rest, offset⟩ =
      .ok (f.record, ⟨rest, offset + f.bytes.length⟩) := by
  have kind := kindOfFlags_eq_ok_iff.mpr ⟨h.notDns, h.oneKind, rfl⟩
  have outcome := outcomeOfFlags_eq_ok_iff.mpr ⟨h.oneCause, rfl⟩
  have target := readTarget_append h.address_length rest (offset + 13)
  rw [bytes, List.append_assoc, decodeFlagged_front, h.stackOfFamily?]
  simp only [target, kind, outcome, bind, Except.bind]
  rw [← bytes, h.bytes_length, ← Nat.add_assoc]
  rfl

/-- The fields before the address are there, or too few bytes are left. -/
theorem front_or_truncated (c : Cursor) :
    decodeFlagged c = .error (.truncatedCheck c.offset) ∨
      ∃ time flags latency family rest, c = ⟨front time flags latency family ++ rest, c.offset⟩ := by
  by_cases short : c.rest.length < 13
  · left
    rw [decodeFlagged, take?_of_short short]
  · right
    obtain ⟨time, flags, latency, family, first⟩ :=
      exists_front (show (c.rest.take 13).length = 13 by simp; omega)
    exact ⟨time, flags, latency, family, c.rest.drop 13, by rw [← first, List.take_append_drop]⟩

theorem exists_of_decodeFlagged {c c' : Cursor} {r : CheckRecord}
    (h : decodeFlagged c = .ok (r, c')) :
    ∃ f : FlaggedFields, f.WellFormed ∧ c.rest = f.bytes ++ c'.rest ∧ r = f.record := by
  rcases front_or_truncated c with broken | ⟨time, flags, latency, family, rest, input⟩
  · rw [broken] at h
    cases h
  · rw [input, decodeFlagged_front] at h
    split at h
    · cases h
    · next stack known =>
      obtain ⟨⟨target, middle⟩, read, h⟩ := ok_of_bind h
      obtain ⟨kind, oneKind, h⟩ := ok_of_bind h
      obtain ⟨outcome, oneCause, h⟩ := ok_of_bind h
      cases h
      rcases readTarget_cases stack ⟨rest, c.offset + 13⟩ with
        ⟨address, behind, width, split, found⟩ | short
      · rw [found] at read
        cases read
        let f : FlaggedFields := ⟨time, flags, latency, family, address⟩
        obtain ⟨notDns, apart, rfl⟩ := kindOfFlags_eq_ok_iff (f := f).mp oneKind
        obtain ⟨cause, rfl⟩ := outcomeOfFlags_eq_ok_iff (f := f).mp oneCause
        have family' := stackOfFamily?_eq_some_iff.mp known
        refine ⟨f, ⟨?_, notDns, apart, cause⟩, ?_, ?_⟩
        · rcases family' with ⟨same, rfl⟩ | ⟨same, rfl⟩
          · exact .inl ⟨same, width⟩
          · exact .inr ⟨same, width⟩
        · rw [input, bytes, List.append_assoc, ← split]
        · have same : f.stack = stack := by
            rcases family' with ⟨same, rfl⟩ | ⟨same, rfl⟩ <;> simp [f, FlaggedFields.stack, same]
          rw [record, same]
      · rw [short] at read
        cases read

theorem flags_normal (f : FlaggedFields) :
    f.normal.flags.toNat = kindFlag f.kind + outcomeFlag f.outcome := by
  simp only [normal, kind, outcome, cause]
  cases f.has httpFlag <;> cases f.has successFlag <;> cases f.has timeoutFlag <;>
    cases f.has unreachableFlag <;> rfl

theorem latency_normal (f : FlaggedFields) :
    f.normal.latency.toNat = latencyField f.outcome := by
  simp only [normal, outcome]
  split
  · split
    · next none => rw [latencyField, latencyOfField, dif_pos none]; rfl
    · next some => rw [latencyField, latencyOfField_val some]
  · rfl

/-- What is encoded again are the normal fields. -/
theorem encodeFlagged?_record (h : f.WellFormed) :
    encodeFlagged? f.record = some f.normal.bytes := by
  have small := f.time.toNat_lt
  have family : Bytes.bigEndian 1 (Layout.family f.record.stack) = [f.family] := by
    have there : f.record.stack = f.stack := Address.ofPacked_stack _ _
    rw [there, stack]
    rcases h.address with ⟨same, -⟩ | ⟨same, -⟩ <;> simp [same, Layout.family, Bytes.bigEndian]
  have address : f.record.target.address.packed = f.address :=
    Address.packed_ofPacked h.address_length
  rw [encodeFlagged?, if_pos (by simp only [record]; omega), family, address, bytes, front,
    flags_normal, latency_normal]
  rfl

end FlaggedFields

/-! ### Version 1 -/

/-- The fields of a record of version 1. -/
structure TaggedFields where
  time : UInt64
  combination : UInt8
  outcomeTag : UInt8
  latency : UInt16
  address : List UInt8
  deriving DecidableEq

namespace TaggedFields

def stack (f : TaggedFields) : IpStack :=
  if f.combination = 1 ∨ f.combination = 3 then .v4 else .v6

/-- Both tags are known, a success has a latency, and the address has the size of its stack. -/
structure WellFormed (f : TaggedFields) : Prop where
  combination : 1 ≤ f.combination ∧ f.combination ≤ 4
  outcomeTag : f.outcomeTag ≤ 3
  hasLatency : ¬(f.outcomeTag = 0 ∧ f.latency = 0xffff)
  address : f.address.length = if f.combination = 1 ∨ f.combination = 3 then 4 else 16

def front (time : UInt64) (combination outcomeTag : UInt8) (latency : UInt16) : List UInt8 :=
  Bytes.bigEndian 8 time.toNat ++ [combination] ++ [outcomeTag] ++
    Bytes.bigEndian 2 latency.toNat

def bytes (f : TaggedFields) : List UInt8 :=
  front f.time f.combination f.outcomeTag f.latency ++ f.address

def kind (f : TaggedFields) : CheckKind := if f.combination ≤ 2 then .http else .icmp

def cause (f : TaggedFields) : FailureCause :=
  if f.outcomeTag = 1 then .timeout else if f.outcomeTag = 2 then .unreachable else .error

def outcome (f : TaggedFields) : Outcome :=
  if f.outcomeTag = 0 then .success (latencyOfField f.latency) else .failure f.cause

/-- The record that the fields are taken for. -/
def record (f : TaggedFields) : CheckRecord :=
  ⟨Bytes.ofSignedBigEndian (Bytes.bigEndian 8 f.time.toNat), f.kind,
    .ofAddress (.ofPacked f.stack f.address), f.outcome⟩

/-- A failure has no latency. -/
def normal (f : TaggedFields) : TaggedFields :=
  { f with latency := if f.outcomeTag = 0 then f.latency else 0xffff }

theorem front_length (time : UInt64) (combination outcomeTag : UInt8) (latency : UInt16) :
    (front time combination outcomeTag latency).length = 12 := by
  simp [front]

theorem exists_front {bytes : List UInt8} (width : bytes.length = 12) :
    ∃ time combination outcomeTag latency,
      bytes = front time combination outcomeTag latency := by
  obtain ⟨time, first⟩ := exists_time (show (bytes.take 8).length = 8 by simp; omega)
  obtain ⟨combination, second⟩ :=
    List.length_eq_one_iff.mp (show ((bytes.drop 8).take 1).length = 1 by simp; omega)
  obtain ⟨outcomeTag, third⟩ :=
    List.length_eq_one_iff.mp (show ((bytes.drop 9).take 1).length = 1 by simp; omega)
  obtain ⟨latency, last⟩ := exists_short (show (bytes.drop 10).length = 2 by simp; omega)
  refine ⟨time, combination, outcomeTag, latency, ?_⟩
  rw [front, ← first, ← second, ← third, ← last, List.append_assoc, List.append_assoc]
  rw [← List.drop_drop (i := 1) (j := 9), List.take_append_drop,
    ← List.drop_drop (i := 1) (j := 8), List.take_append_drop, List.take_append_drop]

/-- What is done with the fields, in order. -/
theorem decodeTagged_front (time : UInt64) (combination outcomeTag : UInt8) (latency : UInt16)
    (rest : List UInt8) (offset : Nat) :
    decodeTagged ⟨front time combination outcomeTag latency ++ rest, offset⟩ =
      match combinationOfTag? combination.toNat, causeOfTag? outcomeTag.toNat with
      | none, _ => .error (.unknownCombination combination.toNat)
      | some _, none => .error (.unknownOutcome outcomeTag.toNat)
      | some combination, some cause? => do
        let (target, c) ← readTarget combination.stack ⟨rest, offset + 12⟩
        let outcome ← outcomeOfTag cause? latency.toNat
        return (⟨Bytes.ofSignedBigEndian (Bytes.bigEndian 8 time.toNat), combination.kind, target,
          outcome⟩, c) := by
  obtain ⟨first, second, third, fourth⟩ := Bytes.fields_append
    (Bytes.bigEndian_length 8 time.toNat) (List.length_singleton (a := combination))
    (List.length_singleton (a := outcomeTag)) (Bytes.bigEndian 2 latency.toNat)
  have combination' : Bytes.ofBigEndian [combination] = combination.toNat := by
    simp [Bytes.ofBigEndian]
  have outcomeTag' : Bytes.ofBigEndian [outcomeTag] = outcomeTag.toNat := by
    simp [Bytes.ofBigEndian]
  have latency' := Bytes.ofBigEndian_bigEndian_of_lt 2 latency.toNat_lt
  have decoded := decodeTagged.eq_def ⟨front time combination outcomeTag latency ++ rest, offset⟩
  rw [Cursor.take?_append (front_length time combination outcomeTag latency)] at decoded
  simp only [front, first, second, third, fourth, combination', outcomeTag', latency'] at decoded
  exact decoded

variable {f : TaggedFields}

theorem combinationOfTag?_eq_some_iff {c : Combination} :
    combinationOfTag? f.combination.toNat = some c ↔
      (1 ≤ f.combination ∧ f.combination ≤ 4) ∧ c = ⟨f.kind, f.stack⟩ := by
  have one : (1 : UInt8).toNat = 1 := rfl
  have two : (2 : UInt8).toNat = 2 := rfl
  have three : (3 : UInt8).toNat = 3 := rfl
  have four : (4 : UInt8).toNat = 4 := rfl
  simp only [kind, stack, UInt8.le_iff_toNat_le, ← UInt8.toNat_inj, one, two, three, four,
    combinationOfTag?.eq_def]
  split
  · next same => simp [same, eq_comm]
  · next same => simp [same, eq_comm]
  · next same => simp [same, eq_comm]
  · next same => simp [same, eq_comm]
  · next none1 none2 none3 none4 =>
    simp only [reduceCtorEq, false_iff]
    rintro ⟨⟨low, high⟩, -⟩
    simp only [imp_false] at none1 none2 none3 none4
    omega

theorem causeOfTag?_eq_some_iff {cause? : Option FailureCause} :
    causeOfTag? f.outcomeTag.toNat = some cause? ↔ f.outcomeTag ≤ 3 ∧ cause? = f.outcome.cause? := by
  have zero : (0 : UInt8).toNat = 0 := rfl
  have one : (1 : UInt8).toNat = 1 := rfl
  have two : (2 : UInt8).toNat = 2 := rfl
  have three : (3 : UInt8).toNat = 3 := rfl
  simp only [outcome, cause, UInt8.le_iff_toNat_le, ← UInt8.toNat_inj, zero, one, two, three,
    causeOfTag?.eq_def]
  split
  · next same => simp [same, eq_comm, Outcome.cause?]
  · next same => simp [same, eq_comm, Outcome.cause?]
  · next same => simp [same, eq_comm, Outcome.cause?]
  · next same => simp [same, eq_comm, Outcome.cause?]
  · next none0 none1 none2 none3 =>
    simp only [reduceCtorEq, false_iff]
    rintro ⟨high, -⟩
    simp only [imp_false] at none0 none1 none2 none3
    omega

theorem WellFormed.address_length (h : f.WellFormed) :
    f.address.length = Address.size f.stack := by
  rw [h.address, stack]
  split <;> rfl

theorem WellFormed.bytes_length (h : f.WellFormed) :
    f.bytes.length = 12 + Address.size f.stack := by
  rw [bytes, List.length_append, front_length, h.address_length]

theorem outcomeOfTag_eq_ok_iff {o : Outcome} :
    outcomeOfTag f.outcome.cause? f.latency.toNat = .ok o ↔
      ¬(f.outcomeTag = 0 ∧ f.latency = 0xffff) ∧ o = f.outcome := by
  by_cases worked : f.outcomeTag = 0
  · have shape : f.outcome = .success (latencyOfField f.latency) := by rw [outcome, if_pos worked]
    rw [shape, Outcome.cause?, outcomeOfTag]
    by_cases none : f.latency = 0xffff
    · rw [if_pos (toNat_eq_noLatency.mpr none)]
      simp [none, worked]
    · rw [if_neg (mt toNat_eq_noLatency.mp none)]
      simp [none, outcomeOf_field none, eq_comm (a := o)]
  · have shape : f.outcome = .failure f.cause := by rw [outcome, if_neg worked]
    rw [shape, Outcome.cause?, outcomeOfTag]
    simp [worked, eq_comm (a := o)]

theorem decodeTagged_bytes (h : f.WellFormed) (rest : List UInt8) (offset : Nat) :
    decodeTagged ⟨f.bytes ++ rest, offset⟩ =
      .ok (f.record, ⟨rest, offset + f.bytes.length⟩) := by
  have combination := combinationOfTag?_eq_some_iff.mpr ⟨h.combination, rfl⟩
  have cause := causeOfTag?_eq_some_iff.mpr ⟨h.outcomeTag, rfl⟩
  have outcome := outcomeOfTag_eq_ok_iff.mpr ⟨h.hasLatency, rfl⟩
  have target := readTarget_append h.address_length rest (offset + 12)
  rw [bytes, List.append_assoc, decodeTagged_front, combination, cause]
  simp only [target, outcome, bind, Except.bind]
  rw [← bytes, h.bytes_length, ← Nat.add_assoc]
  rfl

/-- The fields before the address are there, or too few bytes are left. -/
theorem front_or_truncated (c : Cursor) :
    decodeTagged c = .error (.truncatedCheck c.offset) ∨
      ∃ time combination outcomeTag latency rest,
        c = ⟨front time combination outcomeTag latency ++ rest, c.offset⟩ := by
  by_cases short : c.rest.length < 12
  · left
    rw [decodeTagged, take?_of_short short]
  · right
    obtain ⟨time, combination, outcomeTag, latency, first⟩ :=
      exists_front (show (c.rest.take 12).length = 12 by simp; omega)
    exact ⟨time, combination, outcomeTag, latency, c.rest.drop 12,
      by rw [← first, List.take_append_drop]⟩

theorem exists_of_decodeTagged {c c' : Cursor} {r : CheckRecord}
    (h : decodeTagged c = .ok (r, c')) :
    ∃ f : TaggedFields, f.WellFormed ∧ c.rest = f.bytes ++ c'.rest ∧ r = f.record := by
  rcases front_or_truncated c with broken | ⟨time, combination, outcomeTag, latency, rest, input⟩
  · rw [broken] at h
    cases h
  · rw [input, decodeTagged_front] at h
    split at h
    · cases h
    · cases h
    · next known cause? combination' cause' =>
      obtain ⟨⟨target, middle⟩, read, h⟩ := ok_of_bind h
      obtain ⟨outcome, hasLatency, h⟩ := ok_of_bind h
      cases h
      rcases readTarget_cases known.stack ⟨rest, c.offset + 12⟩ with
        ⟨address, behind, width, split, found⟩ | short
      · rw [found] at read
        cases read
        let f : TaggedFields := ⟨time, combination, outcomeTag, latency, address⟩
        obtain ⟨range, rfl⟩ := combinationOfTag?_eq_some_iff (f := f).mp combination'
        obtain ⟨range', rfl⟩ := causeOfTag?_eq_some_iff (f := f).mp cause'
        obtain ⟨some, rfl⟩ := outcomeOfTag_eq_ok_iff (f := f).mp hasLatency
        refine ⟨f, ⟨range, range', some, ?_⟩, ?_, rfl⟩
        · rw [show f.address.length = Address.size f.stack from width, stack]
          split <;> rfl
        · rw [input, bytes, List.append_assoc, ← split]
      · rw [short] at read
        cases read

theorem combinationTag_of_eq_some {tag : Nat} {c : Combination}
    (h : combinationOfTag? tag = some c) : combinationTag c = tag := by
  rw [combinationOfTag?.eq_def] at h
  split at h <;> cases h <;> rfl

theorem causeTag_of_eq_some {tag : Nat} {cause? : Option FailureCause}
    (h : causeOfTag? tag = some cause?) : causeTag cause? = tag := by
  rw [causeOfTag?.eq_def] at h
  split at h <;> cases h <;> rfl

theorem WellFormed.latency_normal (h : f.WellFormed) :
    f.normal.latency.toNat = latencyField f.outcome := by
  by_cases worked : f.outcomeTag = 0
  · have some : f.latency ≠ 0xffff := fun none => h.hasLatency ⟨worked, none⟩
    simp only [normal, outcome, if_pos worked, latencyField, latencyOfField_val some]
  · simp only [normal, outcome, if_neg worked]
    rfl

/-- What is encoded again are the normal fields. -/
theorem encodeTagged?_record (h : f.WellFormed) :
    encodeTagged? f.record = some f.normal.bytes := by
  have width := Bytes.bigEndian_length 8 f.time.toNat
  have range := Bytes.ofSignedBigEndian_bounds (Bytes.bigEndian 8 f.time.toNat)
  have time := Bytes.signedBigEndian_ofSignedBigEndian (Bytes.bigEndian 8 f.time.toNat)
  rw [width] at range time
  have there : f.record.stack = f.stack := Address.ofPacked_stack _ _
  have combination : combinationTag f.record.combination = f.combination.toNat := by
    rw [CheckRecord.combination, there]
    exact combinationTag_of_eq_some (combinationOfTag?_eq_some_iff.mpr ⟨h.combination, rfl⟩)
  have cause : causeTag f.record.outcome.cause? = f.outcomeTag.toNat :=
    causeTag_of_eq_some (causeOfTag?_eq_some_iff.mpr ⟨h.outcomeTag, rfl⟩)
  have byte (tag : UInt8) : Bytes.bigEndian 1 tag.toNat = [tag] := by simp [Bytes.bigEndian]
  have address : f.record.target.address.packed = f.address :=
    Address.packed_ofPacked h.address_length
  rw [encodeTagged?, if_pos (by simp only [record]; omega), combination, cause, byte, byte, address,
    bytes, front, h.latency_normal, record, time]
  rfl

end TaggedFields

/-! ### Either version -/

/-- The fields of a record of some version. -/
def Fields : FormatVersion → Type
  | .v0 => FlaggedFields
  | .v1 => TaggedFields

namespace Fields

variable {version : FormatVersion}

def WellFormed (f : Fields version) : Prop :=
  match version, f with
  | .v0, f => FlaggedFields.WellFormed f
  | .v1, f => TaggedFields.WellFormed f

def bytes (f : Fields version) : List UInt8 :=
  match version, f with
  | .v0, f => FlaggedFields.bytes f
  | .v1, f => TaggedFields.bytes f

def record (f : Fields version) : CheckRecord :=
  match version, f with
  | .v0, f => FlaggedFields.record f
  | .v1, f => TaggedFields.record f

def normal (f : Fields version) : Fields version :=
  match version, f with
  | .v0, f => FlaggedFields.normal f
  | .v1, f => TaggedFields.normal f

theorem decode_bytes {f : Fields version} (h : f.WellFormed) (rest : List UInt8) (offset : Nat) :
    decode version ⟨f.bytes ++ rest, offset⟩ =
      .ok (f.record, ⟨rest, offset + f.bytes.length⟩) := by
  cases version with
  | v0 => exact FlaggedFields.decodeFlagged_bytes h rest offset
  | v1 => exact TaggedFields.decodeTagged_bytes h rest offset

theorem exists_of_decode {c c' : Cursor} {r : CheckRecord}
    (h : decode version c = .ok (r, c')) :
    ∃ f : Fields version, f.WellFormed ∧ c.rest = f.bytes ++ c'.rest ∧ r = f.record := by
  cases version with
  | v0 => exact FlaggedFields.exists_of_decodeFlagged h
  | v1 => exact TaggedFields.exists_of_decodeTagged h

theorem encode?_record {f : Fields version} (h : f.WellFormed) :
    encode? version f.record = some f.normal.bytes := by
  cases version with
  | v0 => exact FlaggedFields.encodeFlagged?_record h
  | v1 => exact TaggedFields.encodeTagged?_record h

theorem records_allCanonical (fields : List (Fields version)) :
    CheckRecord.AllCanonical (fields.map record) := by
  intro r hr
  obtain ⟨f, -, rfl⟩ := List.mem_map.mp hr
  cases version <;> rfl

theorem normal_bytes_length (f : Fields version) : f.normal.bytes.length = f.bytes.length := by
  cases version <;> simp [normal, bytes, FlaggedFields.bytes, TaggedFields.bytes,
    FlaggedFields.front_length, TaggedFields.front_length, FlaggedFields.normal,
    TaggedFields.normal]

end Fields

end Layout
end LinkMonitor
