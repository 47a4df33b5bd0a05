import LinkMonitor.Check.Record
import LinkMonitor.Envelope.Version

/-!
# Record layouts

How one record is laid out in each format version. All numbers are big-endian, and every record ends
with the packed address of its target.

* Version 0: unsigned time in 8 bytes, flags in 2, latency in 2, address family in 1.
* Version 1: signed time in 8 bytes, tag of the combination in 1, tag of the outcome in 1,
  latency in 2.
-/

namespace LinkMonitor

/-- Why bytes are no envelope. -/
inductive DecodeError
  | tooShort (bytes : Nat)
  | badMagic (bytes : List UInt8)
  | unsupportedVersion (tag : Nat)
  | truncatedHeader
  | truncatedCheck (offset : Nat)
  | badFamily (family offset : Nat)
  | truncatedAddress (offset : Nat)
  | dnsCheck (flags : Nat)
  | ambiguousKind (flags : Nat)
  | missingKind (flags : Nat)
  | ambiguousFailure (flags : Nat)
  | unknownCombination (tag : Nat)
  | unknownOutcome (tag : Nat)
  | missingLatency
  | invalidCheck (error : RecordError)
  | trailingBytes (bytes checks : Nat)
  deriving DecidableEq, Repr

namespace DecodeError

def flagsText (flags : Nat) : String := "0x" ++ String.ofList (Text.hexDigits 4 flags)

def message : DecodeError → String
  | tooShort n => "Store is too short to hold a header (" ++ toString n ++ " bytes)"
  | badMagic bytes => "Not a netpulse store (magic " ++ Text.quotedBytes bytes ++ ")"
  | unsupportedVersion tag => "Unsupported store version: " ++ toString tag
  | truncatedHeader => "Store header is truncated"
  | truncatedCheck offset => "Truncated check at offset " ++ toString offset
  | badFamily family offset =>
    "Bad address family " ++ toString family ++ " at offset " ++ toString offset
  | truncatedAddress offset => "Truncated address at offset " ++ toString offset
  | dnsCheck flags => "DNS checks are not supported (flags " ++ flagsText flags ++ ")"
  | ambiguousKind flags => "Check has ambiguous type flags: " ++ flagsText flags
  | missingKind flags => "Check is missing a type flag: " ++ flagsText flags
  | ambiguousFailure flags => "Check has ambiguous failure flags: " ++ flagsText flags
  | unknownCombination tag => "Unknown combination tag " ++ toString tag
  | unknownOutcome tag => "Unknown outcome tag " ++ toString tag
  | missingLatency => "Successful check without latency"
  | invalidCheck e => "Invalid check: " ++ e.message
  | trailingBytes bytes checks =>
    toString bytes ++ " trailing bytes after " ++ toString checks ++ " checks"

end DecodeError

/-- Why records have no envelope. -/
inductive EncodeError
  /-- The timestamp does not fit the layout. -/
  | unrepresentable (record : CheckRecord)
  | tooMany (checks : Nat)
  /-- The timestamp does not fit the layout of version 1. -/
  | timestampTooLate (timestamp : Int)
  deriving DecidableEq

def EncodeError.message : EncodeError → String
  | unrepresentable r => "Cannot encode check " ++ r.fieldsText ++ ": int too large to convert"
  | tooMany n => "Too many checks for one store: " ++ toString n
  | timestampTooLate t => "Timestamp " ++ toString t ++ " does not fit the V1 layout"

/-- What is left to read, and how much has been read. -/
structure Cursor where
  rest : List UInt8
  offset : Nat
  deriving DecidableEq, Repr

namespace Cursor

/-- The next `count` bytes. -/
def take? (c : Cursor) (count : Nat) : Option (List UInt8 × Cursor) :=
  (Bytes.take? count c.rest).map fun (front, rest) => (front, ⟨rest, c.offset + count⟩)

end Cursor

namespace Layout

/-- Latency field of a record without latency. -/
def noLatency : Nat := 0xffff

def latencyField (o : Outcome) : Nat :=
  match o with
  | .success n => n.val
  | .failure _ => noLatency

/-- The target of the next bytes, an address of `stack`. -/
def readTarget (stack : IpStack) (c : Cursor) : Except DecodeError (Target × Cursor) :=
  match c.take? (Address.size stack) with
  | none => .error (.truncatedAddress c.offset)
  | some (bytes, c') =>
    match CheckRecord.targetOn stack (Address.ofPacked stack bytes).text with
    | .ok target => .ok (target, c')
    | .error e => .error (.invalidCheck e)

def outcomeOf (latency : Int) : Except DecodeError Outcome :=
  match CheckRecord.latencyOf latency with
  | .ok n => .ok (.success n)
  | .error e => .error (.invalidCheck e)

/-! ### Version 0 -/

def successFlag : Nat := 0x0001
def timeoutFlag : Nat := 0x0002
def unreachableFlag : Nat := 0x0004
def httpFlag : Nat := 0x1000
def icmpFlag : Nat := 0x4000
def dnsFlag : Nat := 0x8000

def hasFlag (flags flag : Nat) : Bool := flags &&& flag != 0

def kindFlag : CheckKind → Nat
  | .http => httpFlag
  | .icmp => icmpFlag

def outcomeFlag : Outcome → Nat
  | .success _ => successFlag
  | .failure .timeout => timeoutFlag
  | .failure .unreachable => unreachableFlag
  | .failure .error => 0

def family : IpStack → Nat
  | .v4 => 4
  | .v6 => 6

def stackOfFamily? : Nat → Option IpStack
  | 4 => some .v4
  | 6 => some .v6
  | _ => none

def encodeFlagged? (r : CheckRecord) : Option (List UInt8) :=
  if 0 ≤ r.timestamp ∧ r.timestamp < 0x10000000000000000 then
    some (Bytes.bigEndian 8 r.timestamp.toNat ++
      Bytes.bigEndian 2 (kindFlag r.kind + outcomeFlag r.outcome) ++
      Bytes.bigEndian 2 (latencyField r.outcome) ++
      Bytes.bigEndian 1 (family r.stack) ++ r.target.address.packed)
  else none

def kindOfFlags (flags : Nat) : Except DecodeError CheckKind :=
  if hasFlag flags dnsFlag then .error (.dnsCheck flags)
  else match hasFlag flags httpFlag, hasFlag flags icmpFlag with
    | true, true => .error (.ambiguousKind flags)
    | true, false => .ok .http
    | false, true => .ok .icmp
    | false, false => .error (.missingKind flags)

/-- A success without latency counts as one of no milliseconds. -/
def outcomeOfFlags (flags latency : Nat) : Except DecodeError Outcome :=
  if hasFlag flags successFlag then outcomeOf (if latency = noLatency then 0 else latency)
  else match hasFlag flags timeoutFlag, hasFlag flags unreachableFlag with
    | true, true => .error (.ambiguousFailure flags)
    | true, false => .ok (.failure .timeout)
    | false, true => .ok (.failure .unreachable)
    | false, false => .ok (.failure .error)

def decodeFlagged (c : Cursor) : Except DecodeError (CheckRecord × Cursor) :=
  match c.take? 13 with
  | none => .error (.truncatedCheck c.offset)
  | some (fixed, c) => do
    let timestamp := Bytes.ofBigEndian (fixed.take 8)
    let flags := Bytes.ofBigEndian ((fixed.drop 8).take 2)
    let latency := Bytes.ofBigEndian ((fixed.drop 10).take 2)
    let family := Bytes.ofBigEndian (fixed.drop 12)
    match stackOfFamily? family with
    | none => .error (.badFamily family c.offset)
    | some stack =>
      let (target, c) ← readTarget stack c
      let kind ← kindOfFlags flags
      let outcome ← outcomeOfFlags flags latency
      return (⟨timestamp, kind, target, outcome⟩, c)

/-! ### Version 1 -/

def combinationTag (c : Combination) : Nat :=
  match c.kind, c.stack with
  | .http, .v4 => 1
  | .http, .v6 => 2
  | .icmp, .v4 => 3
  | .icmp, .v6 => 4

def combinationOfTag? : Nat → Option Combination
  | 1 => some ⟨.http, .v4⟩
  | 2 => some ⟨.http, .v6⟩
  | 3 => some ⟨.icmp, .v4⟩
  | 4 => some ⟨.icmp, .v6⟩
  | _ => none

def causeTag : Option FailureCause → Nat
  | none => 0
  | some .timeout => 1
  | some .unreachable => 2
  | some .error => 3

/-- The cause of a tag; a success has none. -/
def causeOfTag? : Nat → Option (Option FailureCause)
  | 0 => some none
  | 1 => some (some .timeout)
  | 2 => some (some .unreachable)
  | 3 => some (some .error)
  | _ => none

def encodeTagged? (r : CheckRecord) : Option (List UInt8) :=
  if -0x8000000000000000 ≤ r.timestamp ∧ r.timestamp < 0x8000000000000000 then
    some (Bytes.signedBigEndian 8 r.timestamp ++
      Bytes.bigEndian 1 (combinationTag r.combination) ++
      Bytes.bigEndian 1 (causeTag r.outcome.cause?) ++
      Bytes.bigEndian 2 (latencyField r.outcome) ++ r.target.address.packed)
  else none

def outcomeOfTag (cause? : Option FailureCause) (latency : Nat) : Except DecodeError Outcome :=
  match cause? with
  | some cause => .ok (.failure cause)
  | none => if latency = noLatency then .error .missingLatency else outcomeOf latency

def decodeTagged (c : Cursor) : Except DecodeError (CheckRecord × Cursor) :=
  match c.take? 12 with
  | none => .error (.truncatedCheck c.offset)
  | some (fixed, c) => do
    let timestamp := Bytes.ofSignedBigEndian (fixed.take 8)
    let combinationTag := Bytes.ofBigEndian ((fixed.drop 8).take 1)
    let outcomeTag := Bytes.ofBigEndian ((fixed.drop 9).take 1)
    let latency := Bytes.ofBigEndian (fixed.drop 10)
    match combinationOfTag? combinationTag, causeOfTag? outcomeTag with
    | none, _ => .error (.unknownCombination combinationTag)
    | some _, none => .error (.unknownOutcome outcomeTag)
    | some combination, some cause? =>
      let (target, c) ← readTarget combination.stack c
      let outcome ← outcomeOfTag cause? latency
      return (⟨timestamp, combination.kind, target, outcome⟩, c)

def encode? : FormatVersion → CheckRecord → Option (List UInt8)
  | .v0 => encodeFlagged?
  | .v1 => encodeTagged?

def decode : FormatVersion → Cursor → Except DecodeError (CheckRecord × Cursor)
  | .v0 => decodeFlagged
  | .v1 => decodeTagged

end Layout
end LinkMonitor
