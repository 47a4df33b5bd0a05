import LinkMonitor.Bytes.BigEndian
import LinkMonitor.Text.Blank
import LinkMonitor.Text.Quoted

/-!
# Network addresses

Reading and writing of the text of addresses of both stacks. Four decimal octets without leading
zeros make a version 4 address. Eight hexadecimal groups make a version 6 address; `::` stands for
one or more zero groups, the last two groups may be written as a version 4 address, and a scope may
follow a percent sign. The canonical text has lowercase groups without leading zeros and `::` for the
first of the longest runs of at least two zero groups.
-/

namespace LinkMonitor

inductive IpStack
  | v4
  | v6
  deriving DecidableEq, Repr, Inhabited

namespace IpStack

def value : IpStack → String
  | v4 => "v4"
  | v6 => "v6"

def label : IpStack → String
  | v4 => "IPv4"
  | v6 => "IPv6"

def all : List IpStack := [v4, v6]

def ofValue? (s : String) : Option IpStack := all.find? fun x => x.value == s

end IpStack

inductive Address
  | v4 (bits : BitVec 32)
  | v6 (bits : BitVec 128)
  deriving DecidableEq, Repr

namespace Address

def stack : Address → IpStack
  | v4 _ => .v4
  | v6 _ => .v6

/-- One to three digits, no leading zero, at most 255. -/
def octet? (s : List Char) : Option Nat :=
  let n := s.foldl (fun n c => n * 10 + (c.toNat - '0'.toNat)) 0
  if s.isEmpty || s.length > 3 || !s.all Char.isDigit then none
  else if s.head? = some '0' ∧ s.length ≠ 1 then none
  else if n > 255 then none
  else some n

/-- The 32 bits of a dotted text. -/
def dotted? (s : List Char) : Option Nat :=
  match Text.splitAt (· == '.') s with
  | [a, b, c, d] => do
    return (((← octet? a) * 256 + (← octet? b)) * 256 + (← octet? c)) * 256 + (← octet? d)
  | _ => none

/-- One to four hexadecimal digits. -/
def group? (s : List Char) : Option Nat :=
  if s.isEmpty || s.length > 4 then none
  else s.foldlM (fun n c => (Text.hexValue? c).map (n * 16 + ·)) 0

/-- The groups of the parts between colons; only the very last part may be dotted. -/
def groups? (dottedEnd : Bool) : List (List Char) → Option (List Nat)
  | [] => some []
  | [part] =>
    if dottedEnd && part.contains '.' then
      (dotted? part).map fun n => [n / 65536, n % 65536]
    else (group? part).map fun g => [g]
  | part :: rest => do return (← group? part) :: (← groups? dottedEnd rest)

/-- The parts on one side of the gap: a side may be missing altogether. -/
def side? (dottedEnd : Bool) (parts : List (List Char)) : Option (List Nat) :=
  if parts = [[]] then some [] else groups? dottedEnd parts

/-- The parts before and after the one empty part that is neither first nor last. -/
def gap? : List (List Char) → Option (List (List Char) × List (List Char))
  | [] => none
  | first :: rest =>
    let before := rest.dropLast.takeWhile (!·.isEmpty)
    match rest.drop before.length with
    | [] :: after => if after.isEmpty then none else some (first :: before, after)
    | _ => none

/-- Eight groups, the gap filled with zeros. -/
def colonGroups? (s : List Char) : Option (List Nat) := do
  let parts := Text.splitAt (· == ':') s
  match gap? parts with
  | some (before, after) =>
    let high ← side? false before
    let low ← side? true after
    if high.length + low.length ≤ 7 then
      return high ++ List.replicate (8 - high.length - low.length) 0 ++ low
    else none
  | none =>
    let groups ← groups? true parts
    if groups.length = 8 then return groups else none

/-- The text before the scope; a scope is not empty and has no further percent sign. -/
def dropScope? (s : List Char) : Option (List Char) :=
  match Text.splitAt (· == '%') s with
  | [address] => some address
  | [address, scope] => if scope.isEmpty then none else some address
  | _ => none

def parse? (text : String) : Option Address :=
  let s := text.toList
  if s.contains '/' then none
  else match dotted? s with
    | some n => some (v4 (BitVec.ofNat 32 n))
    | none => do
      let groups ← colonGroups? (← dropScope? s)
      return v6 (BitVec.ofNat 128 (groups.foldl (fun n g => n * 65536 + g) 0))

/-- The bytes of an address, the highest first. -/
def packed : Address → List UInt8
  | v4 bits => Bytes.bigEndian 4 bits.toNat
  | v6 bits => Bytes.bigEndian 16 bits.toNat

/-- Number of bytes of a packed address. -/
def size : IpStack → Nat
  | .v4 => 4
  | .v6 => 16

def ofPacked (stack : IpStack) (bytes : List UInt8) : Address :=
  match stack with
  | .v4 => v4 (BitVec.ofNat 32 (Bytes.ofBigEndian bytes))
  | .v6 => v6 (BitVec.ofNat 128 (Bytes.ofBigEndian bytes))

@[simp] theorem packed_length (a : Address) : a.packed.length = size a.stack := by
  cases a <;> simp [packed, stack, size]

@[simp] theorem ofPacked_stack (stack : IpStack) (bytes : List UInt8) :
    (ofPacked stack bytes).stack = stack := by
  cases stack <;> rfl

/-- The eight groups of a number of 128 bits. -/
def groups (n : Nat) : List Nat :=
  (List.range 8).map fun i => (n >>> (16 * (7 - i))) % 65536

/-- Start and length of the first of the longest runs of zeros. -/
def longestZeroRun (gs : List Nat) : Nat × Nat :=
  (List.range gs.length).foldl
    (fun best i =>
      let run := ((gs.drop i).takeWhile (· == 0)).length
      if best.2 < run then (i, run) else best)
    (0, 0)

def joinGroups (gs : List Nat) : String :=
  String.intercalate ":" (gs.map fun g => String.ofList (Nat.toDigits 16 g))

def text : Address → String
  | v4 bits =>
    String.intercalate "." ((Bytes.bigEndian 4 bits.toNat).map fun b => toString b.toNat)
  | v6 bits =>
    let gs := groups bits.toNat
    let (start, run) := longestZeroRun gs
    if run ≤ 1 then joinGroups gs
    else joinGroups (gs.take start) ++ "::" ++ joinGroups (gs.drop (start + run))

end Address

/-- The text is no address. -/
structure AddressError where
  text : String
  deriving DecidableEq, Repr

def AddressError.message (e : AddressError) : String :=
  Text.quoted e.text ++ " does not appear to be an IPv4 or IPv6 address"

/-- What a check is aimed at: an address as it was written. -/
structure Target where
  text : String
  address : Address
  parses : Address.parse? text = some address
  deriving DecidableEq

namespace Target

def parse (text : String) : Except AddressError Target :=
  match h : Address.parse? text with
  | some address => .ok ⟨text, address, h⟩
  | none => .error ⟨text⟩

def stack (t : Target) : IpStack := t.address.stack

/-- Two targets of one text are equal. -/
@[ext] theorem ext {s t : Target} (h : s.text = t.text) : s = t := by
  cases s with | mk a x hx
  cases t with | mk b y hy
  subst h
  obtain rfl : x = y := Option.some.inj (hx.symm.trans hy)
  rfl

theorem parse_text (t : Target) : parse t.text = .ok t := by
  unfold parse
  split
  · next h => exact congrArg Except.ok (Target.ext rfl)
  · next h => simp [t.parses] at h

/-- The address of the web server at a target; the colons of version 6 need brackets. -/
def url (t : Target) : String :=
  match t.stack with
  | .v6 => "http://[" ++ t.text ++ "]/"
  | .v4 => "http://" ++ t.text ++ "/"

end Target
end LinkMonitor
