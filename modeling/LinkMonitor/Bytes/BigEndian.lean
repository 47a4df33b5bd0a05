/-!
# Whole numbers as bytes

Unsigned numbers of a fixed width, the highest byte first.
-/

namespace LinkMonitor.Bytes

/-- The lowest `width` bytes of a number. -/
def bigEndian : Nat → Nat → List UInt8
  | 0, _ => []
  | width + 1, n => UInt8.ofNat (n >>> (8 * width)) :: bigEndian width n

def ofBigEndian (bytes : List UInt8) : Nat :=
  bytes.foldl (fun n b => n * 256 + b.toNat) 0

@[simp] theorem bigEndian_length (width n : Nat) : (bigEndian width n).length = width := by
  induction width with
  | zero => rfl
  | succ w ih => simp [bigEndian, ih]

/-- Signed numbers in two's complement. -/
def signedBigEndian (width : Nat) (n : Int) : List UInt8 :=
  bigEndian width (n % ((1 <<< (8 * width) : Nat) : Int)).toNat

def ofSignedBigEndian (bytes : List UInt8) : Int :=
  let n := ofBigEndian bytes
  let span : Nat := 1 <<< (8 * bytes.length)
  if 2 * n < span then n else (n : Int) - span

/-- The first `count` items and the rest, if there are that many. -/
def take? {α : Type} (count : Nat) (items : List α) : Option (List α × List α) :=
  let (front, rest) := items.splitAt count
  if front.length = count then some (front, rest) else none

/-- All items in pieces of `size`, of which only the last one may be shorter. -/
def pieces {α : Type} (size : Nat) : List α → List (List α)
  | [] => []
  | item :: rest => (item :: rest.take (size - 1)) :: pieces size (rest.drop (size - 1))
termination_by items => items.length
decreasing_by simp only [List.length_drop, List.length_cons]; omega

theorem pieces_flatten {α : Type} (size : Nat) (items : List α) :
    (pieces size items).flatten = items := by
  induction items using pieces.induct size with
  | case1 => rw [pieces, List.flatten_nil]
  | case2 item rest ih =>
    rw [pieces, List.flatten_cons, ih, List.cons_append, List.take_append_drop]

end LinkMonitor.Bytes
