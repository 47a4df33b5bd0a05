import LinkMonitor.Digest.Sha256

/-!
# Hashing in pieces

The digest of a message does not depend on the pieces in which it is taken in.
-/

namespace LinkMonitor.Sha256

theorem absorb_append {count : Nat} {bytes : List UInt8} (h : 64 * count ≤ bytes.length)
    (more : List UInt8) (s : State) : absorb count (bytes ++ more) s = absorb count bytes s := by
  induction count generalizing bytes s with
  | zero => rfl
  | succ count ih =>
    rw [absorb, absorb, List.take_append_of_le_length (by omega),
      List.drop_append_of_le_length (by omega), ih (by rw [List.length_drop]; omega)]

theorem absorb_add (first second : Nat) (bytes : List UInt8) (s : State) :
    absorb (first + second) bytes s =
      absorb second (bytes.drop (64 * first)) (absorb first bytes s) := by
  induction first generalizing bytes s with
  | zero => rw [Nat.zero_add, Nat.mul_zero, List.drop_zero, absorb]
  | succ first ih =>
    rw [Nat.succ_add_eq_add_succ, Nat.add_succ, absorb, ih, List.drop_drop, absorb, Nat.mul_succ,
      Nat.add_comm 64]

/-- The bytes behind the last full block. -/
def behindBlocks (bytes : List UInt8) : List UInt8 := bytes.drop (64 * (bytes.length / 64))

theorem behindBlocks_length (bytes : List UInt8) :
    (behindBlocks bytes).length = bytes.length % 64 := by
  rw [behindBlocks, List.length_drop]
  omega

theorem blocks_append (bytes more : List UInt8) :
    (bytes ++ more).length / 64 =
      bytes.length / 64 + (behindBlocks bytes ++ more).length / 64 := by
  rw [List.length_append, List.length_append, behindBlocks_length]
  omega

theorem absorbAll_append (bytes more : List UInt8) (s : State) :
    absorbAll (bytes ++ more) s = absorbAll (behindBlocks bytes ++ more) (absorbAll bytes s) := by
  have full : 64 * (bytes.length / 64) ≤ bytes.length := Nat.mul_div_le _ _
  rw [absorbAll, blocks_append, absorb_add, absorb_append full,
    List.drop_append_of_le_length full]
  rfl

theorem behindBlocks_append (bytes more : List UInt8) :
    behindBlocks (bytes ++ more) = behindBlocks (behindBlocks bytes ++ more) := by
  have full : 64 * (bytes.length / 64) ≤ bytes.length := Nat.mul_div_le _ _
  rw [behindBlocks, blocks_append, Nat.mul_add, ← List.drop_drop,
    List.drop_append_of_le_length full]
  rfl

namespace Hasher

/-- What is known of a message when this much of it has been taken in. -/
def after (bytes : List UInt8) : Hasher :=
  ⟨absorbAll bytes initial, behindBlocks bytes, bytes.length⟩

theorem after_nil : after [] = {} := rfl

theorem update_after (bytes more : List UInt8) :
    (after bytes).update more = after (bytes ++ more) := by
  rw [after, after, absorbAll_append, behindBlocks_append, List.length_append]
  rfl

theorem foldl_update_after (bytes : List UInt8) (pieces : List (List UInt8)) :
    pieces.foldl update (after bytes) = after (bytes ++ pieces.flatten) := by
  induction pieces generalizing bytes with
  | nil => rw [List.flatten_nil, List.append_nil, List.foldl_nil]
  | cons piece pieces ih =>
    rw [List.foldl_cons, update_after, ih, List.flatten_cons, List.append_assoc]

theorem digest_after (bytes : List UInt8) : (after bytes).digest = Sha256.digest bytes := by
  rw [Sha256.digest, absorbAll_append]
  rfl

end Hasher
end LinkMonitor.Sha256
