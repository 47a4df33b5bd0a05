import LinkMonitor.Proofs.Deflate.Feeding
import LinkMonitor.Proofs.Digest.Sha256
import LinkMonitor.Store.Basic

/-!
# Reading a store file

What is read piece by piece is what the whole file holds: its envelope, if it is one compressed stream
with nothing behind it, and its hash.
-/

namespace LinkMonitor.Store

open Deflate Inflater Sha256

/-- The file as far as these bytes have been read. -/
def Reading.after (bytes : List UInt8) : Reading :=
  ⟨((start.feed bytes).run none).1, .after bytes⟩

theorem run_empty : (start.feed []).run none = (start, .starved) := run_of_stop rfl

theorem Reading.after_nil : Reading.after [] = {} := by
  rw [Reading.after, run_empty]
  rfl

theorem Reading.next?_after (bytes piece : List UInt8) :
    (Reading.after bytes).next? piece =
      if ((start.feed (bytes ++ piece)).run none).2 = .invalid then none
      else some (.after (bytes ++ piece)) := by
  rw [Reading.next?, Reading.after, run_feed_run, ← feed_append, Hasher.update_after, Reading.after]
  rcases run none (start.feed (bytes ++ piece)) with ⟨t, stop⟩
  cases stop <;> rfl

/-- Pieces are read to the end unless all bytes together are no stream. -/
theorem foldlM_next?_after {bytes : List UInt8}
    (h : ((start.feed bytes).run none).2 ≠ .invalid) (pieces : List (List UInt8)) :
    pieces.foldlM Reading.next? (.after bytes) =
      if ((start.feed (bytes ++ pieces.flatten)).run none).2 = .invalid then none
      else some (.after (bytes ++ pieces.flatten)) := by
  induction pieces generalizing bytes with
  | nil => rw [List.flatten_nil, List.append_nil, if_neg h, List.foldlM_nil]; rfl
  | cons piece pieces ih =>
    rw [List.foldlM_cons, Reading.next?_after, List.flatten_cons, ← List.append_assoc]
    split
    · next bad =>
      rw [feed_append _ (bytes ++ piece), if_pos (run_feed_of_invalid _ none bad)]
      rfl
    · next good => exact ih good

theorem readEnvelope_eq (path : Path) (bytes : List UInt8) :
    readEnvelope path bytes =
      match inflate bytes with
      | .invalid => .error (.notCompressed path)
      | .truncated => .error (.truncated path)
      | .finished envelope rest =>
        if rest.isEmpty then .ok (envelope, Bytes.hex (Sha256.digest bytes))
        else .error (.bytesBehindStream path rest.length) := by
  have empty : ((start.feed []).run none).2 ≠ .invalid := by
    rw [run_empty]
    exact Stop.noConfusion
  have read := foldlM_next?_after empty (Bytes.pieces readSize bytes)
  rw [Bytes.pieces_flatten, List.nil_append, Reading.after_nil] at read
  rw [readEnvelope, read, inflate, Reading.after, ← Hasher.digest_after]
  rcases run none (start.feed bytes) with ⟨t, stop⟩
  cases stop <;> cases finished : t.isDone <;> simp [finished]

theorem hashOf_eq (bytes : List UInt8) : hashOf bytes = Bytes.hex (Sha256.digest bytes) := by
  rw [hashOf, ← Hasher.after_nil, Hasher.foldl_update_after, Hasher.digest_after,
    Bytes.pieces_flatten, List.nil_append]

end LinkMonitor.Store
