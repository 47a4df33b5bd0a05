import LinkMonitor.Proofs.Deflate.Feeding

/-!
# The front of a stream

A limit on the output stops a run early and changes nothing else. So the first bytes that are read from
the first pieces of a stream are those of its whole output.
-/

namespace LinkMonitor.Deflate.Inflater

/-! ### What a step puts out -/

/-- A step leads to the same output or to one more byte, and to no more than there is room for. -/
def Appends (limit : Option Nat) (s : Inflater) (x : Except Stop Inflater) : Prop :=
  ∀ t, x = .ok t → t.output = s.output ∨
    (∃ byte, t.output = byte :: s.output) ∧ ∀ n, limit = some n → s.output.length < n

section Appends

variable {limit : Option Nat} {s : Inflater} {α : Type}

theorem appends_error (stop : Stop) : Appends limit s (.error stop) := by
  intro t h
  cases h

theorem appends_ok {t : Inflater} (same : t.output = s.output) : Appends limit s (.ok t) := by
  intro u h
  cases h
  exact .inl same

theorem appends_bind {x : Except Stop α} {f : α → Except Stop Inflater}
    (h : ∀ a, Appends limit s (f a)) : Appends limit s (x >>= f) := by
  intro t ran
  obtain ⟨a, -, ran⟩ := ok_of_bind ran
  exact h a t ran

theorem appends_emit {u : Inflater} (same : u.output = s.output) (byte : UInt8) :
    Appends limit s (emit limit u byte) := by
  intro t h
  rw [emit.eq_def] at h
  split at h
  · cases h
    exact .inr ⟨⟨byte, by rw [same]⟩, by simp⟩
  · split at h
    · next n room =>
      cases h
      refine .inr ⟨⟨byte, by rw [same]⟩, fun m full => ?_⟩
      rw [← same, ← Option.some.inj full]
      exact room
    · cases h

theorem blockEnd_output (s : Inflater) : (blockEnd s).output = s.output := by
  unfold blockEnd
  split <;> rfl

theorem readHeader_appends : Appends limit s (readHeader s) := by
  refine appends_bind fun (word, bits) => ?_
  dsimp only
  split
  · exact appends_error _
  · exact appends_ok rfl

theorem readBlockStart_appends : Appends limit s (readBlockStart s) := by
  refine appends_bind fun (word, bits) => ?_
  dsimp only
  split
  · exact appends_ok rfl
  · exact appends_ok rfl
  · exact appends_ok rfl
  · exact appends_error _

theorem readStoredStart_appends : Appends limit s (readStoredStart s) := by
  refine appends_bind fun (word, bits) => ?_
  dsimp only
  split
  · exact appends_error _
  · exact appends_ok rfl

theorem readStored_appends (left : Nat) : Appends limit s (readStored limit s left) := by
  cases left with
  | zero => exact appends_ok (blockEnd_output s)
  | succ left => exact appends_bind fun _ => appends_emit rfl _

theorem readCodesStart_appends : Appends limit s (readCodesStart s) := by
  refine appends_bind fun (word, bits) => ?_
  dsimp only
  split
  · exact appends_error _
  · exact appends_ok rfl

theorem readMetaLengths_appends (literals distances left : Nat) (read : List Nat) :
    Appends limit s (readMetaLengths s literals distances left read) := by
  refine appends_bind fun (length, bits) => ?_
  dsimp only
  split
  · exact appends_bind fun _ => appends_ok rfl
  · exact appends_bind fun _ => appends_ok rfl
  · exact appends_ok rfl

theorem withCodes_appends {u : Inflater} (same : u.output = s.output) (literals : Nat)
    (lengths : List Nat) : Appends limit s (withCodes u literals lengths) := by
  unfold withCodes
  dsimp only
  split
  · exact appends_error _
  · exact appends_ok same

theorem readLengths_appends (literals distances : Nat) (code : Option Code) (read : List Nat) :
    Appends limit s (readLengths s literals distances code read) := by
  refine appends_bind fun (run, bits) => ?_
  dsimp only
  split
  · exact appends_error _
  · split
    · exact withCodes_appends rfl _ _
    · exact appends_ok rfl

theorem readMatch_appends (literals distances : Code) (symbol : Nat) (b : Bits) :
    Appends limit s (readMatch s literals distances symbol b) := by
  refine appends_bind fun (length, b) => appends_bind fun (symbol, b) =>
    appends_bind fun (distance, b) => ?_
  dsimp only
  split
  · exact appends_error _
  · exact appends_ok rfl

theorem readSymbol_appends (literals distances : Code) :
    Appends limit s (readSymbol limit s literals distances) := by
  refine appends_bind fun (symbol, b) => ?_
  dsimp only
  split
  · exact appends_emit rfl _
  · split
    · exact appends_ok (blockEnd_output _)
    · exact readMatch_appends literals distances symbol b

theorem copyByte_appends (literals distances : Code) (bytes : List UInt8) :
    Appends limit s (copyByte limit s literals distances bytes) := by
  cases bytes with
  | nil => exact appends_ok rfl
  | cons byte rest => exact appends_emit rfl byte

theorem readTrailer_appends : Appends limit s (readTrailer s) := by
  refine appends_bind fun (word, bits) => ?_
  dsimp only
  split
  · exact appends_ok rfl
  · exact appends_error _

theorem step_appends (limit : Option Nat) (s : Inflater) : Appends limit s (step limit s) := by
  unfold step
  cases s.phase with
  | header => exact readHeader_appends
  | dictionary => exact appends_bind fun _ => appends_error _
  | blockStart => exact readBlockStart_appends
  | storedStart => exact readStoredStart_appends
  | stored left => exact readStored_appends left
  | codesStart => exact readCodesStart_appends
  | metaLengths literals distances left read => exact readMetaLengths_appends _ _ left read
  | lengths literals distances code read => exact readLengths_appends _ _ code read
  | symbols literals distances => exact readSymbol_appends literals distances
  | copying literals distances bytes => exact copyByte_appends literals distances bytes
  | trailer => exact readTrailer_appends
  | done => exact appends_error _

/-- What has been put out stays; the last byte comes first. -/
theorem output_suffix_run (limit : Option Nat) (s : Inflater) :
    s.output <:+ (run limit s).1.output := by
  induction s using run.induct limit with
  | case1 s t h ih =>
    rw [run_of_step h]
    refine List.IsSuffix.trans ?_ ih
    rcases step_appends limit s t h with same | ⟨⟨byte, more⟩, -⟩
    · rw [same]
    · rw [more]
      exact List.suffix_cons byte _
  | case2 s stop h => rw [run_of_stop h]

theorem run_length_le {n : Nat} {s : Inflater} (room : s.output.length ≤ n) :
    (run (some n) s).1.output.length ≤ n := by
  induction s using run.induct (some n) with
  | case1 s t h ih =>
    rw [run_of_step h]
    refine ih ?_
    rcases step_appends (some n) s t h with same | ⟨⟨byte, more⟩, room⟩
    · rwa [same]
    · rw [more]
      exact room n rfl
  | case2 s stop h => rwa [run_of_stop h]

end Appends

/-! ### Runs with a limit -/

/-- The first result, which has a limit, is the second one, or there is no room for more output. -/
def Limited (n : Nat) (s : Inflater) (x y : Except Stop Inflater) : Prop :=
  x = y ∨ x = .error .full ∧ n ≤ s.output.length

section Limited

variable (n : Nat) (s : Inflater)

theorem limited_rfl (x : Except Stop Inflater) : Limited n s x x := .inl rfl

theorem emit_limited {u : Inflater} (same : u.output = s.output) (byte : UInt8) :
    Limited n s (emit (some n) u byte) (emit none u byte) := by
  rw [emit, emit]
  split
  · exact limited_rfl n s _
  · next full => exact .inr ⟨rfl, same ▸ Nat.le_of_not_lt full⟩

theorem limited_bind {α : Type} (x : Except Stop α) {f g : α → Except Stop Inflater}
    (h : ∀ a, Limited n s (f a) (g a)) : Limited n s (x >>= f) (x >>= g) := by
  cases x with
  | error stop => exact limited_rfl n s _
  | ok a => exact h a

theorem readStored_limited (left : Nat) :
    Limited n s (readStored (some n) s left) (readStored none s left) := by
  cases left with
  | zero => exact limited_rfl n s _
  | succ left =>
    refine limited_bind n s _ fun (byte, bits) => ?_
    exact emit_limited n s (u := { s with bits, phase := .stored left }) rfl _

theorem readSymbol_limited (literals distances : Code) :
    Limited n s (readSymbol (some n) s literals distances) (readSymbol none s literals distances) := by
  refine limited_bind n s _ fun (symbol, b) => ?_
  dsimp only
  split
  · exact emit_limited n s (u := { s with bits := b }) rfl _
  · exact limited_rfl n s _

theorem copyByte_limited (literals distances : Code) (bytes : List UInt8) :
    Limited n s (copyByte (some n) s literals distances bytes)
      (copyByte none s literals distances bytes) := by
  cases bytes with
  | nil => exact limited_rfl n s _
  | cons byte rest =>
    exact emit_limited n s (u := { s with phase := .copying literals distances rest }) rfl byte

/-- A limit does not change a step, unless the step would put out more than there is room for. -/
theorem step_limited : Limited n s (step (some n) s) (step none s) := by
  unfold step
  cases s.phase with
  | stored left => exact readStored_limited n s left
  | symbols literals distances => exact readSymbol_limited n s literals distances
  | copying literals distances bytes => exact copyByte_limited n s literals distances bytes
  | _ => exact limited_rfl n s _

end Limited

/-- A run with a limit is the run without it as far as there is room. -/
theorem run_limited (n : Nat) (s : Inflater) :
    run (some n) s = run none s ∨
      n ≤ (run (some n) s).1.output.length ∧ run none (run (some n) s).1 = run none s ∧
        (run (some n) s).2 = .full := by
  induction s using run.induct (some n) with
  | case1 s t h ih =>
    have free : step none s = .ok t := by
      rcases step_limited n s with same | ⟨full, -⟩
      · rw [← same, h]
      · rw [h] at full
        cases full
    rwa [run_of_step h, run_of_step free]
  | case2 s stop h =>
    rw [run_of_stop h]
    rcases step_limited n s with same | ⟨full, long⟩
    · rw [h] at same
      exact .inl (run_of_stop same.symm).symm
    · rw [h] at full
      cases full
      exact .inr ⟨long, rfl, rfl⟩

/-! ### The first bytes of the output -/

/-- The first bytes of what the stream puts out, as far as it can be read. -/
def front (count : Nat) (bytes : List UInt8) : List UInt8 :=
  ((run none (start.feed bytes)).1.output.reverse).take count

variable {count : Nat} {bytes : List UInt8}

/-- What a limited run has put out comes first in what the whole stream puts out. -/
theorem reverse_prefix_of_limited (count : Nat) (bytes more : List UInt8) :
    (run (some count) (start.feed bytes)).1.output.reverse <+:
      (run none (start.feed (bytes ++ more))).1.output.reverse := by
  rw [List.reverse_prefix, feed_append, ← run_feed_run more none (start.feed bytes)]
  have fed : (run none (start.feed bytes)).1.output <:+
      (run none ((run none (start.feed bytes)).1.feed more)).1.output :=
    output_suffix_run none ((run none (start.feed bytes)).1.feed more)
  refine List.IsSuffix.trans ?_ fed
  rcases run_limited count (start.feed bytes) with same | ⟨-, same, -⟩
  · rw [same]
  · rw [← same]
    exact output_suffix_run none _

theorem limited_length_le (count : Nat) (bytes : List UInt8) :
    (run (some count) (start.feed bytes)).1.output.length ≤ count :=
  run_length_le (Nat.zero_le count)

/-- As soon as there is enough, it is the front of the whole stream. -/
theorem front_of_enough (more : List UInt8)
    (enough : count ≤ (run (some count) (start.feed bytes)).1.output.length) :
    front count (bytes ++ more) = (run (some count) (start.feed bytes)).1.output.reverse := by
  have length : (run (some count) (start.feed bytes)).1.output.reverse.length = count := by
    rw [List.length_reverse]
    exact Nat.le_antisymm (limited_length_le count bytes) enough
  have first := List.prefix_iff_eq_take.mp (reverse_prefix_of_limited count bytes more)
  rw [front, first, length]

/-- Nothing follows the end of a stream. -/
theorem front_of_done (more : List UInt8)
    (done : (run (some count) (start.feed bytes)).1.isDone = true) :
    front count (bytes ++ more) = (run (some count) (start.feed bytes)).1.output.reverse := by
  have ended : (run (some count) (start.feed bytes)).1.phase = .done := by simpa [isDone] using done
  have short := limited_length_le count bytes
  have last : run none (start.feed (bytes ++ more)) =
      ((run (some count) (start.feed bytes)).1.feed more, .starved) := by
    have halted (u : Inflater) (h : u.phase = .done) : run none u = (u, .starved) :=
      run_of_stop (by rw [step.eq_def, h])
    rw [feed_append, ← run_feed_run]
    rcases run_limited count (start.feed bytes) with same | ⟨-, same, -⟩
    · rw [← same]
      exact halted _ ended
    · rw [← same, halted _ ended]
      exact halted _ ended
  rw [front, last, List.take_of_length_le]
  · rfl
  · rwa [List.length_reverse]

/-- Where the input is at its end and there is still room, the output is the whole front. -/
theorem front_of_end :
    front count bytes = (run (some count) (start.feed bytes)).1.output.reverse := by
  by_cases enough : count ≤ (run (some count) (start.feed bytes)).1.output.length
  · have whole := front_of_enough [] enough
    rwa [List.append_nil] at whole
  · have short := limited_length_le count bytes
    rcases run_limited count (start.feed bytes) with same | ⟨long, -⟩
    · rw [front, ← same, List.take_of_length_le (by rwa [List.length_reverse])]
    · exact absurd long enough

theorem invalid_of_limited (more : List UInt8)
    (invalid : (run (some count) (start.feed bytes)).2 = .invalid) :
    (run none (start.feed (bytes ++ more))).2 = .invalid := by
  rw [feed_append]
  refine run_feed_of_invalid _ none ?_
  rcases run_limited count (start.feed bytes) with same | ⟨-, -, full⟩
  · rw [← same, invalid]
  · rw [invalid] at full
    cases full

/-! ### Reading piece by piece -/

/-- The loop that reads the front of a stream, with the pieces that it asks the file for. It ends as soon
as there is enough, at the end of the file, at the end of the stream, or where the stream is invalid.
Input is left over only by a run that has no more room, and then there is enough. -/
inductive ReadsFront (count : Nat) : Inflater → List UInt8 → Nat → Option (List UInt8) → Prop
  | enough {s : Inflater} {unread : List UInt8} (full : count ≤ s.output.length) :
    ReadsFront count s unread 0 (some s.output.reverse)
  | exhausted {s : Inflater} (room : s.output.length < count) :
    ReadsFront count s [] 1 (some s.output.reverse)
  | invalid {s : Inflater} {unread : List UInt8} (room : s.output.length < count)
    (more : unread ≠ []) (bad : (run (some count) (s.feed (unread.take 64))).2 = .invalid) :
    ReadsFront count s unread 1 none
  | done {s t : Inflater} {stop : Stop} {unread : List UInt8} (room : s.output.length < count)
    (more : unread ≠ []) (ran : run (some count) (s.feed (unread.take 64)) = (t, stop))
    (good : stop ≠ .invalid) (ended : t.isDone = true) :
    ReadsFront count s unread 1 (some t.output.reverse)
  | next {s t : Inflater} {stop : Stop} {unread : List UInt8} {pieces : Nat}
    {result : Option (List UInt8)} (room : s.output.length < count) (more : unread ≠ [])
    (ran : run (some count) (s.feed (unread.take 64)) = (t, stop)) (good : stop ≠ .invalid)
    (going : t.isDone = false) (rest : ReadsFront count t (unread.drop 64) pieces result) :
    ReadsFront count s unread (pieces + 1) result

/-- Where a limited run has come to, it goes on as if all had been there at once. -/
theorem run_feed_limited (count : Nat) (before piece : List UInt8) :
    run (some count) ((run (some count) (start.feed before)).1.feed piece) =
      run (some count) (start.feed (before ++ piece)) := by
  rw [run_feed_run, ← feed_append]

/-- What the loop has read is the front of the whole stream. -/
theorem ReadsFront.result_eq {s : Inflater} {before unread : List UInt8} {pieces : Nat}
    {result : Option (List UInt8)} (reads : ReadsFront count s unread pieces result)
    (here : s = (run (some count) (start.feed before)).1) :
    (result = none → (run none (start.feed (before ++ unread))).2 = .invalid) ∧
      ∀ first, result = some first → first = front count (before ++ unread) := by
  induction reads generalizing before with
  | enough full =>
    subst here
    refine ⟨nofun, fun first same => ?_⟩
    rw [← Option.some.inj same, front_of_enough _ full]
  | exhausted room =>
    subst here
    refine ⟨nofun, fun first same => ?_⟩
    rw [← Option.some.inj same, List.append_nil, front_of_end]
  | @invalid s unread room more bad =>
    subst here
    refine ⟨fun _ => ?_, nofun⟩
    rw [run_feed_limited] at bad
    rw [← List.take_append_drop 64 unread, ← List.append_assoc]
    exact invalid_of_limited _ bad
  | @done s t stop unread room more ran good ended =>
    subst here
    refine ⟨nofun, fun first same => ?_⟩
    rw [run_feed_limited] at ran
    have last : (run (some count) (start.feed (before ++ unread.take 64))).1.isDone = true := by
      rwa [ran]
    have whole := front_of_done (unread.drop 64) last
    rw [List.append_assoc, List.take_append_drop, ran] at whole
    rw [← Option.some.inj same, whole]
  | @next s t stop unread pieces result room more ran good going rest ih =>
    subst here
    rw [run_feed_limited] at ran
    have there : t = (run (some count) (start.feed (before ++ unread.take 64))).1 := by rw [ran]
    have further := ih there
    rwa [List.append_assoc, List.take_append_drop] at further

theorem inflateFront_of_invalid {s : Inflater} {unread : List UInt8}
    (bad : (run (some count) (s.feed (unread.take 64))).2 = .invalid) :
    inflateFront count s unread = none := by
  rw [inflateFront.eq_def]
  split
  · rfl
  · next valid same =>
    rw [same] at bad
    exact absurd bad valid

theorem inflateFront_of_piece {s t : Inflater} {stop : Stop} {unread : List UInt8}
    (ran : run (some count) (s.feed (unread.take 64)) = (t, stop)) (good : stop ≠ .invalid) :
    inflateFront count s unread =
      if t.isDone || count ≤ t.output.length || unread.length ≤ 64 then some t.output.reverse
      else inflateFront count t (unread.drop 64) := by
  rw [inflateFront.eq_def, ran]
  split
  · next same =>
    cases same
    exact absurd rfl good
  · next same =>
    cases same
    rfl

/-- The loop comes to an end, at the latest when the whole file is read. -/
theorem readsFront_inflateFront (before unread : List UInt8)
    (good : (run (some count) (start.feed before)).2 ≠ .invalid)
    (room : (run (some count) (start.feed before)).1.output.length < count) :
    ∃ pieces ≤ unread.length / 64 + 2,
      ReadsFront count (run (some count) (start.feed before)).1 unread pieces
        (inflateFront count (run (some count) (start.feed before)).1 unread) := by
  induction size : unread.length using Nat.strong_induction_on generalizing before unread with
  | _ length ih =>
  subst size
  rcases ran : run (some count) (start.feed (before ++ unread.take 64)) with ⟨t, stop⟩
  have piece := run_feed_limited count before (unread.take 64)
  rw [ran] at piece
  by_cases bad : stop = .invalid
  · have invalid := (congrArg Prod.snd piece).trans bad
    rw [inflateFront_of_invalid invalid]
    refine ⟨1, by omega, .invalid room (fun none => good ?_) invalid⟩
    rw [none, List.take_nil, List.append_nil] at ran
    rw [ran, bad]
  · rw [inflateFront_of_piece piece bad]
    by_cases none : unread = []
    · subst none
      rw [List.take_nil, List.append_nil] at ran
      rw [if_pos (by simp), ran]
      exact ⟨1, by simp, .exhausted (by rwa [ran] at room)⟩
    by_cases ended : t.isDone = true
    · rw [if_pos (by simp [ended])]
      exact ⟨1, by omega, .done room none piece bad ended⟩
    have going : t.isDone = false := Bool.eq_false_iff.mpr ended
    by_cases full : count ≤ t.output.length
    · rw [if_pos (by simp [full])]
      exact ⟨1, by omega, .next room none piece bad going (.enough full)⟩
    have short : t.output.length < count := Nat.lt_of_not_le full
    by_cases last : unread.length ≤ 64
    · rw [if_pos (by simp [last])]
      refine ⟨2, by omega, .next room none piece bad going ?_⟩
      rw [List.drop_eq_nil_of_le last]
      exact .exhausted short
    · rw [if_neg (by simp [going, full, last])]
      have shorter : (unread.drop 64).length = unread.length - 64 := List.length_drop
      obtain ⟨pieces, few, reads⟩ := ih (unread.drop 64).length (by omega)
        (before ++ unread.take 64) (unread.drop 64) (by rwa [ran]) (by rwa [ran]) rfl
      rw [ran] at reads
      exact ⟨pieces + 1, by omega, .next room none piece bad going reads⟩

end LinkMonitor.Deflate.Inflater
