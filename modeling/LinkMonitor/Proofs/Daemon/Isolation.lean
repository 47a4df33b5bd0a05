import LinkMonitor.Proofs.Check.Execute
import LinkMonitor.Proofs.Daemon.Cycle

/-!
# Checks do not disturb each other

The record that a cycle has for a combination depends on nothing but the reply to its own probe: neither
on the replies to the others, nor on their order, nor on the host.
-/

namespace LinkMonitor.Cycle

variable {config : DaemonConfig} {transport transport' : Transport} {timestamp : Int}
  {c d : Combination} {r : CheckRecord}

/-- The probe of a combination. -/
def orderFor (config : DaemonConfig) (c : Combination) : ProbeOrder :=
  ⟨c.kind, (config.targetFor c).text, config.timeout⟩

/-- The combinations have probes of their own: one target is not on two stacks. -/
theorem orderFor_injective (same : orderFor config c = orderFor config d) : c = d := by
  obtain ⟨kind, text, -⟩ := ProbeOrder.mk.inj same
  have target : config.targetFor c = config.targetFor d := Target.ext text
  have stack : c.stack = d.stack := by
    rw [← config.targetFor_stack c, target, config.targetFor_stack d]
  obtain ⟨ck, cs⟩ := c
  obtain ⟨dk, ds⟩ := d
  exact Combination.mk.injEq .. |>.mpr ⟨kind, stack⟩

/-! ### The record of a combination -/

/-- What the check of a combination comes to. -/
def checked (config : DaemonConfig) (transport : Transport) (timestamp : Int) (c : Combination) :
    Except CheckError CheckRecord :=
  Check.recordOf c (config.targetFor c).text timestamp (transport (orderFor config c))

/-- The record that takes part in the cycle. -/
def recordFor (config : DaemonConfig) (transport : Transport) (timestamp : Int) (c : Combination) :
    CheckRecord :=
  match checked config transport timestamp c with
  | .ok r => r
  | .error _ => timeoutRecord config timestamp c

theorem check_run (config : DaemonConfig) (transport : Transport) (timestamp : Int)
    (c : Combination) (h : Host) :
    ∃ k, (do
      let result ← Action.attempt
        (Check.execute transport c (config.targetFor c).text config.timeout timestamp)
      return (c, result) : Action CycleError _).run h =
      (.ok (c, checked config transport timestamp c), k) := by
  rw [Action.run_bind, Action.run_attempt, Check.execute_run]
  exact ⟨_, rfl⟩

theorem settle_run (config : DaemonConfig) (transport : Transport) (timestamp : Int)
    (c : Combination) (h : Host) :
    ∃ k, (settle config timestamp (c, checked config transport timestamp c)).run h =
      (.ok (recordFor config transport timestamp c), k) := by
  unfold recordFor
  cases checked config transport timestamp c with
  | ok r => exact ⟨h, rfl⟩
  | error e => exact ⟨_, rfl⟩

/-- A cycle has the record of every enabled combination, in the order of the configuration. -/
theorem run_eq_map (waits : canWait config = true) (transport : Transport) (timestamp : Int)
    (h : Host) : ∃ k, (run config transport timestamp).run h =
      (.ok (config.enabled.map (recordFor config transport timestamp)), k) := by
  have checks : ∀ c ∈ config.enabled, _ := fun c _ => check_run config transport timestamp c
  obtain ⟨k, checking⟩ := Action.mapM_eq_map checks h
  have settles : ∀ x ∈ config.enabled.map fun c => (c, checked config transport timestamp c),
      ∀ h, ∃ k, (settle config timestamp x).run h =
        (.ok (recordFor config transport timestamp x.1), k) := by
    intro x member h
    obtain ⟨c, -, rfl⟩ := List.mem_map.mp member
    exact settle_run config transport timestamp c h
  obtain ⟨j, settling⟩ := Action.mapM_eq_map settles k
  rw [List.map_map] at settling
  rw [run, Action.run_bind, checking]
  dsimp only
  rw [if_neg (by simp [waits]), Action.run_bind, settling]
  exact ⟨_, rfl⟩

/-! ### One record for each combination -/

/-- How the record of a combination follows from its check. -/
structure RecordOf (config : DaemonConfig) (transport : Transport) (timestamp : Int)
    (c : Combination) (r : CheckRecord) : Prop where
  combination : r.combination = c
  time : r.timestamp = timestamp
  target : r.target = config.targetFor c
  /-- A check that has come to an end, on whatever host, has made the record. -/
  finished : ∀ s h k, (Check.execute transport c (config.targetFor c).text config.timeout
    timestamp).run h = (.ok s, k) → r = s
  /-- Of a check that hangs or breaks off the record is made up. -/
  unfinished : ∀ e h k, (Check.execute transport c (config.targetFor c).text config.timeout
    timestamp).run h = (.error e, k) → r.outcome = .failure .timeout

theorem recordFor_recordOf (config : DaemonConfig) (transport : Transport) (timestamp : Int)
    (c : Combination) :
    RecordOf config transport timestamp c (recordFor config transport timestamp c) := by
  have own := config.targetFor_stack c
  have concluded : Check.Concluded c (config.targetFor c) timestamp (transport (orderFor config c))
      (checked config transport timestamp c) := Check.recordOf_concluded own _
  have ends : ∀ x h k, (Check.execute transport c (config.targetFor c).text config.timeout
      timestamp).run h = (x, k) → checked config transport timestamp c = x := by
    intro x h k ran
    rw [Check.execute_run] at ran
    exact (Prod.mk.inj ran).1
  cases found : checked config transport timestamp c with
  | ok r =>
    have same : recordFor config transport timestamp c = r := by rw [recordFor, found]
    rw [found] at concluded
    obtain ⟨time, kind, target⟩ := concluded.parts
    rw [same]
    refine ⟨?_, time, target, fun s h k ran => ?_, fun e h k ran => ?_⟩
    · rw [CheckRecord.combination, CheckRecord.stack, kind, target, own]
    · exact Except.ok.inj (found.symm.trans (ends _ h k ran))
    · cases found.symm.trans (ends _ h k ran)
  | error e =>
    have same : recordFor config transport timestamp c = timeoutRecord config timestamp c := by
      rw [recordFor, found]
    rw [same]
    refine ⟨?_, rfl, rfl, fun s h k ran => ?_, fun e h k ran => rfl⟩
    · rw [CheckRecord.combination, CheckRecord.stack, timeoutRecord, own]
    · cases found.symm.trans (ends _ h k ran)

/-! ### Changes to one probe -/

/-- Replies that differ for one combination at most give the same records of all others. -/
theorem recordFor_of_others (others : ∀ o, o ≠ orderFor config c → transport' o = transport o)
    (other : d ≠ c) :
    recordFor config transport' timestamp d = recordFor config transport timestamp d := by
  have distinct : orderFor config d ≠ orderFor config c := fun same => other (orderFor_injective same)
  unfold recordFor checked
  rw [others _ distinct]

/-- A cycle has one record for every enabled combination, in the order of the configuration: that of its
check, or a timeout if this hangs or breaks off. On any host, a change to the probe of one combination
changes no other record. -/
theorem run_isolates (config : DaemonConfig) (transport : Transport) (timestamp : Int) (h : Host)
    (waits : canWait config = true) :
    ∃ records k, (run config transport timestamp).run h = (.ok records, k) ∧
      List.Forall₂ (RecordOf config transport timestamp) config.enabled records ∧
      ∀ c transport' h', (∀ o, o ≠ orderFor config c → transport' o = transport o) →
        ∃ records' k', (run config transport' timestamp).run h' = (.ok records', k') ∧
          ∀ (i : Nat) d, config.enabled[i]? = some d → d ≠ c → records'[i]? = records[i]? := by
  obtain ⟨k, ran⟩ := run_eq_map waits transport timestamp h
  refine ⟨_, k, ran, ?_, fun c transport' h' others => ?_⟩
  · rw [List.forall₂_map_right_iff, List.forall₂_same]
    exact fun c _ => recordFor_recordOf config transport timestamp c
  · obtain ⟨k', ran'⟩ := run_eq_map waits transport' timestamp h'
    refine ⟨_, k', ran', fun i d enabled other => ?_⟩
    rw [List.getElem?_map, List.getElem?_map, enabled]
    exact congrArg some (recordFor_of_others others other)

/-- Pings on the first stack get no number, those on the second no answer. -/
def troubled : Transport := fun o =>
  match o.kind, o.target == (Target.ofAddress (.v6 1)).text with
  | .icmp, true => .pending
  | .http, false => .failed .unreachable "no route"
  | .icmp, false => .answered (.float .nan)
  | .http, true => .answered (.whole 70000)

/-- The same, only that the first ping is answered at last. -/
def recovered (o : ProbeOrder) : ProbeReply :=
  if o = orderFor everyCheck ⟨.icmp, .v6⟩ then .answered (.whole 8) else troubled o

theorem run_isolates_troubled : canWait everyCheck = true ∧
    ∃ records k records' k',
      (run everyCheck troubled 1700000000).run {} = (.ok records, k) ∧
      records.map CheckRecord.outcome =
        [.failure .timeout, .failure .unreachable, .failure .timeout, .success 65534] ∧
      (run everyCheck recovered 1700000000).run {} = (.ok records', k') ∧
      records'.map CheckRecord.outcome =
        [.success 8, .failure .unreachable, .failure .timeout, .success 65534] ∧
      records'[2]? = records[2]? := by
  have waits : canWait everyCheck = true := by decide +kernel
  obtain ⟨records, k, ran, -, isolated⟩ := run_isolates everyCheck troubled 1700000000 {} waits
  obtain ⟨records', k', ran', same⟩ := isolated ⟨.icmp, .v6⟩ recovered {} fun o other => if_neg other
  have found : ((run everyCheck troubled 1700000000).run {}).1.map (List.map CheckRecord.outcome) =
      .ok [.failure .timeout, .failure .unreachable, .failure .timeout, .success 65534] := by
    decide +kernel
  have found' : ((run everyCheck recovered 1700000000).run {}).1.map (List.map CheckRecord.outcome) =
      .ok [.success 8, .failure .unreachable, .failure .timeout, .success 65534] := by
    decide +kernel
  rw [ran] at found
  rw [ran'] at found'
  exact ⟨waits, records, k, records', k', ran, Except.ok.inj found, ran', Except.ok.inj found',
    same 2 ⟨.icmp, .v4⟩ rfl (by decide)⟩

end LinkMonitor.Cycle
