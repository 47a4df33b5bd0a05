import LinkMonitor.Proofs.Daemon.Cycle
import LinkMonitor.Proofs.Envelope.RoundTrip
import LinkMonitor.Proofs.Time.Calendar

/-!
# The record of a single check

A check leaves a record of its combination, target and time, whatever the probe does, with two
exceptions: an answer that is no finite number, and an answer at a time that has no text.
-/

namespace LinkMonitor

/-- Neither `nan` nor one of the infinities. -/
def Number.isFinite : Number → Bool
  | .whole _ => true
  | .float .nan | .float .infinity | .float .negInfinity => false
  | .float _ => true

theorem Number.exists_truncate_iff (x : Number) :
    (∃ n, x.truncate = .ok n) ↔ x.isFinite = true := by
  cases x with
  | whole n => exact ⟨fun _ => rfl, fun _ => ⟨n, rfl⟩⟩
  | float x => cases x <;> simp [isFinite, truncate, Binary64.truncate, Binary64.toWhole]

namespace CheckRecord

variable {timestamp : Int} {c : Combination} {target : Target}

theorem targetOn_of_stack (own : target.stack = c.stack) : targetOn c.stack target.text = .ok target := by
  rw [targetOn, target.parse_text]
  exact if_pos own

theorem failure_of_stack (own : target.stack = c.stack) (cause : FailureCause) :
    failure timestamp c target.text cause = .ok ⟨timestamp, c.kind, target, .failure cause⟩ := by
  rw [failure, make, targetOn_of_stack own]
  rfl

theorem success_of_stack (own : target.stack = c.stack) (latency : Latency) :
    success timestamp c target.text latency.val =
      .ok ⟨timestamp, c.kind, target, .success latency⟩ := by
  rw [success, make, outcomeOf, latencyOf_val, targetOn_of_stack own]
  rfl

/-- Nothing but the time can keep a record from being described. -/
theorem describe_cases (r : CheckRecord) :
    (CivilTime.HasText r.timestamp ∧ ∃ line, r.describe = .ok line) ∨
      ∃ e, formatTimestamp r.timestamp = .error e ∧ r.describe = .error e := by
  cases time : formatTimestamp r.timestamp with
  | error e =>
    refine .inr ⟨e, rfl, ?_⟩
    rw [describe, time]
    rfl
  | ok text =>
    refine .inl ⟨(formatTimestamp_eq_ok time).1, ?_⟩
    rw [describe, time]
    exact ⟨_, rfl⟩

end CheckRecord

namespace Check

/-! ### Clamped latencies -/

/-- The latency nearest to a number of milliseconds. -/
def nearest (n : Int) : Latency := ⟨(min (max 0 n) maxLatency).toNat, by
  have top : (maxLatency : Int) = 65534 := rfl
  omega⟩

theorem val_nearest (n : Int) : ((nearest n).val : Int) = min (max 0 n) maxLatency := by
  have top : (maxLatency : Int) = 65534 := rfl
  have low : 0 ≤ min (max 0 n) (maxLatency : Int) := by omega
  exact Int.toNat_of_nonneg low

theorem clampLatency_of_truncate {x : Number} {n : Int} (whole : x.truncate = .ok n) :
    clampLatency x = .ok (nearest n).val := by
  rw [val_nearest, clampLatency, whole]

/-! ### What becomes of a reply -/

/-- The result of a check that got a reply. -/
inductive Concluded (c : Combination) (target : Target) (timestamp : Int) :
    ProbeReply → Except CheckError CheckRecord → Prop
  | answered {x n} : x.truncate = .ok n → CivilTime.HasText timestamp →
      Concluded c target timestamp (.answered x)
        (.ok ⟨timestamp, c.kind, target, .success (nearest n)⟩)
  | notFinite {x e} : x.truncate = .error e →
      Concluded c target timestamp (.answered x) (.error (.latency e))
  | undated {x n e} : x.truncate = .ok n → formatTimestamp timestamp = .error e →
      Concluded c target timestamp (.answered x) (.error (.time e))
  | failed {cause message} :
      Concluded c target timestamp (.failed cause message)
        (.ok ⟨timestamp, c.kind, target, .failure cause⟩)
  | broken {kind message} :
      Concluded c target timestamp (.broken kind message)
        (.ok ⟨timestamp, c.kind, target, .failure .error⟩)
  | pending : Concluded c target timestamp .pending (.error .unfinished)

/-- The replies of which a check makes a record: all that come, but answers only if they are finite and
the time of the check has a text. -/
def Recordable (timestamp : Int) : ProbeReply → Prop
  | .answered x => x.isFinite = true ∧ CivilTime.HasText timestamp
  | .failed .. | .broken .. => True
  | .pending => False

variable {c : Combination} {target : Target} {timestamp : Int}

theorem Concluded.parts {reply : ProbeReply} {r : CheckRecord}
    (concluded : Concluded c target timestamp reply (.ok r)) :
    r.timestamp = timestamp ∧ r.kind = c.kind ∧ r.target = target := by
  cases concluded with
  | answered => exact ⟨rfl, rfl, rfl⟩
  | failed => exact ⟨rfl, rfl, rfl⟩
  | broken => exact ⟨rfl, rfl, rfl⟩

theorem Concluded.exists_ok_iff {reply : ProbeReply} {result : Except CheckError CheckRecord}
    (concluded : Concluded c target timestamp reply result) :
    (∃ r, result = .ok r) ↔ Recordable timestamp reply := by
  cases concluded with
  | @answered x n whole dated =>
    have finite : x.isFinite = true := x.exists_truncate_iff.mp ⟨n, whole⟩
    exact ⟨fun _ => ⟨finite, dated⟩, fun _ => ⟨_, rfl⟩⟩
  | @notFinite x e failed =>
    constructor
    · rintro ⟨r, none⟩
      cases none
    · rintro ⟨finite, -⟩
      obtain ⟨n, whole⟩ := x.exists_truncate_iff.mpr finite
      rw [whole] at failed
      cases failed
  | @undated x n e whole failed =>
    constructor
    · rintro ⟨r, none⟩
      cases none
    · rintro ⟨-, dated⟩
      exact absurd dated (not_hasText_of_error failed)
  | failed => exact ⟨fun _ => trivial, fun _ => ⟨_, rfl⟩⟩
  | broken => exact ⟨fun _ => trivial, fun _ => ⟨_, rfl⟩⟩
  | pending =>
    constructor
    · rintro ⟨r, none⟩
      cases none
    · exact False.elim

theorem recordOf_answered (own : target.stack = c.stack) (x : Number) :
    Concluded c target timestamp (.answered x)
      (recordOf c target.text timestamp (.answered x)) := by
  cases whole : x.truncate with
  | error e =>
    have unclamped : clampLatency x = .error (.latency e) := by rw [clampLatency, whole]
    rw [recordOf, unclamped]
    exact .notFinite whole
  | ok n =>
    rw [recordOf, clampLatency_of_truncate whole]
    -- The record is there; what is left is its description.
    rcases CheckRecord.describe_cases ⟨timestamp, c.kind, target, .success (nearest n)⟩ with
      ⟨dated, line, described⟩ | ⟨e, undated, failed⟩
    · simp only [bind, Except.bind, CheckRecord.success_of_stack own, ofRecord, described]
      exact .answered whole dated
    · simp only [bind, Except.bind, CheckRecord.success_of_stack own, ofRecord, failed]
      exact .undated whole undated

theorem recordOf_concluded (own : target.stack = c.stack) (reply : ProbeReply) :
    Concluded c target timestamp reply (recordOf c target.text timestamp reply) := by
  cases reply with
  | answered x => exact recordOf_answered own x
  | failed cause message =>
    rw [recordOf, CheckRecord.failure_of_stack own]
    exact .failed
  | broken kind message =>
    rw [recordOf, CheckRecord.failure_of_stack own]
    exact .broken
  | pending => exact .pending

/-! ### The check as an action -/

/-- A check notes its probe, and in the journal what went wrong with it; its result depends on the reply
only. -/
theorem execute_run (transport : Transport) (c : Combination) (target : String) (timeout : Binary64)
    (timestamp : Int) (h : Host) :
    (execute transport c target timeout timestamp).run h =
      (recordOf c target timestamp (transport ⟨c.kind, target, timeout⟩),
        { h with
          probes := h.probes ++ [⟨c.kind, target, timeout⟩]
          journal := h.journal ++
            (notice? c target (transport ⟨c.kind, target, timeout⟩)).toList.map
              fun text => ⟨.warning, .check, text⟩ }) := by
  let order : ProbeOrder := ⟨c.kind, target, timeout⟩
  have probed : (Action.recordProbe order : Action CheckError Unit).run h =
      (.ok (), { h with probes := h.probes ++ [order] }) := rfl
  rw [execute, Action.run_bind, probed]
  dsimp only
  split
  · next text noted =>
    rw [noted]
    rfl
  · next silent =>
    rw [Option.eq_none_iff_forall_ne_some.mpr silent]
    simp [order]

/-- A check on the stack of its target leaves a record exactly if the reply is recordable. The record
has the combination, the target and the time of the check. -/
theorem execute_concluded (transport : Transport) (c : Combination) (target : Target)
    (timeout : Binary64) (timestamp : Int) (h : Host) (own : target.stack = c.stack) :
    Concluded c target timestamp (transport ⟨c.kind, target.text, timeout⟩)
        ((execute transport c target.text timeout timestamp).run h).1 ∧
      ((∃ r k, (execute transport c target.text timeout timestamp).run h = (.ok r, k)) ↔
        Recordable timestamp (transport ⟨c.kind, target.text, timeout⟩)) := by
  have concluded : Concluded c target timestamp (transport ⟨c.kind, target.text, timeout⟩)
      ((execute transport c target.text timeout timestamp).run h).1 := by
    rw [execute_run]
    exact recordOf_concluded own _
  refine ⟨concluded, Iff.trans ?_ concluded.exists_ok_iff⟩
  constructor
  · rintro ⟨r, k, ran⟩
    exact ⟨r, by rw [ran]⟩
  · rintro ⟨r, found⟩
    exact ⟨r, _, Prod.ext found rfl⟩

/-- A negative latency in the last second that has a text. -/
theorem execute_concluded_last_second :
    (Target.ofAddress (.v4 0x01010101#32)).stack = IpStack.v4 ∧
      ∃ k, (execute (fun _ => .answered (.float (.finite (-7 / 2)))) ⟨.icmp, .v4⟩
        (Target.ofAddress (.v4 0x01010101#32)).text (.finite 10) 253402300799).run {} =
        (.ok ⟨253402300799, .icmp, .ofAddress (.v4 0x01010101#32), .success 0⟩, k) := by
  let target := Target.ofAddress (.v4 0x01010101#32)
  obtain ⟨concluded, exists_iff⟩ := execute_concluded (fun _ => .answered (.float (.finite (-7 / 2))))
    ⟨.icmp, .v4⟩ target (.finite 10) 253402300799 {} rfl
  obtain ⟨r, k, ran⟩ := exists_iff.mpr ⟨rfl, by decide⟩
  refine ⟨rfl, k, ?_⟩
  rw [ran] at concluded ⊢
  cases concluded with
  | @answered x n whole dated =>
    have clamped : nearest (roundToward0 (-7 / 2)) = 0 := by decide +kernel
    cases whole
    rw [clamped]

/-- An answer in the second after that breaks the check off, though the probe has come back. -/
theorem execute_without_record :
    ¬∀ (transport : Transport) (c : Combination) (target : Target) (timeout : Binary64)
      (timestamp : Int) (h : Host), target.stack = c.stack →
      transport ⟨c.kind, target.text, timeout⟩ ≠ .pending →
      ∃ r k, (execute transport c target.text timeout timestamp).run h = (.ok r, k) := by
  intro claim
  let c : Combination := ⟨.http, .v4⟩
  let target := Target.ofAddress (.v4 0x01010101#32)
  obtain ⟨r, k, ran⟩ := claim (fun _ => .answered (.whole 12)) c target (.finite (3 / 2))
    253402300800 {} rfl (by decide)
  rw [execute_run] at ran
  have concluded : Concluded c target 253402300800 (.answered (.whole 12)) (.ok r) := by
    rw [← (Prod.mk.inj ran).1]
    exact recordOf_concluded rfl _
  obtain ⟨-, dated⟩ := concluded.exists_ok_iff.mp ⟨r, rfl⟩
  exact absurd dated (by decide)

end Check
end LinkMonitor
