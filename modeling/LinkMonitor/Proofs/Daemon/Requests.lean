import LinkMonitor.Proofs.Daemon.Attention
import LinkMonitor.Proofs.Daemon.Ledger
import LinkMonitor.Proofs.Daemon.Retention

/-!
# What becomes of requests

A pass is a reload exactly if a request has had no attempt yet, and it makes one attempt for all of them.
After a stop the cycle in hand still brings its batch, and the last save follows. But a request that comes
in when its wait is just over does not wake the loop any more: the cycle of that wait starts all the same.
-/

namespace LinkMonitor

theorem LoopEvent.batch?_of_isRequest {e : LoopEvent} (request : e.isRequest = true) : e.batch? = none := by
  cases e <;> first | rfl | cases request

namespace ControlLoop

open Step

variable {around : Surroundings} {config : DaemonConfig} {l l' start : ControlLoop} {h h' h₀ : Host}
  {n : Nat} {reloads reloads' : Bool} {r : Except LoopError (Option Nat)}

/-! ### The requests that a pass finds -/

/-- All requests that a pass finds are served by one attempt at most, and the next pass finds those
that have come in since. -/
theorem ComesTo.requests_between (comes : ComesTo around start h₀ n reloads l h)
    (before : Attentive .idle start) (later : ComesTo around start h₀ (n + 1) reloads' l' h') :
    ∃ es, l'.events = l.events ++ es ∧ es.countP LoopEvent.isReload = reloads.toNat ∧
      (reloads' = true ↔ .requested .reload ∈ es) := by
  obtain ⟨-, outlook⟩ := comes.outlook_eq before
  obtain ⟨-, outlook'⟩ := later.outlook_eq before
  obtain ⟨m, k, rs, worked, heard⟩ := comes.next later
  have noReload : ∀ e ∈ rs.map LoopEvent.requested, e.isReload = false := fun e member =>
    LoopEvent.isReload_of_isRequest (LoopEvent.isRequest_of_mem_map e member)
  cases reloads with
  | true =>
    have events : l'.events =
        l.events ++ .reload (reloadOutcome l h) :: rs.map LoopEvent.requested := by
      rw [heard, reload_events around worked, List.append_assoc]
      rfl
    have due := outlook_of_append events
    rw [outlook, outlook', Outlook.after_cons] at due
    have found := Outlook.reloadDue_after_iff
      (o := Outlook.next ⟨true, false, .idle, false⟩ (.reload (reloadOutcome l h))) rfl noReload
    rw [← due] at found
    refine ⟨_, events, ?_, by simpa using found⟩
    rw [List.countP_cons, LoopEvent.countP_isReload_eq_zero noReload]
    rfl
  | false =>
    obtain ⟨es, more, none⟩ := waitAndCycle_events worked
    have events : l'.events = l.events ++ (es ++ rs.map LoopEvent.requested) := by
      rw [heard, more, List.append_assoc]
    have none' : ∀ e ∈ es ++ rs.map LoopEvent.requested, e.isReload = false :=
      List.forall_mem_append.mpr ⟨none, noReload⟩
    have due := outlook_of_append events
    rw [outlook, outlook'] at due
    have found := Outlook.reloadDue_after_iff (o := ⟨false, false, .idle, false⟩) rfl none'
    rw [← due] at found
    exact ⟨_, events, LoopEvent.countP_isReload_eq_zero none', found⟩

theorem reload_error (around : Surroundings) {e : LoopError} (ran : reload.run l h = (.error e, l', h')) :
    ∃ x, e = .store x := by
  cases reload_effect around ran with
  | quiet idle => cases idle
  | @notReloaded x _ _ state loaded files outcome =>
    split at outcome
    · cases outcome
    · exact ⟨x, Except.error.inj outcome⟩

/-- A pass that finds a request makes an attempt at once. -/
theorem ComesTo.attempt (comes : ComesTo around start h₀ n true l h) {fuel : Nat}
    {r : Except LoopError (Option Nat)} (later : n < fuel)
    (ran : (run around fuel).run start h₀ = (r, l', h')) :
    ∃ x rest, l'.events = l.events ++ .reload x :: rest := by
  obtain ⟨m, j, whole, passed⟩ := comes.steps_run
  obtain ⟨rest, rfl⟩ : ∃ rest, fuel = n + 1 + rest := Nat.exists_eq_add_of_le later
  rw [whole] at ran
  have next := passed rest
  rw [if_pos rfl] at next
  rcases reloaded : reload.run l h with ⟨x, i, k⟩
  rw [reloaded] at next
  have events := reload_events around reloaded
  suffices i.events <+: l'.events by
    obtain ⟨es, same⟩ := this
    exact ⟨_, es, by rw [← same, events, List.append_assoc]; rfl⟩
  cases x with
  | ok _ =>
    rw [passes_of_steps next] at ran
    exact passes_extends ran
  | error e =>
    obtain ⟨y, rfl⟩ := reload_error around reloaded
    obtain ⟨q, -, ended⟩ := passes_of_error next
    rw [ended] at ran
    cases ran
    exact List.prefix_refl _

/-! ### All requests -/

/-- What a run does about the requests among its events. -/
structure Heeded (around : Surroundings) (config : DaemonConfig) (r : Except LoopError (Option Nat))
    (l : ControlLoop) : Prop where
  /-- An attempt to reload has read the file, and the last save has tried to write it. -/
  attempts : Truthful config l
  /-- After a request to reload, a cycle starts without an attempt exactly if the wait for it was over when
  the request came. -/
  cycle_after_reload : ∀ (past since rest : List LoopEvent) timestamp view,
    l.events = past ++ .requested .reload :: since ++ .cycle timestamp view :: rest →
      ((∀ e ∈ since, e.isReload = false) ↔
        CycleDue timestamp past ∧ ∀ e ∈ since, e.isRequest = true)
  /-- No two attempts are for the same requests. -/
  request_before_reload : ∀ (past since rest : List LoopEvent) x y,
    l.events = past ++ .reload x :: since ++ .reload y :: rest → .requested .reload ∈ since
  reloads_le : l.events.countP LoopEvent.isReload ≤
    l.events.countP (LoopEvent.isRequestOf .reload)
  /-- After a request to stop nothing is begun any more but a cycle whose wait was over when it came, and
  the store has all batches that come since. -/
  after_stop : ∀ past rest : List LoopEvent, l.events = past ++ .requested .stop :: rest →
    (∀ timeout view, .wait timeout view ∉ rest) ∧ (∀ boundary, .elapsed boundary ∉ rest) ∧
      (∀ x, .reload x ∉ rest) ∧ LastCycle past rest ∧
      ∀ b, .batch b ∈ rest → ∃ s, l.store = some s ∧ b <:+: s.records
  /-- A cycle brings all that its checks give, whatever is requested before its batch, or the run breaks
  down in it. -/
  batch_of_cycle : ∀ (past rest : List LoopEvent) timestamp view,
    l.events = past ++ .cycle timestamp view :: rest → (rest = [] ∧ BrokenInCycle r l) ∨
      ∃ asked b more, rest = asked ++ .batch b :: more ∧ (∀ e ∈ asked, e.isRequest = true) ∧
        Cycle.Gives config (around.transport ((past.filterMap LoopEvent.batch?).length + 1)) timestamp b

theorem batch_of_cycle {past rest : List LoopEvent} {timestamp : Int} {view : Option LoopView}
    (obedient : Obedient l.events) (place : l.outlook.stage = .idle ∨ BrokenInCycle r l)
    (told : Told around config l.events) (split : l.events = past ++ .cycle timestamp view :: rest) :
    (rest = [] ∧ BrokenInCycle r l) ∨
      ∃ asked b more, rest = asked ++ .batch b :: more ∧ (∀ e ∈ asked, e.isRequest = true) ∧
        Cycle.Gives config (around.transport ((past.filterMap LoopEvent.batch?).length + 1)) timestamp
          b := by
  have started : (Outlook.after {} (past ++ [.cycle timestamp view])).stage = .inCycle timestamp := by
    rw [Outlook.after_append]
    rfl
  rw [List.append_cons] at split
  rcases (split ▸ obedient).exists_batch started with all | ⟨asked, b, more, rfl, requests⟩
  · refine .inl ?_
    rcases place with idle | broken
    · rw [outlook, split, Outlook.after_append, Outlook.stage_after_requests all, started] at idle
      cases idle
    · refine ⟨?_, broken⟩
      obtain ⟨⟨others, t, v, last⟩, -⟩ := broken
      rcases List.eq_nil_or_concat rest with nil | ⟨front, e, rfl⟩
      · exact nil
      · -- The last event is no request, as it is a cycle.
        rw [split, List.concat_eq_append, ← List.append_assoc] at last
        obtain ⟨-, same⟩ := List.append_inj' last rfl
        have request := all e (by simp)
        rw [List.singleton_inj.mp same] at request
        cases request
  · refine .inr ⟨asked, b, more, rfl, requests, ?_⟩
    rw [← List.append_assoc] at split
    obtain ⟨t, stage, gives⟩ := told _ _ more split b rfl
    rw [Outlook.after_append, Outlook.stage_after_requests requests, started] at stage
    cases stage
    rwa [List.filterMap_append, List.filterMap_append, List.filterMap_eq_nil_iff.mpr fun e member =>
      LoopEvent.batch?_of_isRequest (requests e member), List.append_nil, List.filterMap_cons_none rfl,
      List.filterMap_nil, List.append_nil] at gives

theorem heeded_of_obedient (obedient : Obedient l.events)
    (place : l.outlook.stage = .idle ∨ BrokenInCycle r l) (told : Told around config l.events)
    (truthful : Truthful config l)
    (kept : ∀ b ∈ recentBatches l.events, ∃ s, l.store = some s ∧ b <:+: s.records) :
    Heeded around config r l := by
  refine ⟨truthful, fun _ _ _ _ _ => obedient.cycle_after_reload_iff,
    fun _ _ _ _ _ => obedient.request_before_reload, obedient.reloads_le, fun past rest split => ?_,
    fun _ _ _ _ => batch_of_cycle obedient place told⟩
  obtain ⟨noWait, noBoundary, noReload⟩ := obedient.after_stop split
  refine ⟨noWait, noBoundary, noReload, obedient.lastCycle split fun t called => ?_, fun b member => ?_⟩
  · rcases place with idle | ⟨⟨others, timestamp, view, last⟩, -⟩
    · cases idle.symm.trans called
    · rw [last, Outlook.after_append] at called
      cases called
  · refine kept b ?_
    -- There is no reload any more that could take the batch out of the store.
    obtain ⟨front, more, rfl⟩ := List.append_of_mem member
    rw [split, ← List.cons_append, ← List.append_assoc]
    refine mem_recentBatches fun e later => Bool.eq_false_iff.mpr fun reload => ?_
    cases e with
    | reload x => exact noReload x (List.mem_append_right _ (List.mem_cons_of_mem _ later))
    | _ => cases reload

/-- What a pass does about the requests that it finds. -/
structure Served (around : Surroundings) (start : ControlLoop) (h₀ : Host) (n : Nat)
    (reloads : Bool) (l : ControlLoop) : Prop where
  /-- The pass is a reload exactly if some request has had no attempt yet. -/
  due : reloads = true ↔ ∃ past since, l.events = past ++ .requested .reload :: since ∧
    ∀ e ∈ since, e.isReload = false
  /-- The attempt comes at once. -/
  attempt : reloads = true → ∀ fuel r l' h', n < fuel →
    (run around fuel).run start h₀ = (r, l', h') → ∃ x rest, l'.events = l.events ++ .reload x :: rest
  /-- It is the only one up to the next pass, which finds what has been requested since. -/
  next : ∀ reloads' l' h', ComesTo around start h₀ (n + 1) reloads' l' h' →
    ∃ es, l'.events = l.events ++ es ∧ es.countP LoopEvent.isReload = reloads.toNat ∧
      (reloads' = true ↔ .requested .reload ∈ es)

theorem ComesTo.served (comes : ComesTo around start h₀ n reloads l h)
    (before : Attentive .idle start) : Served around start h₀ n reloads l := by
  refine ⟨?_, ?_, fun reloads' l' h' later => comes.requests_between before later⟩
  · obtain ⟨-, found⟩ := comes.outlook_eq before
    have due : l.outlook.reloadDue = reloads := by rw [found]
    rw [← due]
    exact Outlook.reloadDue_iff
  · rintro rfl fuel r l' h' later ran
    exact comes.attempt later ran

/-- A pass that finds requests to reload makes one attempt for all of them. No cycle comes before it, and
after a stop nothing is begun, unless the wait was already over when the request came in: then its cycle
still starts. After a stop the cycle in hand brings its batch and one last save ends the run, unless a
failure of the store or of the cycle has ended it before. -/
theorem requests_heeded_unless_wait_over (around : Surroundings) (config : DaemonConfig) (pid : Int)
    (requests : List ControlRequest) (h₀ : Host) :
    (∀ n reloads l h,
      ComesTo around ((Service.newLoop config pid).receive requests) h₀ n reloads l h →
      Served around ((Service.newLoop config pid).receive requests) h₀ n reloads l) ∧
    ∀ fuel r l h,
      (run around fuel).run ((Service.newLoop config pid).receive requests) h₀ = (r, l, h) →
      Heeded around config r l ∧
        ∀ k, around.onStart.run h₀ = (.ok (), k) → .requested .stop ∈ l.events → Ending r l := by
  have start := attentive_newLoop config pid requests
  refine ⟨fun n reloads l h comes => comes.served start, fun fuel r l h ran => ⟨?_, ?_⟩⟩
  · obtain ⟨obedient, place⟩ := run_obedient start ran
    have accounted := run_accounted (accounted_newLoop around config pid requests) ran
    have truthful := run_truthful (truthful_newLoop config pid requests) ran
    exact heeded_of_obedient obedient place accounted.told truthful
      (run_keepsBatches (recentBatches_newLoop config pid requests) ran)
  · intro k started stopped
    have concluded := run_concluded start started ran
    exact concluded.after_stop (Outlook.stopDue_of_mem stopped {})

/-! ### Requests that come too late to wake the loop -/

/-- The file disappears again and again. Two reloads are requested in the first wait, and cut it short. One
more comes in when the second wait is over, and a stop when the third one is. -/
def tardy : Surroundings :=
  { silence with
    duringWait := fun number _ => pure (if number = 0 then [.reload, .reload] else [])
    atWaitEnd := fun number h =>
      (if number = 1 then [.reload] else if number = 2 then [.stop] else [], h)
    between := fun _ h => ([], { h with files := {} }) }

theorem exists_cycle_of_getElem? {es : List LoopEvent} {n : Nat} {q : ControlRequest} {t : Int}
    (first : es[n]?.bind LoopEvent.request? = some q)
    (second : es[n + 1]?.bind LoopEvent.cycle? = some t) :
    ∃ past view rest, es = past ++ .requested q :: .cycle t view :: rest := by
  obtain ⟨d, at₁, request⟩ := Option.bind_eq_some_iff.mp first
  obtain ⟨e, at₂, cycle⟩ := Option.bind_eq_some_iff.mp second
  obtain ⟨less, rfl⟩ := List.getElem?_eq_some_iff.mp at₁
  obtain ⟨less', rfl⟩ := List.getElem?_eq_some_iff.mp at₂
  have split : es = es.take n ++ es[n] :: es[n + 1] :: es.drop (n + 2) := by
    rw [List.getElem_cons_drop, List.getElem_cons_drop, List.take_append_drop]
  rw [split]
  generalize es[n] = d at request
  generalize es[n + 1] = e at cycle
  cases d <;> cases request
  cases e <;> cases cycle
  exact ⟨_, _, _, rfl⟩

/-- The run of the tardy requests: both late ones are followed by the cycle of their wait. -/
theorem run_tardy : ∃ l h,
    (run tardy 6).run ((Service.newLoop Cycle.everyCheck 1).receive []) {} = (.ok (some 0), l, h) ∧
    (∃ past view rest, l.events = past ++ .requested .reload :: .cycle 60 view :: rest) ∧
    ∃ past view rest, l.events = past ++ .requested .stop :: .cycle 120 view :: rest := by
  let ended := (run tardy 6).run ((Service.newLoop Cycle.everyCheck 1).receive []) {}
  have status : ended.1 = .ok (some 0) := by decide +kernel
  have reload : ended.2.1.events[8]?.bind LoopEvent.request? = some .reload := by decide +kernel
  have first : ended.2.1.events[9]?.bind LoopEvent.cycle? = some 60 := by decide +kernel
  have stop : ended.2.1.events[15]?.bind LoopEvent.request? = some .stop := by decide +kernel
  have second : ended.2.1.events[16]?.bind LoopEvent.cycle? = some 120 := by decide +kernel
  exact ⟨_, _, Prod.ext status rfl, exists_cycle_of_getElem? reload first,
    exists_cycle_of_getElem? stop second⟩

/-- The two requests of the first wait get one attempt. The wait was over before the late request to
reload, and there is a cycle between the late stop and the last save. -/
theorem requests_heeded_unless_wait_over_tardy :
    (∃ l h l' h' es,
      ComesTo tardy ((Service.newLoop Cycle.everyCheck 1).receive []) {} 1 true l h ∧
      ComesTo tardy ((Service.newLoop Cycle.everyCheck 1).receive []) {} 2 false l' h' ∧
      l'.events = l.events ++ es ∧ es.countP LoopEvent.isReload = 1 ∧ .requested .reload ∉ es) ∧
    ∃ l h, (run tardy 6).run ((Service.newLoop Cycle.everyCheck 1).receive []) {} =
        (.ok (some 0), l, h) ∧ Heeded tardy Cycle.everyCheck (.ok (some 0)) l ∧
      (∃ past view rest, l.events = past ++ .requested .reload :: .cycle 60 view :: rest ∧
        CycleDue 60 past) ∧
      (∃ past view rest, l.events = past ++ .requested .stop :: .cycle 120 view :: rest) ∧
      ∃ others x, l.events = others ++ [.save true x] := by
  let start := (Service.newLoop Cycle.everyCheck 1).receive []
  obtain ⟨passes, runs⟩ := requests_heeded_unless_wait_over tardy Cycle.everyCheck 1 [] {}
  constructor
  · let second := (untilPass tardy 1).run start {}
    let third := (untilPass tardy 2).run start {}
    have comes : ComesTo tardy start {} 1 true second.2.1 second.2.2 :=
      Prod.ext (by decide +kernel) rfl
    have later : ComesTo tardy start {} 2 false third.2.1 third.2.2 :=
      Prod.ext (by decide +kernel) rfl
    obtain ⟨es, events, once, none⟩ := (passes 1 _ _ _ comes).next _ _ _ later
    refine ⟨_, _, _, _, es, comes, later, events, once, fun member => ?_⟩
    exact Bool.false_ne_true (none.mpr member)
  · obtain ⟨l, h, ran, ⟨past, view, rest, reload⟩, past', view', rest', stop⟩ := run_tardy
    obtain ⟨heeded, ending⟩ := runs 6 _ l h ran
    have split : l.events = past ++ .requested .reload :: [] ++ .cycle 60 view :: rest := by
      rw [reload, List.append_assoc, List.cons_append, List.nil_append]
    have due := (heeded.cycle_after_reload past [] rest 60 view split).mp (List.forall_mem_nil _)
    have member : .requested .stop ∈ l.events := by simp [stop]
    cases ending _ rfl member with
    | @saved _ others x _ events once =>
      exact ⟨l, h, ran, heeded, ⟨past, view, rest, reload, due.1⟩, ⟨past', view', rest', stop⟩, others,
        x, events⟩
    | failed _ failure => cases failure
    | broken inCycle => cases inCycle.2 _ rfl

/-- A request that comes in during a wait does not always keep the cycle of that wait from starting. -/
theorem not_requests_always_heeded :
    (¬∀ (around : Surroundings) config pid requests h₀ fuel r l h,
      (∀ events k, (around.between events k).1 = []) →
      (run around fuel).run ((Service.newLoop config pid).receive requests) h₀ = (r, l, h) →
      ∀ (past since rest : List LoopEvent) timestamp view,
        l.events = past ++ .requested .reload :: since ++ .cycle timestamp view :: rest →
          ∃ e ∈ since, e.isReload = true) ∧
    ¬∀ (around : Surroundings) config pid requests h₀ fuel r l h,
      (∀ events k, (around.between events k).1 = []) →
      (run around fuel).run ((Service.newLoop config pid).receive requests) h₀ = (r, l, h) →
      ∀ past rest : List LoopEvent, l.events = past ++ .requested .stop :: rest →
        ∀ timestamp view, .cycle timestamp view ∉ rest := by
  obtain ⟨l, h, ran, ⟨past, view, rest, reload⟩, past', view', rest', stop⟩ := run_tardy
  constructor
  · intro always
    have split : l.events = past ++ .requested .reload :: [] ++ .cycle 60 view :: rest := by
      rw [reload, List.append_assoc, List.cons_append, List.nil_append]
    obtain ⟨e, member, -⟩ := always tardy Cycle.everyCheck 1 [] {} 6 _ l h (fun _ _ => rfl) ran
      past [] rest 60 view split
    cases member
  · intro always
    exact always tardy Cycle.everyCheck 1 [] {} 6 _ l h (fun _ _ => rfl) ran past' _ stop 120 view'
      List.mem_cons_self

end ControlLoop
end LinkMonitor
