import LinkMonitor.Proofs.Daemon.Effect
import Mathlib.Data.List.Induction
import Mathlib.Tactic.ByContra

/-!
# What the events of a loop oblige it to

Requests make a reload or a stop due. Which event may follow depends on what is due: the loop waits only
if nothing is, a reload is attempted only if one is due, and the last save comes only after a stop. A
cycle comes behind a wait that has lasted until its boundary. What is requested between the two does not
keep the cycle from starting.
-/

namespace LinkMonitor

section Splits

variable {α : Type} {P : List α → α → Prop} {xs ys : List α} {x : α}

/-- What holds of each element with those before it holds again after one more element. -/
theorem forall_split_snoc (all : ∀ past y rest, xs = past ++ y :: rest → P past y) (last : P xs x) :
    ∀ past y rest, xs ++ [x] = past ++ y :: rest → P past y := by
  intro past y rest split
  rcases List.eq_nil_or_concat rest with rfl | ⟨others, z, rfl⟩
  · obtain ⟨rfl, same⟩ := List.append_inj' split rfl
    exact List.head_eq_of_cons_eq same ▸ last
  · rw [List.concat_eq_append, ← List.cons_append, ← List.append_assoc] at split
    exact all past y others (List.append_inj' split rfl).1

theorem forall_split_of_append (all : ∀ past y rest, xs ++ ys = past ++ y :: rest → P past y) :
    ∀ past y rest, xs = past ++ y :: rest → P past y := by
  intro past y rest split
  refine all past y (rest ++ ys) ?_
  rw [split, List.append_assoc, List.cons_append]

end Splits

namespace LoopEvent

def request? : LoopEvent → Option ControlRequest
  | requested r => some r
  | _ => none

def isRequest : LoopEvent → Bool
  | requested _ => true
  | _ => false

def isRequestOf (r : ControlRequest) (e : LoopEvent) : Bool := e.request? = some r

theorem isRequestOf_iff {r : ControlRequest} {e : LoopEvent} :
    e.isRequestOf r = true ↔ e = .requested r := by
  cases e <;> simp [isRequestOf, request?]

theorem isReload_of_isRequest {e : LoopEvent} (request : e.isRequest = true) : e.isReload = false := by
  cases e <;> first | rfl | cases request

theorem isRequest_of_mem_map {rs : List ControlRequest} :
    ∀ e ∈ rs.map requested, e.isRequest = true := by
  intro e member
  obtain ⟨r, -, rfl⟩ := List.mem_map.mp member
  rfl

theorem countP_isReload_eq_zero {es : List LoopEvent} (none : ∀ e ∈ es, e.isReload = false) :
    es.countP isReload = 0 :=
  List.countP_eq_zero.mpr fun e member => by simp [none e member]

end LoopEvent

/-- Where the loop is in a pass, as far as its events tell. -/
inductive Stage
  | idle
  /-- The wait for this boundary is over, and its cycle is still to start. -/
  | called (boundary : Int)
  /-- The cycle has started, and its batch is still to come. -/
  | inCycle (timestamp : Int)
  deriving DecidableEq

structure Outlook where
  /-- A reload has been requested since the last attempt. -/
  reloadDue : Bool := false
  /-- A stop has been requested. -/
  stopDue : Bool := false
  stage : Stage := .idle
  /-- The last save has been attempted. -/
  ended : Bool := false

namespace Outlook

def next (o : Outlook) : LoopEvent → Outlook
  | .requested .reload => { o with reloadDue := true }
  | .requested .stop => { o with stopDue := true }
  | .reload _ => { o with reloadDue := false }
  | .elapsed boundary => { o with stage := .called boundary }
  | .cycle timestamp _ => { o with stage := .inCycle timestamp }
  | .batch _ => { o with stage := .idle }
  | .save true _ => { o with ended := true }
  | _ => o

/-- The outlook after some more events. -/
def after (o : Outlook) (es : List LoopEvent) : Outlook := es.foldl next o

@[simp] theorem after_nil (o : Outlook) : o.after [] = o := rfl

@[simp] theorem after_cons (o : Outlook) (e : LoopEvent) (es : List LoopEvent) :
    o.after (e :: es) = (o.next e).after es := rfl

@[simp] theorem after_append (o : Outlook) (es fs : List LoopEvent) :
    o.after (es ++ fs) = (o.after es).after fs := List.foldl_append

variable {o : Outlook} {es : List LoopEvent}

theorem reloadDue_next (o : Outlook) (e : LoopEvent) :
    (o.next e).reloadDue = (e.isRequestOf .reload || o.reloadDue && !e.isReload) := by
  cases e with
  | requested r =>
    cases r <;> simp [next, LoopEvent.isRequestOf, LoopEvent.request?, LoopEvent.isReload]
  | save isLast _ =>
    cases isLast <;> simp [next, LoopEvent.isRequestOf, LoopEvent.request?, LoopEvent.isReload]
  | _ => simp [next, LoopEvent.isRequestOf, LoopEvent.request?, LoopEvent.isReload]

theorem stopDue_next (o : Outlook) (e : LoopEvent) :
    (o.next e).stopDue = (e.isRequestOf .stop || o.stopDue) := by
  cases e with
  | requested r => cases r <;> simp [next, LoopEvent.isRequestOf, LoopEvent.request?]
  | save isLast _ => cases isLast <;> simp [next, LoopEvent.isRequestOf, LoopEvent.request?]
  | _ => simp [next, LoopEvent.isRequestOf, LoopEvent.request?]

/-! ### What stays due -/

theorem stopDue_after (due : o.stopDue = true) (es : List LoopEvent) :
    (o.after es).stopDue = true := by
  induction es generalizing o with
  | nil => exact due
  | cons e es ih => exact ih (by rw [stopDue_next, due, Bool.or_true])

theorem stopDue_of_mem (member : .requested .stop ∈ es) (o : Outlook) :
    (o.after es).stopDue = true := by
  obtain ⟨past, rest, rfl⟩ := List.append_of_mem member
  rw [after_append, after_cons]
  exact stopDue_after rfl rest

/-- Without an attempt a reload stays due. -/
theorem reloadDue_after (due : o.reloadDue = true) (none : ∀ e ∈ es, e.isReload = false) :
    (o.after es).reloadDue = true := by
  induction es generalizing o with
  | nil => exact due
  | cons e es ih =>
    obtain ⟨other, none⟩ := List.forall_mem_cons.mp none
    exact ih (by simp [reloadDue_next, due, other]) none

/-- What makes a reload due is a request without an attempt after it. -/
theorem request_of_reloadDue (due : (o.after es).reloadDue = true) :
    (o.reloadDue = true ∧ ∀ e ∈ es, e.isReload = false) ∨
      ∃ past since, es = past ++ .requested .reload :: since ∧
        ∀ e ∈ since, e.isReload = false := by
  induction es generalizing o with
  | nil => exact .inl ⟨due, List.forall_mem_nil _⟩
  | cons e es ih =>
    rcases ih due with ⟨before, none⟩ | ⟨past, since, rfl, none⟩
    · rw [reloadDue_next, Bool.or_eq_true, Bool.and_eq_true, Bool.not_eq_true'] at before
      rcases before with request | ⟨before, other⟩
      · exact .inr ⟨[], es, by rw [LoopEvent.isRequestOf_iff.mp request]; rfl, none⟩
      · exact .inl ⟨before, List.forall_mem_cons.mpr ⟨other, none⟩⟩
    · exact .inr ⟨e :: past, since, rfl, none⟩

theorem reloadDue_iff : (Outlook.after {} es).reloadDue = true ↔
    ∃ past since, es = past ++ .requested .reload :: since ∧ ∀ e ∈ since, e.isReload = false := by
  constructor
  · intro due
    rcases request_of_reloadDue due with ⟨before, -⟩ | request
    · cases before
    · exact request
  · rintro ⟨past, since, rfl, none⟩
    rw [after_append, after_cons]
    exact reloadDue_after rfl none

/-- As long as there is no attempt, a reload is due exactly if it has been requested. -/
theorem reloadDue_after_iff (notDue : o.reloadDue = false) (none : ∀ e ∈ es, e.isReload = false) :
    (o.after es).reloadDue = true ↔ .requested .reload ∈ es := by
  constructor
  · intro due
    rcases request_of_reloadDue due with ⟨before, -⟩ | ⟨past, since, rfl, -⟩
    · rw [notDue] at before
      cases before
    · simp
  · intro member
    obtain ⟨past, rest, rfl⟩ := List.append_of_mem member
    rw [after_append, after_cons]
    refine reloadDue_after rfl fun e later => none e ?_
    exact List.mem_append_right _ (List.mem_cons_of_mem _ later)

/-- Requests leave the stage as it is. -/
theorem stage_after_requests (asked : ∀ e ∈ es, e.isRequest = true) : (o.after es).stage = o.stage := by
  induction es generalizing o with
  | nil => rfl
  | cons e es ih =>
    obtain ⟨first, rest⟩ := List.forall_mem_cons.mp asked
    rw [after_cons, ih rest]
    cases e with
    | requested r => cases r <;> rfl
    | _ => cases first

end Outlook

open Outlook

/-! ### Obedience -/

/-- The event may be the next one. -/
def LoopEvent.Allowed (o : Outlook) (e : LoopEvent) : Prop :=
  o.ended = false ∧ match e with
    | requested _ => True
    | cycle timestamp _ => o.stage = .called timestamp
    | batch _ => ∃ timestamp, o.stage = .inCycle timestamp
    | wait .. | elapsed _ => o.reloadDue = false ∧ o.stopDue = false ∧ o.stage = .idle
    | reload _ => o.reloadDue = true ∧ o.stopDue = false ∧ o.stage = .idle
    | save isLast _ => (isLast = true → o.stopDue = true) ∧ o.stage = .idle
    | made _ | opened _ => o.stage = .idle

/-- Every event was allowed when it came. -/
def Obedient (es : List LoopEvent) : Prop :=
  ∀ past e rest, es = past ++ e :: rest → e.Allowed (Outlook.after {} past)

/-- The wait for the cycle at this time is over, and nothing but requests has come since. -/
def CycleDue (timestamp : Int) (es : List LoopEvent) : Prop :=
  ∃ before asked, es = before ++ .elapsed timestamp :: asked ∧ ∀ e ∈ asked, e.isRequest = true

/-- The cycles that start after a stop: the one that was due when it came, or none. -/
inductive LastCycle (past rest : List LoopEvent) : Prop
  | none (notDue : ∀ t, ¬CycleDue t past) (none : ∀ t view, .cycle t view ∉ rest)
  | due {t : Int} {view : Option LoopView} {between more : List LoopEvent} (due : CycleDue t past)
      (split : rest = between ++ .cycle t view :: more)
      (asked : ∀ e ∈ between, e.isRequest = true) (last : ∀ t view, .cycle t view ∉ more)

namespace Obedient

variable {es past since rest : List LoopEvent} {e : LoopEvent}

theorem nil : Obedient [] := by
  intro past e rest split
  exact absurd split.symm (by simp)

theorem snoc (obedient : Obedient es) (allowed : e.Allowed (Outlook.after {} es)) :
    Obedient (es ++ [e]) :=
  forall_split_snoc obedient allowed

theorem of_append (obedient : Obedient (es ++ rest)) : Obedient es := forall_split_of_append obedient

/-- The first event that is no request, if there is one. -/
theorem exists_next (obedient : Obedient (past ++ rest)) : (∀ x ∈ rest, x.isRequest = true) ∨
    ∃ between e more, rest = between ++ e :: more ∧ (∀ x ∈ between, x.isRequest = true) ∧
      e.isRequest = false ∧ e.Allowed (Outlook.after {} (past ++ between)) := by
  induction rest generalizing past with
  | nil => exact .inl (List.forall_mem_nil _)
  | cons e rest ih =>
    have allowed := obedient past e rest rfl
    cases request : e.isRequest with
    | false =>
      refine .inr ⟨[], e, rest, rfl, List.forall_mem_nil _, request, ?_⟩
      rwa [List.append_nil]
    | true =>
      rw [List.append_cons] at obedient
      rcases ih obedient with all | ⟨between, x, more, rfl, asked, other, allowed'⟩
      · exact .inl (List.forall_mem_cons.mpr ⟨request, all⟩)
      · refine .inr ⟨e :: between, x, more, rfl, List.forall_mem_cons.mpr ⟨request, asked⟩, other, ?_⟩
        rwa [List.append_cons]

/-- A cycle that has started has its batch next, if the events go on. -/
theorem exists_batch {timestamp : Int} (obedient : Obedient (past ++ rest))
    (started : (Outlook.after {} past).stage = .inCycle timestamp) :
    (∀ e ∈ rest, e.isRequest = true) ∨
      ∃ between b more, rest = between ++ .batch b :: more ∧ ∀ e ∈ between, e.isRequest = true := by
  rcases obedient.exists_next with all | ⟨between, e, more, rfl, asked, other, -, allowed⟩
  · exact .inl all
  refine .inr ⟨between, ?_⟩
  have still : (Outlook.after {} (past ++ between)).stage = .inCycle timestamp := by
    rw [after_append, stage_after_requests asked, started]
  rw [still] at allowed
  cases e with
  | batch b => exact ⟨b, more, rfl, asked⟩
  | requested r => cases other
  | made _ | opened _ | cycle _ _ => cases allowed
  | save _ _ => cases allowed.2
  | wait _ _ | elapsed _ | reload _ => cases allowed.2.2

/-- A cycle that is to start comes next, if the events go on. -/
theorem exists_cycle {timestamp : Int} (obedient : Obedient (past ++ rest))
    (called : (Outlook.after {} past).stage = .called timestamp) :
    (∀ e ∈ rest, e.isRequest = true) ∨
      ∃ between view more, rest = between ++ .cycle timestamp view :: more ∧
        ∀ e ∈ between, e.isRequest = true := by
  rcases obedient.exists_next with all | ⟨between, e, more, rfl, asked, other, -, allowed⟩
  · exact .inl all
  refine .inr ⟨between, ?_⟩
  have still : (Outlook.after {} (past ++ between)).stage = .called timestamp := by
    rw [after_append, stage_after_requests asked, called]
  rw [still] at allowed
  cases e with
  | cycle _ view =>
    cases allowed
    exact ⟨view, more, rfl, asked⟩
  | requested r => cases other
  | batch b => cases allowed.choose_spec
  | made _ | opened _ => cases allowed
  | save _ _ => cases allowed.2
  | wait _ _ | elapsed _ | reload _ => cases allowed.2.2

/-- Between two attempts there is a request. -/
theorem request_before_reload {x y : Except StoreError (List CheckRecord)} (obedient : Obedient es)
    (split : es = past ++ .reload x :: since ++ .reload y :: rest) :
    .requested .reload ∈ since := by
  obtain ⟨-, due, -⟩ := obedient _ _ _ split
  rw [after_append, after_cons] at due
  rcases request_of_reloadDue due with ⟨before, -⟩ | ⟨_, _, rfl, -⟩
  · cases before
  · simp

/-- A stage in which a cycle is to start comes from the end of its wait. -/
theorem called_iff {t : Int} (obedient : Obedient es) :
    (Outlook.after {} es).stage = .called t ↔ CycleDue t es := by
  constructor
  · intro called
    induction es using List.reverseRecOn with
    | nil => cases called
    | append_singleton es e ih =>
      have allowed := obedient es e [] rfl
      rw [after_append, after_cons, after_nil] at called
      cases e with
      | elapsed b =>
        cases called
        exact ⟨es, [], rfl, List.forall_mem_nil _⟩
      | requested r =>
        have before : (Outlook.after {} es).stage = .called t := by cases r <;> exact called
        obtain ⟨past, asked, rfl, requests⟩ := ih obedient.of_append before
        refine ⟨past, asked ++ [.requested r], by simp, ?_⟩
        exact List.forall_mem_append.mpr ⟨requests, List.forall_mem_singleton.mpr rfl⟩
      | cycle _ _ | batch _ => cases called
      | made _ | opened _ => cases called.symm.trans allowed.2
      | wait _ _ | reload _ => cases called.symm.trans allowed.2.2.2
      | save isLast _ => cases isLast <;> cases called.symm.trans allowed.2.2
  · rintro ⟨past, asked, rfl, requests⟩
    rw [after_append, after_cons, stage_after_requests requests]
    rfl

/-- A cycle that is to start, although there have been an event of another kind and no end of a wait
after it: then the wait had been over before, and there have been nothing but requests. -/
theorem cycleDue_of_called {t : Int} (obedient : Obedient (past ++ e :: since))
    (called : (Outlook.after {} (past ++ e :: since)).stage = .called t)
    (none : ∀ b, .elapsed b ∉ e :: since) :
    CycleDue t past ∧ ∀ x ∈ e :: since, x.isRequest = true := by
  obtain ⟨before, asked, split, requests⟩ := obedient.called_iff.mp called
  rcases List.append_eq_append_iff.mp split with ⟨middle, -, later⟩ | ⟨middle, rfl, earlier⟩
  · exact absurd (by rw [later]; simp) (none t)
  · cases middle with
    | nil =>
      obtain ⟨rfl, -⟩ := List.cons.inj earlier
      exact absurd List.mem_cons_self (none t)
    | cons x middle =>
      obtain ⟨rfl, rfl⟩ := List.cons.inj earlier
      obtain ⟨first, last⟩ := List.forall_mem_append.mp requests
      exact ⟨⟨before, middle, rfl, first⟩, last⟩

/-- After a request to reload, a cycle starts without an attempt exactly if its wait was over when the
request came. Then nothing but requests comes between. -/
theorem cycle_after_reload_iff {timestamp : Int} {view : Option LoopView} (obedient : Obedient es)
    (split : es = past ++ .requested .reload :: since ++ .cycle timestamp view :: rest) :
    (∀ e ∈ since, e.isReload = false) ↔
      CycleDue timestamp past ∧ ∀ e ∈ since, e.isRequest = true := by
  constructor
  · intro none
    have called := (obedient _ _ _ split).2
    rw [split] at obedient
    -- No wait can come to its end while the reload is due.
    have waiting : ∀ b, .elapsed b ∉ .requested .reload :: since := by
      intro b member
      rw [List.mem_cons, or_iff_right (by simp)] at member
      obtain ⟨between, more, rfl⟩ := List.append_of_mem member
      have notDue := (obedient (past ++ .requested .reload :: between) (.elapsed b)
        (more ++ .cycle timestamp view :: rest) (by simp)).2.1
      rw [after_append, after_cons] at notDue
      have due := reloadDue_after (o := (Outlook.after {} past).next (.requested .reload)) rfl
        fun e early => none e (List.mem_append_left _ early)
      cases due.symm.trans notDue
    obtain ⟨due, requests⟩ := obedient.of_append.cycleDue_of_called called waiting
    exact ⟨due, fun e member => requests e (List.mem_cons_of_mem _ member)⟩
  · rintro ⟨-, requests⟩ e member
    exact LoopEvent.isReload_of_isRequest (requests e member)

/-- After a request to stop there is no further wait and no reload. -/
theorem after_stop (obedient : Obedient es) (split : es = past ++ .requested .stop :: rest) :
    (∀ timeout view, .wait timeout view ∉ rest) ∧ (∀ boundary, .elapsed boundary ∉ rest) ∧
      ∀ x, .reload x ∉ rest := by
  have never {e : LoopEvent} (needs : ∀ o : Outlook, e.Allowed o → o.stopDue = false) :
      e ∉ rest := by
    intro member
    obtain ⟨between, more, rfl⟩ := List.append_of_mem member
    rw [← List.cons_append, ← List.append_assoc] at split
    have member : .requested .stop ∈ past ++ .requested .stop :: between := by simp
    have due := stopDue_of_mem member {}
    rw [needs _ (obedient _ _ _ split)] at due
    cases due
  exact ⟨fun timeout view => never fun o allowed => allowed.2.2.1,
    fun boundary => never fun o allowed => allowed.2.2.1,
    fun x => never fun o allowed => allowed.2.2.1⟩

/-- A cycle that starts after a stop has been due before. -/
theorem cycle_after_stop {timestamp : Int} {view : Option LoopView} (obedient : Obedient es)
    (split : es = past ++ .requested .stop :: since ++ .cycle timestamp view :: rest) :
    CycleDue timestamp past ∧ ∀ e ∈ since, e.isRequest = true := by
  have called := (obedient _ _ _ split).2
  rw [split] at obedient
  have waiting : ∀ b, .elapsed b ∉ .requested .stop :: since := by
    intro b member
    rw [List.mem_cons, or_iff_right (by simp)] at member
    exact (obedient.of_append.after_stop rfl).2.1 b member
  obtain ⟨due, requests⟩ := obedient.of_append.cycleDue_of_called called waiting
  exact ⟨due, fun e member => requests e (List.mem_cons_of_mem _ member)⟩

/-- The cycle that is due when a stop is requested still starts, and no other one does. -/
theorem lastCycle (obedient : Obedient es) (split : es = past ++ .requested .stop :: rest)
    (moved : ∀ t, (Outlook.after {} es).stage ≠ .called t) : LastCycle past rest := by
  by_cases due : ∃ t, CycleDue t past
  · obtain ⟨t, due⟩ := due
    have called : (Outlook.after {} (past ++ [.requested .stop])).stage = .called t := by
      subst split
      rw [List.append_cons] at obedient
      obtain ⟨before, asked, rfl, requests⟩ := due
      refine obedient.of_append.called_iff.mpr ⟨before, asked ++ [.requested .stop], by simp, ?_⟩
      exact List.forall_mem_append.mpr ⟨requests, List.forall_mem_singleton.mpr rfl⟩
    have whole := split
    rw [List.append_cons] at whole
    rcases (whole ▸ obedient).exists_cycle called with all | ⟨between, view, more, rfl, requests⟩
    · refine absurd ?_ (moved t)
      rw [whole, after_append, stage_after_requests all, called]
    refine .due due rfl requests fun t' view' member => ?_
    obtain ⟨others, last, rfl⟩ := List.append_of_mem member
    have later : es = past ++ .requested .stop :: (between ++ .cycle t view :: others) ++
        .cycle t' view' :: last := by rw [split]; simp
    cases (obedient.cycle_after_stop later).2 (.cycle t view) (by simp)
  · refine .none (not_exists.mp due) fun t view member => due ⟨t, ?_⟩
    obtain ⟨since, more, rfl⟩ := List.append_of_mem member
    rw [← List.cons_append, ← List.append_assoc] at split
    exact (obedient.cycle_after_stop split).1

/-- Nothing follows the last save. -/
theorem last_save {x : Except StoreError (List CheckRecord)} (obedient : Obedient es)
    (split : es = past ++ .save true x :: rest) : rest = [] := by
  cases rest with
  | nil => rfl
  | cons e rest =>
    rw [List.append_cons] at split
    have running := (obedient _ _ _ split).1
    rw [after_append] at running
    cases running

theorem noLastSave (obedient : Obedient es) (running : (Outlook.after {} es).ended = false) :
    ∀ x, .save true x ∉ es := by
  intro x member
  obtain ⟨past, rest, rfl⟩ := List.append_of_mem member
  obtain rfl := obedient.last_save rfl
  rw [after_append] at running
  cases running

/-- The attempts, with the one that may still be due, are not more than the requests. -/
theorem reloads_add_due_le (obedient : Obedient es) :
    es.countP LoopEvent.isReload + (Outlook.after {} es).reloadDue.toNat ≤
      es.countP (LoopEvent.isRequestOf .reload) := by
  induction es using List.reverseRecOn with
  | nil => exact Nat.le_refl 0
  | append_singleton es e ih =>
    have before := ih obedient.of_append
    have allowed := obedient es e [] rfl
    rw [List.countP_append, List.countP_append, after_append]
    generalize Outlook.after {} es = o at before allowed ⊢
    have one : [e].countP LoopEvent.isReload + (o.next e).reloadDue.toNat ≤
        [e].countP (LoopEvent.isRequestOf .reload) + o.reloadDue.toNat := by
      cases e with
      | reload x =>
        rw [allowed.2.1]
        exact Nat.le_refl 1
      | requested r =>
        cases r with
        | reload => exact Nat.le_add_right 1 _
        | stop => exact Nat.le_refl _
      | save isLast _ => cases isLast <;> exact Nat.le_refl _
      | made _ | opened _ | wait _ _ | elapsed _ | cycle _ _ | batch _ => exact Nat.le_refl _
    rw [after_cons, after_nil]
    omega

theorem reloads_le (obedient : Obedient es) :
    es.countP LoopEvent.isReload ≤ es.countP (LoopEvent.isRequestOf .reload) :=
  Nat.le_trans (Nat.le_add_right _ _) obedient.reloads_add_due_le

end Obedient

end LinkMonitor
