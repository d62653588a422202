import Baler.Proofs.PlanCalls

/-! The calls of a processor over any history of batches. Which calls it makes about a batch depends on
the answer of the strategy, the mode, and whether a nack has failed before; how the broker replies
does not change them. -/
namespace Baler

open Settlement

/-- A batch, what the strategy answers about it, and what the broker replies to each call in the
course of it. A call is made at most once for a batch, so this is every pattern of replies. -/
structure Errand where
  batch : List Handle
  answer : Answer
  broker : Call → Option Fault

/-- What a processor asks: the strategy about a batch, or the broker for a call. -/
inductive Request
  | judge (batch : List Handle)
  | settle (c : Call)
deriving DecidableEq

/-- What a batch in work waits for. -/
def Processing.request : Processing → Request
  | .deciding batch => .judge batch
  | .settling c _ _ _ => .settle c

namespace Errand

/-- The reply to a batch in work. -/
def reply (e : Errand) : Processing → Reply
  | .deciding _ => .answered e.answer
  | .settling c _ _ _ => .settled (e.broker c)

/-- Whether nothing but ordinary faults comes up, and failed deliveries are named by numbers. -/
structure Ordinary (e : Errand) : Prop where
  names : e.answer.namesNumbers = true
  strategy : ∀ f, e.answer = .raised f → f.isOrdinary = true
  broker : ∀ c f, e.broker c = some f → f.isOrdinary = true

/-- The calls that are due about a batch: one for each delivery, in order of first occurrence, or a
cumulative ack for all of them after a success. -/
def calls (e : Errand) (cumulative : Bool) : List Call :=
  match e.answer with
  | .outcome .success =>
    if cumulative then (ids e.batch).max?.toList.map (.ack · true)
    else (distinctIds e.batch).map (.ack · false)
  | .outcome (.partialFailure failed strays) => (distinctIds e.batch).map fun id =>
    if Outcome.holds failed strays id then .nack id true else .ack id false
  | _ => (distinctIds e.batch).map (.nack · true)

/-- The fault that is passed on: that of the strategy, or that it has answered with no outcome. -/
def failure (e : Errand) : Option Fault :=
  if e.batch.isEmpty then none else match e.answer with
    | .raised f => some f
    | .stray kind => some (strayAnswer kind)
    | .outcome _ => none

end Errand

/-- A bound for the requests that a batch still makes. -/
def Errand.left (e : Errand) (p : Processor) : Progress → Nat
  | .finished _ => 0
  | .busy (.settling _ rest _ _) => rest.length + 1
  | .busy (.deciding batch) => (Plan.make p.mode p.failedNacks batch e.answer).steps.length + 1

theorem Errand.left_proceed (e : Errand) (p : Processor) (closing : List Log.Record)
    (failure : Option Fault) (steps : List Step) :
    e.left p (Processor.proceed closing failure steps).2 ≤ steps.length := by
  induction steps with
  | nil => exact Nat.le_refl 0
  | cons step rest ih =>
    cases step with
    | call c => exact Nat.le_refl _
    | skip v id => exact Nat.le_succ_of_le ih

theorem Errand.left_resume (e : Errand) (p : Processor) (work : Processing) :
    e.left (p.resume work (e.reply work)).1 (p.resume work (e.reply work)).2.2 <
      e.left p (.busy work) := by
  cases work with
  | deciding batch => exact Nat.lt_succ_of_le (e.left_proceed _ _ _ _)
  | settling c rest closing failure =>
    simp only [reply,Processor.resume]
    rcases p.react c (e.broker c) with ⟨q,log,course⟩
    cases course with
    | stop f => exact Nat.succ_pos _
    | onward => exact Nat.lt_succ_of_le (e.left_proceed _ _ _ _)

/-- Reply to a batch until it is finished: the processor afterwards, all that it has asked, and the
fault that is passed on. -/
def Processor.serve (e : Errand) (p : Processor) : Progress → Processor × List Request × Option Fault
  | .finished failure => (p, [], failure)
  | .busy work =>
    let (q, asked, failure) :=
      serve e (p.resume work (e.reply work)).1 (p.resume work (e.reply work)).2.2
    (q, work.request :: asked, failure)
termination_by progress => e.left p progress
decreasing_by exact e.left_resume p work

/-- The calls among what a processor does. -/
def made (acts : List Processor.Act) : List Call := acts.filterMap fun
  | .call c => some c
  | .log _ => none

@[simp] theorem made_nil : made [] = [] := rfl
@[simp] theorem made_call (c : Call) (acts : List Processor.Act) :
    made (.call c :: acts) = c :: made acts := rfl
@[simp] theorem made_log (r : Log.Record) (acts : List Processor.Act) :
    made (.log r :: acts) = made acts := rfl
@[simp] theorem made_logs (rs : List Log.Record) (acts : List Processor.Act) :
    made (rs.map .log ++ acts) = made acts := by
  induction rs with
  | nil => rfl
  | cons r rs ih => exact ih

namespace Processor

variable {e : Errand}

variable {broker : Call → Option Fault}

/-- An ordinary fault of a call is remembered if the call is a nack. -/
theorem mem_failedNacks_react (p : Processor) {c : Call} {fault : Option Fault}
    (ordinary : ∀ f, fault = some f → f.isOrdinary = true) {id : Int} :
    id ∈ (p.react c fault).1.failedNacks ↔
      id ∈ p.failedNacks ∨ fault.isSome = true ∧ ∃ requeue, c = .nack id requeue := by
  cases fault with
  | none => simp
  | some f =>
    have hf := ordinary f rfl
    cases c with
    | ack n cumulative => cases cumulative <;> simp [react,hf]
    | nack n requeue => simp [react,hf,eq_comm]

theorem mode_react (p : Processor) {c : Call} {fault : Option Fault}
    (ordinary : ∀ f, fault = some f → f.isOrdinary = true) : (p.react c fault).1.mode = p.mode := by
  cases fault with
  | none => rfl
  | some f =>
    have hf := ordinary f rfl
    cases c with
    | ack n cumulative => cases cumulative <;> simp [react,hf]
    | nack n requeue => simp [react,hf]

/-- An ordinary fault of a call stops a plan only if the call is a cumulative ack. -/
theorem course_react (p : Processor) {c : Call} {fault : Option Fault}
    (ordinary : ∀ f, fault = some f → f.isOrdinary = true) :
    (p.react c fault).2.2 = .onward ∨ (p.react c fault).2.2 = .stop none ∧ ∃ n, c = .ack n true := by
  cases fault with
  | none => exact .inl rfl
  | some f =>
    have hf := ordinary f rfl
    cases c with
    | ack n cumulative => cases cumulative <;> simp [react,hf]
    | nack n requeue => simp [react,hf]

/-- A walk through a plan has made all its calls and passes its fault on; it remembers the deliveries
that were remembered before and those whose nack has failed. -/
structure Walked (broker : Call → Option Fault) (p : Processor) (cs : List Call)
    (failure : Option Fault) (walked : Processor × List Act × Option Fault) : Prop where
  made : made walked.2.1 = cs
  failure : walked.2.2 = failure
  mode : walked.1.mode = p.mode
  memory : ∀ id, id ∈ walked.1.failedNacks ↔ id ∈ p.failedNacks ∨
    ∃ requeue, .nack id requeue ∈ cs ∧ (broker (.nack id requeue)).isSome = true

theorem walked_nil (broker : Call → Option Fault) (p : Processor) (failure : Option Fault)
    (rs : List Log.Record) : Walked broker p [] failure (p, rs.map .log, failure) where
  made := by simpa using made_logs rs []
  failure := rfl
  mode := rfl
  memory id := by simp

/-- One call after the other is remembered. -/
theorem Walked.cons {p : Processor} {c : Call} {cs : List Call} {failure : Option Fault}
    {walked : Processor × List Act × Option Fault} (ordinary : ∀ f, broker c = some f → f.isOrdinary = true)
    (h : Walked broker (p.react c (broker c)).1 cs failure walked) (rs : List Log.Record) :
    Walked broker p (c :: cs) failure (walked.1, .call c :: rs.map .log ++ walked.2.1, walked.2.2) where
  made := by simp [h.made]
  failure := h.failure
  mode := h.mode.trans (p.mode_react ordinary)
  memory id := by
    rw [h.memory,p.mem_failedNacks_react ordinary]
    simp only [List.mem_cons]
    constructor
    · rintro ((hp | ⟨hs,requeue,rfl⟩) | ⟨requeue,hm,hs⟩)
      · exact .inl hp
      · exact .inr ⟨requeue,.inl rfl,hs⟩
      · exact .inr ⟨requeue,.inr hm,hs⟩
    · rintro (hp | ⟨requeue,rfl | hm,hs⟩)
      · exact .inl (.inl hp)
      · exact .inl (.inr ⟨hs,requeue,rfl⟩)
      · exact .inr ⟨requeue,hm,hs⟩

/-- With ordinary faults a plan is walked through to its end, whatever the broker replies. -/
theorem walked_walk (ordinary : ∀ c f, broker c = some f → f.isOrdinary = true)
    (closing : List Log.Record) (failure : Option Fault) (steps : List Step) (p : Processor)
    (alone : ∀ n, .ack n true ∈ callsOf steps → callsOf steps = [.ack n true] ∧ failure = none) :
    Walked broker p (callsOf steps) failure (walk broker closing failure steps p) := by
  induction steps generalizing p with
  | nil => exact walked_nil broker p failure closing
  | cons step rest ih =>
    cases step with
    | skip v id =>
      have h := ih p alone
      exact ⟨h.made,h.failure,h.mode,h.memory⟩
    | call c =>
      simp only [walk]
      rcases hr : p.react c (broker c) with ⟨q,log,course⟩
      have hq : (p.react c (broker c)).1 = q := by rw [hr]
      rcases p.course_react (c := c) (ordinary c) with h | ⟨h,n,rfl⟩
      · rw [hr] at h
        obtain rfl := h
        -- a cumulative ack is alone in its plan, so none is among the calls that are left
        have none : ∀ n, .ack n true ∉ callsOf rest := fun n hn => by
          obtain ⟨he,-⟩ := alone n (List.mem_cons_of_mem c hn)
          rw [callsOf_call] at he
          simp [(List.cons.inj he).2] at hn
        have tail := ih q fun n hn => absurd hn (none n)
        exact Walked.cons (ordinary c) (hq ▸ tail) log
      · rw [hr] at h
        obtain rfl := h
        obtain ⟨he,rfl⟩ := alone n List.mem_cons_self
        have tail := walked_nil broker (p.react (.ack n true) (broker (.ack n true))).1 none []
        rw [he,← hq]
        simpa using Walked.cons (ordinary _) tail log

end Processor

/-- A visit calls once for each id that is not settled yet, in order of first occurrence. -/
theorem callsOf_visit (verdict : Int → Verdict) (settled xs : List Int) :
    callsOf (visit verdict settled xs) =
      (xs.filter (· ∉ settled)).eraseDups.map fun id => (verdict id).call id := by
  induction xs generalizing settled with
  | nil => rfl
  | cons x xs ih =>
    by_cases hx : x ∈ settled
    · rw [visit,if_pos hx,callsOf_skip,ih,List.filter_cons_of_neg (by simpa using hx)]
    · have later : (xs.filter (· ∉ settled)).filter (fun id => !id == x) =
          xs.filter (· ∉ x :: settled) := by
        rw [List.filter_filter]
        refine List.filter_congr fun id _ => ?_
        by_cases he : id = x <;> simp [he]
      rw [visit,if_neg hx,callsOf_call,ih,List.filter_cons_of_pos (by simpa using hx),
        List.eraseDups_cons,later,List.map_cons]

theorem callsOf_visit_ids (verdict : Int → Verdict) (batch : List Handle) :
    callsOf (visit verdict [] (ids batch)) = (distinctIds batch).map fun id => (verdict id).call id := by
  have all : (ids batch).filter (· ∉ ([] : List Int)) = ids batch :=
    List.filter_eq_self.mpr fun id _ => by simp
  rw [callsOf_visit,all,distinctIds]

theorem max?_ids (first : Handle) (rest : List Handle) :
    (ids (first :: rest)).max? = some (largestId first.id rest) := by
  rw [ids_cons,List.max?_cons',largestId,ids,List.foldl_map]

namespace Errand

variable {e : Errand}

/-- Every delivery of a batch goes back to the queue. -/
theorem calls_refused (f : Fault) (batch : List Handle) :
    (Plan.refused f batch).calls = (distinctIds batch).map (.nack · true) :=
  callsOf_visit_ids (fun _ => .nack) batch

/-- After a success the deliveries are acked together if that is allowed, else one by one. -/
theorem calls_succeeded (mode : AckMode) (failedNacks : List Int) (broker : Call → Option Fault)
    {batch : List Handle} (filled : batch ≠ []) :
    (Plan.succeeded mode failedNacks batch).calls =
        calls ⟨batch,.outcome .success,broker⟩ (mode = .batched ∧ failedNacks = []) ∧
      (Plan.succeeded mode failedNacks batch).failure = none := by
  cases batch with
  | nil => exact absurd rfl filled
  | cons first rest =>
    have each : ∀ opening, (Plan.ackedEach opening (first :: rest)).calls =
        (distinctIds (first :: rest)).map (.ack · false) :=
      fun opening => callsOf_visit_ids (fun _ => .ack) (first :: rest)
    cases mode with
    | individual => exact ⟨each [],rfl⟩
    | batched =>
      cases failedNacks with
      | cons id more => exact ⟨each _,rfl⟩
      | nil =>
        refine ⟨?_,rfl⟩
        simp only [calls,max?_ids]
        rfl

/-- After a partial failure a delivery goes back to the queue if it is named, else it is acked. -/
theorem calls_divided (failed : List Int) (strays : List Stray) (broker : Call → Option Fault)
    (batch : List Handle) (names : (Answer.outcome (.partialFailure failed strays)).namesNumbers = true)
    (cumulative : Bool) :
    (Plan.divided failed strays batch).calls =
        calls ⟨batch,.outcome (.partialFailure failed strays),broker⟩ cumulative ∧
      (Plan.divided failed strays batch).failure = none := by
  have hs : ∀ s ∈ strays, s.isNumber = true := List.all_eq_true.mp names
  obtain ⟨shown,hn⟩ := sortedNames_of_numbers (failed.filter fun id => !(ids batch).contains id)
    (strays.filter fun s => !(ids batch).any s.denotes)
    (fun s h => hs s (List.mem_filter.mp h).1)
  simp only [Plan.divided,hn]
  refine ⟨(callsOf_visit_ids _ batch).trans (List.map_congr_left fun id _ => ?_),trivial⟩
  cases Outcome.holds failed strays id <;> rfl

/-- The plan for an answer makes the calls that are due and passes the fault on. -/
theorem plan_of_ordinary (ordinary : e.Ordinary) (mode : AckMode) (failedNacks : List Int)
    (filled : e.batch ≠ []) :
    (Plan.make mode failedNacks e.batch e.answer).calls =
        e.calls (mode = .batched ∧ failedNacks = []) ∧
      (Plan.make mode failedNacks e.batch e.answer).failure = e.failure := by
  rcases e with ⟨batch,answer,broker⟩
  have some : ∀ answer, failure ⟨batch,answer,broker⟩ = match answer with
      | .raised f => some f
      | .stray kind => some (strayAnswer kind)
      | .outcome _ => none := fun answer => if_neg (by simpa using filled)
  rw [some]
  cases answer with
  | stray kind => exact ⟨calls_refused _ batch,rfl⟩
  | raised f =>
    simp only [Plan.make,ordinary.strategy f rfl,if_true]
    exact ⟨calls_refused f batch,rfl⟩
  | outcome o =>
    cases o with
    | success => exact calls_succeeded mode failedNacks broker filled
    | totalFailure => exact ⟨callsOf_visit_ids (fun _ => .nack) batch,rfl⟩
    | partialFailure failed strays =>
      exact calls_divided failed strays broker batch ordinary.names _

/-- A cumulative ack is the only call about its batch, and then no fault is passed on. -/
theorem alone_of_ordinary (ordinary : e.Ordinary) (mode : AckMode) (failedNacks : List Int)
    (filled : e.batch ≠ []) {n : Int}
    (hn : .ack n true ∈ (Plan.make mode failedNacks e.batch e.answer).calls) :
    (Plan.make mode failedNacks e.batch e.answer).calls = [.ack n true] ∧
      (Plan.make mode failedNacks e.batch e.answer).failure = none := by
  obtain ⟨-,success,-,alone⟩ := warranted_of_mem_calls hn
  refine ⟨alone,?_⟩
  rw [(plan_of_ordinary ordinary mode failedNacks filled).2,failure,success]
  split <;> rfl

end Errand

/-- An errand that has been run, and all that was asked in its course. -/
structure Service where
  errand : Errand
  asked : List Request

/-- Whether a nack was asked for that the broker has answered with a fault. -/
def Service.nackFailed (s : Service) : Bool := s.asked.any fun
  | .settle (.nack id requeue) => (s.errand.broker (.nack id requeue)).isSome
  | _ => false

namespace Processor

variable {e : Errand}

/-- About one batch a processor makes the calls that are due, if any. -/
theorem walked_process (ordinary : e.Ordinary) (p : Processor) :
    Walked e.broker p
      (if e.batch.isEmpty then [] else e.calls (p.mode = .batched ∧ p.failedNacks = [])) e.failure
      (p.process e.broker e.batch e.answer) := by
  unfold process Errand.failure
  split
  · exact walked_nil e.broker p none []
  · rename_i filled
    have filled : e.batch ≠ [] := by simpa using filled
    obtain ⟨calls,failure⟩ := e.plan_of_ordinary ordinary p.mode p.failedNacks filled
    have walked := walked_walk ordinary.broker
      (Plan.make p.mode p.failedNacks e.batch e.answer).closing
      (Plan.make p.mode p.failedNacks e.batch e.answer).failure
      (Plan.make p.mode p.failedNacks e.batch e.answer).steps p
      (fun n hn => e.alone_of_ordinary ordinary p.mode p.failedNacks filled hn)
    rw [show callsOf _ = _ from calls] at walked
    refine ⟨?_,walked.failure.trans (failure.trans ?_),walked.mode,walked.memory⟩
    · simpa using walked.made
    · simp [Errand.failure,filled]

end Processor
end Baler
