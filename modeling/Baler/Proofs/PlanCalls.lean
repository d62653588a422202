import Baler.Processor
import Baler.Proofs.Broker

/-! The broker calls of a plan. A walk through the plan makes them one by one, passing over the
steps that make none, and every id of the batch gets the call of its verdict. -/
namespace Baler

open Settlement

/-- Whether a delivery counts as processed by an answer about its batch. -/
def Settlement.Answer.processes (a : Answer) (id : Int) : Bool :=
  match a with
  | .outcome .success => true
  | .outcome (.partialFailure failed strays) => !Outcome.holds failed strays id
  | _ => false

/-- A name that is a number. -/
def Stray.isNumber : Stray → Bool
  | .flag _ | .real _ => true
  | _ => false

/-- Whether an answer names the failed deliveries by numbers alone, flags and doubles included. -/
def Settlement.Answer.namesNumbers : Answer → Bool
  | .outcome (.partialFailure _ strays) => strays.all Stray.isNumber
  | _ => true

/-- The calls of some steps, in order. -/
def Settlement.callsOf (steps : List Step) : List Call := steps.filterMap Step.call?

@[simp] theorem callsOf_nil : callsOf [] = [] := rfl
@[simp] theorem callsOf_call (c : Call) (rest : List Step) :
    callsOf (.call c :: rest) = c :: callsOf rest := rfl
@[simp] theorem callsOf_skip (v : Verdict) (id : Int) (rest : List Step) :
    callsOf (.skip v id :: rest) = callsOf rest := rfl

/-- The calls of a visit: one for each id that is not settled yet. -/
theorem mem_callsOf_visit {verdict : Int → Verdict} {settled xs : List Int} {c : Call} :
    c ∈ callsOf (visit verdict settled xs) ↔
      ∃ id ∈ xs, id ∉ settled ∧ c = (verdict id).call id := by
  induction xs generalizing settled with
  | nil => simp [visit]
  | cons x xs ih =>
    by_cases hx : x ∈ settled
    · rw [visit,if_pos hx,callsOf_skip,ih]
      constructor
      · rintro ⟨id,hid,hs,rfl⟩
        exact ⟨id,List.mem_cons_of_mem x hid,hs,rfl⟩
      · rintro ⟨id,hid,hs,rfl⟩
        rcases List.mem_cons.mp hid with rfl | hid
        · exact absurd hx hs
        · exact ⟨id,hid,hs,rfl⟩
    · rw [visit,if_neg hx,callsOf_call,List.mem_cons,ih]
      constructor
      · rintro (rfl | ⟨id,hid,hs,rfl⟩)
        · exact ⟨x,List.mem_cons_self,hx,rfl⟩
        · exact ⟨id,List.mem_cons_of_mem x hid,fun h => hs (List.mem_cons_of_mem x h),rfl⟩
      · rintro ⟨id,hid,hs,rfl⟩
        by_cases he : id = x
        · exact .inl (he ▸ rfl)
        · refine .inr ⟨id,(List.mem_cons.mp hid).resolve_left he,?_,rfl⟩
          exact fun h => (List.mem_cons.mp h).elim he hs

theorem largestId_mem (first : Handle) (rest : List Handle) :
    largestId first.id rest ∈ ids (first :: rest) := by
  have h : ∀ m : Int, largestId m rest = m ∨ largestId m rest ∈ ids rest := by
    induction rest with
    | nil => exact fun m => .inl rfl
    | cons x rest ih =>
      intro m
      rcases ih (max m x.id) with h | h
      · have hm : max m x.id = m ∨ max m x.id = x.id := by omega
        rcases hm with hm | hm
        · exact .inl (h.trans hm)
        · exact .inr (List.mem_cons.mpr (.inl (h.trans hm)))
      · exact .inr (List.mem_cons_of_mem _ h)
  rcases h first.id with h | h
  · exact List.mem_cons.mpr (.inl h)
  · exact List.mem_cons_of_mem _ h

/-- What a call of a plan says about its delivery: single acks are for processed deliveries, nacks
for the others, and a cumulative ack is alone, for a success while no nack has failed. -/
def Warranted (failedNacks : List Int) (batch : List Handle) (a : Answer) (plan : List Call) :
    Call → Prop
  | .ack id false => id ∈ ids batch ∧ a.processes id = true
  | .ack id true => id ∈ ids batch ∧ a = .outcome .success ∧ failedNacks = [] ∧ plan = [.ack id true]
  | .nack id _ => id ∈ ids batch ∧ a.processes id = false

theorem warranted_of_visit {failedNacks : List Int} {batch : List Handle} {a : Answer}
    {plan : List Call} {c : Call} (verdict : Int → Verdict)
    (hv : ∀ id, verdict id = .ack ↔ a.processes id = true)
    (hc : c ∈ callsOf (visit verdict [] (ids batch))) : Warranted failedNacks batch a plan c := by
  obtain ⟨id,hid,-,rfl⟩ := mem_callsOf_visit.mp hc
  cases h : verdict id with
  | ack => exact ⟨hid,(hv id).mp h⟩
  | nack =>
    have hn : a.processes id ≠ true := fun hp => by simp [(hv id).mpr hp] at h
    exact ⟨hid,by simpa using hn⟩

theorem warranted_of_mem_calls {mode : AckMode} {failedNacks : List Int} {batch : List Handle}
    {a : Answer} {c : Call} (hc : c ∈ (Plan.make mode failedNacks batch a).calls) :
    Warranted failedNacks batch a (Plan.make mode failedNacks batch a).calls c := by
  have refused : ∀ f, (∀ id, a.processes id = false) → c ∈ (Plan.refused f batch).calls →
      Warranted failedNacks batch a (Plan.make mode failedNacks batch a).calls c := by
    intro f ha hc
    exact warranted_of_visit (fun _ => .nack) (by simp [ha]) hc
  cases a with
  | stray kind => exact refused _ (fun _ => rfl) hc
  | raised f =>
    by_cases hf : f.isOrdinary = true
    · exact refused f (fun _ => rfl) (by simpa [Plan.make,hf] using hc)
    · simp [Plan.make,hf,Plan.givenUp,Plan.calls] at hc
  | outcome o =>
    cases o with
    | totalFailure => exact warranted_of_visit (fun _ => .nack) (by simp [Answer.processes]) hc
    | partialFailure failed strays =>
      simp only [Plan.make,Plan.divided] at hc
      split at hc
      · simp [Plan.givenUp,Plan.calls] at hc
      · refine warranted_of_visit _ (fun id => ?_) hc
        by_cases h : Outcome.holds failed strays id = true <;> simp [h,Answer.processes]
    | success =>
      have each : c ∈ callsOf (visit (fun _ => .ack) [] (ids batch)) →
          Warranted failedNacks batch (.outcome .success)
            (Plan.make mode failedNacks batch (.outcome .success)).calls c :=
        warranted_of_visit _ (by simp [Answer.processes])
      cases batch with
      | nil => simp [Plan.make,Plan.succeeded,Plan.calls] at hc
      | cons first rest =>
        cases mode with
        | individual => exact each hc
        | batched =>
          cases failedNacks with
          | cons id more => exact each hc
          | nil =>
            obtain rfl := List.mem_singleton.mp hc
            exact ⟨largestId_mem first rest,rfl,rfl,rfl⟩

theorem Warranted.id_mem {failedNacks : List Int} {batch : List Handle} {a : Answer}
    {plan : List Call} {c : Call} (h : Warranted failedNacks batch a plan c) : c.id ∈ ids batch := by
  cases c with
  | nack id requeue => exact h.1
  | ack id cumulative => cases cumulative <;> exact h.1

@[simp] theorem Verdict.id_call (v : Verdict) (id : Int) : (v.call id).id = id := by cases v <;> rfl

/-- A visit names ids in their order, each at most as often as it comes. -/
theorem ids_callsOf_visit (verdict : Int → Verdict) (settled xs : List Int) :
    ((callsOf (visit verdict settled xs)).map Call.id).Sublist xs := by
  induction xs generalizing settled with
  | nil => exact List.Sublist.refl _
  | cons x xs ih =>
    by_cases hx : x ∈ settled
    · rw [visit,if_pos hx,callsOf_skip]
      exact (ih settled).cons x
    · rw [visit,if_neg hx,callsOf_call,List.map_cons,Verdict.id_call]
      exact (ih (x :: settled)).cons_cons x

/-- A plan names deliveries of its batch in their order. -/
theorem ids_calls_sublist (mode : AckMode) (failedNacks : List Int) (batch : List Handle) (a : Answer) :
    ((Plan.make mode failedNacks batch a).calls.map Call.id).Sublist (ids batch) := by
  cases a with
  | stray kind => exact ids_callsOf_visit _ _ _
  | raised f =>
    cases hf : f.isOrdinary with
    | true =>
      simp only [Plan.make,hf,if_true]
      exact ids_callsOf_visit _ _ _
    | false =>
      simp only [Plan.make,hf,Bool.false_eq_true,if_false]
      exact List.nil_sublist _
  | outcome o =>
    cases o with
    | totalFailure => exact ids_callsOf_visit _ _ _
    | partialFailure failed strays =>
      simp only [Plan.make,Plan.divided]
      split
      · exact List.nil_sublist _
      · exact ids_callsOf_visit _ _ _
    | success =>
      cases batch with
      | nil => exact List.nil_sublist _
      | cons first rest =>
        cases mode with
        | individual => exact ids_callsOf_visit _ _ _
        | batched =>
          cases failedNacks with
          | cons id more => exact ids_callsOf_visit _ _ _
          | nil => exact List.singleton_sublist.mpr (largestId_mem first rest)

/-- Names that are numbers can be put in order. -/
theorem sortedNames_of_numbers (failed : List Int) (strays : List Stray)
    (h : ∀ s ∈ strays, s.isNumber = true) : ∃ names, Outcome.sortedNames failed strays = .ok names := by
  have order : ∀ vs : List Value, (∀ v ∈ vs, ∃ d, v.rank? = some (.number d)) →
      ∃ names, Outcome.sortedNames.inOrder vs = .ok names := by
    intro vs hvs
    cases vs with
    | nil => exact ⟨[],rfl⟩
    | cons first rest =>
      have hnone : rest.find? (!Outcome.sortedNames.agree first ·) = none := by
        apply List.find?_eq_none.mpr
        intro v hv
        obtain ⟨d,hd⟩ := hvs first List.mem_cons_self
        obtain ⟨e,he⟩ := hvs v (List.mem_cons_of_mem first hv)
        simp [Outcome.sortedNames.agree,hd,he,Rank.isOrdered]
      simp only [Outcome.sortedNames.inOrder,hnone]
      exact ⟨_,rfl⟩
  have rank : ∀ s ∈ strays, ∃ d, s.toValue.rank? = some (.number d) := by
    intro s hs
    have hn := h s hs
    cases s <;> simp [Stray.isNumber] at hn <;> exact ⟨_,rfl⟩
  cases strays with
  | nil => exact ⟨_,rfl⟩
  | cons s rest =>
    simp only [Outcome.sortedNames,List.partition_eq_filter_filter]
    apply order
    intro v hv
    simp only [List.mem_append,List.mem_map,List.mem_filter] at hv
    rcases hv with (⟨t,⟨ht,-⟩,rfl⟩ | ⟨n,-,rfl⟩) | ⟨t,⟨ht,-⟩,rfl⟩
    · exact rank t ht
    · exact ⟨_,rfl⟩
    · exact rank t ht

/-- A plan nacks every delivery that does not count as processed, unless the strategy was left by a
fault that is not ordinary. -/
theorem nack_mem_calls_or_givenUp {mode : AckMode} {failedNacks : List Int} {batch : List Handle}
    {a : Answer} (ha : a.namesNumbers = true) :
    (∀ id ∈ ids batch, a.processes id = true ∨
      .nack id true ∈ (Plan.make mode failedNacks batch a).calls) ∨
    ∃ f, f.isOrdinary = false ∧ Plan.make mode failedNacks batch a = .givenUp f := by
  have all : ∀ id ∈ ids batch, Call.nack id true ∈ callsOf (visit (fun _ => .nack) [] (ids batch)) :=
    fun id hid => mem_callsOf_visit.mpr ⟨id,hid,List.not_mem_nil,rfl⟩
  cases a with
  | stray kind => exact .inl fun id hid => .inr (all id hid)
  | raised f =>
    cases hf : f.isOrdinary with
    | true =>
      refine .inl fun id hid => .inr ?_
      simp only [Plan.make,hf]
      exact all id hid
    | false => exact .inr ⟨f,hf,by simp [Plan.make,hf]⟩
  | outcome o =>
    cases o with
    | success => exact .inl fun _ _ => .inl rfl
    | totalFailure => exact .inl fun id hid => .inr (all id hid)
    | partialFailure failed strays =>
      have hs : ∀ s ∈ strays, s.isNumber = true := List.all_eq_true.mp ha
      obtain ⟨names,hn⟩ := sortedNames_of_numbers (failed.filter fun id => !(ids batch).contains id)
        (strays.filter fun s => !(ids batch).any s.denotes)
        (fun s h => hs s (List.mem_filter.mp h).1)
      refine .inl fun id hid => ?_
      cases h : Outcome.holds failed strays id with
      | false => exact .inl (by simp [Answer.processes,h])
      | true =>
        refine .inr ?_
        simp only [Plan.make,Plan.divided,hn,Plan.calls]
        exact mem_callsOf_visit.mpr ⟨id,hid,List.not_mem_nil,by simp [h,Verdict.call]⟩

/-- Where a walk through the given calls stands: at the first of them, or at the end. -/
inductive Walk (cs : List Call) (failure : Option Fault) : Progress → Prop
  | calling {c rest closing} (h : cs = c :: callsOf rest) :
      Walk cs failure (.busy (.settling c rest closing failure))
  | done (h : cs = []) : Walk cs failure (.finished failure)

theorem Walk.settling {cs : List Call} {failure : Option Fault} {work : Processing}
    (h : Walk cs failure (.busy work)) :
    ∃ c rest closing failure, work = .settling c rest closing failure := by
  cases h
  exact ⟨_,_,_,_,rfl⟩

theorem walk_proceed (closing : List Log.Record) (failure : Option Fault) (steps : List Step) :
    Walk (callsOf steps) failure (Processor.proceed closing failure steps).2 := by
  induction steps with
  | nil => exact .done rfl
  | cons step rest ih =>
    cases step with
    | call c => exact .calling rfl
    | skip v id => exact ih

theorem walk_start (plan : Plan) : Walk plan.calls plan.failure (Processor.start plan).2 :=
  walk_proceed plan.closing plan.failure plan.steps

/-- Where a batch stands after the broker's reply to a call, with steps left to do. -/
inductive Resumed (p : Processor) (rest : List Step) (failure : Option Fault) :
    Call → Option Fault → Processor → Progress → Prop
  | taken {c progress} (walk : Walk (callsOf rest) failure progress) :
      Resumed p rest failure c none p progress
  | ackFailed {id f progress} (ordinary : f.isOrdinary = true)
      (walk : Walk (callsOf rest) failure progress) :
      Resumed p rest failure (.ack id false) (some f) p progress
  | nackFailed {id requeue f progress} (ordinary : f.isOrdinary = true)
      (walk : Walk (callsOf rest) failure progress) :
      Resumed p rest failure (.nack id requeue) (some f) (p.remember id) progress
  | cumulativeFailed {id f} (ordinary : f.isOrdinary = true) :
      Resumed p rest failure (.ack id true) (some f) p (.finished none)
  | broken {c f} (grave : f.isOrdinary = false) :
      Resumed p rest failure c (some f) p (.finished (some f))

theorem Resumed.settling {p q : Processor} {rest : List Step} {failure fault : Option Fault} {c : Call}
    {work : Processing} (h : Resumed p rest failure c fault q (.busy work)) :
    ∃ c rest closing failure, work = .settling c rest closing failure := by
  cases h with
  | taken walk => exact walk.settling
  | ackFailed _ walk => exact walk.settling
  | nackFailed _ walk => exact walk.settling

theorem resumed (p : Processor) (c : Call) (rest : List Step) (closing : List Log.Record)
    (failure fault : Option Fault) :
    Resumed p rest failure c fault (p.resume (.settling c rest closing failure) (.settled fault)).1
      (p.resume (.settling c rest closing failure) (.settled fault)).2.2 := by
  cases fault with
  | none => exact .taken (walk_proceed closing failure rest)
  | some f =>
    cases hf : f.isOrdinary with
    | false =>
      simp only [Processor.resume,Processor.react,hf]
      exact .broken hf
    | true =>
      cases c with
      | nack id requeue =>
        simp only [Processor.resume,Processor.react,hf]
        exact .nackFailed hf (walk_proceed closing failure rest)
      | ack id cumulative =>
        cases cumulative <;> simp only [Processor.resume,Processor.react,hf]
        · exact .ackFailed hf (walk_proceed closing failure rest)
        · exact .cumulativeFailed hf

@[simp] theorem mem_failedNacks_remember {p : Processor} {id d : Int} :
    d ∈ (p.remember id).failedNacks ↔ d ∈ p.failedNacks ∨ d = id := by
  unfold Processor.remember
  split
  · rename_i h
    exact ⟨.inl,fun hd => hd.elim (fun hd => hd) (fun hd => hd ▸ h)⟩
  · simp

end Baler
