import Baler.Proofs.ExactCalls
import Mathlib.Data.Finset.Dedup
import Mathlib.Data.Finset.Insert

/-! The two ack modes beside each other. Two processors, one of each mode, get the same batches and the
same answers, and each has a broker of its own; after every batch both brokers hold the same sets. -/
namespace Baler

open Settlement

namespace Broker

variable {a b : Broker}

/-- The sets of the deliveries that are out, of those that were acked and of those that went back. -/
def sets (b : Broker) : Finset Int × Finset Int × Finset Int :=
  (b.outstanding.toFinset, b.acked.toFinset, b.requeued.toFinset)

/-- The book after some calls, of which those succeed that are answered with no fault. -/
def settleAll (b : Broker) (answer : Call → Option Fault) (calls : List Call) : Broker :=
  (calls.filter fun c => (answer c).isNone).foldl settle b

theorem sets_eq_iff : a.sets = b.sets ↔ (∀ id, id ∈ a.outstanding ↔ id ∈ b.outstanding) ∧
    (∀ id, id ∈ a.acked ↔ id ∈ b.acked) ∧ ∀ id, id ∈ a.requeued ↔ id ∈ b.requeued := by
  simp [sets,Finset.ext_iff]

theorem sets_settle (h : a.sets = b.sets) (c : Call) : (a.settle c).sets = (b.settle c).sets := by
  obtain ⟨out,acked,requeued⟩ := sets_eq_iff.mp h
  cases c with
  | nack id requeue => simp [sets_eq_iff,settle,out,acked,requeued]
  | ack id cumulative => cases cumulative <;> simp [sets_eq_iff,settle,out,acked,requeued]

/-- Books with the same sets have the same sets after the same calls. -/
theorem sets_settleAll (h : a.sets = b.sets) (answer : Call → Option Fault) (calls : List Call) :
    (a.settleAll answer calls).sets = (b.settleAll answer calls).sets := by
  unfold settleAll
  induction calls.filter fun c => (answer c).isNone generalizing a b with
  | nil => exact h
  | cons c rest ih => exact ih (sets_settle h c)

theorem foldl_deliver (b : Broker) (xs : List Int) :
    xs.foldl deliver b = { b with outstanding := b.outstanding ++ xs } := by
  induction xs generalizing b with
  | nil => simp
  | cons x xs ih => simp [ih,deliver]

theorem sets_deliver (h : a.sets = b.sets) (xs : List Int) :
    (xs.foldl deliver a).sets = (xs.foldl deliver b).sets := by
  obtain ⟨out,acked,requeued⟩ := sets_eq_iff.mp h
  simp [sets_eq_iff,foldl_deliver,out,acked,requeued]

theorem settle_each (b : Broker) (xs : List Int) : (xs.map (Call.ack · false)).foldl settle b =
    { b with outstanding := b.outstanding.filter (· ∉ xs), acked := b.acked ++ xs } := by
  induction xs generalizing b with
  | nil => simp [List.filter_eq_self.mpr]
  | cons x xs ih =>
    rw [List.map_cons,List.foldl_cons,ih]
    simp [settle,Bool.and_comm]

/-- One ack up to an id does what single acks do, for the deliveries that are out up to that id. -/
theorem sets_together {n : Int} {xs : List Int} (out : xs ⊆ b.outstanding)
    (upTo : ∀ id ∈ b.outstanding, id ≤ n ↔ id ∈ xs) :
    (b.settle (.ack n true)).sets = ((xs.map (Call.ack · false)).foldl settle b).sets := by
  rw [settle_each,sets_eq_iff]
  simp only [settle,List.mem_filter,List.mem_append,decide_eq_true_eq]
  refine ⟨fun id => and_congr_right fun hid => ?_,fun id => or_congr_right ?_,fun _ => trivial⟩
  · rw [← upTo id hid]
    exact Int.not_le.symm
  · exact ⟨fun h => (upTo id h.1).mp h.2,fun h => ⟨out h,(upTo id (out h)).mpr h⟩⟩

section

variable {answer : Call → Option Fault} {calls : List Call} {id : Int}

theorem outstanding_foldl_subset (b : Broker) (calls : List Call) :
    (calls.foldl settle b).outstanding ⊆ b.outstanding := by
  induction calls generalizing b with
  | nil => exact List.Subset.refl _
  | cons c rest ih => exact fun id h => b.outstanding_settle_subset c (ih (b.settle c) h)

theorem outstanding_settleAll_subset (b : Broker) (answer : Call → Option Fault) (calls : List Call) :
    (b.settleAll answer calls).outstanding ⊆ b.outstanding := outstanding_foldl_subset b _

/-- What no call reaches stays out. -/
theorem mem_outstanding_foldl (h : id ∈ b.outstanding) (apart : ∀ c ∈ calls, ¬ reaches c id) :
    id ∈ (calls.foldl settle b).outstanding := by
  induction calls generalizing b with
  | nil => exact h
  | cons c rest ih =>
    obtain ⟨first,others⟩ := List.forall_mem_cons.mp apart
    exact ih (mem_outstanding_settle h first) others

theorem mem_outstanding_settleAll (h : id ∈ b.outstanding) (apart : ∀ c ∈ calls, ¬ reaches c id) :
    id ∈ (b.settleAll answer calls).outstanding :=
  mem_outstanding_foldl h fun c hc => apart c (List.mem_filter.mp hc).1

/-- What a call reaches that succeeds is out no more. -/
theorem not_mem_outstanding_settleAll {c : Call} (hc : c ∈ calls) (succeeds : answer c = none)
    (hr : reaches c id) : id ∉ (b.settleAll answer calls).outstanding := by
  have hc : c ∈ calls.filter fun c => (answer c).isNone := List.mem_filter.mpr ⟨hc,by simp [succeeds]⟩
  obtain ⟨before,after,hs⟩ := List.append_of_mem hc
  rw [settleAll,hs,List.foldl_append,List.foldl_cons]
  exact fun h => not_mem_outstanding_settle hr (outstanding_foldl_subset _ after h)

end
end Broker

namespace Errand

variable {e : Errand} {cumulative : Bool} {id : Int}

/-- Only after a success does it matter whether deliveries may be acked together. -/
theorem calls_eq (h : e.answer ≠ .outcome .success) (x y : Bool) : e.calls x = e.calls y := by
  unfold calls
  split
  · rename_i ha
    exact absurd ha h
  · rfl
  · rfl

theorem calls_apart (h : e.answer = .outcome .success) :
    e.calls false = (distinctIds e.batch).map (.ack · false) := by
  simp [calls,h]

/-- The largest id stands for the batch if it is acked together. -/
theorem calls_together (h : e.answer = .outcome .success) (filled : e.batch ≠ []) :
    ∃ n ∈ ids e.batch, e.calls true = [.ack n true] ∧ ∀ id ∈ ids e.batch, id ≤ n := by
  obtain ⟨first,rest,hb⟩ := List.exists_cons_of_ne_nil filled
  have largest := max?_ids first rest
  rw [← hb] at largest
  obtain ⟨hn,le⟩ := List.max?_eq_some_iff.mp largest
  exact ⟨_,hn,by simp [calls,h,largest],le⟩

/-- A call names a delivery of the batch. -/
theorem id_mem_of_calls {c : Call} (hc : c ∈ e.calls cumulative) : c.id ∈ ids e.batch := by
  have single : ∀ verdict : Int → Call, (∀ id, (verdict id).id = id) →
      c ∈ (distinctIds e.batch).map verdict → c.id ∈ ids e.batch := by
    intro verdict named hc
    obtain ⟨id,hid,rfl⟩ := List.mem_map.mp hc
    exact (named id).symm ▸ mem_distinctIds.mp hid
  unfold calls at hc
  split at hc
  · split at hc
    · obtain ⟨n,hn,rfl⟩ := List.mem_map.mp hc
      exact (List.max?_eq_some_iff.mp (Option.mem_toList.mp hn)).1
    · exact single _ (fun _ => rfl) hc
  · exact single _ (fun id => by split <;> rfl) hc
  · exact single _ (fun _ => rfl) hc

/-- Every delivery of the batch is reached by a call. -/
theorem reached (hid : id ∈ ids e.batch) : ∃ c ∈ e.calls cumulative, Broker.reaches c id := by
  have single : ∀ verdict : Int → Call, Broker.reaches (verdict id) id →
      ∃ c ∈ (distinctIds e.batch).map verdict, Broker.reaches c id :=
    fun verdict hr => ⟨_,List.mem_map_of_mem (mem_distinctIds.mpr hid),hr⟩
  by_cases h : e.answer = .outcome .success
  · cases cumulative with
    | true =>
      obtain ⟨n,-,hc,le⟩ := calls_together h fun hb => by simp [hb] at hid
      exact ⟨.ack n true,by simp [hc],le id hid⟩
    | false =>
      rw [calls_apart h]
      exact single _ rfl
  · unfold calls
    split
    · rename_i ha
      exact absurd ha h
    · refine single _ ?_
      split <;> rfl
    · exact single _ rfl

end Errand

/-- What goes out between two batches, and the next batch with what becomes of it. -/
structure Round where
  delivered : List Int
  errand : Errand

/-- The deliveries of the batches of some rounds. -/
def upcoming (rounds : List Round) : List Int := rounds.flatMap (ids ·.errand.batch)

/-- Whether all that goes out is for the batch of the round or a later one, and a batch is out by the
time it is processed. `out` is what has gone out before. -/
def Timely (out : List Int) : List Round → Prop
  | [] => True
  | r :: later => ids r.errand.batch ⊆ out ++ r.delivered ∧ r.delivered ⊆ upcoming (r :: later) ∧
      Timely (out ++ r.delivered) later

instance decidableTimely (out : List Int) : (rounds : List Round) → Decidable (Timely out rounds)
  | [] => .isTrue trivial
  | r :: later =>
    have := decidableTimely (out ++ r.delivered) later
    inferInstanceAs (Decidable (_ ∧ _ ∧ _))

/-- A processor beside the book of its broker. -/
structure Desk where
  processor : Processor
  broker : Broker

namespace Desk

/-- A desk before any batch. -/
def fresh (mode : AckMode) : Desk := ⟨.fresh mode, .fresh⟩

/-- The book when a batch comes up. -/
def stocked (d : Desk) (r : Round) : Broker := r.delivered.foldl Broker.deliver d.broker

/-- A desk after a round, and the fault that is passed on. -/
def serve (d : Desk) (r : Round) : Desk × Option Fault :=
  let (p, acts, fault) := d.processor.process r.errand.broker r.errand.batch r.errand.answer
  (⟨p, (d.stocked r).settleAll r.errand.broker (made acts)⟩, fault)

/-- What is seen after each round: the sets of the book, and the fault that is passed on. -/
def outcomes : Desk → List Round → List ((Finset Int × Finset Int × Finset Int) × Option Fault)
  | _, [] => []
  | d, r :: later =>
    let (e, fault) := d.serve r
    (e.broker.sets, fault) :: e.outcomes later

/-- The calls that a desk makes in a round. -/
def calls (d : Desk) (r : Round) : List Call :=
  if r.errand.batch.isEmpty then []
  else r.errand.calls (d.processor.mode = .batched ∧ d.processor.failedNacks = [])

variable {d : Desk} {r : Round}

theorem serve_eq (ordinary : r.errand.Ordinary) (d : Desk) :
    (d.serve r).1.broker = (d.stocked r).settleAll r.errand.broker (d.calls r) ∧
      (d.serve r).2 = r.errand.failure ∧ (d.serve r).1.processor.mode = d.processor.mode := by
  have walked := Processor.walked_process ordinary d.processor
  simp only [serve,walked.made,walked.failure,walked.mode,calls,and_self]

/-- No nack is remembered as failed after a round if none was before and none fails in it. -/
theorem failedNacks_serve_eq_nil (ordinary : r.errand.Ordinary) (d : Desk) :
    (d.serve r).1.processor.failedNacks = [] ↔ d.processor.failedNacks = [] ∧
      ∀ id requeue, .nack id requeue ∈ d.calls r → r.errand.broker (.nack id requeue) = none := by
  have walked := Processor.walked_process ordinary d.processor
  simp only [List.eq_nil_iff_forall_not_mem,serve,walked.memory,not_or,not_exists,not_and,
    Bool.not_eq_true,Option.isSome_eq_false_iff,Option.isNone_iff_eq_none,forall_and,calls]

theorem id_mem_of_calls {c : Call} (hc : c ∈ d.calls r) : c.id ∈ ids r.errand.batch := by
  unfold calls at hc
  split at hc
  · cases hc
  · exact Errand.id_mem_of_calls hc

theorem reached {id : Int} (hid : id ∈ ids r.errand.batch) :
    ∃ c ∈ d.calls r, Broker.reaches c id := by
  have filled : r.errand.batch ≠ [] := fun hb => by simp [hb] at hid
  rw [calls,if_neg (by simpa using filled)]
  exact Errand.reached hid

end Desk

/-- Two desks, one of each mode, that have served the same rounds: `out` has gone out, and the rounds
`later` are to come. As long as no nack has failed nothing is left out but what is still to come. -/
structure Lockstep (out : List Int) (later : List Round) (a b : Desk) : Prop where
  together : a.processor.mode = .batched
  apart : b.processor.mode = .individual
  memory : a.processor.failedNacks = [] ↔ b.processor.failedNacks = []
  sets : a.broker.sets = b.broker.sets
  clean : a.processor.failedNacks = [] → a.broker.outstanding ⊆ upcoming later
  waiting : ∀ id ∈ out, id ∈ upcoming later → id ∈ a.broker.outstanding

namespace Lockstep

variable {out : List Int} {later : List Round} {r : Round} {a b : Desk}

/-- The desks make the same calls, or all of a batch is acked and no nack has failed before. -/
theorem calls_eq_or (h : Lockstep out (r :: later) a b) : a.calls r = b.calls r ∨
    r.errand.answer = .outcome .success ∧ r.errand.batch ≠ [] ∧ a.processor.failedNacks = [] := by
  by_cases filled : r.errand.batch = []
  · exact .inl (by simp [Desk.calls,filled])
  · by_cases success : r.errand.answer = .outcome .success
    · by_cases failed : a.processor.failedNacks = []
      · exact .inr ⟨success,filled,failed⟩
      · exact .inl (by simp [Desk.calls,failed,h.memory.not.mp failed])
    · exact .inl (by simp only [Desk.calls,Errand.calls_eq success _ false])

theorem stocked (h : Lockstep out (r :: later) a b) (timely : Timely out (r :: later)) :
    (a.stocked r).sets = (b.stocked r).sets ∧ ids r.errand.batch ⊆ (a.stocked r).outstanding ∧
      (a.processor.failedNacks = [] → (a.stocked r).outstanding ⊆ upcoming (r :: later)) ∧
      ∀ id ∈ out ++ r.delivered, id ∈ upcoming (r :: later) → id ∈ (a.stocked r).outstanding := by
  obtain ⟨due,meant,-⟩ := timely
  have all : ∀ id ∈ out ++ r.delivered, id ∈ upcoming (r :: later) →
      id ∈ (a.stocked r).outstanding := by
    intro id hid hup
    rw [Desk.stocked,Broker.foldl_deliver]
    exact (List.mem_append.mp hid).elim (fun h' => List.mem_append_left _ (h.waiting id h' hup))
      (List.mem_append_right _)
  refine ⟨Broker.sets_deliver h.sets _,fun id hid => ?_,fun failed => ?_,all⟩
  · exact all id (due hid) (List.mem_append_left _ hid)
  · rw [Desk.stocked,Broker.foldl_deliver]
    exact List.append_subset.mpr ⟨h.clean failed,meant⟩

variable (increasing : (upcoming (r :: later)).Pairwise (· < ·))
include increasing

/-- Acked together or one by one, a batch comes to the same: nothing but the batch is out up to its
largest id. -/
theorem sets_serve (h : Lockstep out (r :: later) a b) (timely : Timely out (r :: later))
    (ordinary : r.errand.Ordinary) (acks : ∀ id cumulative, r.errand.broker (.ack id cumulative) = none) :
    (a.serve r).1.broker.sets = (b.serve r).1.broker.sets := by
  rw [(a.serve_eq ordinary).1,(b.serve_eq ordinary).1]
  obtain ⟨same,due,meant,-⟩ := h.stocked timely
  rcases h.calls_eq_or with calls | ⟨success,filled,failed⟩
  · rw [calls]
    exact Broker.sets_settleAll same _ _
  · obtain ⟨n,hn,together,largest⟩ := Errand.calls_together success filled
    have all : ∀ xs : List Int, ((xs.map (Call.ack · false)).filter fun c => (r.errand.broker c).isNone) =
        xs.map (Call.ack · false) := fun xs => List.filter_eq_self.mpr fun c hc => by
      obtain ⟨id,-,rfl⟩ := List.mem_map.mp hc
      simp [acks]
    have hb : b.calls r = (distinctIds r.errand.batch).map (.ack · false) := by
      simp [Desk.calls,filled,h.apart,Errand.calls_apart success]
    have ha : a.calls r = [.ack n true] := by
      simp [Desk.calls,filled,h.together,failed,together]
    -- no nack has failed before, so all that is out is in this batch or in a later one with larger ids
    have upTo : ∀ id ∈ (a.stocked r).outstanding, id ≤ n ↔ id ∈ distinctIds r.errand.batch := by
      intro id hid
      rw [mem_distinctIds]
      refine ⟨fun le => ?_,largest id⟩
      refine (List.mem_append.mp (meant failed hid)).resolve_right fun hl => ?_
      exact Int.not_lt.mpr le ((List.pairwise_append.mp increasing).2.2 n hn id hl)
    have out : distinctIds r.errand.batch ⊆ (a.stocked r).outstanding :=
      fun id hid => due (mem_distinctIds.mp hid)
    calc ((a.stocked r).settleAll r.errand.broker (a.calls r)).sets
      _ = ((a.stocked r).settle (.ack n true)).sets := by simp [ha,Broker.settleAll,acks]
      _ = (((distinctIds r.errand.batch).map (Call.ack · false)).foldl Broker.settle (a.stocked r)).sets :=
        Broker.sets_together out upTo
      _ = ((a.stocked r).settleAll r.errand.broker (b.calls r)).sets := by rw [hb,Broker.settleAll,all]
      _ = ((b.stocked r).settleAll r.errand.broker (b.calls r)).sets := Broker.sets_settleAll same _ _

/-- A round keeps two desks in lockstep. -/
theorem serve (h : Lockstep out (r :: later) a b) (timely : Timely out (r :: later))
    (ordinary : r.errand.Ordinary) (acks : ∀ id cumulative, r.errand.broker (.ack id cumulative) = none) :
    Lockstep (out ++ r.delivered) later (a.serve r).1 (b.serve r).1 := by
  obtain ⟨-,-,meant,all⟩ := h.stocked timely
  obtain ⟨served,-,mode⟩ := a.serve_eq ordinary
  have nacks : ∀ id requeue, .nack id requeue ∈ a.calls r ↔ .nack id requeue ∈ b.calls r := by
    intro id requeue
    rcases h.calls_eq_or with calls | ⟨success,filled,failed⟩
    · rw [calls]
    · obtain ⟨n,-,together,-⟩ := Errand.calls_together success filled
      simp [Desk.calls,filled,h.together,h.apart,failed,together,Errand.calls_apart success]
  exact {
    together := mode.trans h.together
    apart := (b.serve_eq ordinary).2.2.trans h.apart
    memory := by
      rw [Desk.failedNacks_serve_eq_nil ordinary,Desk.failedNacks_serve_eq_nil ordinary,h.memory]
      simp only [nacks]
    sets := h.sets_serve increasing timely ordinary acks
    clean := fun failed id hid => by
      obtain ⟨before,none⟩ := (Desk.failedNacks_serve_eq_nil ordinary a).mp failed
      rw [served] at hid
      have hup := meant before (Broker.outstanding_settleAll_subset _ _ _ hid)
      refine (List.mem_append.mp hup).resolve_left fun hb => ?_
      obtain ⟨c,hc,hr⟩ := Desk.reached (d := a) hb
      refine Broker.not_mem_outstanding_settleAll hc ?_ hr hid
      cases c with
      | ack n cumulative => exact acks n cumulative
      | nack n requeue => exact none n requeue hc
    waiting := fun id hid hup => by
      rw [served]
      refine Broker.mem_outstanding_settleAll (all id hid (List.mem_append_right _ hup)) fun c hc hr => ?_
      have lt := (List.pairwise_append.mp increasing).2.2 c.id (Desk.id_mem_of_calls hc) id hup
      rcases Broker.reaches_iff.mp hr with he | ⟨-,hl⟩ <;> omega }

end Lockstep

namespace Desk

/-- Three pairs, of which the second goes out with the first; its second delivery fails, and so does the
nack for it. -/
def pairs : List Round :=
  [⟨[1, 2, 3, 4], ⟨[⟨1, [], "orders"⟩, ⟨2, [], "orders"⟩], .outcome .success, fun _ => none⟩⟩,
    ⟨[5], ⟨[⟨3, [], "orders"⟩, ⟨4, [], "orders"⟩], .outcome (.partialFailure [4] []), fun c =>
      if c = .nack 4 true then some ⟨.settlement, "channel busy"⟩ else none⟩⟩,
    ⟨[6], ⟨[⟨5, [], "orders"⟩, ⟨6, [], "orders"⟩], .outcome .success, fun _ => none⟩⟩]

end Desk
end Baler
