import Baler.Amqp.Stream
import Baler.Proofs.Broker
import Mathlib.Data.List.Perm.Subperm

/-! The pending deliveries of a channel over any history. A bystander writes down what is done with the
channel and what the channel does, and can tell from that alone which messages are pending. -/
namespace Baler.Amqp

/-- What is done with a channel: its stream takes a message in; a call settles deliveries, and the
broker answers for each message as told; or the channel is closed. -/
inductive Operation
  | deliver (d : Delivery)
  | settle (call : Settlement.Call) (reply : Delivery → Option Fault)
  | close (replies : Replies)

/-- The message that an operation brings. -/
def Operation.delivery? : Operation → Option Delivery
  | .deliver d => some d
  | _ => none

/-- Whether an operation ends with the fault of an ack or a nack. -/
def Channel.Result.isRefused (r : Channel.Result) : Bool := r.fault.any (·.kind = .settlement)

/-- What a channel makes of an operation. -/
def Channel.perform (c : Channel) : Operation → Channel.Result
  | .deliver d =>
    match Stream.takeIn c d with
    | .ok (c, _) => ⟨c, [], none⟩
    | .error f => ⟨c, [], some f⟩
  | .settle call reply => c.settle call reply
  | .close replies => c.close replies

/-- An operation with what the channel did. -/
structure Passage where
  operation : Operation
  acts : List Act

namespace Passage

/-- Whether a message has been put under an id. -/
def Brings (p : Passage) (id : Int) (d : Delivery) : Prop :=
  p.operation = .deliver d ∧ ∃ h, d.handle? = .ok h ∧ h.id = id

/-- Whether what was pending under an id is so no more: another message was put there, a call reaches
the id and was passed on to the broker, or the channel was closed. -/
def Ends (p : Passage) (id : Int) : Prop :=
  match p.operation with
  | .deliver d => ∃ h, d.handle? = .ok h ∧ h.id = id
  | .settle call _ => settledBy p.acts ≠ [] ∧ Broker.reaches call id
  | .close _ => True

theorem brings_deliver {d e : Delivery} {acts : List Act} {id : Int} :
    Brings ⟨.deliver d,acts⟩ id e ↔ e = d ∧ ∃ h, d.handle? = .ok h ∧ h.id = id := by
  constructor
  · rintro ⟨ho,hh⟩
    obtain rfl := Operation.deliver.inj ho
    exact ⟨rfl,hh⟩
  · rintro ⟨rfl,hh⟩
    exact ⟨rfl,hh⟩

end Passage

/-- Whether a message is the last that was put under an id, and nothing has ended that since. -/
def Latest (past : List Passage) (id : Int) (d : Delivery) : Prop :=
  ∃ before p after, past = before ++ p :: after ∧ p.Brings id d ∧ ∀ q ∈ after, ¬ q.Ends id

/-- A channel, and all that was done with it. -/
structure Chronicle where
  channel : Channel
  past : List Passage

namespace Chronicle

/-- A channel on which nothing is pending. -/
def start (c : Channel) : Chronicle := ⟨{ c with pending := .empty }, []⟩

/-- A channel after one more operation. -/
def next (h : Chronicle) (o : Operation) : Chronicle :=
  let r := h.channel.perform o
  ⟨r.channel, h.past ++ [⟨o, r.acts⟩]⟩

/-- A channel after more operations. -/
def after (h : Chronicle) (os : List Operation) : Chronicle := os.foldl next h

/-- The messages that have come, in order. -/
def delivered (h : Chronicle) : List Delivery := h.past.filterMap (·.operation.delivery?)

/-- The messages that acks and nacks were passed on for, in order. -/
def settled (h : Chronicle) : List Delivery := h.past.flatMap (settledBy ·.acts)

end Chronicle

theorem not_latest_nil (id : Int) (d : Delivery) : ¬ Latest [] id d := by
  rintro ⟨before,p,after,h,-,-⟩
  simp at h

/-- Under an id is what the newest passage has put there, or what was there and has not been ended. -/
theorem latest_concat {past : List Passage} {p : Passage} {id : Int} {d : Delivery} :
    Latest (past ++ [p]) id d ↔ p.Brings id d ∨ ¬ p.Ends id ∧ Latest past id d := by
  constructor
  · rintro ⟨before,q,after,h,brings,kept⟩
    rcases List.eq_nil_or_concat' after with rfl | ⟨later,r,rfl⟩
    · obtain ⟨-,hp⟩ := List.append_inj' h rfl
      obtain rfl := List.singleton_inj.mp hp
      exact .inl brings
    · rw [← List.cons_append,← List.append_assoc] at h
      obtain ⟨hs,hp⟩ := List.append_inj' h rfl
      obtain rfl := List.singleton_inj.mp hp
      exact .inr ⟨kept p (by simp),before,q,later,hs,brings,
        fun r hr => kept r (List.mem_append_left _ hr)⟩
  · rintro (brings | ⟨ended,before,q,after,rfl,brings,kept⟩)
    · exact ⟨past,p,[],rfl,brings,fun q hq => by cases hq⟩
    · refine ⟨before,q,after ++ [p],by simp,brings,fun r hr => ?_⟩
      rcases List.mem_append.mp hr with hr | hr
      · exact kept r hr
      · exact List.mem_singleton.mp hr ▸ ended

theorem Pending.values_erase_subperm {α : Type} {p : Pending α} {id : Int} {a : α}
    (h : p.find? id = some a) : (a :: (p.erase id).values).Subperm p.values := by
  obtain ⟨before,after,hs,-⟩ := List.lookup_eq_some_iff.mp h
  have fewer : (p.erase id).values.Sublist ((before ++ after).map (·.2)) := by
    have others : (p.erase id).entries = (before ++ after).filter fun e => e.1 ≠ id := by
      simp [erase,filter,hs]
    rw [values,others]
    exact List.filter_sublist.map _
  have moved : (a :: (before ++ after).map (·.2)).Perm p.values := by
    rw [values,hs,List.map_append,List.map_append]
    exact List.perm_middle.symm
  exact (fewer.cons_cons a).subperm.trans moved.subperm

/-- The message that a call takes and those that it leaves were pending. -/
theorem Pending.values_settle_subperm {α : Type} {p q : Pending α} {id : Int} {a : α}
    {cumulative : Bool} (h : p.settle? id cumulative = some (q,a)) : (a :: q.values).Subperm p.values := by
  simp only [settle?,Option.map_eq_some_iff,Prod.mk.injEq] at h
  obtain ⟨b,hb,rfl,rfl⟩ := h
  have taken := values_erase_subperm hb
  cases cumulative with
  | false => exact taken
  | true =>
    have fewer : ((p.erase id).eraseBelow id).values.Sublist (p.erase id).values :=
      values_filter_sublist _ _
    exact (fewer.cons_cons b).subperm.trans taken

/-- Closing the connection settles nothing and forgets nothing. -/
theorem Channel.pending_closeConnection (c : Channel) (replies : Replies) :
    (c.closeConnection replies).channel.pending = c.pending ∧
      settledBy (c.closeConnection replies).acts = [] := by
  unfold closeConnection
  split
  · exact ⟨rfl,rfl⟩
  · split
    · exact ⟨rfl,rfl⟩
    · split <;> exact ⟨rfl,rfl⟩

theorem Channel.pending_release (c : Channel) (replies : Replies) :
    (c.release replies).channel.pending = c.pending ∧ settledBy (c.release replies).acts = [] := by
  have rest := pending_closeConnection { c with hasChannel := false } replies
  unfold release
  split
  · exact c.pending_closeConnection replies
  · split
    · exact rest
    · split
      · exact rest
      · exact ⟨rfl,rfl⟩

/-- A channel that is closed forgets what was pending and settles nothing. -/
theorem Channel.pending_close (c : Channel) (replies : Replies) :
    (c.close replies).channel.pending = .empty ∧ settledBy (c.close replies).acts = [] := by
  have rest := pending_release { c with stage := .closing, pending := .empty } replies
  unfold close
  dsimp only
  split <;> exact rest

namespace Channel

variable {c : Channel} {call : Settlement.Call} {d : Delivery}

/-- A call for a delivery that is pending takes it out with all that it reaches. -/
theorem settle_of_pending (h : c.pending.find? call.id = some d) : ∃ q,
    (∀ reply, c.settle call reply = ⟨{ c with pending := q },[.call (onLine d call)],
      (reply d).map (refusal call.verdict.name call.id)⟩) ∧
    (d :: q.values).Subperm c.pending.values ∧
    ∀ i e, q.find? i = some e ↔ c.pending.find? i = some e ∧ ¬ Broker.reaches call i := by
  obtain ⟨q,taken,found⟩ := Pending.settle?_eq_some h call.isCumulative
  refine ⟨q,settle_of_taken taken,Pending.values_settle_subperm taken,fun i e => ?_⟩
  rw [found,Broker.reaches_iff]
  by_cases hr : i = call.id ∨ call.isCumulative = true ∧ i < call.id <;> simp [hr]

theorem settledBy_onLine (d : Delivery) (call : Settlement.Call) :
    settledBy [.call (onLine d call)] = [d] := by
  cases call <;> rfl

/-- What is pending after an operation is what it brings, or was pending and is not ended by it. -/
theorem find?_perform (c : Channel) (o : Operation) (id : Int) (e : Delivery) :
    (c.perform o).channel.pending.find? id = some e ↔
      (⟨o,(c.perform o).acts⟩ : Passage).Brings id e ∨
        ¬ (⟨o,(c.perform o).acts⟩ : Passage).Ends id ∧ c.pending.find? id = some e := by
  cases o with
  | deliver d =>
    rw [Passage.brings_deliver]
    cases hd : d.handle? with
    | error f => simp [perform,Stream.takeIn_of_error hd,Passage.Ends,hd]
    | ok h =>
      simp only [perform,Stream.takeIn_of_ok hd,track,Pending.find?_track,Passage.Ends,hd]
      by_cases hi : id = h.id
      · simp [hi,eq_comm]
      · simp [hi,Ne.symm hi]
  | settle call reply =>
    have still : ∀ acts, ¬ (⟨.settle call reply,acts⟩ : Passage).Brings id e := by
      rintro acts ⟨ho,-⟩
      cases ho
    simp only [perform,still,false_or]
    cases hp : c.pending.find? call.id with
    | none => simp [settle_of_missing hp,Passage.Ends]
    | some d =>
      obtain ⟨q,settled,-,found⟩ := settle_of_pending hp
      simp [settled,found,Passage.Ends,settledBy_onLine,and_comm]
  | close replies =>
    have still : ∀ acts, ¬ (⟨.close replies,acts⟩ : Passage).Brings id e := by
      rintro acts ⟨ho,-⟩
      cases ho
    simp [perform,still,(c.pending_close replies).1,Passage.Ends]

/-- The messages that an operation settles, and those that are pending after it, were pending before
or come with it. -/
theorem messages_perform (c : Channel) (o : Operation) :
    (settledBy (c.perform o).acts ++ (c.perform o).channel.pending.values).Subperm
      (c.pending.values ++ o.delivery?.toList) := by
  cases o with
  | deliver d =>
    cases hd : d.handle? with
    | error f =>
      simp only [perform,Stream.takeIn_of_error hd]
      exact (List.sublist_append_left _ _).subperm
    | ok h =>
      simp only [perform,Stream.takeIn_of_ok hd,track,Operation.delivery?,Option.toList_some]
      -- a message under the same id is forgotten, and never settled
      have put : (c.pending.track h.id d).values = (c.pending.erase h.id).values ++ [d] := by
        simp [Pending.values,Pending.track]
      rw [settledBy_nil,List.nil_append,put]
      have fewer : (c.pending.erase h.id).values.Sublist c.pending.values :=
        c.pending.values_filter_sublist _
      exact (fewer.append_right [d]).subperm
  | settle call reply =>
    simp only [perform,Operation.delivery?,Option.toList_none,List.append_nil]
    cases hp : c.pending.find? call.id with
    | none =>
      rw [settle_of_missing hp]
      exact List.Subperm.refl _
    | some d =>
      obtain ⟨q,settled,fewer,-⟩ := settle_of_pending hp
      rw [settled,settledBy_onLine]
      exact fewer
  | close replies =>
    obtain ⟨empty,none⟩ := c.pending_close replies
    simp only [perform,empty,none]
    exact List.nil_subperm

end Channel

/-- The fault of a call that the broker refuses tells so if it may be absorbed. -/
theorem Channel.kind_refusal (verb : String) (id : Int) (f : Fault) :
    (refusal verb id f).kind = .settlement ↔ f.isOrdinary = true := by
  unfold refusal
  cases hf : f.isOrdinary with
  | true => simp [hf]
  | false =>
    simp only [Fault.isOrdinary_leavingCall,hf,Bool.false_eq_true,if_false,iff_false]
    intro hk
    rw [← Fault.isOrdinary_leavingCall,Fault.isOrdinary,hk] at hf
    cases hf

/-- A channel to a broker that is near. -/
def Channel.nearby : Channel := .fresh ⟨"localhost", 5672, "guest", "guest", "/", "", 10⟩

/-- A message with a tag and no body. -/
def Delivery.numbered (serial : Nat) (tag : Int) : Delivery := ⟨serial, .whole tag, .bytes [], none⟩

namespace Chronicle

variable {h : Chronicle}

/-- What every operation keeps holds after any operations. -/
theorem after_induction {P : Chronicle → Prop} (init : P h) (step : ∀ h o, P h → P (h.next o))
    (os : List Operation) : P (h.after os) := by
  induction os generalizing h with
  | nil => exact init
  | cons o os ih => exact ih (step h o init)

/-- Whether the bystander knows what is pending. -/
def Faithful (h : Chronicle) : Prop :=
  ∀ id d, h.channel.pending.find? id = some d ↔ Latest h.past id d

theorem faithful_start (c : Channel) : (start c).Faithful := fun id d => by
  simp [start,not_latest_nil]

theorem Faithful.next (hf : h.Faithful) (o : Operation) : (h.next o).Faithful := by
  intro id d
  simp only [Chronicle.next,latest_concat,Channel.find?_perform,hf id d]

/-- What an operation adds to the messages that have come, and to those that were settled. -/
theorem delivered_next (h : Chronicle) (o : Operation) :
    (h.next o).delivered = h.delivered ++ o.delivery?.toList := by
  cases o <;> simp [next,delivered,Operation.delivery?]

theorem settled_next (h : Chronicle) (o : Operation) :
    (h.next o).settled = h.settled ++ settledBy (h.channel.perform o).acts := by
  simp [next,settled]

/-- Every message that has come is in one place at most: it was settled, or is pending. -/
def Apart (h : Chronicle) : Prop := (h.settled ++ h.channel.pending.values).Subperm h.delivered

theorem Apart.next (ha : h.Apart) (o : Operation) : (h.next o).Apart := by
  have step := (List.subperm_append_left h.settled).mpr (h.channel.messages_perform o)
  rw [← List.append_assoc,← List.append_assoc] at step
  rw [Apart,settled_next,delivered_next]
  exact step.trans ((List.subperm_append_right _).mpr ha)

/-- A message that is in one place at most is settled once at most. -/
theorem Apart.settled_nodup (ha : h.Apart) (distinct : (h.delivered.map (·.serial)).Nodup) :
    (h.settled.map (·.serial)).Nodup := by
  obtain ⟨placed,perm,sub⟩ := (List.sublist_append_left h.settled _).subperm.trans ha
  exact (perm.map _).nodup_iff.mp (distinct.sublist (sub.map _))

/-- After any deliveries, acks, nacks and closings of a channel, whatever the broker has answered: under
an id the last message is pending that was put there and not been ended since. A call for an id that is
not pending is refused, passes nothing on and changes nothing; any other is passed on for the message
of its id alone, takes out all that it reaches, and is refused exactly if the broker answers with a
fault that may be absorbed. No message is settled twice. -/
theorem pending_of_history (c : Channel) (os : List Operation) :
    let h := (start c).after os
    (∀ id d, h.channel.pending.find? id = some d ↔ Latest h.past id d) ∧
    (∀ id, id ∈ h.channel.pending.ids ↔ ∃ d, Latest h.past id d) ∧
    (∀ call reply, let r := h.channel.settle call reply
      (r.isRefused = true ∧ r.channel = h.channel ∧ r.acts = [] ↔ call.id ∉ h.channel.pending.ids) ∧
      ∀ d, Latest h.past call.id d → r.acts = [.call (Channel.onLine d call)] ∧
        (r.isRefused = true ↔ ∃ f, reply d = some f ∧ f.isOrdinary = true) ∧
        ∀ id, id ∈ r.channel.pending.ids ↔
          id ∈ h.channel.pending.ids ∧ ¬ Broker.reaches call id) ∧
    ((h.delivered.map (·.serial)).Nodup → (h.settled.map (·.serial)).Nodup) := by
  intro h
  have faithful : h.Faithful := after_induction (faithful_start c) (fun _ o hf => hf.next o) os
  have init : (start c).Apart := List.Subperm.refl []
  have apart : h.Apart := after_induction (P := Apart) init (fun _ o ha => ha.next o) os
  refine ⟨faithful,fun id => ?_,fun call reply => ⟨?_,fun d latest => ?_⟩,apart.settled_nodup⟩
  · rw [Pending.mem_ids_iff]
    exact exists_congr (faithful id)
  · cases hp : h.channel.pending.find? call.id with
    | none =>
      have missing : call.id ∉ h.channel.pending.ids := by simp [Pending.mem_ids_iff,hp]
      rw [Channel.settle_of_missing hp]
      exact ⟨fun _ => missing,fun _ => ⟨rfl,rfl,rfl⟩⟩
    | some d =>
      have known : call.id ∈ h.channel.pending.ids := Pending.mem_ids_iff.mpr ⟨d,hp⟩
      obtain ⟨q,settled,-⟩ := Channel.settle_of_pending hp
      simp [settled,known]
  · obtain ⟨q,settled,-,found⟩ := Channel.settle_of_pending ((faithful _ d).mpr latest)
    rw [settled]
    refine ⟨rfl,?_,fun id => ?_⟩
    · simp [Channel.Result.isRefused,Option.any_map,Option.any_eq_true,Channel.kind_refusal]
    · simp only [Pending.mem_ids_iff,found,exists_and_right]

/-- The broker is busy. -/
def busy : Fault := ⟨.other "TimeoutError", "broker busy"⟩

/-- The second tag comes twice; an ack up to it fails. After a close the third tag comes again. -/
def repeats : List Operation :=
  [.deliver (.numbered 0 1), .deliver (.numbered 1 2), .deliver (.numbered 2 2), .deliver (.numbered 3 3),
    .settle (.ack 2 true) (fun _ => some busy), .close (fun _ => none), .deliver (.numbered 4 3)]

theorem pending_after_repeats :
    let h := (start .nearby).after repeats
    Latest h.past 3 (.numbered 4 3) ∧ (h.delivered.map (·.serial)).Nodup ∧
      (h.channel.settle (.nack 3 true) (fun _ => some busy)).isRefused = true ∧
      h.settled.map (·.serial) = [2] ∧ (h.settled.map (·.serial)).Nodup := by
  intro h
  obtain ⟨found,-,settling,once⟩ := pending_of_history .nearby repeats
  have latest : Latest h.past 3 (.numbered 4 3) := (found 3 _).mp rfl
  have distinct : (h.delivered.map (·.serial)).Nodup := by decide
  have refused := ((settling (.nack 3 true) (fun _ => some busy)).2 _ latest).2.1
  exact ⟨latest,distinct,refused.mpr ⟨busy,rfl,rfl⟩,by decide,once distinct⟩

end Chronicle
end Baler.Amqp
