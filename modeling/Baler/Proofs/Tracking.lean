import Baler.Proofs.CallsInFlight
import Baler.Proofs.PendingDeliveries

/-! A consumer on a channel. What the consumer may still call for is, in order, a part of what it was
handed, and every call reaches only deliveries that it has nothing left to call for; so each call finds
its delivery pending. -/
namespace Baler

open Settlement

variable {τ : Type}

/-- The ids that a consumer may still call for: those that its plan has left after the call in flight,
the batch that is with the strategy, what is buffered and what is not read yet. -/
def Consumer.agenda (c : Consumer τ) : List Int :=
  c.calls.tail.map Call.id ++ ids (c.deciding.toList.flatten ++ c.buffer.items ++ c.unread)

section

variable {c d e : Consumer τ} {r : Run τ} {x : Sight} {batches : List (List Handle)} {calls : List Call}

/-- Calls and agenda stay within calls that were due, what was buffered and what was not read. -/
theorem Consumer.agenda_sublist {due : List Call} {buffered unread : List Handle}
    (called : (calls ++ d.calls.tail).Sublist due) (deciding : d.deciding.toList = batches)
    (conserves : batches.flatten ++ d.buffer.items = buffered) (read : d.unread.Sublist unread) :
    (calls.map Call.id ++ d.agenda).Sublist (due.map Call.id ++ ids (buffered ++ unread)) := by
  rw [agenda,deciding,conserves,← List.append_assoc,← List.map_append]
  exact (called.map _).append ((read.append_left buffered).map _)

theorem Resumes.agenda_sublist (h : Resumes e r d batches) :
    d.agenda.Sublist (ids (e.buffer.items ++ r.receive.unread)) := by
  have none : ([] ++ d.calls.tail).Sublist ([] : List Call) := by
    rw [h.no_calls]
    exact List.Sublist.refl _
  exact Consumer.agenda_sublist none h.deciding h.conserves (by rw [h.unread])

theorem Advances.agenda_sublist {trigger : Trigger} {size : Nat} {progress : Progress} {due : List Call}
    (h : Advances c r trigger size progress d batches calls) (called : (calls ++ d.calls.tail).Sublist due) :
    (calls.map Call.id ++ d.agenda).Sublist (due.map Call.id ++ ids (c.buffer.items ++ r.receive.unread)) :=
  Consumer.agenda_sublist called h.deciding h.conserves h.unread_sublist

theorem Leaves.agenda_sublist {n : Nat} {q : Receive} (h : Leaves c n q d) :
    d.agenda.Sublist (ids (c.buffer.items ++ q.unread)) := by
  have none : ([] ++ d.calls.tail).Sublist ([] : List Call) := by
    rw [Consumer.calls_of_outside h.outside]
    exact List.Sublist.refl _
  have idle : d.deciding.toList = [] := by rw [Consumer.deciding_of_outside h.outside]; rfl
  exact Consumer.agenda_sublist none idle (by rw [h.buffer]; rfl) h.unread_sublist

/-- What is buffered and not read is on the agenda. -/
theorem Consumer.ids_sublist_agenda (c : Consumer τ) :
    (ids (c.buffer.items ++ c.unread)).Sublist c.agenda := by
  refine List.Sublist.trans (List.Sublist.map _ ?_) (List.sublist_append_right _ _)
  rw [List.append_assoc]
  exact List.sublist_append_right _ _

/-- A walk through calls makes the first, and leaves the others. -/
theorem Walk.called {cs : List Call} {failure : Option Fault} {p : Progress} {trigger : Trigger}
    {size : Nat} (walk : Walk cs failure p) (go : Advances c r trigger size p d batches calls) :
    calls ++ d.calls.tail = cs := by
  rw [walk.asked_eq go,walk.calls_eq go]
  cases cs <;> rfl

theorem Resumed.called {p q : Processor} {rest : List Step} {failure fault : Option Fault}
    {first : Call} {progress : Progress} {trigger : Trigger} {size : Nat}
    (res : Resumed p rest failure first fault q progress)
    (go : Advances c r trigger size progress d batches calls) :
    (calls ++ d.calls.tail).Sublist (callsOf rest) := by
  have done : ∀ f, progress = .finished f → (calls ++ d.calls.tail).Sublist (callsOf rest) := by
    rintro f rfl
    rw [go.asks_nothing,go.no_calls]
    exact List.nil_sublist _
  cases res with
  | taken walk => exact walk.called go ▸ List.Sublist.refl _
  | ackFailed ordinary walk => exact walk.called go ▸ List.Sublist.refl _
  | nackFailed ordinary walk => exact walk.called go ▸ List.Sublist.refl _
  | cumulativeFailed ordinary => exact done _ rfl
  | broken grave => exact done _ rfl

/-- A move makes calls from the agenda and leaves what comes after them, with what is handed over. -/
theorem Move.agenda_sublist (m : Move c x d batches calls) :
    (calls.map Call.id ++ d.agenda).Sublist (c.agenda ++ ids x.handing) := by
  have within : d.agenda.Sublist c.agenda → d.agenda.Sublist (c.agenda ++ ids x.handing) :=
    fun h => h.trans (List.sublist_append_left _ _)
  cases m with
  | stays => exact within (List.Sublist.refl _)
  | refused exit hr =>
    refine within ?_
    simp only [Consumer.agenda,Consumer.calls,Consumer.deciding,Consumer.unread,Consumer.halt,hr]
    exact List.Sublist.refl _
  | @answered r got hr hq =>
    have none : c.unread = [] := by rw [Consumer.unread_of_run hr,hq]; rfl
    rw [Consumer.agenda,Consumer.calls_answered hr,Consumer.deciding_answered hr,Consumer.agenda,none,
      Reception.handing_sight]
    simp [ids,Consumer.unread,Consumer.suspend]
  | @fills r h hr hp hq full =>
    refine within (List.Sublist.trans ?_ c.ids_sublist_agenda)
    rw [Consumer.unread_of_run hr,hq]
    simp [Consumer.agenda,Consumer.calls,Consumer.deciding,Consumer.unread,Consumer.suspend,Phase.calls,
      Phase.deciding,Receive.unread]
  | @turns x e r d batches why go =>
    refine within (List.Sublist.trans ?_ c.ids_sublist_agenda)
    have h := go.agenda_sublist
    rwa [why.nothing_unread,List.append_nil,why.buffer,← why.reads_unread] at h
  | @advances r trigger size work x q progress d batches calls hr hp why go =>
    -- what is with the strategy becomes calls here, so the plan must stay within the batch
    refine List.Sublist.trans ?_ (List.sublist_append_left _ _)
    have left : c.agenda = (Phase.flushing trigger size work).calls.tail.map Call.id ++
        ids ((Phase.flushing trigger size work).deciding.toList.flatten ++ c.buffer.items ++
          r.receive.unread) := by
      rw [Consumer.agenda,Consumer.calls_of_run hr,Consumer.deciding_of_run hr,Consumer.unread_of_run hr,hp]
    rw [left]
    cases why with
    | @judged batch a progress walk =>
      refine (go.agenda_sublist (by rw [walk.called go])).trans ?_
      have plan := ids_calls_sublist c.processor.mode c.processor.failedNacks batch a
      simpa [Phase.calls,Phase.deciding,ids] using plan.append_right (ids (c.buffer.items ++ r.receive.unread))
    | @replied call rest closing failure fault q progress res =>
      simpa [Phase.calls,Phase.deciding,ids] using go.agenda_sublist (res.called go)
  | @leaves r x ended receive d hr why out =>
    refine within (List.Sublist.trans out.agenda_sublist (List.Sublist.trans ?_ c.ids_sublist_agenda))
    rw [Consumer.unread_of_run hr]
    exact (why.unread_sublist.append_left _).map _

/-- An event makes one call at most, and then hands nothing over. -/
theorem Move.asked_eq (m : Move c x d batches calls) {call : Call} (h : call ∈ calls) :
    calls = [call] ∧ x.handing = [] := by
  cases m with
  | advances hr hp why go =>
    cases go with
    | asks => exact ⟨by rw [List.mem_singleton.mp h],why.quiet.1⟩
    | _ => cases h
  | _ => cases h

end

namespace Amqp.Channel

variable {c : Channel} {call : Settlement.Call} {id : Int}

/-- A call leaves pending what it does not reach. -/
theorem mem_ids_settle (h : id ∈ c.pending.ids) (apart : ¬ Broker.reaches call id)
    (reply : Delivery → Option Fault) : id ∈ (c.settle call reply).channel.pending.ids := by
  cases hp : c.pending.find? call.id with
  | none => rwa [settle_of_missing hp]
  | some d =>
    obtain ⟨q,settled,-,found⟩ := settle_of_pending hp
    obtain ⟨e,he⟩ := Pending.mem_ids_iff.mp h
    rw [settled]
    exact Pending.mem_ids_iff.mpr ⟨e,(found id e).mpr ⟨he,apart⟩⟩

/-- The channel after some calls, which does not depend on what the broker replies. -/
def settleAll (c : Channel) (calls : List Settlement.Call) : Channel :=
  calls.foldl (fun c call => (c.settle call fun _ => none).channel) c

theorem mem_ids_settleAll {calls : List Settlement.Call} (h : id ∈ c.pending.ids)
    (apart : ∀ call ∈ calls, ¬ Broker.reaches call id) : id ∈ (c.settleAll calls).pending.ids := by
  induction calls generalizing c with
  | nil => exact h
  | cons call rest ih =>
    obtain ⟨first,others⟩ := List.forall_mem_cons.mp apart
    exact ih (mem_ids_settle h first _) others

theorem refusal_ne_unknownDelivery (v : Verdict) (id i : Int) (f : Fault) :
    refusal v.name id f ≠ unknownDelivery i := by
  intro h
  have kind : (refusal v.name id f).kind = .settlement := by rw [h]; rfl
  have ordinary := (kind_refusal _ _ _).mp kind
  have text := congrArg (fun f => f.text.toList.head?) h
  simp only [refusal,ordinary,Fault.isOrdinary_leavingCall,if_true,unknownDelivery] at text
  cases v <;> simp [Verdict.name,String.toList_append,toString] at text

end Amqp.Channel

/-- Whether an event hands a delivery over. -/
def Event.handsOver : Event τ → Bool
  | .signal (.received got) => got.isDelivery
  | _ => false

/-- What happens to a consumer on a channel: its stream gets a message, or there is an event that hands
no delivery over. -/
inductive Occurrence (τ : Type)
  | message (d : Amqp.Delivery)
  | event (e : Event τ) (other : e.handsOver = false)

/-- A session of a consumer on a channel. -/
structure Attached (τ : Type) where
  session : Session τ
  channel : Amqp.Channel

/-- Whether a consumer waits for the answer to a request for a delivery. -/
def Consumer.asks (c : Consumer τ) : Bool := c.run.any (·.receive = .pending)

theorem Consumer.handing_of_other {c : Consumer τ} {e : Event τ} (other : e.handsOver = false) :
    (c.sight e).handing = [] := by
  cases e with
  | begin subscription now => rfl
  | signal s =>
    cases hr : c.run with
    | none => simp [sight,hr,Sight.handing]
    | some r =>
      simp only [sight,hr]
      split
      · cases other
      · split <;> rfl
      all_goals rfl

namespace Attached

/-- A session that begins on a channel. -/
def start (c : Consumer τ) (channel : Amqp.Channel) : Attached τ := ⟨.start c, channel⟩

variable [Add τ] [LE τ] [DecidableLE τ]

/-- An event reaches the consumer, and the calls that it makes go to the channel. -/
def relay (instant : Float → τ) (w : Attached τ) (channel : Amqp.Channel) (e : Event τ) : Attached τ :=
  ⟨w.session.next instant e, channel.settleAll (asked (w.session.consumer.react instant e).2)⟩

/-- A session after an occurrence. A message is taken in for the request that waits for it; one that
cannot be taken in makes the stream fail. -/
def next (instant : Float → τ) (w : Attached τ) : Occurrence τ → Attached τ
  | .message d =>
    if w.session.consumer.asks then
      match Amqp.Stream.takeIn w.channel d with
      | .ok (channel, h) => w.relay instant channel (.signal (.received (.delivery h)))
      | .error f => w.relay instant w.channel
          (.signal (.received (.failed (Amqp.Stream.failure w.session.consumer.queue f))))
    else w
  | .event e _ => w.relay instant w.channel e

/-- A session after occurrences. -/
def after (instant : Float → τ) (w : Attached τ) (os : List (Occurrence τ)) : Attached τ :=
  os.foldl (next instant) w

/-- What may still be called for is a part of what was handed over, and pending if the ids of that
increase. -/
structure Tracked (w : Attached τ) : Prop where
  inOrder : w.session.consumer.agenda.Sublist (ids w.session.handed)
  pending : (ids w.session.handed).Pairwise (· < ·) →
    ∀ id ∈ w.session.consumer.agenda, id ∈ w.channel.pending.ids

omit [Add τ] [LE τ] [DecidableLE τ] in
theorem tracked_start (queue : String) (policy : Policy) (haltOnFault : Bool) (channel : Amqp.Channel) :
    (start (.fresh queue policy haltOnFault : Consumer τ) channel).Tracked :=
  ⟨List.Sublist.refl [],fun _ _ h => by cases h⟩

variable {w : Attached τ} {channel : Amqp.Channel} {e : Event τ} {instant : Float → τ}

/-- A call reaches only deliveries up to its own, and what stays on the agenda comes after it. -/
theorem Tracked.relay (h : w.Tracked) (kept : ∀ id ∈ w.channel.pending.ids, id ∈ channel.pending.ids)
    (put : ∀ id ∈ ids (w.session.consumer.sight e).handing, id ∈ channel.pending.ids) :
    (w.relay instant channel e).Tracked := by
  have handed : (w.relay instant channel e).session.handed =
      w.session.handed ++ (w.session.consumer.sight e).handing := by
    simp [Attached.relay,Session.next]
  have moved := (w.session.consumer.move_react instant e).agenda_sublist
  -- the calls, and then what is left, stand in the order in which they were handed over
  have line := moved.trans (h.inOrder.append_right _)
  rw [ids,ids,← List.map_append,← handed] at line
  refine ⟨(List.sublist_append_right _ _).trans line,fun increasing id hid => ?_⟩
  have before : (ids w.session.handed).Pairwise (· < ·) := by
    rw [handed,ids,List.map_append] at increasing
    exact (List.pairwise_append.mp increasing).1
  have there : id ∈ channel.pending.ids := by
    rcases List.mem_append.mp (moved.mem (List.mem_append_right _ hid)) with h' | h'
    · exact kept id (h.pending before id h')
    · exact put id h'
  refine Amqp.Channel.mem_ids_settleAll there fun call hc hr => ?_
  have lt := (List.pairwise_append.mp (increasing.sublist line)).2.2 _ (List.mem_map_of_mem hc) id hid
  rcases Broker.reaches_iff.mp hr with he | ⟨-,hl⟩ <;> omega

theorem Tracked.next (h : w.Tracked) (o : Occurrence τ) : (w.next instant o).Tracked := by
  have other : ∀ e : Event τ, e.handsOver = false → (w.relay instant w.channel e).Tracked :=
    fun e he => h.relay (fun _ hid => hid) (by simp [Consumer.handing_of_other he])
  cases o with
  | event e he => exact other e he
  | message d =>
    unfold Attached.next
    dsimp only
    split
    · rename_i asks
      cases hd : d.handle? with
      | error f =>
        rw [Amqp.Stream.takeIn_of_error hd]
        exact other _ rfl
      | ok handle =>
        rw [Amqp.Stream.takeIn_of_ok hd]
        refine h.relay (fun id hid => Amqp.Pending.mem_ids_track.mpr (.inr hid)) fun id hid => ?_
        obtain ⟨r,hr,hq⟩ : ∃ r, w.session.consumer.run = some r ∧ r.receive = .pending := by
          simpa [Consumer.asks,Option.any_eq_true] using asks
        simp only [Consumer.sight,hr,hq,if_true,Sight.handing,ids_cons,ids_nil,List.mem_singleton] at hid
        exact Amqp.Pending.mem_ids_track.mpr (.inl hid)
    · exact h

theorem tracked_after (h : w.Tracked) (os : List (Occurrence τ)) : (w.after instant os).Tracked := by
  induction os generalizing w with
  | nil => exact h
  | cons o os ih => exact ih (h.next o)

/-- Through any number of runs on a channel, whatever else happens: if the ids of the deliveries increase,
every call that is made finds its delivery pending, so that it is passed on to the broker and the channel
itself does not refuse it. -/
theorem call_passed_on_of_increasing (instant : Float → τ) (queue : String) (policy : Policy)
    (haltOnFault : Bool) (channel : Amqp.Channel) (os : List (Occurrence τ)) :
    let w := (start (.fresh queue policy haltOnFault) channel).after instant os
    (ids w.session.handed).Pairwise (· < ·) →
      ∀ e, ∀ call ∈ asked (w.session.consumer.react instant e).2,
        asked (w.session.consumer.react instant e).2 = [call] ∧ call.id ∈ w.channel.pending.ids ∧
        ∀ reply, ∃ d, (w.channel.settle call reply).acts = [.call (Amqp.Channel.onLine d call)] ∧
          (w.channel.settle call reply).fault ≠ some (Amqp.Channel.unknownDelivery call.id) := by
  intro w increasing e call hc
  have tracked : w.Tracked := tracked_after (tracked_start queue policy haltOnFault channel) os
  have move := w.session.consumer.move_react instant e
  obtain ⟨alone,quiet⟩ := move.asked_eq hc
  have known : call.id ∈ w.channel.pending.ids := by
    have due := move.agenda_sublist.mem (List.mem_append_left _ (List.mem_map_of_mem hc))
    rw [quiet,ids_nil,List.append_nil] at due
    exact tracked.pending increasing _ due
  refine ⟨alone,known,fun reply => ?_⟩
  obtain ⟨d,hd⟩ := Amqp.Pending.mem_ids_iff.mp known
  obtain ⟨q,settled,-⟩ := Amqp.Channel.settle_of_pending hd
  refine ⟨d,by rw [settled],?_⟩
  rw [settled]
  cases hr : reply d with
  | none => simp
  | some f =>
    intro h
    exact Amqp.Channel.refusal_ne_unknownDelivery _ _ _ _ (Option.some.inj h)

/-- A channel that is connected. -/
def ready : Amqp.Channel := (Amqp.Channel.nearby.connect fun _ => none).channel

/-- The timer takes the first delivery, and the second comes while it is with the strategy. Its stream
ends, so it is carried over into another run, where the third makes a pair with it. -/
def carriedOver : List (Occurrence Nat) :=
  [.event (.begin (.ok true) 0) rfl, .message (.numbered 0 1), .event (.signal (.wake 0)) rfl,
    .event (.signal (.wake 10)) rfl, .message (.numbered 1 2),
    .event (.signal (.replied (.answered (.outcome .success)) 11)) rfl,
    .event (.signal (.replied (.settled none) 12)) rfl, .event (.signal (.wake 12)) rfl,
    .event (.signal (.received .ended)) rfl, .event (.signal (.wake 12)) rfl,
    .event (.signal (.closed none)) rfl, .event (.begin (.ok true) 20) rfl,
    .message (.numbered 2 3), .event (.signal (.wake 20)) rfl]

theorem passed_on_of_carriedOver :
    let w := (start Session.pairs ready).after (fun _ => 10) carriedOver
    let e := Event.signal (.replied (.answered (.outcome .success)) 21)
    (ids w.session.handed).Pairwise (· < ·) ∧ w.channel.pending.ids = [2, 3] ∧
      asked (w.session.consumer.react (fun _ => 10) e).2 = [.ack 3 true] ∧
      ∃ d, (w.channel.settle (.ack 3 true) fun _ => none).acts = [.call (.ack d true)] := by
  intro w e
  have increasing : (ids w.session.handed).Pairwise (· < ·) := by decide +kernel
  have made : asked (w.session.consumer.react (fun _ => 10) e).2 = [.ack 3 true] := by decide +kernel
  have passed := call_passed_on_of_increasing (fun _ => 10) "orders" ⟨2, .real 10, .batched, by decide⟩
    false ready carriedOver increasing e (.ack 3 true) (made ▸ List.mem_singleton_self _)
  obtain ⟨d,acts,-⟩ := passed.2.2 fun _ => none
  exact ⟨increasing,by decide +kernel,made,d,acts⟩

end Attached
end Baler
