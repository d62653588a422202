import Baler.Proofs.Causes
import Baler.Proofs.FailedStart

/-! When a worker returns. Nobody asks it to stop; it returns when its consumer has returned at the end of the
stream. It also returns when a cancellation reaches its consumer from elsewhere: it takes that for one of its
own. -/
namespace Baler

open Amqp

variable {τ : Type}

/-- The fault that an incident brings to a consumer. -/
def Incident.fault? : Incident τ → Option Fault
  | .signal (.consumer s) => s.fault?
  | _ => none

/-- Whether an incident asks a worker to stop, or cancels it or its consumer. -/
def Incident.asksToStop : Incident τ → Bool
  | .signal .ring | .signal .cancel | .signal (.consumer .cancel) => true
  | _ => false

/-- Whether a deed reports that the stream has ended. -/
def Deed.tellsEnd : Deed → Bool
  | .line _ => false
  | .consumer a => a.tellsEnd

/-- Whether the closing of a channel and its connection is not cut short. -/
def Amqp.Replies.Lenient (r : Amqp.Replies) : Prop :=
  (r.exchange .closeChannel).isCut = false ∧ (r.exchange .closeConnection).isCut = false

theorem Assembly.fault_close_iff {a : Assembly τ} {ch : Channel} {wired : Wired τ} (h : a.Connected ch wired)
    (closing : Amqp.Replies) : (a.close (·.close closing)).fault = none ↔ closing.Lenient := by
  obtain ⟨fault,-⟩ := close_station closing h.channelAt (by rw [h.stations]; rfl)
  rw [fault,(ch.close_eq closing).2.1]
  have passed : ch.parted.parting closing = [closing.exchange .closeChannel,closing.exchange .closeConnection] := by
    simp [Channel.parting,Channel.parted,h.channel,h.connection]
  cases Channel.releases_release ch.parted closing with
  | all silent bared said calm =>
    rw [passed] at calm
    exact iff_of_true silent ⟨calm _ (by simp),calm _ (by simp)⟩
  | cutAtChannel g grave refused held said =>
    refine iff_of_false (by simp [said]) fun lenient => ?_
    have cut := lenient.1
    rw [isCut_of_fault refused,grave] at cut
    cases cut
  | cutAtConnection g grave refused held said =>
    refine iff_of_false (by simp [said]) fun lenient => ?_
    have cut := lenient.2
    rw [isCut_of_fault refused,grave] at cut
    cases cut

/-- A worker that is not cancelled takes a cancellation of its consumer for a return. -/
theorem Worker.exitOf_eq_returned_iff {e : Exit} :
    Worker.exitOf false (some e) = .returned ↔ e = .returned ∨ ∃ f, e = .raised f ∧ f.kind = .cancelled := by
  cases e with
  | returned => exact iff_of_true rfl (.inl rfl)
  | raised f =>
    by_cases hk : f.kind = .cancelled
    · exact iff_of_true (by simp [exitOf,passedOn,hk]) (.inr ⟨f,rfl,hk⟩)
    · refine iff_of_false (by simp [exitOf,passedOn,hk]) ?_
      rintro (he | ⟨g,he,hg⟩)
      · cases he
      · cases he
        exact hk hg

namespace Duty

/-- Whether it was reported that the stream has ended. -/
def TellsEnd (d : Duty τ) : Prop := ∃ x ∈ d.deeds, x.tellsEnd = true

/-- A worker that nobody has asked to stop supervises its consumer. -/
structure Supervises (brought : Fault → Prop) (d : Duty τ) : Prop where
  phase : d.worker.phase = some .supervising
  bell : d.worker.bell ≠ .rung
  ending : d.worker.ending = none
  consumer : ∃ ch wired, d.worker.Mans ch wired ∧ wired.consumer.run.isSome = true ∧
    wired.consumer.Caused brought d.TellsEnd

/-- A worker has ended after its consumer. It has returned if the line was closed, and the consumer had returned
or was cancelled. -/
structure Concluded (closing : Amqp.Replies) (brought : Fault → Prop) (d : Duty τ) : Prop where
  phase : d.worker.phase = none
  ending : d.worker.ending.isSome = true
  consumer : ∃ c e, d.worker.consumer? = some c ∧ c.run = none ∧ c.ending = some e ∧
    e.Caused brought d.TellsEnd ∧ (d.worker.ending = some .returned ↔
      closing.Lenient ∧ (e = .returned ∨ ∃ f, e = .raised f ∧ f.kind = .cancelled))

/-- A worker that nobody has asked to stop, at its work or after it. -/
def Accounted (closing : Amqp.Replies) (brought : Fault → Prop) (d : Duty τ) : Prop :=
  d.Supervises brought ∨ d.Concluded closing brought

variable {closing : Amqp.Replies} {brought : Fault → Prop} {w : Worker τ} {ch : Channel} {wired : Wired τ}
  {deeds : List Deed}

theorem TellsEnd.append {more : List Deed} (h : TellsEnd ⟨w,deeds⟩) (v : Worker τ) :
    TellsEnd ⟨v,deeds ++ more⟩ := by
  obtain ⟨x,hx,ended⟩ := h
  exact ⟨x,List.mem_append_left _ hx,ended⟩

theorem concluded_conclude (h : w.Mans ch wired) (finished : wired.consumer.run = none)
    (caused : wired.consumer.Caused brought (TellsEnd ⟨w,deeds⟩)) :
    let (v, more) := w.conclude (·.close closing) false wired.consumer.ending
    Concluded closing brought ⟨v,deeds ++ more⟩ := by
  obtain ⟨e,he,because⟩ := caused.ending finished
  have lenient := Assembly.fault_close_iff h.connected closing
  obtain ⟨-,-,stations,-⟩ := Assembly.close_station closing h.connected.channelAt
    (by rw [h.connected.stations]; rfl)
  -- the consumer stays where it is while the channel below it is closed
  have manned : (w.assembly.close (·.close closing)).assembly.consumer? w.station = some wired.consumer := by
    simp [Assembly.consumer?,stations,Assembly.setChannel,h.station,h.connected.stations]
  cases hf : (w.assembly.close (·.close closing)).fault with
  | some f =>
    have refused : ¬ closing.Lenient := fun calm => by simp [lenient.mpr calm] at hf
    simp only [Worker.conclude,hf]
    exact ⟨rfl,rfl,_,e,manned,finished,he,because.mono fun told => told.append _,
      iff_of_false (by simp [Worker.halt]) fun calm => refused calm.1⟩
  | none =>
    simp only [Worker.conclude,hf]
    refine ⟨rfl,rfl,_,e,manned,finished,he,because.mono fun told => told.append _,?_⟩
    simp [Worker.halt,he,Worker.exitOf_eq_returned_iff,lenient.mp hf]

theorem accounted_settle (h : w.Mans ch wired) (phase : w.phase = some .supervising) (bell : w.bell ≠ .rung)
    (ending : w.ending = none) (c : Consumer τ) (actions : List Action)
    (caused : c.Caused brought (TellsEnd ⟨w,deeds ++ actions.map Deed.consumer⟩)) :
    let (v, more) := w.settle (·.close closing) c actions
    Accounted closing brought ⟨v,deeds ++ more⟩ := by
  have mans := mans_setConsumer h c
  simp only [Worker.settle]
  split
  · rename_i running
    exact .inl ⟨phase,bell,ending,ch,_,mans,running,caused⟩
  · rename_i gone
    have finished : c.run = none := by simpa using gone
    have own : (w.phase == some (.stopping true)) = false := by
      rw [phase]
      rfl
    rw [own,← List.append_assoc]
    exact .inr (concluded_conclude mans finished caused)

variable [Add τ] [LE τ] [DecidableLE τ]

theorem Supervises.passSignal {d : Duty τ} (h : d.Supervises brought) {s : Signal τ} (unasked : s ≠ .cancel)
    (reported : ∀ f, s.fault? = some f → f.kind = .cancelled → brought f) :
    let (v, more) := d.worker.passSignal (·.close closing) s
    Accounted closing brought ⟨v,d.deeds ++ more⟩ := by
  obtain ⟨ch,wired,mans,running,caused⟩ := h.consumer
  simp only [Worker.passSignal,consumer?_of_mans mans]
  refine accounted_settle mans h.phase h.bell h.ending _ _ ?_
  have grown : wired.consumer.Caused brought
      (TellsEnd ⟨d.worker,d.deeds ++ (wired.consumer.step s).2.map Deed.consumer⟩) :=
    caused.mono fun told => told.append d.worker
  refine grown.step unasked reported ?_
  rintro ⟨a,ha,ended⟩
  exact ⟨.consumer a,List.mem_append_right _ (List.mem_map_of_mem ha),ended⟩

/-- What happens to a worker at its work leaves it there, or ends it. -/
theorem Supervises.next {d : Duty τ} (h : d.Supervises brought) (i : Incident τ) (unasked : i.asksToStop = false)
    (reported : ∀ f, i.fault? = some f → f.kind = .cancelled → brought f) :
    (d.next closing i).Accounted closing brought := by
  simp only [Duty.next,h.phase,Option.isNone_some,Bool.false_eq_true,if_false]
  cases i with
  | traffic pending =>
    obtain ⟨ch,wired,mans,running,caused⟩ := h.consumer
    exact .inl ⟨h.phase,h.bell,h.ending,_,wired,mans_carry mans pending,running,caused⟩
  | signal s =>
    have stays : Accounted closing brought ⟨d.worker,d.deeds ++ []⟩ := by
      rw [List.append_nil]
      exact .inl h
    cases s with
    | ring => cases unasked
    | cancel => cases unasked
    | notice =>
      simp only [Worker.step,h.phase,h.bell,if_false]
      exact stays
    | consumer s =>
      have own : s ≠ .cancel := fun hs => by simp [hs,Incident.asksToStop] at unasked
      simp only [Worker.step,h.phase]
      exact h.passSignal own reported

theorem Accounted.next {d : Duty τ} (h : d.Accounted closing brought) (i : Incident τ)
    (unasked : i.asksToStop = false) (reported : ∀ f, i.fault? = some f → f.kind = .cancelled → brought f) :
    (d.next closing i).Accounted closing brought := by
  rcases h with supervises | concluded
  · exact supervises.next i unasked reported
  · have same : d.next closing i = d := by simp [Duty.next,concluded.phase]
    rw [same]
    exact .inr concluded

theorem Accounted.after {d : Duty τ} (h : d.Accounted closing brought) {incidents : List (Incident τ)}
    (unasked : ∀ i ∈ incidents, i.asksToStop = false)
    (reported : ∀ i ∈ incidents, ∀ f, i.fault? = some f → f.kind = .cancelled → brought f) :
    (d.after closing incidents).Accounted closing brought := by
  induction incidents generalizing d with
  | nil => exact h
  | cons i rest ih =>
    obtain ⟨first,others⟩ := List.forall_mem_cons.mp unasked
    obtain ⟨said,more⟩ := List.forall_mem_cons.mp reported
    exact ih (h.next i first said) others more

theorem accounted_start (settings : Settings) {replies : Amqp.Replies} (closing : Amqp.Replies)
    (connected : (Assembly.connect (.fresh settings none) replies : Assembly.Result τ).fault = none)
    (listens : Bool) (instant : Float → τ) (now : τ) :
    (start (.fresh settings) replies closing listens instant now).Accounted closing brought := by
  obtain ⟨w,ch,wired,before,mans,phase,bell,ending,-,begins⟩ :=
    start_of_connected (.fresh settings) closing connected listens instant now
  have unrung : w.bell ≠ .rung := by
    rw [bell]
    cases listens <;> nofun
  rw [begins]
  exact accounted_settle mans phase unrung ending _ _ (wired.consumer.caused_begin instant true now)

theorem ended_of_failed {w : Worker τ} {replies : Amqp.Replies} (closing : Amqp.Replies) {f : Fault}
    (failed : (Assembly.connect (.fresh w.assembly.settings none) replies : Assembly.Result τ).fault = some f)
    (listens : Bool) (instant : Float → τ) (now : τ) :
    let d := start w replies closing listens instant now
    d.worker.phase = none ∧ ∃ g, d.worker.ending = some (.raised g) := by
  simp only [start,Worker.start,failed]
  exact Worker.ended_abandonStart _ _ f

theorem after_of_ended {d : Duty τ} (gone : d.worker.phase = none) (incidents : List (Incident τ)) :
    d.after closing incidents = d := by
  induction incidents with
  | nil => rfl
  | cons i rest ih =>
    have same : d.next closing i = d := by simp [Duty.next,gone]
    rwa [after,List.foldl_cons,same]

/-- For every worker that nobody asks to stop: it returns exactly if it had connected, the closing of its line
was not cut short, and its consumer has returned at the end of the stream, or has ended with a cancellation
that was brought to it. If it ends in another way it raises. -/
theorem returns_iff (settings : Settings) (replies closing : Amqp.Replies) (listens : Bool)
    (instant : Float → τ) (now : τ) (incidents : List (Incident τ))
    (unasked : ∀ i ∈ incidents, i.asksToStop = false) :
    let d := (start (.fresh settings) replies closing listens instant now).after closing incidents
    (d.worker.phase = none → d.worker.ending.isSome = true) ∧ (d.worker.ending = some .returned ↔
      (Assembly.connect (.fresh settings none) replies : Assembly.Result τ).fault = none ∧ closing.Lenient ∧
        ∃ c, d.worker.consumer? = some c ∧ c.run = none ∧ (c.ending = some .returned ∧ d.TellsEnd ∨
          ∃ f, c.ending = some (.raised f) ∧ f.kind = .cancelled ∧ ∃ i ∈ incidents, i.fault? = some f)) := by
  intro d
  let brought : Fault → Prop := fun f => ∃ i ∈ incidents, i.fault? = some f
  have reported : ∀ i ∈ incidents, ∀ f, i.fault? = some f → f.kind = .cancelled → brought f :=
    fun i hi f hf _ => ⟨i,hi,hf⟩
  cases connected : (Assembly.connect (.fresh settings none) replies : Assembly.Result τ).fault with
  | some f =>
    obtain ⟨gone,g,ended⟩ := ended_of_failed (w := .fresh settings) closing connected listens instant now
    have unchanged : d = start (.fresh settings) replies closing listens instant now := after_of_ended gone incidents
    have raised : d.worker.ending = some (.raised g) := by rw [unchanged,ended]
    exact ⟨fun _ => by simp [raised],iff_of_false (by simp [raised]) fun h => by cases h.1⟩
  | none =>
    have accounted : d.Accounted closing brought :=
      (accounted_start settings closing connected listens instant now).after unasked reported
    rcases accounted with h | h
    · obtain ⟨ch,wired,mans,running,-⟩ := h.consumer
      refine ⟨fun gone => by simp [h.phase] at gone,iff_of_false (by simp [h.ending]) ?_⟩
      rintro ⟨-,-,c,hc,finished,-⟩
      obtain rfl : wired.consumer = c := Option.some.inj ((consumer?_of_mans mans).symm.trans hc)
      simp [finished] at running
    · obtain ⟨c,e,hc,finished,he,because,returned⟩ := h.consumer
      refine ⟨fun _ => h.ending,returned.trans ?_⟩
      constructor
      · rintro ⟨lenient,rfl | ⟨f,rfl,hf⟩⟩
        · exact ⟨rfl,lenient,c,hc,finished,.inl ⟨he,because⟩⟩
        · exact ⟨rfl,lenient,c,hc,finished,.inr ⟨f,he,hf,because hf⟩⟩
      · rintro ⟨-,lenient,c',hc',-,how⟩
        obtain rfl : c = c' := Option.some.inj (hc.symm.trans hc')
        rw [he] at how
        refine ⟨lenient,?_⟩
        rcases how with ⟨hr,-⟩ | ⟨f,hr,hf,-⟩
        · exact .inl (Option.some.inj hr)
        · exact .inr ⟨f,Option.some.inj hr,hf⟩

/-- A pair is processed, and its ack is answered with a cancellation. -/
def cancelledAck : List (Incident Nat) :=
  ((Session.arrival 1 ++ Session.arrival 2).map fun s => .signal (.consumer s)) ++
    [.signal (.consumer (.replied (.answered (.outcome .success)) 1)),
      .signal (.consumer (.replied (.settled (some .cancellation)) 2)), .signal (.consumer (.closed none))]

theorem returned_after_cancelled_ack :
    let d := (start (.fresh forPairs.assembly.settings) (failsAt []) (failsAt [.closeChannel]) true
      (fun _ => 10) 0).after (failsAt [.closeChannel]) cancelledAck
    (∀ i ∈ cancelledAck, i.asksToStop = false) ∧ d.worker.ending = some .returned ∧
      ∃ c, d.worker.consumer? = some c ∧ c.run = none ∧
        ∃ f, c.ending = some (.raised f) ∧ f.kind = .cancelled ∧ ∃ i ∈ cancelledAck, i.fault? = some f := by
  intro d
  have unasked : ∀ i ∈ cancelledAck, i.asksToStop = false := by decide +kernel
  obtain ⟨-,returns⟩ := returns_iff forPairs.assembly.settings (failsAt []) (failsAt [.closeChannel]) true
    (fun _ => 10) 0 cancelledAck unasked
  have returned : d.worker.ending = some .returned := by decide +kernel
  have cancelled : d.worker.consumer?.bind (·.ending) = some (.raised .cancellation) := by decide +kernel
  obtain ⟨-,-,c,hc,finished,how⟩ := returns.mp returned
  rw [hc] at cancelled
  refine ⟨unasked,returned,c,hc,finished,how.resolve_left fun ended => ?_⟩
  cases ended.1.symm.trans cancelled

/-- The stream is cancelled from elsewhere, and the worker returns although the stream has not ended. -/
theorem returned_after_cancelled_stream :
    let incidents : List (Incident Nat) := [.signal (.consumer (.received (.failed .cancellation))),
      .signal (.consumer (.wake 1)), .signal (.consumer (.closed none))]
    let d := (start forPairs (failsAt []) (failsAt []) true (fun _ => 10) 0).after (failsAt []) incidents
    (∀ i ∈ incidents, i.asksToStop = false) ∧ d.worker.ending = some .returned ∧
      d.deeds.any Deed.tellsEnd = false := by
  decide +kernel

end Duty
end Baler
