import Baler.Proofs.CallsInFlight
import Mathlib.Data.List.Flatten
import Mathlib.Data.List.Induction

/-! What is acked was processed. A cumulative ack reaches over everything that is out on the channel,
so the proof follows each delivery that is out: it was processed, or the consumer still has to do
with it. -/
namespace Baler

open Settlement

variable {τ : Type} {c d : Consumer τ} {r : Run τ} {batches : List (List Handle)} {calls : List Call}
  {x : Sight} {id : Int}

/-- Whether a delivery waits in a consumer or is remembered as one whose nack failed. -/
def Consumer.Stores (c : Consumer τ) (unread : List Handle) (id : Int) : Prop :=
  id ∈ ids c.buffer.items ∨ id ∈ ids unread ∨ id ∈ c.processor.failedNacks

/-- Whether a consumer still has to do with a delivery. -/
inductive Consumer.Minds (c : Consumer τ) (id : Int) : Prop
  | stored (h : c.Stores c.unread id)
  | deciding {batch} (h : c.deciding = some batch) (mem : id ∈ ids batch)
  | refused (h : .nack id true ∈ c.calls)

/-- Whether a sight tells that a delivery is done with: it counts as processed, or is nacked. -/
def Sight.Resolves (x : Sight) (id : Int) : Prop :=
  (∃ r ∈ x.judging, id ∈ ids r.1 ∧ r.2.processes id = true) ∨
    ∃ requeue, x = .replied (.nack id requeue) none

/-- A delivery that is read goes to the end of the buffer. -/
theorem Consumer.stores_fed {new : List Handle} (h : c.Stores new id) :
    id ∈ ids (c.buffer.items ++ new) ∨ id ∈ c.processor.failedNacks := by
  rw [ids,List.map_append,List.mem_append,or_assoc]
  exact h

theorem Resumes.minds (h : Resumes c r d batches) (hid : c.Stores r.receive.unread id) :
    d.Minds id := by
  have hu := h.unread
  have hp := h.processor
  rcases hid with hb | hq | hf
  · cases h with
    | waits ticker => exact .stored (.inl hb)
    | spins ticker empty => exact .stored (.inl hb)
    | flushes ticker filled => exact .deciding rfl hb
  · exact .stored (.inr (.inl (by rwa [hu])))
  · exact .stored (.inr (.inr (by rwa [hp])))

theorem Advances.minds {trigger : Trigger} {size : Nat} {p : Progress}
    (h : Advances c r trigger size p d batches calls) (hd : d.looping = true)
    (hid : c.Stores r.receive.unread id) : d.Minds id := by
  cases h with
  | asks => exact .stored hid
  | resumes tolerable go => exact go.minds hid
  | leaves fatal out => simp [out.outside] at hd

/-- A fault that is not ordinary is not tolerated. -/
theorem Advances.not_looping {trigger : Trigger} {size : Nat} {f : Fault}
    (h : Advances c r trigger size (.finished (some f)) d batches calls) (hf : f.isOrdinary = false) :
    d.looping = false := by
  cases h with
  | resumes tolerable go => simp [hf] at tolerable
  | leaves fatal out => exact out.outside

/-- A delivery of the batch that is judged is processed, or is nacked next, or the run ends. -/
theorem Move.minds_of_judged {batch : List Handle} {a : Answer}
    (m : Move c (.judged batch a) d batches calls) (ha : a.namesNumbers = true)
    (hd : d.looping = true) (hid : id ∈ ids batch) : d.Minds id ∨ a.processes id = true := by
  obtain ⟨r,trigger,size,progress,-,-,walk,go⟩ := m.of_judged
  rcases nack_mem_calls_or_givenUp ha with h | ⟨f,hf,h⟩
  · rcases h id hid with h | h
    · exact .inr h
    · exact .inl (.refused (by rwa [walk.calls_eq go]))
  · rw [h] at walk
    cases walk with
    | calling hn => cases hn
    | done _ => simp [go.not_looping hf] at hd

/-- A nack that is due stays due, or is done, or has failed and is remembered. -/
theorem Move.minds_of_replied {call : Call} {fault : Option Fault}
    (m : Move c (.replied call fault) d batches calls) (alone : c.Alone) (hd : d.looping = true)
    (hid : .nack id true ∈ c.calls) : d.Minds id ∨ fault = none ∧ call = .nack id true := by
  obtain ⟨r,trigger,size,rest,closing,failure,q,progress,hr,hp,res,go⟩ := m.of_replied
  have hc : c.calls = call :: callsOf rest := by rw [Consumer.calls_of_run hr,hp]; rfl
  rw [hc] at hid
  cases res with
  | taken walk =>
    rcases List.mem_cons.mp hid with h | h
    · exact .inr ⟨rfl,h.symm⟩
    · exact .inl (.refused (by rwa [walk.calls_eq go]))
  | ackFailed ordinary walk =>
    rcases List.mem_cons.mp hid with h | h
    · cases h
    · exact .inl (.refused (by rwa [walk.calls_eq go]))
  | nackFailed ordinary walk =>
    rcases List.mem_cons.mp hid with h | h
    · obtain ⟨rfl,-⟩ := Call.nack.inj h
      exact .inl (go.minds hd (.inr (.inr (mem_failedNacks_remember.mpr (.inr rfl)))))
    · exact .inl (.refused (by rwa [walk.calls_eq go]))
  | @cumulativeFailed n f ordinary =>
    rw [← hc,alone n (hc ▸ List.mem_cons_self)] at hid
    simp at hid
  | broken grave => simp [go.not_looping grave] at hd

/-- What is stored stays stored, or the timer or a full buffer gives it to the strategy. -/
theorem Move.minds_of_stored (m : Move c x d batches calls) (hd : d.looping = true)
    (h : c.Stores c.unread id) : d.Minds id := by
  cases m with
  | stays => exact .stored h
  | refused exit hr => cases hd
  | answered got hr hq =>
    rw [Consumer.unread_of_run hr,hq] at h
    exact .stored (h.imp_right (Or.imp_left (fun hn => by cases hn)))
  | @fills r g hr hp hq full =>
    rw [Consumer.unread_of_run hr,hq] at h
    rcases Consumer.stores_fed h with hb | hf
    · exact .deciding rfl (by rwa [Buffer.items_add])
    · exact .stored (.inr (.inr hf))
  | turns why go =>
    rw [why.reads_unread] at h
    refine go.minds ((Consumer.stores_fed h).imp ?_ (fun hf => .inr ?_))
    · rw [why.buffer]
      exact fun hb => hb
    · rwa [why.processor]
  | advances hr hp why go =>
    rw [Consumer.unread_of_run hr] at h
    refine go.minds hd (h.imp_right (Or.imp_right fun hf => ?_))
    cases why with
    | judged walk => exact hf
    | replied res => exact res.mem_failedNacks hf
  | leaves hr why out => simp [out.outside] at hd

/-- As long as the loop goes on, a consumer minds a delivery until it is processed or nacked. -/
theorem Move.minds (m : Move c x d batches calls) (alone : c.Alone)
    (numbers : ∀ r ∈ x.judging, r.2.namesNumbers = true) (hd : d.looping = true) (h : c.Minds id) :
    d.Minds id ∨ x.Resolves id := by
  cases h with
  | stored h => exact .inl (m.minds_of_stored hd h)
  | @deciding batch h mem =>
    rcases m.of_flushing (Consumer.flushing_of_deciding h) with
      ⟨batch',a,rfl,hb,-⟩ | ⟨call,fault,-,hn⟩ | hn | ⟨hs,-⟩
    · obtain rfl := Option.some.inj (h.symm.trans hb)
      have hj := m.minds_of_judged (numbers _ List.mem_cons_self) hd mem
      exact hj.imp_right (fun ha => .inl ⟨_,List.mem_cons_self,mem,ha⟩)
    · rw [h] at hn
      cases hn
    · simp [hn] at hd
    · exact .inl (.deciding (hs.trans h) mem)
  | refused h =>
    rcases m.of_flushing (Consumer.flushing_of_calls (List.ne_nil_of_mem h)) with
      ⟨batch,a,-,-,hn⟩ | ⟨call,fault,rfl,-⟩ | hn | ⟨-,hs⟩
    · rw [hn] at h
      cases h
    · rcases m.minds_of_replied alone hd h with hm | ⟨rfl,rfl⟩
      · exact .inl hm
      · exact .inr (.inr ⟨true,rfl⟩)
    · simp [hn] at hd
    · exact .inl (.refused (hs.symm ▸ h))

/-- A delivery that is handed over waits to be read. -/
theorem Move.mem_unread (m : Move c x d batches calls) (hd : d.looping = true)
    (hid : id ∈ ids x.handing) : id ∈ ids d.unread := by
  have hu := m.unread hd
  cases x with
  | handed h =>
    have hs : d.unread = c.unread ++ [h] := hu.symm
    rw [hs,ids,List.map_append]
    exact List.mem_append_right _ hid
  | _ => cases hid

namespace Session

variable {s : Session τ}

/-- Whether the strategy has answered that a delivery is not processed. -/
def Refused (s : Session τ) (id : Int) : Prop :=
  ∃ r ∈ s.reports, id ∈ ids r.1 ∧ r.2.processes id = false

/-- What a call that is in flight or to come may be. -/
def Lawful (s : Session τ) : Call → Prop
  | .ack id false => s.Processed id
  | .ack n true => n ∈ ids s.read ∧ ∀ id ∈ s.broker.outstanding, id ≤ n → s.Processed id
  | .nack id _ => s.Refused id

/-- What keeps acks safe. -/
structure Sound (s : Session τ) : Prop where
  alone : s.consumer.Alone
  acked : ∀ id ∈ s.broker.acked, s.Processed id
  minded : s.consumer.looping = true → ∀ id ∈ s.broker.outstanding,
    s.Processed id ∨ s.consumer.Minds id
  lawful : ∀ call ∈ s.consumer.calls, s.Lawful call
  remembered : ∀ id ∈ s.consumer.processor.failedNacks, s.Refused id

theorem mem_reports_move {r : List Handle × Answer} (h : r ∈ s.reports ∨ r ∈ x.judging) :
    r ∈ ((s.note x).move d batches).reports := by
  rw [reports_move,reports_note]
  exact List.mem_append.mpr h

theorem Processed.move (h : s.Processed id) : ((s.note x).move d batches).Processed id := by
  obtain ⟨r,hr,hid⟩ := h
  exact ⟨r,mem_reports_move (.inl hr),hid⟩

theorem Refused.move (h : s.Refused id) : ((s.note x).move d batches).Refused id := by
  obtain ⟨r,hr,hid⟩ := h
  exact ⟨r,mem_reports_move (.inl hr),hid⟩

/-- Later deliveries are out of the reach of a cumulative ack. -/
theorem Lawful.move {call : Call} (h : s.Lawful call) (inOrder : s.InOrder)
    (increasing : (ids (s.handed ++ x.handing)).Pairwise (· < ·)) :
    ((s.note x).move d batches).Lawful call := by
  cases call with
  | nack id requeue => exact Refused.move h
  | ack n cumulative =>
    cases cumulative with
    | false => exact Processed.move h
    | true =>
      obtain ⟨hn,ho⟩ := h
      refine ⟨?_,fun id hid hle => ?_⟩
      · rw [read_move,read_note,ids,List.map_append]
        exact List.mem_append_left _ hn
      · rcases mem_outstanding_note hid with hnew | ⟨hold,-⟩
        · have earlier : n ∈ ids s.handed :=
            ((List.sublist_append_left _ _).trans inOrder).map _ |>.mem hn
          rw [ids,List.map_append] at increasing
          have hlt := (List.pairwise_append.mp increasing).2.2 n earlier id hnew
          omega
        · exact (ho id hold hle).move

/-- What waits to be read comes after what is read. -/
theorem InOrder.lt (h : s.InOrder) (increasing : (ids s.handed).Pairwise (· < ·)) {m n : Int}
    (hm : m ∈ ids s.read) (hn : n ∈ ids s.consumer.unread) : m < n := by
  have hp : (ids (s.read ++ s.consumer.unread)).Pairwise (· < ·) := increasing.sublist (h.map _)
  rw [ids,List.map_append] at hp
  exact (List.pairwise_append.mp hp).2.2 m hm n hn

/-- A batch that is with the strategy has been read. -/
theorem MidFlush.deciding_read (h : s.MidFlush) {held : List Handle} (balanced : s.Balanced held)
    {batch : List Handle} (hb : s.consumer.deciding = some batch) :
    ∃ before, held ++ s.read = before ++ batch := by
  obtain ⟨earlier,last,hbs,-,hw⟩ := h.last
  obtain rfl := hw batch hb
  refine ⟨earlier.flatten,?_⟩
  rw [show held ++ s.read = _ from balanced,h.emptied,hbs]
  simp

/-- Of what is out up to the last id of a batch, all was processed when the batch is, unless a nack
has failed. -/
theorem Sound.processed_of_success (h : s.Sound) (mid : s.MidFlush) (inOrder : s.InOrder)
    (increasing : (ids s.handed).Pairwise (· < ·)) {batch : List Handle}
    (hb : s.consumer.deciding = some batch) (hf : s.consumer.processor.failedNacks = []) {n : Int}
    (hn : n ∈ ids s.read) (hid : id ∈ s.broker.outstanding) (hle : id ≤ n) :
    s.Processed id ∨ id ∈ ids batch := by
  have flushing := Consumer.flushing_of_deciding hb
  rcases h.minded (Consumer.looping_of_flushing flushing) id hid with hp | hm
  · exact .inl hp
  · cases hm with
    | stored hs =>
      -- a flush has emptied the buffer, and what waits to be read has a larger id
      rcases hs with hq | hu | hr
      · rw [mid.emptied] at hq
        cases hq
      · have hlt := inOrder.lt increasing hn hu
        omega
      · rw [hf] at hr
        cases hr
    | deciding hd mem =>
      obtain rfl := Option.some.inj (hd.symm.trans hb)
      exact .inr mem
    | refused hc =>
      rw [Consumer.no_calls_of_deciding hb] at hc
      cases hc

/-- The calls for a batch that is judged are lawful. -/
theorem Sound.lawful_of_judged (h : s.Sound) (mid : s.MidFlush) (balanced : s.Balanced [])
    (inOrder : s.InOrder) (increasing : (ids s.handed).Pairwise (· < ·)) {batch : List Handle}
    {a : Answer} {mode : AckMode} (hb : s.consumer.deciding = some batch) {call : Call}
    (hc : call ∈ (Plan.make mode s.consumer.processor.failedNacks batch a).calls) :
    ((s.note (.judged batch a)).move d batches).Lawful call := by
  have hw := warranted_of_mem_calls hc
  have told : (batch, a) ∈ ((s.note (.judged batch a)).move d batches).reports :=
    mem_reports_move (.inr List.mem_cons_self)
  cases call with
  | nack id requeue => exact ⟨_,told,hw⟩
  | ack n cumulative =>
    cases cumulative with
    | false => exact ⟨_,told,hw⟩
    | true =>
      obtain ⟨hn,rfl,hf,-⟩ := hw
      obtain ⟨before,hr⟩ := mid.deciding_read balanced hb
      have read : n ∈ ids s.read := by
        rw [show s.read = before ++ batch from hr,ids,List.map_append]
        exact List.mem_append_right _ hn
      refine ⟨?_,fun id hid hle => ?_⟩
      · rw [read_move,read_note,ids,List.map_append]
        exact List.mem_append_left _ read
      · rcases mem_outstanding_note hid with hnew | ⟨hold,-⟩
        · cases hnew
        · rcases h.processed_of_success mid inOrder increasing hb hf read hold hle with hp | hp
          · exact hp.move
          · exact ⟨_,told,hp,rfl⟩

/-- A move keeps acks safe as long as ids increase and failed deliveries are named by numbers. -/
theorem Sound.move (h : s.Sound) (m : Move s.consumer x d batches calls)
    (mid : s.consumer.flushing = true → s.MidFlush) (balanced : s.Balanced []) (inOrder : s.InOrder)
    (increasing : (ids (s.handed ++ x.handing)).Pairwise (· < ·))
    (numbers : ∀ r ∈ x.judging, r.2.namesNumbers = true)
    (begun : d.looping = true → s.consumer.looping = true ∨ s.broker.outstanding = []) :
    ((s.note x).move d batches).Sound := by
  have before : (ids s.handed).Pairwise (· < ·) :=
    increasing.sublist ((List.sublist_append_left _ _).map _)
  refine ⟨h.alone.move m,?_,?_,?_,?_⟩
  · intro id hid
    rcases mem_acked_note hid with hold | ⟨call,rfl,hc⟩
    · exact (h.acked id hold).move
    · have lawful := h.lawful call m.replied_mem
      rcases hc with rfl | ⟨n,rfl,ho,hle⟩
      · exact Processed.move lawful
      · exact (lawful.2 id ho hle).move
  · intro hd id hid
    -- a nack that succeeds takes its delivery back, so what is still out is minded or processed
    rcases mem_outstanding_note hid with hnew | ⟨hold,reach⟩
    · exact .inr (.stored (.inr (.inl (m.mem_unread hd hnew))))
    · rcases begun hd with hl | hn
      · rcases h.minded hl id hold with hp | hm
        · exact .inl hp.move
        · rcases m.minds h.alone numbers hd hm with hm | ⟨r,hr,hp⟩ | ⟨requeue,rfl⟩
          · exact .inr hm
          · exact .inl ⟨r,mem_reports_move (.inr hr),hp⟩
          · exact absurd rfl (reach _ rfl)
      · rw [hn] at hold
        cases hold
  · intro call hc
    rcases m.calls_cases with hs | ⟨batch,a,rfl,hb,hp⟩
    · exact (h.lawful call (hs.mem hc)).move inOrder increasing
    · rw [consumer_move,hp] at hc
      exact h.lawful_of_judged (mid (Consumer.flushing_of_deciding hb)) balanced inOrder before hb hc
  · intro id hid
    rcases m.processor with hp | ⟨id',requeue,f,rfl,hp⟩
    · exact (h.remembered id (hp ▸ hid)).move
    · rw [consumer_move,hp] at hid
      rcases mem_failedNacks_remember.mp hid with hid | rfl
      · exact (h.remembered id hid).move
      · exact Refused.move (h.lawful _ m.replied_mem)

theorem sound_start (queue : String) (policy : Policy) (haltOnFault : Bool) :
    (start (.fresh queue policy haltOnFault : Consumer τ)).Sound where
  alone _ h := by cases h
  acked _ h := by cases h
  minded h := by cases h
  lawful _ h := by cases h
  remembered _ h := by cases h

variable [Add τ] [LE τ] [DecidableLE τ]

end Session
end Baler
