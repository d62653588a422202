import Baler.Proofs.Endings
import Baler.Proofs.Pace
import Baler.Proofs.Tracking
import Baler.Simulation.Line

/-! Failures of the stream. A stage of the stream that raises a fault ends the stream; the fault waits in
the answered request until the loop reads it, and the loop then ends its run with it and does nothing
else. -/
namespace Baler

open Amqp Simulation

/-- Whether a fault tells that an iteration or a stream has come to its end. -/
def Fault.TellsEnd (f : Fault) : Prop := f.kind = .exhausted ∨ f.kind = .ended

instance (f : Fault) : Decidable f.TellsEnd :=
  inferInstanceAs (Decidable (f.kind = .exhausted ∨ f.kind = .ended))

/-- The fault with which a run ends that reads a fault of its stream. -/
structure Fault.PassedOn (queue : String) (f g : Fault) : Prop where
  kind : g.kind = .stream ↔ f.isOrdinary = true
  same : f.isOrdinary = false ∨ f.kind = .stream → g = f
  channel : f.isLineFailure = true → g = ⟨.stream, s!"delivery stream for {queue} failed: {f.text}"⟩
  loop : f.isOrdinary = true → f.isLineFailure = false → f.kind ≠ .stream →
    g = ⟨.stream, s!"delivery stream failed: {f.text}"⟩

section

variable {f : Fault}

theorem Fault.leavingCall_of_not_tellsEnd (h : ¬ f.TellsEnd) : f.leavingCall = f := by
  rcases f with ⟨kind,text⟩
  cases kind <;> first | rfl | exact absurd (.inl rfl) h

theorem Fault.leavingStream_of_not_tellsEnd (h : ¬ f.TellsEnd) : f.leavingStream = f := by
  rcases f with ⟨kind,text⟩
  cases kind <;> first | rfl | exact absurd (.inl rfl) h | exact absurd (.inr rfl) h

/-- A fault is passed on as itself if it is not ordinary or already one of the stream, by the channel if it
tells the loss of the line, and else by the loop. -/
theorem passedOn_streamFault (queue : String) (h : ¬ f.TellsEnd) :
    f.PassedOn queue (Consumer.streamFault (Stream.failure queue f)) := by
  cases hl : f.isLineFailure with
  | true =>
    have ordinary := Fault.isOrdinary_of_isLineFailure hl
    have passed : Consumer.streamFault (Stream.failure queue f) =
        ⟨.stream,s!"delivery stream for {queue} failed: {f.text}"⟩ := by
      simp [Stream.failure,hl,Consumer.streamFault]
    have other : f.kind ≠ .stream := fun hk => by simp [Fault.isLineFailure,hk] at hl
    rw [passed]
    exact ⟨by simp [ordinary],by simp [ordinary,other],fun _ => rfl,by simp [hl]⟩
  | false =>
    have same : Stream.failure queue f = f := by
      rw [Stream.failure,hl,Fault.leavingStream_of_not_tellsEnd h]
      rfl
    rw [same,Consumer.streamFault]
    by_cases hs : f.kind = .stream
    · have ordinary : f.isOrdinary = true := by simp [Fault.isOrdinary,hs]
      rw [if_pos hs]
      exact ⟨by simp [hs,ordinary],fun _ => rfl,by simp [hl],fun _ _ other => absurd hs other⟩
    · rw [if_neg hs]
      cases ho : f.isOrdinary with
      | true => exact ⟨by simp [ho],by simp [ho,hs],by simp [hl],fun _ _ _ => rfl⟩
      | false => exact ⟨by simp [ho,hs],fun _ => rfl,by simp [hl],by simp [ho]⟩

end

namespace Simulation.Reader

/-- The fault with which the first item of a queue is fetched or converted. -/
def fetching? : List (Item Parcel) → Option Fault
  | .delivery p :: _ =>
    match p.delivery.handle? with
    | .ok _ => none
    | .error f => some f
  | .failed f :: _ => some f
  | .shutdown :: rest | .nothing :: rest => fetching? rest
  | _ => none

/-- The fault with which the queue is looked up and its iteration entered. -/
def entering? (r : Reader) : Option Fault :=
  if r.channel.hasChannel then
    (r.line.replies .getQueue).or ((r.line.replies .iterator).or (r.line.replies .enter))
  else some ⟨.runtime, "broker channel not connected"⟩

/-- The fault that a stage of the stream raises when the next delivery is asked for. -/
def raised? (r : Reader) : Option Fault :=
  match r.stream with
  | .fresh => r.entering?.or (fetching? r.line.queue)
  | .reading => fetching? r.line.queue
  | .done => none

variable {r : Reader} {f : Fault}

/-- The stream of a reader is over, and its answer is a failure. -/
structure Fails (p : Poll Reader) (got : Reception) : Prop where
  finding : p.finding = .got got
  stream : p.world.stream = .done

theorem fails_leave (leaves : r.line.replies .leave = none) (queue : List (Item Parcel)) (f : Fault) :
    Fails (r.leave queue (some f)) (.failed (Stream.failure r.queue f)) := by
  constructor <;> simp [leave,Stream.leave,Replies.ofCall,leaves,Stream.reception]

theorem fails_drain (leaves : r.line.replies .leave = none) (rang : Bool) {items : List (Item Parcel)}
    (raised : fetching? items = some f) (h : ¬ f.TellsEnd) :
    Fails (r.drain rang items) (.failed (Stream.failure r.queue f)) := by
  -- items that bring nothing are passed over up to the one that fails
  induction items generalizing rang with
  | nil => cases raised
  | cons item rest ih =>
    cases item with
    | delivery p =>
      cases hd : p.delivery.handle? with
      | ok handle => simp [fetching?,hd] at raised
      | error g =>
        obtain rfl : g = f := by simpa [fetching?,hd] using raised
        have left := fails_leave leaves rest g
        simp only [drain,Stream.takeIn_of_error hd]
        exact ⟨left.finding,left.stream⟩
    | failed g =>
      obtain rfl : g = f := by simpa [fetching?] using raised
      have left := fails_leave leaves rest g
      have other : g.kind ≠ .ended := fun hk => h (.inr hk)
      simp only [drain,other,if_false,Fault.leavingCall_of_not_tellsEnd h]
      exact ⟨left.finding,left.stream⟩
    | shutdown => exact ih true raised
    | nothing => exact ih rang raised
    | ended => cases raised
    | pause seconds => cases raised

theorem subscribe_fault (h : ∀ f, r.entering? = some f → ¬ f.TellsEnd) :
    (Stream.subscribe r.channel r.queue r.line.replies).2 =
      r.entering?.map (Stream.failure r.queue) := by
  have passed : ∀ {f}, r.entering? = some f → f.leavingCall = f :=
    fun hf => Fault.leavingCall_of_not_tellsEnd (h _ hf)
  unfold entering? at passed ⊢
  unfold Stream.subscribe
  cases hc : r.channel.hasChannel with
  | false => simp [Stream.failure,Fault.isLineFailure,Fault.leavingStream]
  | true =>
    cases hg : r.line.replies .getQueue with
    | some f => simp_all [Replies.ofCall]
    | none =>
      cases hi : r.line.replies .iterator with
      | some f => simp_all [Replies.ofCall]
      | none => cases he : r.line.replies .enter <;> simp_all [Replies.ofCall]

/-- A fault that a stage raises ends the stream, and is what the request for a delivery gets, in the way
in which the channel passes it on. -/
theorem fails_poll (leaves : r.line.replies .leave = none) (raised : r.raised? = some f)
    (h : ¬ f.TellsEnd) : Fails r.poll (.failed (Stream.failure r.queue f)) := by
  unfold raised? at raised
  cases hs : r.stream with
  | done => simp [hs] at raised
  | reading =>
    simp only [hs] at raised
    simp only [poll,hs]
    exact fails_drain leaves false raised h
  | fresh =>
    simp only [hs] at raised
    cases he : r.entering? with
    | some g =>
      obtain rfl : g = f := by simpa [he] using raised
      have refused := subscribe_fault fun g hg => (Option.some.inj (he.symm.trans hg)) ▸ h
      rw [he] at refused
      simp only [poll,hs,refused,Option.map_some]
      exact ⟨rfl,rfl⟩
    | none =>
      have subscribed := subscribe_fault (r := r) fun g hg => by simp [he] at hg
      rw [he] at subscribed
      have drained := fails_drain (r := { r with stream := .reading }) leaves false
        (by simpa [he] using raised) h
      simp only [poll,hs,subscribed,Option.map_none]
      exact ⟨drained.finding,drained.stream⟩

end Simulation.Reader

variable {τ : Type}

/-- What happens to a consumer on a stream of a channel. The channel and its line are given as the stream
finds them when it looks for the delivery that it was asked for; leaving an iteration does not fail. -/
inductive Occasion (τ : Type)
  | begin (now : τ)
  | ask (channel : Channel) (line : Line) (leaves : line.replies .leave = none)
  | wake (now : τ)
  | replied (r : Reply) (now : τ)
  | cancel
  | stopped
  | closed (fault : Option Fault)

/-- A consumer with the stream of its run, and the fault that a stage of that stream has raised. -/
structure Subscribed (τ : Type) where
  consumer : Consumer τ
  stream : Stream
  raised : Option Fault

/-- Whether a run waits for its stream to be closed. -/
def Consumer.closesStream (c : Consumer τ) : Bool := c.run.any (·.phase.isClosing)

namespace Subscribed

/-- A consumer before its first run. -/
def start (c : Consumer τ) : Subscribed τ := ⟨c, .done, none⟩

variable [Add τ] [LE τ] [DecidableLE τ]

/-- The consumer has moved on. A stream that is over closes at once. -/
def move (w : Subscribed τ) (moved : Consumer τ × List Action) : Subscribed τ × List Action :=
  if w.stream = .done ∧ moved.1.closesStream = true then
    let last := moved.1.step (.closed none)
    ({ w with consumer := last.1 }, moved.2 ++ last.2)
  else ({ w with consumer := moved.1 }, moved.2)

/-- What happens on an occasion, and what the consumer does then. -/
def next (instant : Float → τ) (w : Subscribed τ) : Occasion τ → Subscribed τ × List Action
  | .begin now =>
    if w.consumer.run.isSome then (w, [])
    else { w with stream := .fresh, raised := none }.move (w.consumer.begin instant (.ok true) now)
  | .ask channel line _ =>
    if w.consumer.asks then
      let r : Reader := ⟨channel, w.consumer.queue, w.stream, line⟩
      match r.poll.finding with
      | .got got => { w with stream := r.poll.world.stream, raised := r.raised? }.move
          (w.consumer.step (.received got))
      | _ => ({ w with stream := r.poll.world.stream }, [])
    else (w, [])
  | .wake now => w.move (w.consumer.step (.wake now))
  | .replied reply now => w.move (w.consumer.step (.replied reply now))
  | .cancel => w.move (w.consumer.step .cancel)
  | .stopped =>
    if w.consumer.looping then (w, [])
    else { w with stream := .done }.move (w.consumer.step .receiveStopped)
  | .closed fault =>
    if w.consumer.looping then (w, [])
    else { w with stream := .done }.move (w.consumer.step (.closed fault))

/-- A consumer after some occasions. -/
def after (instant : Float → τ) (w : Subscribed τ) (os : List (Occasion τ)) : Subscribed τ :=
  os.foldl (fun w o => (w.next instant o).1) w

end Subscribed

section

variable {c d : Consumer τ} {r : Run τ} {x : Sight} {batches : List (List Handle)}
  {calls : List Settlement.Call} {got : Reception}

theorem Resumes.keeps_ready (go : Resumes c r d batches) (hq : r.receive = .ready got) :
    d.queue = c.queue ∧ ∃ r', d.run = some r' ∧ r'.receive = .ready got := by
  cases go with
  | waits ticker => exact ⟨rfl,_,rfl,by simp [hq,Receive.asked]⟩
  | spins ticker empty => exact ⟨rfl,_,rfl,hq⟩
  | flushes ticker filled => exact ⟨rfl,_,rfl,hq⟩

/-- As long as the loop goes on, a failure that it has not read stays where it is. -/
theorem Move.keeps_failure (m : Move c x d batches calls) (hr : c.run = some r) {f : Fault}
    (hq : r.receive = .ready (.failed f)) (hd : d.looping = true) :
    d.queue = c.queue ∧ ∃ r', d.run = some r' ∧ r'.receive = .ready (.failed f) := by
  have mine : ∀ {r'}, c.run = some r' → r'.receive = .ready (.failed f) :=
    fun hr' => (Option.some.inj (hr.symm.trans hr')) ▸ hq
  cases m with
  | stays => exact ⟨rfl,r,hr,hq⟩
  | refused exit hn => simp [hr] at hn
  | answered got hr' hp => simp [mine hr'] at hp
  | fills hr' hp hq' full => simp [mine hr'] at hq'
  | turns why go =>
    cases why with
    | begins hn => simp [hr] at hn
    | reads hr' hp hq' room => simp [mine hr'] at hq'
    | wakes hr' hp hn => exact absurd (mine hr') (hn _)
  | advances hr' hp why go =>
    cases go with
    | asks =>
      have ready := mine hr'
      exact ⟨rfl,_,rfl,ready⟩
    | resumes tolerable go => exact go.keeps_ready (mine hr')
    | leaves fatal out => simp [out.outside] at hd
  | leaves hr' why out => simp [out.outside] at hd

end

namespace Subscribed

variable {w : Subscribed τ} [Add τ] [LE τ] [DecidableLE τ]

/-- A fault that a stage has raised waits to be read as long as the loop goes on. -/
def Keeps (w : Subscribed τ) : Prop := ∀ f, w.raised = some f → ¬ f.TellsEnd →
  w.consumer.looping = true → w.stream = .done ∧ ∃ r, w.consumer.run = some r ∧
    r.receive = .ready (.failed (Stream.failure w.consumer.queue f))

theorem closed_of_closesStream {c : Consumer τ} (h : c.closesStream = true) : ∃ r exit, c.run = some r ∧
    r.phase = .closingStream exit ∧ c.step (.closed none) = c.finish exit := by
  cases hr : c.run with
  | none => simp [Consumer.closesStream,hr] at h
  | some r =>
    cases hp : r.phase with
    | closingStream exit => exact ⟨r,exit,rfl,hp,by simp only [Consumer.step,hr,hp,Consumer.closed]⟩
    | _ => simp [Consumer.closesStream,hr,hp,Phase.isClosing] at h

/-- Closing the stream ends a run, so one that is in its loop is as it was before. -/
theorem move_of_looping {moved : Consumer τ × List Action}
    (hl : (w.move moved).1.consumer.looping = true) : (w.move moved).1 = { w with consumer := moved.1 } := by
  unfold move at hl ⊢
  split
  · rename_i spent
    obtain ⟨r,exit,-,-,finished⟩ := closed_of_closesStream spent.2
    rw [if_pos spent,finished] at hl
    cases hl
  · rfl

omit [Add τ] [LE τ] [DecidableLE τ] in
theorem Keeps.of_move (h : w.Keeps) {r : Run τ} (hr : w.consumer.run = some r) {x : Sight}
    {d : Consumer τ} {batches : List (List Handle)} {calls : List Settlement.Call}
    (m : Move w.consumer x d batches calls) : Keeps { w with consumer := d } := by
  intro f raised hf hl
  obtain ⟨spent,r',hr',hq⟩ := h f raised hf (m.looping hr hl)
  obtain ⟨queue,kept⟩ := m.keeps_failure hr' hq hl
  refine ⟨spent,?_⟩
  change ∃ r, d.run = some r ∧ r.receive = .ready (.failed (Stream.failure d.queue f))
  rwa [queue]

theorem Keeps.signal (h : w.Keeps) (instant : Float → τ) (s : Signal τ) :
    (w.move (w.consumer.step s)).1.Keeps := by
  intro f raised hf hl
  have moved := move_of_looping hl
  rw [moved] at raised hl ⊢
  cases hr : w.consumer.run with
  | none =>
    have rest : w.consumer.step s = (w.consumer,[]) := by simp only [Consumer.step,hr]
    rw [rest] at hl
    simp [Consumer.looping_of_rest hr] at hl
  | some r => exact h.of_move hr (w.consumer.move_react instant (.signal s)) f raised hf hl

theorem Keeps.cleanup (outside : w.consumer.looping = false) (instant : Float → τ) (s : Signal τ) :
    (w.move (w.consumer.step s)).1.Keeps := by
  have vacuous : w.Keeps := fun f _ _ hl => by simp [outside] at hl
  exact vacuous.signal instant s

theorem Keeps.next (h : w.Keeps) (instant : Float → τ) (o : Occasion τ) : (w.next instant o).1.Keeps := by
  cases o with
  | begin now =>
    simp only [Subscribed.next]
    split
    · exact h
    · intro f raised hf hl
      rw [move_of_looping hl] at raised
      cases raised
  | ask channel line leaves =>
    simp only [Subscribed.next]
    split
    · rename_i asks
      obtain ⟨r,hr,hq⟩ : ∃ r, w.consumer.run = some r ∧ r.receive = .pending := by
        simpa [Consumer.asks,Option.any_eq_true] using asks
      split
      · rename_i got found
        intro f raised hf hl
        have moved := move_of_looping hl
        rw [moved] at raised hl ⊢
        -- the stage that raised it has ended the stream, and its answer is what waits now
        have failed := Reader.fails_poll leaves raised hf
        obtain rfl : got = _ := Finding.got.inj (found.symm.trans failed.finding)
        refine ⟨failed.stream,?_⟩
        simp only [Consumer.step,hr,hq]
        exact ⟨_,rfl,rfl⟩
      · -- while nothing is raised the request stays open, and no failure can be waiting
        intro f raised hf hl
        obtain ⟨-,r',hr',hq'⟩ := h f raised hf hl
        obtain rfl : r = r' := Option.some.inj (hr.symm.trans hr')
        simp [hq] at hq'
    · exact h
  | wake now => exact h.signal instant _
  | replied reply now => exact h.signal instant _
  | cancel => exact h.signal instant _
  | stopped =>
    simp only [Subscribed.next]
    split
    · exact h
    · rename_i outside
      exact Keeps.cleanup (w := { w with stream := .done }) (by simpa using outside) instant _
  | closed fault =>
    simp only [Subscribed.next]
    split
    · exact h
    · rename_i outside
      exact Keeps.cleanup (w := { w with stream := .done }) (by simpa using outside) instant _

theorem keeps_after (instant : Float → τ) (h : w.Keeps) (os : List (Occasion τ)) :
    (w.after instant os).Keeps := by
  induction os generalizing w with
  | nil => exact h
  | cons o os ih => exact ih (h.next instant o)

/-- A run that leaves its loop with nothing to stop ends at once when its stream is over. -/
theorem move_closeStream (spent : w.stream = .done) (r : Run τ) (exit : Exit) :
    let v := w.move (w.consumer.closeStream r exit)
    v.1.consumer = (w.consumer.finish exit).1 ∧ taken v.2 = [] ∧ asked v.2 = [] := by
  obtain ⟨-,no_batch,no_call⟩ := w.consumer.leaves_finish exit .idle
  cases hc : r.closable with
  | true =>
    have closes : w.consumer.closeStream r exit =
        (w.consumer.suspend { r with phase := .closingStream exit },[.closeStream]) := by
      simp [Consumer.closeStream,hc]
    rw [closes,move,if_pos ⟨spent,rfl⟩]
    exact ⟨rfl,no_batch,no_call⟩
  | false =>
    have finishes : w.consumer.closeStream r exit = w.consumer.finish exit := by
      simp [Consumer.closeStream,hc]
    have ended : ¬ (w.stream = .done ∧ (w.consumer.finish exit).1.closesStream = true) := fun h => by
      cases h.2
    rw [finishes,move,if_neg ended]
    exact ⟨rfl,no_batch,no_call⟩

theorem next_wake_of_failed {r : Run τ} {f : Fault} (hr : w.consumer.run = some r)
    (hp : r.phase = .waiting) (hq : r.receive = .ready (.failed f)) (spent : w.stream = .done)
    (instant : Float → τ) (now : τ) : let v := w.next instant (.wake now)
      v.1.consumer = (w.consumer.finish (.raised (Consumer.streamFault f))).1 ∧
        taken v.2 = [] ∧ asked v.2 = [] := by
  have reads : w.consumer.step (.wake now) =
      w.consumer.closeStream { r with receive := .idle } (.raised (Consumer.streamFault f)) := by
    simp only [Consumer.step,hr,hp,hq,Consumer.read,Consumer.leave]
  simp only [next,reads]
  exact move_closeStream spent _ _

/-- For every consumer on a stream of a channel, in every session, and every fault that a stage of the
stream raises and that does not just tell its end: when the loop reads it, the run ends at once and passes
it on, without another batch or call and with the buffer as it was. -/
theorem failure_ends_run (instant : Float → τ) (c : Consumer τ) (os : List (Occasion τ)) (f : Fault)
    (now : τ) :
    let w := (start c).after instant os
    let v := w.next instant (.wake now)
    w.raised = some f → ¬ f.TellsEnd → w.consumer.waits = true →
      (∃ g, v.1.consumer.ending = some (.raised g) ∧ f.PassedOn w.consumer.queue g) ∧
        v.1.consumer.run = none ∧ taken v.2 = [] ∧ asked v.2 = [] ∧
        v.1.consumer.buffer = w.consumer.buffer := by
  intro w v raised hf waits
  have kept : w.Keeps := keeps_after instant (fun f raised => by cases raised) os
  obtain ⟨spent,r,hr,hq⟩ := kept f raised hf (Consumer.looping_of_waits waits)
  obtain ⟨r',hr',hp⟩ := Consumer.run_of_waits waits
  obtain rfl : r = r' := Option.some.inj (hr.symm.trans hr')
  obtain ⟨ended,no_batch,no_call⟩ := next_wake_of_failed hr hp hq spent instant now
  refine ⟨⟨_,?_,passedOn_streamFault _ hf⟩,?_,no_batch,no_call,?_⟩
  · rw [ended]; rfl
  · rw [ended]; rfl
  · rw [ended]; rfl

/-- The stream finds items in its queue when it is asked. -/
def finds (items : List (Item Parcel)) : Occasion Nat := .ask Attached.ready ⟨[], items, []⟩ rfl

/-- The line is lost while the strategy has the first delivery, which the timer took. -/
def lostInFlush : List (Occasion Nat) :=
  [.begin 0, finds [.delivery ⟨.numbered 0 1, none, none, 0⟩], .wake 0, .wake 10,
    finds [.failed ⟨.connection "AMQPConnectionError", "reset"⟩],
    .replied (.answered (.outcome .success)) 11, .replied (.settled none) 12]

theorem failure_in_flush_ends_run :
    let w := (start Session.pairs).after (fun _ => 10) lostInFlush
    let v := w.next (fun _ => 10) (.wake 13)
    w.raised = some ⟨.connection "AMQPConnectionError", "reset"⟩ ∧ w.consumer.waits = true ∧
      w.consumer.flushes = 1 ∧ v.1.consumer.run = none ∧
      v.1.consumer.ending = some (.raised ⟨.stream, "delivery stream for orders failed: reset"⟩) := by
  intro w v
  have raised : w.raised = some ⟨.connection "AMQPConnectionError","reset"⟩ := by decide +kernel
  have waits : w.consumer.waits = true := by decide +kernel
  have queue : w.consumer.queue = "orders" := by decide +kernel
  obtain ⟨⟨g,ended,passed⟩,spent,-⟩ :=
    failure_ends_run (fun _ => 10) Session.pairs lostInFlush _ 13 raised (by decide) waits
  have known := passed.channel rfl
  rw [queue] at known
  exact ⟨raised,waits,by decide +kernel,spent,known ▸ ended⟩

end Subscribed
end Baler
