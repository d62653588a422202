import Baler.Proofs.LateDeliveries

/-! How runs end. A bystander counts the stops that are logged and the closings of the stream, and knows
whether a delivery is still asked for. Whatever ends a run, the consumer is then stopped in good order,
unless the run was refused at its beginning or its cleanup was cut short. -/
namespace Baler

open Settlement

variable {τ : Type}

/-- The stop that a record tells of: the queue, and the number of flushes. -/
def Log.Record.stop? : Log.Record → Option (String × Nat)
  | .event (.consumerStopped queue flushes) => some (queue, flushes)
  | _ => none

/-- Whether records tell of no stop. -/
def Quiet (log : List Log.Record) : Prop := ∀ x ∈ log, x.stop? = none

/-- The records with which a batch in work will end. -/
def Processing.closing : Processing → List Log.Record
  | .deciding _ => []
  | .settling _ _ closing _ => closing

/-- The records with which a flush will end. -/
def Phase.closing : Phase → List Log.Record
  | .flushing _ _ work => work.closing
  | _ => []

/-- Whether the stream is being closed. -/
def Phase.isClosing : Phase → Bool
  | .closingStream _ => true
  | _ => false

/-- Whether a batch that is not finished will end with records that tell of no stop. -/
def Progress.Quiet (p : Progress) : Prop := ∀ work, p = .busy work → Baler.Quiet work.closing

section

theorem quiet_nil : Quiet [] := fun _ h => by cases h

theorem quiet_singleton {x : Log.Record} (h : x.stop? = none) : Quiet [x] :=
  fun _ hm => List.mem_singleton.mp hm ▸ h

theorem Quiet.append {xs ys : List Log.Record} (hx : Quiet xs) (hy : Quiet ys) : Quiet (xs ++ ys) :=
  fun x h => (List.mem_append.mp h).elim (hx x) (hy x)

theorem Quiet.cons {x : Log.Record} {xs : List Log.Record} (h : x.stop? = none) (hx : Quiet xs) :
    Quiet (x :: xs) := (quiet_singleton h).append hx

/-- The records of a plan tell of batches only. -/
theorem quiet_make (mode : AckMode) (failedNacks : List Int) (batch : List Handle) (a : Answer) :
    Quiet (Plan.make mode failedNacks batch a).opening ∧
      Quiet (Plan.make mode failedNacks batch a).closing := by
  have refused : ∀ f, Quiet (Plan.refused f batch).opening ∧ Quiet (Plan.refused f batch).closing :=
    fun f => ⟨(quiet_singleton rfl).cons rfl,quiet_nil⟩
  cases a with
  | stray kind => exact refused _
  | raised f =>
    cases hf : f.isOrdinary with
    | true => simpa [Plan.make,hf] using refused f
    | false => simpa [Plan.make,hf,Plan.givenUp] using quiet_nil
  | outcome o =>
    cases o with
    | totalFailure => exact ⟨quiet_nil,quiet_singleton rfl⟩
    | partialFailure failed strays =>
      simp only [Plan.make,Plan.divided]
      split
      · exact ⟨quiet_nil,quiet_nil⟩
      · refine ⟨?_,quiet_singleton rfl⟩
        dsimp only
        split
        · exact quiet_nil
        · exact quiet_singleton rfl
    | success =>
      cases batch with
      | nil => exact ⟨quiet_nil,quiet_nil⟩
      | cons first rest =>
        cases mode with
        | individual => exact ⟨quiet_nil,quiet_singleton rfl⟩
        | batched =>
          cases failedNacks with
          | nil => exact ⟨quiet_nil,quiet_singleton rfl⟩
          | cons id more => exact ⟨quiet_singleton rfl,quiet_singleton rfl⟩

theorem quiet_proceed {closing : List Log.Record} (h : Quiet closing) (failure : Option Fault)
    (steps : List Step) : Quiet (Processor.proceed closing failure steps).1 ∧
      (Processor.proceed closing failure steps).2.Quiet := by
  induction steps with
  | nil => exact ⟨h,fun work hw => by cases hw⟩
  | cons step rest ih =>
    cases step with
    | call c =>
      refine ⟨quiet_nil,?_⟩
      rintro work ⟨⟩
      exact h
    | skip v id => exact ⟨ih.1.cons rfl,ih.2⟩

theorem quiet_react (p : Processor) (c : Call) (fault : Option Fault) : Quiet (p.react c fault).2.1 := by
  cases fault with
  | none => exact quiet_nil
  | some f =>
    cases hf : f.isOrdinary with
    | false => simpa [Processor.react,hf] using quiet_nil
    | true =>
      have noted : ∀ text e, (Log.Record.event e).stop? = none →
          Quiet [.note .warning text,.event e] := fun text e he => (quiet_singleton he).cons rfl
      cases c with
      | nack id requeue => simpa [Processor.react,hf] using noted _ _ rfl
      | ack id cumulative => cases cumulative <;> simpa [Processor.react,hf] using noted _ _ rfl

/-- A processor logs no stop. -/
theorem quiet_resume (p : Processor) {work : Processing} (h : Quiet work.closing) (reply : Reply) :
    Quiet (p.resume work reply).2.1 ∧ (p.resume work reply).2.2.Quiet := by
  cases work with
  | deciding batch =>
    cases reply with
    | settled fault => exact ⟨quiet_nil,fun work hw => by cases hw; exact h⟩
    | answered a =>
      obtain ⟨opening,closing⟩ := quiet_make p.mode p.failedNacks batch a
      obtain ⟨log,progress⟩ := quiet_proceed closing (Plan.make p.mode p.failedNacks batch a).failure
        (Plan.make p.mode p.failedNacks batch a).steps
      exact ⟨opening.append log,progress⟩
  | settling c rest closing failure =>
    cases reply with
    | answered a => exact ⟨quiet_nil,fun work hw => by cases hw; exact h⟩
    | settled fault =>
      have reacted := quiet_react p c fault
      obtain ⟨log,progress⟩ := quiet_proceed h failure rest
      simp only [Processor.resume]
      rcases hr : p.react c fault with ⟨q,noted,course⟩
      rw [hr] at reacted
      cases course with
      | stop f => exact ⟨reacted,fun work hw => by cases hw⟩
      | onward => exact ⟨reacted.append log,progress⟩

end

/-- The request for a delivery as it is seen from outside: there is none, it is open, or it was told to
stop. -/
inductive Demand
  | idle
  | open
  | stopping
deriving DecidableEq, Repr

/-- A request that is told to stop. -/
def Demand.told : Demand → Demand
  | .idle => .idle
  | _ => .stopping

/-- How the request of a loop is seen. -/
def Receive.demand : Receive → Demand
  | .pending => .open
  | _ => .idle

/-- How the request of a run is seen. -/
def Run.demand (r : Run τ) : Demand :=
  match r.phase with
  | .stoppingReceive _ => r.receive.demand.told
  | _ => r.receive.demand

/-- What a bystander knows about a run: whether its stream can be closed, if it has one, the stops that
were logged, how often the stream was closed, and the request for a delivery. -/
structure Watch where
  stream : Option Bool
  stops : List (String × Nat)
  closings : Nat
  demand : Demand
deriving DecidableEq, Repr

namespace Watch

/-- The watch over a run that has not done anything. -/
def fresh (stream : Option Bool) : Watch := ⟨stream, [], 0, .idle⟩

/-- The watch after an action. -/
def act (w : Watch) : Action → Watch
  | .log x => { w with stops := w.stops ++ x.stop?.toList }
  | .receive => { w with demand := .open }
  | .stopReceiving => { w with demand := w.demand.told }
  | .closeStream => { w with closings := w.closings + 1 }
  | _ => w

/-- The watch after actions. -/
def acts (w : Watch) (actions : List Action) : Watch := actions.foldl act w

/-- The watch when an event comes, which may begin another run. -/
def see (w : Watch) (running : Bool) : Event τ → Watch
  | .begin subscription _ => if running then w else fresh subscription.toOption
  | .signal (.received _) => { w with demand := .idle }
  | .signal .receiveStopped => if w.demand = .stopping then { w with demand := .idle } else w
  | .signal _ => w

@[simp] theorem acts_nil (w : Watch) : w.acts [] = w := rfl

theorem acts_log (w : Watch) {x : Log.Record} (h : x.stop? = none) (actions : List Action) :
    w.acts (.log x :: actions) = w.acts actions := by
  simp [acts,act,h]

theorem acts_logs (w : Watch) {log : List Log.Record} (h : Quiet log) (actions : List Action) :
    w.acts (log.map .log ++ actions) = w.acts actions := by
  induction log with
  | nil => rfl
  | cons x log ih =>
    obtain ⟨first,others⟩ := List.forall_mem_cons.mp h
    exact (w.acts_log first _).trans (ih others)

end Watch

/-- What the watch shows of a run in its loop. -/
structure Attends (w : Watch) (r : Run τ) : Prop where
  stream : w.stream = some r.closable
  stops : w.stops = []
  closings : w.closings = 0
  demand : w.demand = r.receive.demand

/-- What the watch shows of a run, wherever it is suspended. -/
structure Shows (w : Watch) (r : Run τ) : Prop where
  stream : w.stream = some r.closable
  stops : w.stops = []
  closings : w.closings = if r.phase.isClosing then 1 else 0
  demand : w.demand = r.demand
  closing : r.phase.isClosing = true → r.closable = true ∧ r.receive ≠ .pending
  quiet : Quiet r.phase.closing

section

variable {w : Watch} {r : Run τ}

theorem Run.demand_of_loop (h : r.phase.isLoop = true) : r.demand = r.receive.demand := by
  unfold Run.demand
  cases hp : r.phase <;> simp_all [Phase.isLoop]

theorem Receive.demand_of_not_pending {q : Receive} (h : q ≠ .pending) : q.demand = .idle := by
  cases q with
  | pending => exact absurd rfl h
  | _ => rfl

theorem Run.demand_of_not_pending (h : r.receive ≠ .pending) : r.demand = .idle := by
  unfold Run.demand
  split <;> simp [Receive.demand_of_not_pending h,Demand.told]

theorem Phase.not_isClosing_of_isLoop {p : Phase} (h : p.isLoop = true) : p.isClosing = false := by
  cases p <;> first | rfl | cases h

theorem Attends.shows (h : Attends w r) (hp : r.phase.isLoop = true) (quiet : Quiet r.phase.closing) :
    Shows w r where
  stream := h.stream
  stops := h.stops
  closings := by simp [h.closings,Phase.not_isClosing_of_isLoop hp]
  demand := h.demand.trans (Run.demand_of_loop hp).symm
  closing hc := by simp [Phase.not_isClosing_of_isLoop hp] at hc
  quiet := quiet

theorem Shows.attends (h : Shows w r) (hp : r.phase.isLoop = true) : Attends w r where
  stream := h.stream
  stops := h.stops
  closings := by simp [h.closings,Phase.not_isClosing_of_isLoop hp]
  demand := h.demand.trans (Run.demand_of_loop hp)

end

/-- A consumer with the watch over its run. -/
structure Guarded (τ : Type) where
  consumer : Consumer τ
  watch : Watch

/-- Whether a consumer is stopped in good order: its run has logged that once, with the number of
flushes, asks for no delivery any more and has closed its stream once if that can be done. -/
structure Guarded.Tidy (g : Guarded τ) : Prop where
  standing : g.consumer.standing = .stopped
  stops : g.watch.stops = [(g.consumer.queue, g.consumer.flushes)]
  demand : g.watch.demand = .idle
  closings : g.watch.closings = if g.watch.stream = some true then 1 else 0

/-- Whether the watch shows the run, or the consumer is stopped in good order. -/
def Lands (w : Watch) (c : Consumer τ) : Prop :=
  match c.run with
  | some r => Shows w r
  | none => Guarded.Tidy ⟨c,w⟩

namespace Consumer

variable {c : Consumer τ} {w : Watch} {r : Run τ}

theorem lands_of_shows (hr : c.run = some r) (h : Shows w r) : Lands w c := by
  simpa only [Lands,hr] using h

theorem lands_finish (stops : w.stops = []) (demand : w.demand = .idle)
    (closings : w.closings = if w.stream = some true then 1 else 0) (c : Consumer τ) (exit : Exit) :
    Lands (w.acts (c.finish exit).2) (c.finish exit).1 := by
  have last : w.acts (c.finish exit).2 = { w with stops := [(c.queue,c.flushes)] } := by
    unfold finish
    dsimp only
    split
    · simp [Watch.acts,Watch.act,Log.Record.stop?,stops]
    · simp [Watch.acts,Watch.act,Log.Record.stop?,stops]
  rw [last]
  exact ⟨rfl,rfl,demand,closings⟩

/-- The stream is closed when nothing is asked for any more. -/
theorem lands_closeStream (h : Attends w r) (hq : r.receive ≠ .pending) (c : Consumer τ) (exit : Exit) :
    Lands (w.acts (c.closeStream r exit).2) (c.closeStream r exit).1 := by
  have idle : w.demand = .idle := h.demand.trans (Receive.demand_of_not_pending hq)
  cases hc : r.closable with
  | true =>
    simp only [closeStream,hc,if_true]
    refine lands_of_shows rfl
      ⟨h.stream.trans (congrArg some hc),h.stops,?_,h.demand,fun _ => ⟨rfl,hq⟩,quiet_nil⟩
    simp [Watch.acts,Watch.act,h.closings,Phase.isClosing]
  | false =>
    simp only [closeStream,hc,Bool.false_eq_true,if_false]
    exact lands_finish h.stops idle (by simp [h.stream,hc,h.closings]) c exit

theorem lands_leave (h : Attends w r) (c : Consumer τ) (exit : Exit) :
    Lands (w.acts (c.leave r exit).2) (c.leave r exit).1 := by
  cases hq : r.receive with
  | pending =>
    simp only [leave,hq]
    refine lands_of_shows rfl ⟨h.stream,h.stops,h.closings,?_,(fun hc => by cases hc),quiet_nil⟩
    simp only [Watch.acts,List.foldl_cons,List.foldl_nil,Watch.act,h.demand,Run.demand,hq]
  | _ =>
    simp only [leave,hq]
    exact lands_closeStream h (by simp [hq]) c exit

theorem lands_await (h : Attends w r) (c : Consumer τ) : Lands (w.acts (c.await r).2) (c.await r).1 := by
  have demand := h.demand
  cases hq : r.receive with
  | idle =>
    simp only [await,hq]
    exact lands_of_shows rfl (Attends.shows ⟨h.stream,h.stops,h.closings,rfl⟩ rfl quiet_nil)
  | _ =>
    rw [hq] at demand
    simp only [await,hq]
    exact lands_of_shows rfl (Attends.shows ⟨h.stream,h.stops,h.closings,demand⟩ rfl quiet_nil)

theorem lands_flush (h : Attends w r) (c : Consumer τ) (trigger : Trigger) (batch : List Handle) :
    Lands (w.acts (c.flush r trigger batch).2) (c.flush r trigger batch).1 :=
  lands_of_shows rfl (Attends.shows ⟨h.stream,h.stops,h.closings,h.demand⟩ rfl quiet_nil)

variable [Add τ] [LE τ] [DecidableLE τ]

theorem lands_turn (h : Attends w r) (c : Consumer τ) (now : τ) :
    Lands (w.acts (c.turn r now).2) (c.turn r now).1 := by
  have moved : Attends w { r with ticker := r.ticker.advance now } :=
    ⟨h.stream,h.stops,h.closings,h.demand⟩
  unfold turn
  split
  · dsimp only
    split
    · split
      · exact lands_of_shows rfl (Attends.shows ⟨h.stream,h.stops,h.closings,h.demand⟩ rfl quiet_nil)
      · exact lands_await moved c
    · rw [Watch.acts_log _ rfl]
      exact lands_flush moved c _ _
  · exact lands_await h c

theorem lands_accept (h : Attends w r) (c : Consumer τ) (g : Handle) (now : τ) :
    Lands (w.acts (c.accept r g now).2) (c.accept r g now).1 := by
  unfold accept
  dsimp only
  split
  · rw [Watch.acts_log _ rfl,Watch.acts_log _ rfl]
    exact lands_flush h _ _ _
  · rw [Watch.acts_log _ rfl]
    exact lands_turn h _ now

theorem lands_read (h : Attends w { r with receive := .idle }) (c : Consumer τ) (got : Reception)
    (now : τ) : Lands (w.acts (c.read r got now).2) (c.read r got now).1 := by
  cases got with
  | delivery g => exact lands_accept h c g now
  | ended =>
    simp only [read]
    rw [Watch.acts_log _ rfl]
    exact lands_leave h c _
  | failed f => exact lands_leave h c _

theorem lands_flushed (h : Attends w r) (c : Consumer τ) (trigger : Trigger) (size : Nat)
    (failure : Option Fault) (now : τ) :
    Lands (w.acts (c.flushed r trigger size failure now).2) (c.flushed r trigger size failure now).1 := by
  have goOn : ∀ tolerated more,
      w.acts ((c.concludeFlush trigger size tolerated).2 ++ more) = w.acts more := by
    intro tolerated more
    cases tolerated with
    | none => exact w.acts_log rfl more
    | some f => exact (w.acts_log rfl _).trans (w.acts_log rfl more)
  cases failure with
  | none =>
    simp only [flushed]
    rw [goOn]
    exact lands_turn h _ now
  | some f =>
    cases hf : f.isOrdinary && !c.haltOnFault with
    | true =>
      simp only [flushed,hf,if_true]
      rw [goOn]
      exact lands_turn h _ now
    | false =>
      simp only [flushed,hf,Bool.false_eq_true,if_false]
      exact lands_leave h _ _

theorem lands_proceed (h : Attends w r) (c : Consumer τ) (trigger : Trigger) (size : Nat)
    {work : Processing} (quiet : Quiet work.closing) (reply : Reply) (now : τ) :
    Lands (w.acts (c.proceed r trigger size work reply now).2)
      (c.proceed r trigger size work reply now).1 := by
  obtain ⟨log,progress⟩ := quiet_resume c.processor quiet reply
  unfold proceed
  rcases hp : c.processor.resume work reply with ⟨q,records,p⟩
  rw [hp] at log progress
  cases p with
  | finished failure =>
    dsimp only
    rw [w.acts_logs log]
    exact lands_flushed h _ trigger size failure now
  | busy next =>
    dsimp only
    rw [w.acts_logs log]
    refine lands_of_shows rfl (Attends.shows ?_ rfl (progress next rfl))
    cases next <;> exact ⟨h.stream,h.stops,h.closings,h.demand⟩

/-- A run is refused, or it begins. -/
theorem lands_begin (instant : Float → τ) (c : Consumer τ) (subscription : Except Fault Bool) (now : τ) :
    let d := (c.begin instant subscription now).1
    let w := (Watch.fresh subscription.toOption).acts (c.begin instant subscription now).2
    d.run = none ∧ w.stops = [] ∨ d.looping = true ∧ Lands w d := by
  unfold begin
  split
  · exact .inl ⟨rfl,rfl⟩
  · cases subscription with
    | error f => exact .inl ⟨rfl,rfl⟩
    | ok closable =>
      refine .inr ⟨?_,?_⟩
      · exact (resumes_turn _ _ now).1.looping
      · simp only [start]
        exact lands_turn ⟨rfl,rfl,rfl,rfl⟩ _ now

/-- The answer of the stream leaves a run where it is. -/
theorem lands_received (hr : c.run = some r) (h : Shows w r) (got : Reception) :
    Lands ({ w with demand := .idle }.acts (c.step (.received got)).2) (c.step (.received got)).1 := by
  by_cases hq : r.receive = .pending
  · have answered : c.step (.received got) = (c.suspend { r with receive := .ready got },[]) := by
      simp only [step,hr,hq]
    rw [answered]
    exact lands_of_shows rfl ⟨h.stream,h.stops,h.closings,
      (Run.demand_of_not_pending (r := { r with receive := .ready got }) (by simp)).symm,
      fun hc => ⟨(h.closing hc).1,by simp⟩,h.quiet⟩
  · have same : c.step (.received got) = (c,[]) := by simp only [step,hr]
    have idle : w.demand = .idle := h.demand.trans (Run.demand_of_not_pending hq)
    rw [same,Watch.acts_nil,← idle]
    exact lands_of_shows hr h

theorem lands_wake (hr : c.run = some r) (h : Shows w r) (now : τ) :
    Lands (w.acts (c.step (.wake now)).2) (c.step (.wake now)).1 := by
  cases hp : r.phase with
  | waiting =>
    have attends := h.attends (by rw [hp]; rfl)
    have demand := attends.demand
    cases hq : r.receive with
    | ready got =>
      have reads : c.step (.wake now) = c.read r got now := by simp only [step,hr,hp,hq]
      rw [hq] at demand
      rw [reads]
      exact lands_read ⟨h.stream,h.stops,attends.closings,demand⟩ c got now
    | _ =>
      have turns : c.step (.wake now) = c.turn r now := by simp only [step,hr,hp,hq]
      rw [turns]
      exact lands_turn attends c now
  | _ =>
    simp only [step,hr,hp]
    exact lands_of_shows hr h

theorem lands_replied (hr : c.run = some r) (h : Shows w r) (reply : Reply) (now : τ) :
    Lands (w.acts (c.step (.replied reply now)).2) (c.step (.replied reply now)).1 := by
  cases hp : r.phase with
  | flushing trigger size work =>
    have quiet := h.quiet
    rw [hp] at quiet
    simp only [step,hr,hp]
    split
    · exact lands_proceed (h.attends (by rw [hp]; rfl)) c trigger size quiet reply now
    · exact lands_of_shows hr h
  | _ =>
    simp only [step,hr,hp]
    exact lands_of_shows hr h

/-- A request that was told to stop has stopped, if it has not been answered before. -/
theorem lands_receiveStopped (hr : c.run = some r) (h : Shows w r) :
    Lands ((w.see true (.signal .receiveStopped : Event τ)).acts (c.step .receiveStopped).2)
      (c.step .receiveStopped).1 := by
  have demand := h.demand
  have closings := h.closings
  unfold Run.demand at demand
  -- the watch sees a request being stopped in this phase only, so elsewhere the signal is not for it
  cases hp : r.phase with
  | stoppingReceive exit =>
    rw [hp] at demand closings
    have stopped : w.see true (.signal .receiveStopped : Event τ) = { w with demand := .idle } := by
      cases hq : r.receive with
      | pending => exact if_pos (by simp [demand,hq,Receive.demand,Demand.told])
      | _ =>
        have idle : w.demand = .idle := by simpa [hq,Receive.demand,Demand.told] using demand
        have same : { w with demand := .idle } = w := by rw [← idle]
        rw [same]
        exact if_neg (by simp [idle])
    simp only [step,hr,hp]
    rw [stopped]
    have attends : Attends { w with demand := .idle } { r with receive := .idle } :=
      ⟨h.stream,h.stops,closings,rfl⟩
    exact lands_closeStream attends (by simp) c exit
  | _ =>
    have same : w.see true (.signal .receiveStopped : Event τ) = w := by
      rw [hp] at demand
      refine if_neg ?_
      rw [demand]
      cases r.receive <;> simp [Receive.demand]
    simp only [step,hr,hp]
    rw [same]
    exact lands_of_shows hr h

/-- An ordinary fault of closing the stream is no reason not to finish. -/
theorem lands_closed (hr : c.run = some r) (h : Shows w r) {fault : Option Fault}
    (ordinary : ∀ f, fault = some f → f.isOrdinary = true) :
    Lands (w.acts (c.step (.closed fault)).2) (c.step (.closed fault)).1 := by
  cases hp : r.phase with
  | closingStream exit =>
    have closings := h.closings
    have closing := h.closing
    rw [hp] at closings closing
    obtain ⟨closable,hq⟩ := closing rfl
    have finished := lands_finish h.stops (h.demand.trans (Run.demand_of_not_pending hq))
      (by simp [h.stream,closable,closings,Phase.isClosing]) c exit
    simp only [step,hr,hp]
    cases fault with
    | none => exact finished
    | some f =>
      simp only [closed,ordinary f rfl,if_true]
      rw [Watch.acts_log _ rfl]
      exact finished
  | _ =>
    simp only [step,hr,hp]
    exact lands_of_shows hr h

theorem lands_cancel (hr : c.run = some r) (h : Shows w r) (hl : c.looping = true) :
    Lands (w.acts (c.step .cancel).2) (c.step .cancel).1 := by
  rw [looping_of_run hr] at hl
  have attends := h.attends hl
  cases hp : r.phase with
  | waiting =>
    simp only [step,hr,hp]
    exact lands_leave attends c _
  | flushing trigger size work =>
    simp only [step,hr,hp]
    exact lands_leave attends _ _
  | spinning =>
    simp only [step,hr,hp]
    exact lands_of_shows hr h
  | _ => simp [hp,Phase.isLoop] at hl

/-- Whether an event that ends a run refuses it or cuts its cleanup short: the run did not begin, it is
cancelled outside its loop, or closing its stream ends with a fault that is not ordinary. -/
def CutShort (c : Consumer τ) : Event τ → Prop
  | .begin _ _ => True
  | .signal .cancel => c.looping = false
  | .signal (.closed (some f)) => f.isOrdinary = false
  | .signal _ => False

/-- A signal that cuts a cleanup short ends the run on the spot, and any other that does not fit. -/
theorem step_of_cutShort (hr : c.run = some r) {s : Signal τ} (hs : c.CutShort (.signal s)) :
    (c.step s).1.run = none ∧ (c.step s).2 = [] ∨ c.step s = (c,[]) := by
  cases s with
  | cancel =>
    rw [CutShort,looping_of_run hr] at hs
    cases hp : r.phase with
    | stoppingReceive exit => exact .inl (by simp [step,hr,hp,halt])
    | closingStream exit => exact .inl (by simp [step,hr,hp,halt])
    | _ => simp [hp,Phase.isLoop] at hs
  | closed fault =>
    cases fault with
    | none => cases hs
    | some f =>
      have grave : f.isOrdinary = false := hs
      cases hp : r.phase with
      | closingStream exit => exact .inl (by simp [step,hr,hp,closed,grave,halt])
      | _ => exact .inr (by simp [step,hr,hp])
  | _ => cases hs

end Consumer

namespace Guarded

/-- A consumer between two runs. -/
def start (c : Consumer τ) : Guarded τ := ⟨c, .fresh none⟩

variable [Add τ] [LE τ] [DecidableLE τ]

/-- A consumer and its watch after an event. -/
def next (instant : Float → τ) (g : Guarded τ) (e : Event τ) : Guarded τ :=
  let (d, actions) := g.consumer.react instant e
  ⟨d, (g.watch.see g.consumer.run.isSome e).acts actions⟩

/-- A consumer and its watch after events. -/
def after (instant : Float → τ) (g : Guarded τ) (es : List (Event τ)) : Guarded τ :=
  es.foldl (next instant) g

/-- Whether a run is over with an event that begins it or comes in its course. -/
def EndsWith (instant : Float → τ) (g : Guarded τ) (e : Event τ) : Prop :=
  (g.next instant e).consumer.run = none ∧
    (g.consumer.run.isSome = true ∨ ∃ subscription now, e = .begin subscription now)

/-- Whether the watch shows the run if there is one. -/
def Kept (g : Guarded τ) : Prop := ∀ r, g.consumer.run = some r → Shows g.watch r

variable {g : Guarded τ} {e : Event τ} {instant : Float → τ}

/-- A signal for a run lands, or it cuts the cleanup short. -/
theorem lands_signal {r : Run τ} (hr : g.consumer.run = some r) (h : g.Kept) (s : Signal τ) :
    let n := g.next instant (.signal s)
    n.consumer.run = none ∧ n.watch.stops = [] ∧ g.consumer.CutShort (.signal s) ∨
      Lands n.watch n.consumer ∧ (g.consumer.CutShort (.signal s) → n.consumer.run.isSome = true) := by
  have shows := h r hr
  have fits : ¬ g.consumer.CutShort (.signal s) → Lands ((g.watch.see true (.signal s)).acts
      (g.consumer.step s).2) (g.consumer.step s).1 := by
    intro hs
    cases s with
    | received got => exact Consumer.lands_received hr shows got
    | wake now => exact Consumer.lands_wake hr shows now
    | replied reply now => exact Consumer.lands_replied hr shows reply now
    | receiveStopped => exact Consumer.lands_receiveStopped hr shows
    | closed fault =>
      refine Consumer.lands_closed hr shows ?_
      rintro f rfl
      simpa [Consumer.CutShort] using hs
    | cancel => exact Consumer.lands_cancel hr shows (by simpa [Consumer.CutShort] using hs)
  simp only [next,Consumer.react,hr,Option.isSome_some]
  -- a signal that would cut a cleanup short may come where it does not fit, and then the run goes on
  by_cases hs : g.consumer.CutShort (.signal s)
  · have seen : g.watch.see true (.signal s) = g.watch := by
      cases s with
      | cancel => rfl
      | closed fault => rfl
      | _ => cases hs
    rw [seen]
    rcases Consumer.step_of_cutShort hr hs with ⟨finished,nothing⟩ | same
    · exact .inl ⟨finished,by rw [nothing]; exact shows.stops,hs⟩
    · rw [same]
      exact .inr ⟨Consumer.lands_of_shows hr shows,fun _ => by rw [hr]; rfl⟩
  · exact .inr ⟨fits hs,fun h => absurd h hs⟩

/-- What an event for a consumer comes to: nothing; a run that is refused or cut short, and logs no stop;
or a run that goes on or ends in good order. -/
theorem lands_next (instant : Float → τ) (h : g.Kept) (e : Event τ) :
    g.consumer.run = none ∧ (∀ subscription now, e ≠ .begin subscription now) ∧
        (g.next instant e).consumer.run = none ∨
      (g.next instant e).consumer.run = none ∧ (g.next instant e).watch.stops = [] ∧
        g.consumer.CutShort e ∨
      Lands (g.next instant e).watch (g.next instant e).consumer ∧
        (g.consumer.CutShort e → (g.next instant e).consumer.run.isSome = true) := by
  cases hr : g.consumer.run with
  | some r =>
    cases e with
    | signal s => exact .inr (lands_signal hr h s)
    | begin subscription now =>
      have same : g.next instant (.begin subscription now) = g := by
        simp [next,Consumer.react,hr,Watch.see]
      rw [same]
      exact .inr (.inr ⟨Consumer.lands_of_shows hr (h r hr),fun _ => by rw [hr]; rfl⟩)
  | none =>
    cases e with
    | signal s => exact .inl ⟨rfl,(fun _ _ he => by cases he),by simp [next,Consumer.react,Consumer.step,hr]⟩
    | begin subscription now =>
      simp only [next,Consumer.react,hr,Option.isSome_none,Bool.false_eq_true,if_false,Watch.see]
      rcases g.consumer.lands_begin instant subscription now with ⟨finished,stops⟩ | ⟨looping,lands⟩
      · exact .inr (.inl ⟨finished,stops,trivial⟩)
      · refine .inr (.inr ⟨lands,fun _ => Option.isSome_iff_ne_none.mpr fun hn => ?_⟩)
        rw [Consumer.looping_of_rest hn] at looping
        cases looping

theorem Kept.next (h : g.Kept) (e : Event τ) : (g.next instant e).Kept := by
  intro r hr
  rcases lands_next instant h e with ⟨-,-,finished⟩ | ⟨finished,-⟩ | ⟨lands,-⟩
  · simp [finished] at hr
  · simp [finished] at hr
  · simpa only [Lands,hr] using lands

theorem kept_after (h : g.Kept) (es : List (Event τ)) : (g.after instant es).Kept := by
  induction es generalizing g with
  | nil => exact h
  | cons e es ih => exact ih (h.next e)

/-- However a run ends, in any session: the consumer is then stopped in good order, unless the run was
refused at its beginning or its cleanup was cut short; then it has logged no stop. -/
theorem tidy_iff_not_cutShort (instant : Float → τ) (c : Consumer τ) (hc : c.run = none)
    (es : List (Event τ)) (e : Event τ) (ends : ((start c).after instant es).EndsWith instant e) :
    (((start c).after instant es).next instant e).Tidy ↔
      ¬ ((start c).after instant es).consumer.CutShort e := by
  have kept : ((start c).after instant es).Kept :=
    kept_after (fun r hr => by simp [start,hc] at hr) es
  generalize (start c).after instant es = g at ends kept
  obtain ⟨finished,live⟩ := ends
  rcases lands_next instant kept e with ⟨none,other,-⟩ | ⟨-,stops,cut⟩ | ⟨lands,goes⟩
  · rcases live with running | ⟨subscription,now,begins⟩
    · simp [none] at running
    · exact absurd begins (other subscription now)
  · refine ⟨fun tidy => ?_,fun h => absurd cut h⟩
    have logged := tidy.stops
    simp [stops] at logged
  · refine ⟨fun _ cut => ?_,fun _ => ?_⟩
    · have running := goes cut
      simp [finished] at running
    · simpa only [Lands,finished] using lands

/-- The timer flushes a delivery while another is asked for, and the strategy fails. -/
def failedOnTime : List (Event Nat) :=
  [.begin (.ok true) 0, .signal (.received (.delivery ⟨1, [], "orders"⟩)), .signal (.wake 0),
    .signal (.wake 10), .signal (.replied (.answered (.raised ⟨.runtime, "sink down"⟩)) 10),
    .signal (.replied (.settled none) 10)]

theorem tidy_of_failedOnTime :
    let g := (start Session.patient).after (fun _ => 10) failedOnTime
    let cleaned := (start Session.patient).after (fun _ => 10) (failedOnTime ++ [.signal .receiveStopped])
    (cleaned.next (fun _ => 10) (.signal (.closed none))).Tidy ∧
      ¬ (g.next (fun _ => 10) (.signal .cancel)).Tidy := by
  intro g cleaned
  have closed := tidy_iff_not_cutShort (fun _ => 10) Session.patient rfl
    (failedOnTime ++ [.signal .receiveStopped]) (.signal (.closed none)) ⟨rfl,.inl rfl⟩
  have cancelled := tidy_iff_not_cutShort (fun _ => 10) Session.patient rfl failedOnTime
    (.signal .cancel) ⟨rfl,.inl rfl⟩
  exact ⟨closed.mpr fun h => h,fun tidy => cancelled.mp tidy rfl⟩

/-- A run that is refused a stream is over, but the consumer is not stopped and logs no stop. -/
theorem refused_run_not_stopped :
    let fault : Fault := ⟨.stream, "channel closed"⟩
    let g := (start Session.patient).next (fun _ => 10) (.begin (.error fault) 0)
    g.consumer.run = none ∧ g.consumer.ending = some (.raised fault) ∧ g.consumer.standing = .idle ∧
      g.watch.stops = [] ∧ ¬ g.Tidy := by
  intro fault g
  exact ⟨rfl,rfl,rfl,rfl,fun tidy => by cases tidy.standing⟩

end Guarded
end Baler
