import Baler.Proofs.Session

/-! Everything that one event can do to a consumer. Each function of the loop gets one statement of
its outcomes, and the statement about events is assembled from them; later proofs take their cases
from here and open no function of the loop. -/
namespace Baler

open Settlement

variable {τ : Type}

/-- How the loop goes on: it waits, it spins on a timer that stays due, or the timer takes a batch. -/
inductive Resumes (c : Consumer τ) (r : Run τ) : Consumer τ → List (List Handle) → Prop
  | waits (ticker : Ticker τ) : Resumes c r
      (c.suspend { r with ticker, receive := r.receive.asked, phase := .waiting }) []
  | spins (ticker : Ticker τ) (empty : c.buffer.items = []) : Resumes c r
      (c.suspend { r with ticker, phase := .spinning }) []
  | flushes (ticker : Ticker τ) (filled : c.buffer.items ≠ []) : Resumes c r
      ({ c with buffer := c.buffer.drained, standing := .flushing }.suspend { r with
        ticker
        phase := .flushing .timeout c.buffer.items.length (.deciding c.buffer.items) })
      [c.buffer.items]

/-- What a turn of the loop comes to at an instant. The timer is not due; or it is, and moves on, and
what is in the buffer is flushed. -/
inductive Turned [Add τ] [LE τ] [DecidableLE τ] (now : τ) (c : Consumer τ) (r : Run τ) :
    Consumer τ → List (List Handle) → Prop
  | early (early : r.ticker.isDue now = false) : Turned now c r
      (c.suspend { r with receive := r.receive.asked, phase := .waiting }) []
  | idles (due : r.ticker.isDue now = true) (empty : c.buffer.items = [])
      (later : (r.ticker.advance now).isDue now = false) : Turned now c r
      (c.suspend { r with
        ticker := r.ticker.advance now, receive := r.receive.asked, phase := .waiting }) []
  | spins (due : r.ticker.isDue now = true) (empty : c.buffer.items = [])
      (again : (r.ticker.advance now).isDue now = true) : Turned now c r
      (c.suspend { r with ticker := r.ticker.advance now, phase := .spinning }) []
  | flushes (due : r.ticker.isDue now = true) (filled : c.buffer.items ≠ []) : Turned now c r
      ({ c with buffer := c.buffer.drained, standing := .flushing }.suspend { r with
        ticker := r.ticker.advance now
        phase := .flushing .timeout c.buffer.items.length (.deciding c.buffer.items) })
      [c.buffer.items]

/-- A run has left its loop after a number of flushes. What is in the buffer stays there, and a request
for a delivery is not read any more. -/
structure Leaves (c : Consumer τ) (flushes : Nat) (receive : Receive) (d : Consumer τ) : Prop where
  buffer : d.buffer = c.buffer
  flushes : d.flushes = flushes
  processor : d.processor = c.processor
  haltOnFault : d.haltOnFault = c.haltOnFault
  outside : d.looping = false
  receive : ∀ r, d.run = some r → r.receive = receive

/-- How a flush goes on from the progress of its batch. -/
inductive Advances (c : Consumer τ) (r : Run τ) (trigger : Trigger) (size : Nat) :
    Progress → Consumer τ → List (List Handle) → List Call → Prop
  | asks {call rest closing failure} : Advances c r trigger size
      (.busy (.settling call rest closing failure))
      (c.suspend { r with phase := .flushing trigger size (.settling call rest closing failure) })
      [] [call]
  | resumes {failure d batches}
      (tolerable : ∀ f, failure = some f → f.isOrdinary = true ∧ c.haltOnFault = false)
      (go : Resumes { c with flushes := c.flushes + 1, standing := .idle } r d batches) :
      Advances c r trigger size (.finished failure) d batches []
  | leaves {f d} (fatal : f.isOrdinary = false ∨ c.haltOnFault = true)
      (out : Leaves c (c.flushes + 1) r.receive d) : Advances c r trigger size (.finished (some f)) d [] []

/-- What brings the loop to its next turn, with the consumer and the run that it then has. -/
inductive Turns (c : Consumer τ) : Sight → Consumer τ → Run τ → Prop
  | begins {ticker closable} (hr : c.run = none) : Turns c .nothing
      { c with standing := .idle, ending := none } ⟨ticker, .idle, closable, .waiting⟩
  | reads {r h} (hr : c.run = some r) (hp : r.phase = .waiting)
      (hq : r.receive = .ready (.delivery h)) (room : (c.buffer.add h).isReady = false) :
      Turns c (.read h) { c with buffer := c.buffer.add h, standing := .accumulating }
        { r with receive := .idle }
  | wakes {r} (hr : c.run = some r) (hp : r.phase = .waiting)
      (hq : ∀ got, r.receive ≠ .ready got) : Turns c .nothing c r

/-- What a reply does to the batch in work: the strategy judges it, or the broker answers a call. -/
inductive Replies (p : Processor) : Processing → Sight → Processor → Progress → Prop
  | judged {batch a progress}
      (walk : Walk (Plan.make p.mode p.failedNacks batch a).calls
        (Plan.make p.mode p.failedNacks batch a).failure progress) :
      Replies p (.deciding batch) (.judged batch a) p progress
  | replied {call rest closing failure fault q progress}
      (res : Resumed p rest failure call fault q progress) :
      Replies p (.settling call rest closing failure) (.replied call fault) q progress

/-- Why a run leaves its loop, or goes on with its cleanup, apart from a fault of a flush; the flushes
that this ends, and the request that it takes with it. -/
inductive Departs (r : Run τ) : Sight → Nat → Receive → Prop
  | ends {got} (hp : r.phase = .waiting) (hq : r.receive = .ready got)
      (hg : got.isDelivery = false) : Departs r .ended 0 .idle
  | quits (hp : r.phase = .waiting) : Departs r .nothing 0 r.receive
  | interrupted {trigger size work} (hp : r.phase = .flushing trigger size work) :
      Departs r .interrupted 1 r.receive
  | cleans (hp : r.phase.isLoop = false) : Departs r .nothing 0 .idle

/-- What an event does: what is seen of it, the consumer afterwards, the batches that it gives to the
strategy and the calls that it makes. -/
inductive Move (c : Consumer τ) : Sight → Consumer τ → List (List Handle) → List Call → Prop
  | stays : Move c .nothing c [] []
  | refused (exit : Exit) (hr : c.run = none) : Move c .nothing (c.halt exit) [] []
  | answered {r} (got : Reception) (hr : c.run = some r) (hq : r.receive = .pending) :
      Move c got.sight (c.suspend { r with receive := .ready got }) [] []
  | fills {r h} (hr : c.run = some r) (hp : r.phase = .waiting)
      (hq : r.receive = .ready (.delivery h)) (full : (c.buffer.add h).isReady = true) :
      Move c (.read h)
        ({ c with buffer := (c.buffer.add h).drained, standing := .flushing }.suspend { r with
          receive := .idle
          phase := .flushing .size (c.buffer.add h).items.length (.deciding (c.buffer.add h).items) })
        [(c.buffer.add h).items] []
  | turns {x e r d batches} (why : Turns c x e r) (go : Resumes e r d batches) : Move c x d batches []
  | advances {r trigger size work x q progress d batches calls} (hr : c.run = some r)
      (hp : r.phase = .flushing trigger size work) (why : Replies c.processor work x q progress)
      (go : Advances { c with processor := q } r trigger size progress d batches calls) :
      Move c x d batches calls
  | leaves {r x ended receive d} (hr : c.run = some r) (why : Departs r x ended receive)
      (out : Leaves c (c.flushes + ended) receive d) : Move c x d [] []

section

variable {c e d : Consumer τ} {r : Run τ} {x : Sight} {batches : List (List Handle)}

theorem Turned.resumes [Add τ] [LE τ] [DecidableLE τ] {now : τ} (h : Turned now c r d batches) :
    Resumes c r d batches := by
  cases h with
  | early early => exact .waits r.ticker
  | idles due empty later => exact .waits (r.ticker.advance now)
  | spins due empty again => exact .spins (r.ticker.advance now) empty
  | flushes due filled => exact .flushes (r.ticker.advance now) filled

theorem Resumes.looping (h : Resumes c r d batches) : d.looping = true := by
  cases h <;> rfl

theorem Resumes.unread (h : Resumes c r d batches) : d.unread = r.receive.unread := by
  cases h with
  | waits ticker => exact r.receive.unread_asked
  | spins ticker empty => rfl
  | flushes ticker filled => rfl

theorem Resumes.processor (h : Resumes c r d batches) : d.processor = c.processor := by
  cases h <;> rfl

/-- What the loop takes out of the buffer is a batch. -/
theorem Resumes.conserves (h : Resumes c r d batches) :
    batches.flatten ++ d.buffer.items = c.buffer.items := by
  cases h with
  | waits ticker => rfl
  | spins ticker empty => rfl
  | flushes ticker filled =>
    change [c.buffer.items].flatten ++ [] = c.buffer.items
    simp

/-- A batch that the timer takes is with the strategy. -/
theorem Resumes.deciding (h : Resumes c r d batches) : d.deciding.toList = batches := by
  cases h <;> rfl

theorem Resumes.no_calls (h : Resumes c r d batches) : d.calls = [] := by
  cases h <;> rfl

/-- What is read before a turn goes into the buffer. -/
theorem Turns.buffer (h : Turns c x e r) : e.buffer.items = c.buffer.items ++ x.reading := by
  cases h with
  | reads hr hp hq room => rfl
  | _ => exact (List.append_nil _).symm

/-- What waited to be read is read before a turn. -/
theorem Turns.reads_unread (h : Turns c x e r) : c.unread = x.reading := by
  cases h with
  | begins hr => exact Consumer.unread_of_rest hr
  | reads hr hp hq room => rw [Consumer.unread_of_run hr,hq]; rfl
  | wakes hr hp hq => rw [Consumer.unread_of_run hr]; exact Receive.unread_of_not_ready hq

theorem Turns.nothing_unread (h : Turns c x e r) : r.receive.unread = [] := by
  cases h with
  | wakes hr hp hq => exact Receive.unread_of_not_ready hq
  | _ => rfl

theorem Turns.processor (h : Turns c x e r) : e.processor = c.processor := by
  cases h <;> rfl

theorem Turns.quiet (h : Turns c x e r) : x.handing = [] ∧ x.judging = [] := by
  cases h <;> exact ⟨rfl,rfl⟩

/-- The loop turns when no flush is in progress. -/
theorem Turns.not_flushing (h : Turns c x e r) : c.flushing = false := by
  cases h with
  | begins hr => rw [Consumer.flushing,hr]; rfl
  | reads hr hp hq room => rw [Consumer.flushing_of_run hr,hp]; rfl
  | wakes hr hp hq => rw [Consumer.flushing_of_run hr,hp]; rfl

theorem Turns.looping {r₀ : Run τ} (h : Turns c x e r) (hr : c.run = some r₀) : c.looping = true := by
  cases h with
  | begins hn => simp [hr] at hn
  | reads hr hp hq room => rw [Consumer.looping_of_run hr,hp]; rfl
  | wakes hr hp hq => rw [Consumer.looping_of_run hr,hp]; rfl

theorem Replies.quiet {p q : Processor} {work : Processing} {progress : Progress}
    (h : Replies p work x q progress) : x.handing = [] ∧ x.reading = [] := by
  cases h <;> exact ⟨rfl,rfl⟩

theorem Departs.quiet {n : Nat} {q : Receive} (h : Departs r x n q) :
    x.handing = [] ∧ x.reading = [] ∧ x.judging = [] := by
  cases h <;> exact ⟨rfl,rfl,rfl⟩

/-- A run that leaves its loop reads nothing any more. -/
theorem Departs.unread_sublist {n : Nat} {q : Receive} (h : Departs r x n q) :
    q.unread.Sublist r.receive.unread := by
  cases h with
  | quits hp => exact List.Sublist.refl _
  | interrupted hp => exact List.Sublist.refl _
  | _ => exact List.nil_sublist _

/-- A run outside its loop has the request that it took with it, and a run that is over has none. -/
theorem Leaves.unread_sublist {n : Nat} {q : Receive} (h : Leaves c n q d) : d.unread.Sublist q.unread := by
  cases hr : d.run with
  | none => rw [Consumer.unread_of_rest hr]; exact List.nil_sublist _
  | some r =>
    have hu : d.unread = q.unread := by rw [Consumer.unread_of_run hr,h.receive r hr]
    exact hu ▸ List.Sublist.refl _

theorem Leaves.unread {n : Nat} {q : Receive} (h : Leaves c n q d) (hq : q.unread = []) : d.unread = [] :=
  List.sublist_nil.mp (hq ▸ h.unread_sublist)

/-- A run that counts a flush as ended and then leaves its loop. -/
theorem Leaves.ended {n : Nat} {q : Receive} (h : Leaves { c with flushes := n } n q d) :
    Leaves c n q d :=
  ⟨h.buffer,h.flushes,h.processor,h.haltOnFault,h.outside,h.receive⟩

variable {trigger : Trigger} {size : Nat} {progress : Progress} {calls : List Call}

theorem Advances.conserves (h : Advances c r trigger size progress d batches calls) :
    batches.flatten ++ d.buffer.items = c.buffer.items := by
  cases h with
  | asks => rfl
  | resumes tolerable go => exact go.conserves
  | leaves fatal out =>
    rw [out.buffer]
    rfl

theorem Advances.unread (h : Advances c r trigger size progress d batches calls)
    (hd : d.looping = true) : d.unread = r.receive.unread := by
  cases h with
  | asks => rfl
  | resumes tolerable go => exact go.unread
  | leaves fatal out => simp [out.outside] at hd

theorem Advances.unread_sublist (h : Advances c r trigger size progress d batches calls) :
    d.unread.Sublist r.receive.unread := by
  cases h with
  | asks => exact List.Sublist.refl _
  | resumes tolerable go => exact go.unread ▸ List.Sublist.refl _
  | leaves fatal out => exact out.unread_sublist

theorem Advances.processor (h : Advances c r trigger size progress d batches calls) :
    d.processor = c.processor := by
  cases h with
  | asks => rfl
  | resumes tolerable go => exact go.processor
  | leaves fatal out => exact out.processor

theorem Advances.deciding (h : Advances c r trigger size progress d batches calls) :
    d.deciding.toList = batches := by
  cases h with
  | asks => rfl
  | resumes tolerable go => exact go.deciding
  | leaves fatal out => rw [Consumer.deciding_of_outside out.outside]; rfl

/-- A judgement is seen when the strategy answers about the batch that it has. -/
theorem Move.of_judged {batch : List Handle} {a : Answer}
    (m : Move c (.judged batch a) d batches calls) : ∃ r trigger size progress, c.run = some r ∧
      r.phase = .flushing trigger size (.deciding batch) ∧
      Walk (Plan.make c.processor.mode c.processor.failedNacks batch a).calls
        (Plan.make c.processor.mode c.processor.failedNacks batch a).failure progress ∧
      Advances c r trigger size progress d batches calls := by
  generalize hx : Sight.judged batch a = x at m
  cases m with
  | advances hr hp why go =>
    cases why with
    | judged walk => cases hx; exact ⟨_,_,_,_,hr,hp,walk,go⟩
    | replied res => cases hx
  | answered got hr hq => cases got <;> cases hx
  | turns why go => cases why <;> cases hx
  | leaves hr why out => cases why <;> cases hx
  | _ => cases hx

theorem Move.of_replied {call : Call} {fault : Option Fault}
    (m : Move c (.replied call fault) d batches calls) :
    ∃ r trigger size rest closing failure q progress, c.run = some r ∧
      r.phase = .flushing trigger size (.settling call rest closing failure) ∧
      Resumed c.processor rest failure call fault q progress ∧
      Advances { c with processor := q } r trigger size progress d batches calls := by
  generalize hx : Sight.replied call fault = x at m
  cases m with
  | advances hr hp why go =>
    cases why with
    | judged walk => cases hx
    | replied res => cases hx; exact ⟨_,_,_,_,_,_,_,_,hr,hp,res,go⟩
  | answered got hr hq => cases got <;> cases hx
  | turns why go => cases why <;> cases hx
  | leaves hr why out => cases why <;> cases hx
  | _ => cases hx

theorem Move.of_interrupted (m : Move c .interrupted d batches calls) :
    d.looping = false ∧ batches = [] := by
  generalize hx : Sight.interrupted = x at m
  cases m with
  | leaves hr why out => exact ⟨out.outside,rfl⟩
  | answered got hr hq => cases got <;> cases hx
  | turns why go => cases why <;> cases hx
  | advances hr hp why go => cases why <;> cases hx
  | _ => cases hx

end

namespace Consumer

theorem leaves_halt (c : Consumer τ) (exit : Exit) (receive : Receive) :
    Leaves c c.flushes receive (c.halt exit) :=
  ⟨rfl,rfl,rfl,rfl,rfl,fun _ h => by cases h⟩

theorem leaves_finish (c : Consumer τ) (exit : Exit) (receive : Receive) :
    Leaves c c.flushes receive (c.finish exit).1 ∧ taken (c.finish exit).2 = [] ∧
      asked (c.finish exit).2 = [] := by
  refine ⟨⟨rfl,rfl,rfl,rfl,rfl,fun _ h => by cases h⟩,?_,?_⟩
  · unfold finish; split <;> rfl
  · unfold finish; split <;> rfl

theorem leaves_closeStream (c : Consumer τ) (r : Run τ) (exit : Exit) :
    Leaves c c.flushes r.receive (c.closeStream r exit).1 ∧ taken (c.closeStream r exit).2 = [] ∧
      asked (c.closeStream r exit).2 = [] := by
  unfold closeStream
  split
  · refine ⟨⟨rfl,rfl,rfl,rfl,rfl,?_⟩,rfl,rfl⟩
    intro r' h
    cases h
    rfl
  · exact c.leaves_finish exit r.receive

theorem leaves_leave (c : Consumer τ) (r : Run τ) (exit : Exit) :
    Leaves c c.flushes r.receive (c.leave r exit).1 ∧ taken (c.leave r exit).2 = [] ∧
      asked (c.leave r exit).2 = [] := by
  unfold leave
  split
  · refine ⟨⟨rfl,rfl,rfl,rfl,rfl,?_⟩,rfl,rfl⟩
    intro r' h
    cases h
    rfl
  · exact c.leaves_closeStream r exit

theorem leaves_closed (c : Consumer τ) (exit : Exit) (fault : Option Fault) (receive : Receive) :
    Leaves c c.flushes receive (c.closed exit fault).1 ∧ taken (c.closed exit fault).2 = [] ∧
      asked (c.closed exit fault).2 = [] := by
  cases fault with
  | none => exact c.leaves_finish exit receive
  | some f =>
    unfold closed
    dsimp only
    split
    · exact c.leaves_finish exit receive
    · exact ⟨c.leaves_halt _ receive,rfl,rfl⟩

/-- A wait asks for a delivery unless that has been done, and does nothing else. -/
theorem await_eq (c : Consumer τ) (r : Run τ) :
    (c.await r).1 = c.suspend { r with receive := r.receive.asked, phase := .waiting } ∧
      taken (c.await r).2 = [] ∧ asked (c.await r).2 = [] := by
  rcases r with ⟨ticker,receive,closable,phase⟩
  cases receive <;> exact ⟨rfl,rfl,rfl⟩

variable [Add τ] [LE τ] [DecidableLE τ]

theorem turned_turn (c : Consumer τ) (r : Run τ) (now : τ) :
    Turned now c r (c.turn r now).1 (taken (c.turn r now).2) ∧ asked (c.turn r now).2 = [] := by
  unfold turn
  split
  · rename_i due
    dsimp only
    split
    · rename_i empty
      have empty := c.buffer.isEmpty_iff.mp empty
      split
      · rename_i again
        exact ⟨.spins due empty again,rfl⟩
      · rename_i later
        obtain ⟨hd,ht,ha⟩ := c.await_eq { r with ticker := r.ticker.advance now }
        rw [hd,ht]
        exact ⟨.idles due empty (by simpa using later),ha⟩
    · rename_i filled
      exact ⟨.flushes due fun h => filled (c.buffer.isEmpty_iff.mpr h),rfl⟩
  · rename_i early
    obtain ⟨hd,ht,ha⟩ := c.await_eq r
    rw [hd,ht]
    exact ⟨.early (by simpa using early),ha⟩

theorem resumes_turn (c : Consumer τ) (r : Run τ) (now : τ) :
    Resumes c r (c.turn r now).1 (taken (c.turn r now).2) ∧ asked (c.turn r now).2 = [] := by
  obtain ⟨turned,quiet⟩ := c.turned_turn r now
  exact ⟨turned.resumes,quiet⟩

theorem advances_flushed (c : Consumer τ) (r : Run τ) (trigger : Trigger) (size : Nat)
    (failure : Option Fault) (now : τ) :
    Advances c r trigger size (.finished failure) (c.flushed r trigger size failure now).1
      (taken (c.flushed r trigger size failure now).2)
      (asked (c.flushed r trigger size failure now).2) := by
  have goOn : ∀ tolerated,
      (c.concludeFlush trigger size tolerated).1 = { c with flushes := c.flushes + 1, standing := .idle } ∧
      taken (c.concludeFlush trigger size tolerated).2 = [] ∧
      asked (c.concludeFlush trigger size tolerated).2 = [] := by
    intro tolerated
    cases tolerated <;> exact ⟨rfl,rfl,rfl⟩
  cases failure with
  | none =>
    obtain ⟨hd,ht,ha⟩ := goOn none
    obtain ⟨hr,hn⟩ := resumes_turn { c with flushes := c.flushes + 1, standing := .idle } r now
    simp only [flushed,hd,taken_append,asked_append,ht,ha,hn,List.nil_append]
    exact .resumes (fun f hf => by cases hf) hr
  | some f =>
    obtain ⟨hd,ht,ha⟩ := goOn (some f)
    cases hf : f.isOrdinary && !c.haltOnFault with
    | true =>
      obtain ⟨hr,hn⟩ := resumes_turn { c with flushes := c.flushes + 1, standing := .idle } r now
      simp only [flushed,hf,if_true,hd,taken_append,asked_append,ht,ha,hn,List.nil_append]
      refine .resumes ?_ hr
      rintro g ⟨⟩
      simpa using hf
    | false =>
      obtain ⟨hl,ht,ha⟩ := leaves_leave { c with flushes := c.flushes + 1 } r (.raised f)
      simp only [flushed,hf,Bool.false_eq_true,if_false,ht,ha]
      refine .leaves ?_ hl.ended
      cases hfo : f.isOrdinary with
      | false => exact .inl rfl
      | true => exact .inr (by simpa [hfo] using hf)

/-- A flush goes on with the processor and the progress that its batch has come to. -/
theorem advances_proceed (c : Consumer τ) (r : Run τ) (trigger : Trigger) (size : Nat)
    (work : Processing) (reply : Reply) (fits : work.takes reply = true) (now : τ) :
    Advances { c with processor := (c.processor.resume work reply).1 } r trigger size
      (c.processor.resume work reply).2.2 (c.proceed r trigger size work reply now).1
      (taken (c.proceed r trigger size work reply now).2)
      (asked (c.proceed r trigger size work reply now).2) := by
  have busy : ∀ w, (c.processor.resume work reply).2.2 = .busy w →
      ∃ call rest closing failure, w = .settling call rest closing failure := by
    intro w hw
    cases work with
    | deciding batch =>
      cases reply with
      | settled fault => cases fits
      | answered a =>
        have h := walk_start (.make c.processor.mode c.processor.failedNacks batch a)
        change (Processor.start _).2 = _ at hw
        rw [hw] at h
        exact h.settling
    | settling call rest closing failure =>
      cases reply with
      | answered a => cases fits
      | settled fault =>
        have h := resumed c.processor call rest closing failure fault
        rw [hw] at h
        exact h.settling
  unfold proceed
  cases hp : (c.processor.resume work reply).2.2 with
  | busy w =>
    obtain ⟨call,rest,closing,failure,rfl⟩ := busy w hp
    simp only [hp,taken_append,asked_append,taken_logs,asked_logs,List.nil_append]
    exact .asks
  | finished failure =>
    simp only [hp,taken_append,asked_append,taken_logs,asked_logs,List.nil_append]
    exact advances_flushed _ r trigger size failure now

theorem move_received (c : Consumer τ) (got : Reception) :
    Move c (c.sight (.signal (.received got))) (c.step (.received got)).1
      (taken (c.step (.received got)).2) (asked (c.step (.received got)).2) := by
  cases hr : c.run with
  | none =>
    simp only [sight,step,hr]
    exact .stays
  | some r =>
    by_cases hq : r.receive = .pending
    · cases got with
      | delivery h =>
        simp only [sight,step,hr,hq,if_true]
        exact .answered (.delivery h) hr hq
      | ended =>
        simp only [sight,step,hr,hq]
        exact .answered .ended hr hq
      | failed f =>
        simp only [sight,step,hr,hq]
        exact .answered (.failed f) hr hq
    · have hs : c.step (.received got) = (c,[]) := by
        simp only [step,hr]
      have hn : c.sight (.signal (.received got)) = .nothing := by
        cases got <;> simp [sight,hr,hq]
      rw [hs,hn]
      exact .stays

/-- A delivery that is read fills the buffer, or the loop takes another turn. -/
theorem move_accept (c : Consumer τ) {r : Run τ} {h : Handle} (hr : c.run = some r)
    (hp : r.phase = .waiting) (hq : r.receive = .ready (.delivery h)) (now : τ) :
    Move c (.read h) (c.accept { r with receive := .idle } h now).1
      (taken (c.accept { r with receive := .idle } h now).2)
      (asked (c.accept { r with receive := .idle } h now).2) := by
  cases hf : (c.buffer.add h).isReady with
  | true =>
    simp only [accept,hf,if_true,flush,taken_log,asked_log]
    exact .fills hr hp hq hf
  | false =>
    obtain ⟨hg,ha⟩ := resumes_turn { c with buffer := c.buffer.add h, standing := .accumulating }
      { r with receive := .idle } now
    simp only [accept,hf,Bool.false_eq_true,if_false,taken_log,asked_log,ha]
    exact .turns (.reads hr hp hq hf) hg

theorem move_read (c : Consumer τ) {r : Run τ} {got : Reception} (hr : c.run = some r)
    (hp : r.phase = .waiting) (hq : r.receive = .ready got) (now : τ) :
    Move c (c.sight (.signal (.wake now))) (c.read r got now).1 (taken (c.read r got now).2)
      (asked (c.read r got now).2) := by
  simp only [sight,hr,hp,hq]
  cases got with
  | delivery h => exact c.move_accept hr hp hq now
  | ended =>
    obtain ⟨hl,ht,ha⟩ := c.leaves_leave { r with receive := .idle } .returned
    simp only [read,taken_log,asked_log,ht,ha]
    exact .leaves hr (.ends hp hq rfl) hl
  | failed f =>
    obtain ⟨hl,ht,ha⟩ := c.leaves_leave { r with receive := .idle } (.raised (streamFault f))
    simp only [read,ht,ha]
    exact .leaves hr (.ends hp hq rfl) hl

theorem move_wake (c : Consumer τ) (now : τ) :
    Move c (c.sight (.signal (.wake now))) (c.step (.wake now)).1
      (taken (c.step (.wake now)).2) (asked (c.step (.wake now)).2) := by
  cases hr : c.run with
  | none =>
    simp only [sight,step,hr]
    exact .stays
  | some r =>
    cases hp : r.phase with
    | waiting =>
      have tick : (∀ got, r.receive ≠ .ready got) → Move c .nothing (c.turn r now).1
          (taken (c.turn r now).2) (asked (c.turn r now).2) := by
        intro hq
        obtain ⟨hg,ha⟩ := c.resumes_turn r now
        rw [ha]
        exact .turns (.wakes hr hp hq) hg
      cases hq : r.receive with
      | ready got =>
        have hs : c.step (.wake now) = c.read r got now := by simp only [step,hr,hp,hq]
        rw [hs]
        exact c.move_read hr hp hq now
      | _ =>
        have hs : c.step (.wake now) = c.turn r now := by simp only [step,hr,hp,hq]
        have hn : c.sight (.signal (.wake now)) = .nothing := by simp only [sight,hr,hp,hq]
        rw [hs,hn]
        exact tick (by simp [hq])
    | _ => simp only [sight,step,hr,hp]; exact .stays

theorem move_replied (c : Consumer τ) (reply : Reply) (now : τ) :
    Move c (c.sight (.signal (.replied reply now))) (c.step (.replied reply now)).1
      (taken (c.step (.replied reply now)).2) (asked (c.step (.replied reply now)).2) := by
  cases hr : c.run with
  | none =>
    simp only [sight,step,hr]
    exact .stays
  | some r =>
    cases hp : r.phase with
    | flushing trigger size work =>
      cases work with
      | deciding batch =>
        cases reply with
        | settled fault => simp only [sight,step,hr,hp]; exact .stays
        | answered a =>
          have h := c.advances_proceed r trigger size (.deciding batch) (.answered a) rfl now
          simp only [sight,step,hr,hp,Processing.takes,if_true]
          exact .advances hr hp (.judged (walk_start _)) h
      | settling call rest closing failure =>
        cases reply with
        | answered a => simp only [sight,step,hr,hp]; exact .stays
        | settled fault =>
          have h := c.advances_proceed r trigger size (.settling call rest closing failure)
            (.settled fault) rfl now
          simp only [sight,step,hr,hp,Processing.takes,if_true]
          exact .advances hr hp (.replied (resumed _ _ _ _ _ _)) h
    | _ => cases reply <;> simp only [sight,step,hr,hp] <;> exact .stays

theorem move_cleanup (c : Consumer τ) {s : Signal τ}
    (hs : s = .receiveStopped ∨ ∃ fault, s = .closed fault) :
    Move c (c.sight (.signal s)) (c.step s).1 (taken (c.step s).2) (asked (c.step s).2) := by
  cases hr : c.run with
  | none =>
    rcases hs with rfl | ⟨fault,rfl⟩ <;> simp only [sight,step,hr] <;> exact .stays
  | some r =>
    rcases hs with rfl | ⟨fault,rfl⟩
    · cases hp : r.phase with
      | stoppingReceive exit =>
        obtain ⟨hl,ht,ha⟩ := c.leaves_closeStream { r with receive := .idle } exit
        have hs : c.step .receiveStopped = c.closeStream { r with receive := .idle } exit := by
          simp only [step,hr,hp]
        rw [hs,ht,ha]
        simp only [sight,hr]
        exact .leaves hr (.cleans (by rw [hp]; rfl)) hl
      | _ => simp only [sight,step,hr,hp]; exact .stays
    · cases hp : r.phase with
      | closingStream exit =>
        obtain ⟨hl,ht,ha⟩ := c.leaves_closed exit fault .idle
        simp only [sight,step,hr,hp,ht,ha]
        exact .leaves hr (.cleans (by rw [hp]; rfl)) hl
      | _ => simp only [sight,step,hr,hp]; exact .stays

theorem move_cancel (c : Consumer τ) :
    Move c (c.sight (.signal .cancel)) (c.step .cancel).1 (taken (c.step .cancel).2)
      (asked (c.step .cancel).2) := by
  cases hr : c.run with
  | none =>
    simp only [sight,step,hr]
    exact .stays
  | some r =>
    cases hp : r.phase with
    | waiting =>
      obtain ⟨hl,ht,ha⟩ := c.leaves_leave r (.raised .cancellation)
      simp only [sight,step,hr,hp,ht,ha]
      exact .leaves hr (.quits hp) hl
    | spinning => simp only [sight,step,hr,hp]; exact .stays
    | flushing trigger size work =>
      obtain ⟨hl,ht,ha⟩ := leaves_leave { c with flushes := c.flushes + 1 } r (.raised .cancellation)
      have hs : c.step .cancel =
          { c with flushes := c.flushes + 1 }.leave r (.raised .cancellation) := by
        simp only [step,hr,hp]
      rw [hs,ht,ha]
      simp only [sight,hr,hp]
      exact .leaves hr (.interrupted hp) hl.ended
    | stoppingReceive exit =>
      simp only [sight,step,hr,hp]
      exact .leaves hr (.cleans (by rw [hp]; rfl)) (c.leaves_halt _ _)
    | closingStream exit =>
      simp only [sight,step,hr,hp]
      exact .leaves hr (.cleans (by rw [hp]; rfl)) (c.leaves_halt _ _)

theorem move_begin (instant : Float → τ) (c : Consumer τ) (hr : c.run = none)
    (subscription : Except Fault Bool) (now : τ) :
    Move c .nothing (c.begin instant subscription now).1
      (taken (c.begin instant subscription now).2) (asked (c.begin instant subscription now).2) := by
  unfold begin
  split
  · exact .refused _ hr
  · rename_i wait _
    cases subscription with
    | error f => exact .refused _ hr
    | ok closable =>
      obtain ⟨hg,ha⟩ := resumes_turn { c with standing := .idle, ending := none }
        ⟨.start (instant wait) now,.idle,closable,.waiting⟩ now
      simp only [start,taken_subscribe,asked_subscribe,taken_log,asked_log,ha]
      exact .turns (.begins hr) hg

/-- Whatever happens to a consumer, it makes one of the moves. -/
theorem move_react (instant : Float → τ) (c : Consumer τ) (e : Event τ) :
    Move c (c.sight e) (c.react instant e).1 (taken (c.react instant e).2)
      (asked (c.react instant e).2) := by
  cases e with
  | begin subscription now =>
    cases hr : c.run with
    | none =>
      simp only [react,hr,Option.isSome_none,Bool.false_eq_true,if_false]
      exact c.move_begin instant hr subscription now
    | some r =>
      simp only [react,hr,Option.isSome_some,if_true]
      exact .stays
  | signal s =>
    cases s with
    | received got => exact c.move_received got
    | wake now => exact c.move_wake now
    | replied reply now => exact c.move_replied reply now
    | receiveStopped => exact c.move_cleanup (.inl rfl)
    | closed fault => exact c.move_cleanup (.inr ⟨fault,rfl⟩)
    | cancel => exact c.move_cancel

end Consumer

/-- What holds of a session at its start and is kept by every move holds all along. -/
theorem Session.after_induction [Add τ] [LE τ] [DecidableLE τ] {P : Session τ → Prop}
    {s : Session τ} (init : P s) (step : ∀ s x d batches calls, P s →
      Move s.consumer x d batches calls → P ((s.note x).move d batches))
    (instant : Float → τ) (es : List (Event τ)) : P (s.after instant es) := by
  induction es generalizing s with
  | nil => exact init
  | cons e es ih => exact ih (step s _ _ _ _ init (s.consumer.move_react instant e))

/-- A signal does nothing between two runs. -/
theorem Session.next_signal_of_rest [Add τ] [LE τ] [DecidableLE τ] (instant : Float → τ)
    {s : Session τ} (hr : s.consumer.run = none) (sig : Signal τ) :
    s.next instant (.signal sig) = s := by
  have hs : s.consumer.react instant (.signal sig) = (s.consumer,[]) := by
    simp only [Consumer.react,Consumer.step,hr]
  have hn : s.consumer.sight (.signal sig) = .nothing := by simp only [Consumer.sight,hr]
  simp only [Session.next,hs,hn]
  simp [Session.note,Session.move]

/-- The same for what the signals of one run keep. -/
theorem Session.signal_induction [Add τ] [LE τ] [DecidableLE τ] {P : Session τ → Prop}
    {s : Session τ} (init : P s) (step : ∀ s x d batches calls r, P s → s.consumer.run = some r →
      Move s.consumer x d batches calls → P ((s.note x).move d batches))
    (instant : Float → τ) (signals : List (Signal τ)) : P (s.after instant (signals.map .signal)) := by
  induction signals generalizing s with
  | nil => exact init
  | cons sig signals ih =>
    apply ih
    cases hr : s.consumer.run with
    | none =>
      rw [s.next_signal_of_rest instant hr sig]
      exact init
    | some r => exact step s _ _ _ _ r init hr (s.consumer.move_react instant (.signal sig))

end Baler
