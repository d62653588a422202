import Baler.Proofs.Moves
import Mathlib.Data.List.Forall2

/-! Two runs beside each other, of which the second has a total failure wherever the strategy of the first
fails in a way that is tolerated. In a flush they differ in what they will log and pass on, and in nothing
else; when it is over they are the same again. -/
namespace Baler

open Settlement

variable {τ : Type}

/-- Whether an answer is no outcome, in a way that a consumer may tolerate. -/
def Settlement.Answer.Faulty : Answer → Prop
  | .outcome _ => False
  | .stray _ => True
  | .raised f => f.isOrdinary = true

/-- One event in the place of another: the same, or a total failure for a tolerable fault of the strategy
at the same instant. -/
inductive Event.Softens : Event τ → Event τ → Prop
  | same (e : Event τ) : Softens e e
  | softened {a : Answer} (faulty : a.Faulty) (now : τ) :
      Softens (.signal (.replied (.answered a) now))
        (.signal (.replied (.answered (.outcome .totalFailure)) now))

theorem Event.softens_refl (es : List (Event τ)) : List.Forall₂ Softens es es :=
  List.forall₂_same.mpr fun e _ => .same e

/-- What a consumer does, apart from its log. -/
def visible (actions : List Action) : List Action :=
  actions.filter fun | .log _ => false | _ => true

/-- What can be seen of a consumer after an event. -/
structure View where
  actions : List Action
  standing : Standing
  buffer : Buffer
  processor : Processor
  flushes : Nat
  running : Bool
  ending : Option Exit

/-- What can be seen of a consumer that has just acted. -/
def Consumer.view (c : Consumer τ) (actions : List Action) : View :=
  ⟨visible actions, c.standing, c.buffer, c.processor, c.flushes, c.run.isSome, c.ending⟩

/-- What can be seen of a consumer in a series of events. -/
def Consumer.views [Add τ] [LE τ] [DecidableLE τ] (instant : Float → τ) (c : Consumer τ) :
    List (Event τ) → List View
  | [] => []
  | e :: es =>
    let (d, actions) := c.react instant e
    d.view actions :: d.views instant es

/-- Whether a fault that a flush passes on is tolerable. -/
def Tolerable (failure : Option Fault) : Prop := ∀ f, failure = some f → f.isOrdinary = true

/-- Batches that go on alike: with the same calls, whatever they will log and pass on. -/
inductive Progress.Alike : Progress → Progress → Prop
  | same (p : Progress) : Alike p p
  | busy {call rest closing closing' failure failure'} (h : Tolerable failure) (h' : Tolerable failure') :
      Alike (.busy (.settling call rest closing failure)) (.busy (.settling call rest closing' failure'))
  | finished {failure failure'} (h : Tolerable failure) (h' : Tolerable failure') :
      Alike (.finished failure) (.finished failure')

/-- Processors that are the same after a reply, with batches that go on alike. -/
structure Processor.Match (x y : Processor × List Log.Record × Progress) : Prop where
  processor : x.1 = y.1
  progress : x.2.2.Alike y.2.2

/-- A run in the flush of a batch that is being settled. -/
def Run.settling (r : Run τ) (trigger : Trigger) (size : Nat) (call : Call) (rest : List Step)
    (closing : List Log.Record) (failure : Option Fault) : Run τ :=
  { r with phase := .flushing trigger size (.settling call rest closing failure) }

/-- Consumers that are the same, or differ in what a flush will log and pass on. -/
inductive Consumer.Alike : Consumer τ → Consumer τ → Prop
  | same (c : Consumer τ) : Alike c c
  | settling {trigger size call rest closing closing' failure failure'} (c : Consumer τ) (r : Run τ)
      (h : Tolerable failure) (h' : Tolerable failure') :
      Alike (c.suspend (r.settling trigger size call rest closing failure))
        (c.suspend (r.settling trigger size call rest closing' failure'))

/-- Two consumers that have acted are alike, and what they did looks the same. -/
structure Consumer.Match (x y : Consumer τ × List Action) : Prop where
  consumer : x.1.Alike y.1
  actions : visible x.2 = visible y.2

@[simp] theorem visible_append (as bs : List Action) : visible (as ++ bs) = visible as ++ visible bs :=
  List.filter_append as bs
@[simp] theorem visible_logs (log : List Log.Record) : visible (log.map .log) = [] := by
  induction log with
  | nil => rfl
  | cons x log ih => exact ih

theorem tolerable_none : Tolerable none := fun f h => by cases h

theorem tolerable_some {f : Fault} (h : f.isOrdinary = true) : Tolerable (some f) :=
  fun _ hg => Option.some.inj hg ▸ h

namespace Processor

theorem alike_proceed {closing closing' : List Log.Record} {failure failure' : Option Fault}
    (h : Tolerable failure) (h' : Tolerable failure') (steps : List Step) :
    (proceed closing failure steps).2.Alike (proceed closing' failure' steps).2 := by
  induction steps with
  | nil => exact .finished h h'
  | cons s rest ih =>
    cases s with
    | call c => exact .busy h h'
    | skip v id => exact ih

/-- A fault of the strategy settles a batch by the steps of a total failure. -/
theorem match_answered (p : Processor) (batch : List Handle) {a : Answer} (faulty : a.Faulty) :
    Match (p.resume (.deciding batch) (.answered a))
      (p.resume (.deciding batch) (.answered (.outcome .totalFailure))) := by
  refine ⟨rfl,?_⟩
  cases a with
  | outcome o => exact faulty.elim
  | stray kind => exact alike_proceed (tolerable_some rfl) tolerable_none _
  | raised f =>
    have refused : Plan.make p.mode p.failedNacks batch (.raised f) = Plan.refused f batch := if_pos faulty
    simp only [resume,start,refused]
    exact alike_proceed (tolerable_some faulty) tolerable_none _

theorem match_settled (p : Processor) (call : Call) (rest : List Step)
    {closing closing' : List Log.Record} {failure failure' : Option Fault} (h : Tolerable failure)
    (h' : Tolerable failure') (fault : Option Fault) :
    Match (p.resume (.settling call rest closing failure) (.settled fault))
      (p.resume (.settling call rest closing' failure') (.settled fault)) := by
  rcases hc : p.react call fault with ⟨q,log,course⟩
  simp only [resume,hc]
  cases course with
  | stop f => exact ⟨rfl,.same _⟩
  | onward => exact ⟨rfl,alike_proceed h h' rest⟩

end Processor

namespace Consumer

theorem Match.same (x : Consumer τ × List Action) : Match x x := ⟨.same x.1,rfl⟩

theorem Alike.view {c d : Consumer τ} (h : c.Alike d) {actions actions' : List Action}
    (same : visible actions = visible actions') : c.view actions = d.view actions' := by
  rw [Consumer.view,Consumer.view,same]
  cases h <;> rfl

section

variable (c : Consumer τ) (q r : Run τ) (p : Phase)

theorem leave_suspended (exit : Exit) :
    (c.suspend q).leave { r with phase := p } exit = c.leave r exit := by
  unfold leave closeStream
  cases r.receive <;> cases r.closable <;> rfl

variable [Add τ] [LE τ] [DecidableLE τ]

theorem turn_suspended (now : τ) : (c.suspend q).turn { r with phase := p } now = c.turn r now := by
  have same : (c.suspend q).buffer = c.buffer := rfl
  unfold turn await
  rw [same]
  dsimp only
  split
  · split
    · split
      · rfl
      · cases r.receive <;> rfl
    · rfl
  · cases r.receive <;> rfl

theorem flushed_suspended (trigger : Trigger) (size : Nat) (failure : Option Fault) (now : τ) :
    (c.suspend q).flushed { r with phase := p } trigger size failure now =
      c.flushed r trigger size failure now := by
  have turns : ∀ t, ((c.suspend q).concludeFlush trigger size t).1.turn { r with phase := p } now =
      (c.concludeFlush trigger size t).1.turn r now :=
    fun t => turn_suspended (c.concludeFlush trigger size t).1 q r p now
  have leaves : ∀ f, { c.suspend q with flushes := c.flushes + 1 }.leave { r with phase := p } (.raised f) =
      { c with flushes := c.flushes + 1 }.leave r (.raised f) :=
    fun f => leave_suspended { c with flushes := c.flushes + 1 } q r p (.raised f)
  have halts : (c.suspend q).haltOnFault = c.haltOnFault := rfl
  cases failure with
  | none =>
    simp only [flushed,turns]
    rfl
  | some f =>
    simp only [flushed,turns,halts]
    split
    · rfl
    · exact leaves f

/-- What a reply does to a flush does not depend on where the run stands. -/
theorem proceed_suspended (trigger : Trigger) (size : Nat) (work : Processing) (reply : Reply) (now : τ) :
    (c.suspend q).proceed { r with phase := p } trigger size work reply now =
      c.proceed r trigger size work reply now := by
  have same : (c.suspend q).processor = c.processor := rfl
  rcases hs : c.processor.resume work reply with ⟨processor,log,progress⟩
  cases progress with
  | busy work => simp only [proceed,same,hs]; rfl
  | finished failure =>
    have flushes := flushed_suspended { c with processor := processor } q r p trigger size failure now
    simp only [proceed,same,hs]
    rw [← flushes]
    rfl

end

variable [Add τ] [LE τ] [DecidableLE τ] {c d : Consumer τ}

theorem flushed_of_tolerable (halts : c.haltOnFault = false) (r : Run τ) (trigger : Trigger) (size : Nat)
    {failure : Option Fault} (h : Tolerable failure) (now : τ) :
    (c.flushed r trigger size failure now).1 = (c.flushed r trigger size none now).1 ∧
      visible (c.flushed r trigger size failure now).2 = visible (c.flushed r trigger size none now).2 := by
  cases failure with
  | none => exact ⟨rfl,rfl⟩
  | some f =>
    have goesOn : (f.isOrdinary && !c.haltOnFault) = true := by simp [h f rfl,halts]
    simp only [flushed,goesOn,if_true]
    exact ⟨rfl,rfl⟩

theorem match_proceed (halts : c.haltOnFault = false) (r : Run τ) (trigger : Trigger) (size : Nat)
    {work work' : Processing} {reply reply' : Reply} (now : τ)
    (go : Processor.Match (c.processor.resume work reply) (c.processor.resume work' reply')) :
    Match (c.proceed r trigger size work reply now) (c.proceed r trigger size work' reply' now) := by
  rcases hs : c.processor.resume work reply with ⟨q,log,progress⟩
  rcases hs' : c.processor.resume work' reply' with ⟨q',log',progress'⟩
  rw [hs,hs'] at go
  obtain rfl : q = q' := go.processor
  simp only [proceed,hs,hs']
  cases go.progress with
  | same => cases progress <;> exact ⟨.same _,by simp⟩
  | busy h h' => exact ⟨.settling { c with processor := q } r h h',by simp⟩
  | @finished failure failure' h h' =>
    -- either flush goes on as if no fault were passed on
    let e := { c with processor := q }
    have ends := flushed_of_tolerable (c := e) halts r trigger size h now
    have ends' := flushed_of_tolerable (c := e) halts r trigger size h' now
    have consumer : (e.flushed r trigger size failure now).1 = (e.flushed r trigger size failure' now).1 :=
      ends.1.trans ends'.1.symm
    refine ⟨?_,by simpa using ends.2.trans ends'.2.symm⟩
    dsimp only
    rw [consumer]
    exact .same _

section

variable (r : Run τ) (trigger : Trigger) (size : Nat) (work : Processing)

theorem step_replied_of_flushing (reply : Reply) (now : τ) :
    (c.suspend { r with phase := .flushing trigger size work }).step (.replied reply now) =
      if work.takes reply then c.proceed r trigger size work reply now
      else (c.suspend { r with phase := .flushing trigger size work },[]) := by
  simp only [step,suspend]
  split
  · exact proceed_suspended c _ r _ trigger size work reply now
  · rfl

theorem step_cancel_of_flushing : (c.suspend { r with phase := .flushing trigger size work }).step .cancel =
    { c with flushes := c.flushes + 1 }.leave r (.raised .cancellation) :=
  leave_suspended { c with flushes := c.flushes + 1 } { r with phase := .flushing trigger size work } r _ _

end

theorem match_step_answered (halts : c.haltOnFault = false) {a : Answer} (faulty : a.Faulty) (now : τ) :
    Match (c.step (.replied (.answered a) now))
      (c.step (.replied (.answered (.outcome .totalFailure)) now)) := by
  cases hr : c.run with
  | none => simp only [step,hr]; exact .same _
  | some r =>
    cases hp : r.phase with
    | flushing trigger size work =>
      cases work with
      | deciding batch =>
        simp only [step,hr,hp,Processing.takes,if_true]
        exact match_proceed halts r trigger size now (c.processor.match_answered batch faulty)
      | settling call rest closing failure => simp only [step,hr,hp,Processing.takes]; exact .same _
    | _ => simp only [step,hr,hp]; exact .same _

/-- What happens to a flush in which a batch is settled does not depend on what will be passed on. -/
theorem match_step_of_settling (halts : c.haltOnFault = false) (r : Run τ) (trigger : Trigger) (size : Nat)
    (call : Call) (rest : List Step) {closing closing' : List Log.Record} {failure failure' : Option Fault}
    (h : Tolerable failure) (h' : Tolerable failure') (s : Signal τ) :
    Match ((c.suspend (r.settling trigger size call rest closing failure)).step s)
      ((c.suspend (r.settling trigger size call rest closing' failure')).step s) := by
  have unmoved : (c.suspend (r.settling trigger size call rest closing failure)).Alike
      (c.suspend (r.settling trigger size call rest closing' failure')) := .settling c r h h'
  cases s with
  | received got =>
    rcases r with ⟨ticker,receive,closable,phase⟩
    cases receive with
    | pending => exact ⟨.settling c ⟨ticker,.ready got,closable,phase⟩ h h',rfl⟩
    | _ => exact ⟨unmoved,rfl⟩
  | replied reply now =>
    cases reply with
    | answered a => exact ⟨unmoved,rfl⟩
    | settled fault =>
      simp only [Run.settling,step_replied_of_flushing,Processing.takes,if_true]
      exact match_proceed halts r trigger size now (c.processor.match_settled call rest h h' fault)
  | cancel =>
    rw [Run.settling,Run.settling,step_cancel_of_flushing,step_cancel_of_flushing]
    exact .same _
  | _ => exact ⟨unmoved,rfl⟩

/-- Consumers that are alike stay so and are seen to do the same, when one has a total failure for what
the other tolerates. -/
theorem Alike.react (h : c.Alike d) (halts : c.haltOnFault = false) (instant : Float → τ)
    {e e' : Event τ} (soft : e.Softens e') : Match (c.react instant e) (d.react instant e') := by
  cases h with
  | same =>
    cases soft with
    | same => exact .same _
    | softened faulty now => exact match_step_answered halts faulty now
  | settling c r h h' =>
    cases soft with
    | softened faulty now =>
      -- the batch has left the strategy: neither consumer takes another answer on it
      exact ⟨.settling c r h h',rfl⟩
    | same =>
      cases e with
      | begin subscription now => exact ⟨.settling c r h h',rfl⟩
      | signal s => exact match_step_of_settling halts r _ _ _ _ h h' s

end Consumer

section

variable {c e d : Consumer τ} {r : Run τ} {x : Sight} {batches : List (List Handle)} {calls : List Call}

theorem Resumes.haltOnFault (go : Resumes c r d batches) : d.haltOnFault = c.haltOnFault := by
  cases go <;> rfl

theorem Turns.haltOnFault (why : Turns c x e r) : e.haltOnFault = c.haltOnFault := by cases why <;> rfl

theorem Move.haltOnFault (m : Move c x d batches calls) : d.haltOnFault = c.haltOnFault := by
  cases m with
  | turns why go => exact go.haltOnFault.trans why.haltOnFault
  | advances hr hp why go =>
    cases go with
    | asks => rfl
    | resumes tolerable go => exact go.haltOnFault
    | leaves fatal out => exact out.haltOnFault
  | leaves hr why out => exact out.haltOnFault
  | _ => rfl

end

namespace Consumer

variable [Add τ] [LE τ] [DecidableLE τ] {c d : Consumer τ}

theorem Alike.views (h : c.Alike d) (halts : c.haltOnFault = false) (instant : Float → τ)
    {es es' : List (Event τ)} (soft : List.Forall₂ Event.Softens es es') :
    c.views instant es = d.views instant es' := by
  induction soft generalizing c d with
  | nil => rfl
  | @cons e e' es es' first rest ih =>
    have matched := h.react halts instant first
    have goesOn : (c.react instant e).1.haltOnFault = false :=
      (c.move_react instant e).haltOnFault.trans halts
    rw [views,views]
    dsimp only
    rw [matched.consumer.view matched.actions,ih matched.consumer goesOn]

/-- A consumer that goes on after faults does what it would do if the strategy had reported total failures
instead, at every point of every session: it takes the same batches and makes the same calls in the same
order, shows the same standing, buffer, failed nacks and flushes, and ends its runs in the same way. -/
theorem views_eq_of_softened (instant : Float → τ) (c : Consumer τ) (halts : c.haltOnFault = false)
    (es es' : List (Event τ)) (soft : List.Forall₂ Event.Softens es es') :
    c.views instant es = c.views instant es' := (Alike.same c).views halts instant soft

end Consumer

namespace Session

open Consumer

/-- The first pair goes back, one nack of which fails, and the strategy is content with the second. -/
def secondPairDone : List (Signal Nat) :=
  [.replied (.settled (some ⟨.settlement, "busy"⟩)) 0, .replied (.settled none) 0] ++ arrival 3 ++
    arrival 4 ++ [.replied (.answered (.outcome .success)) 0]

/-- Two pairs, with an answer of the strategy on the first. -/
def twoPairs (a : Answer) : List (Event Nat) :=
  (.begin (.ok true) 0 :: (arrival 1 ++ arrival 2).map .signal) ++
    .signal (.replied (.answered a) 0) :: secondPairDone.map .signal

theorem views_eq_of_first_pair_raised :
    let raises := twoPairs (.raised ⟨.value, "no such row"⟩)
    let fails := twoPairs (.outcome .totalFailure)
    pairs.haltOnFault = false ∧ List.Forall₂ Event.Softens raises fails ∧
      pairs.views (fun _ => 10) raises = pairs.views (fun _ => 10) fails ∧
      (pairs.views (fun _ => 10) raises).flatMap (asked ·.actions) =
        [.nack 1 true, .nack 2 true, .ack 3 false] := by
  intro raises fails
  have faulty : (Answer.raised ⟨.value,"no such row"⟩).Faulty := rfl
  have soft : List.Forall₂ Event.Softens raises fails :=
    List.rel_append (Event.softens_refl _) (.cons (.softened faulty 0) (Event.softens_refl _))
  exact ⟨rfl,soft,views_eq_of_softened (fun _ => 10) pairs rfl raises fails soft,by decide +kernel⟩

end Session
end Baler
