import Baler.Proofs.Moves

/-! Where the end of a run comes from. A run returns only when its stream has ended. A cancellation with which a
run ends, and that nobody asked for, was brought to it: by its stream, by its strategy or by the broker. -/
namespace Baler

open Settlement

variable {τ : Type}

/-- The fault that a signal brings to a run. -/
def Signal.fault? : Signal τ → Option Fault
  | .received (.failed f) => some f
  | .replied (.answered (.raised f)) _ => some f
  | .replied (.settled fault) _ => fault
  | .closed fault => fault
  | _ => none

/-- Whether an action reports that the stream has ended. -/
def Action.tellsEnd : Action → Bool
  | .log (.event (.streamEnded _ _)) => true
  | _ => false

/-- Whether an exit has a cause: a return has the end of the stream, which was told, and a cancellation was
brought. -/
def Exit.Caused (brought : Fault → Prop) (told : Prop) : Exit → Prop
  | .returned => told
  | .raised f => f.kind = .cancelled → brought f

/-- The exit that an answer of the stream leads to. -/
def Receive.outlook : Receive → Option Exit
  | .ready (.failed f) => some (.raised (Consumer.streamFault f))
  | _ => none

/-- The exit that a batch in work leads to if all its calls succeed. -/
def Processing.outlook : Processing → Option Exit
  | .deciding _ => none
  | .settling _ _ _ failure => failure.map .raised

/-- The exit that a batch leads to. -/
def Progress.outlook : Progress → Option Exit
  | .busy work => work.outlook
  | .finished failure => failure.map .raised

/-- The exit that the phase of a run leads to. -/
def Phase.outlook : Phase → Option Exit
  | .waiting | .spinning => none
  | .flushing _ _ work => work.outlook
  | .stoppingReceive exit | .closingStream exit => some exit

/-- Whether the exit that something leads to, if any, has a cause. -/
def Foreseen (brought : Fault → Prop) (told : Prop) (outlook : Option Exit) : Prop :=
  ∀ e, outlook = some e → e.Caused brought told

/-- Whether every exit that a run leads to has a cause. -/
structure Run.Caused (brought : Fault → Prop) (told : Prop) (r : Run τ) : Prop where
  receive : Foreseen brought told r.receive.outlook
  phase : Foreseen brought told r.phase.outlook

/-- Whether the exit of a consumer has a cause, or all those that its run leads to. -/
def Consumer.Caused (brought : Fault → Prop) (told : Prop) (c : Consumer τ) : Prop :=
  match c.run with
  | some r => r.Caused brought told
  | none => ∃ e, c.ending = some e ∧ e.Caused brought told

section

variable {brought : Fault → Prop} {told : Prop} {f : Fault}

theorem foreseen_none : Foreseen brought told none := fun e he => by cases he

theorem foreseen_some {e : Exit} (h : e.Caused brought told) : Foreseen brought told (some e) :=
  fun _ he => Option.some.inj he ▸ h

theorem Foreseen.caused {e : Exit} (h : Foreseen brought told (some e)) : e.Caused brought told := h e rfl

theorem caused_of_ordinary (h : f.isOrdinary = true) : (Exit.raised f).Caused brought told := by
  intro hk
  simp [Fault.isOrdinary,hk] at h

theorem caused_streamFault (h : f.kind = .cancelled → brought f) :
    (Exit.raised (Consumer.streamFault f)).Caused brought told := by
  unfold Consumer.streamFault
  split
  · exact h
  · split
    · exact caused_of_ordinary rfl
    · exact h

theorem Exit.Caused.mono {e : Exit} (h : e.Caused brought told) {more : Prop} (grows : told → more) :
    e.Caused brought more := by
  cases e with
  | returned => exact grows h
  | raised f => exact h

theorem Foreseen.mono {outlook : Option Exit} (h : Foreseen brought told outlook) {more : Prop}
    (grows : told → more) : Foreseen brought more outlook := fun e he => (h e he).mono grows

theorem ordinary_of_sortedNames {failed : List Int} {strays : List Stray}
    (h : Outcome.sortedNames failed strays = .error f) : f.isOrdinary = true := by
  have order : ∀ vs : List Value, Outcome.sortedNames.inOrder vs = .error f → f.isOrdinary = true := by
    intro vs hv
    cases vs with
    | nil => cases hv
    | cons first rest =>
      simp only [Outcome.sortedNames.inOrder] at hv
      split at hv
      · cases hv
        rfl
      · cases hv
  cases strays with
  | nil => cases h
  | cons s rest => exact order _ h

/-- A plan fails with an ordinary fault, or with the one that the strategy has raised. -/
theorem failure_make {mode : AckMode} {failedNacks : List Int} {batch : List Handle} {a : Answer}
    (h : (Plan.make mode failedNacks batch a).failure = some f) : f.isOrdinary = true ∨ a = .raised f := by
  cases a with
  | stray kind =>
    cases h
    exact .inl rfl
  | raised g =>
    have same : (Plan.make mode failedNacks batch (.raised g)).failure = some g := by
      simp only [Plan.make]
      split <;> rfl
    exact .inr (congrArg Answer.raised (Option.some.inj (same.symm.trans h)))
  | outcome o =>
    cases o with
    | totalFailure => cases h
    | partialFailure failed strays =>
      simp only [Plan.make,Plan.divided] at h
      split at h
      · rename_i g unsorted
        obtain rfl : g = f := Option.some.inj h
        exact .inl (ordinary_of_sortedNames unsorted)
      · cases h
    | success =>
      cases batch with
      | nil => cases h
      | cons first rest =>
        cases mode with
        | individual => cases h
        | batched => cases failedNacks <;> cases h

theorem Receive.outlook_asked (q : Receive) : q.asked.outlook = q.outlook := by cases q <;> rfl

theorem Walk.outlook {cs : List Call} {failure : Option Fault} {progress : Progress}
    (h : Walk cs failure progress) : progress.outlook = failure.map .raised := by
  cases h <;> rfl

/-- What a batch leads to after a reply was brought by the reply, or is no cancellation, or is what it had led
to before. -/
theorem caused_resume (p : Processor) {work : Processing} {reply : Reply} (now : τ)
    (h : Foreseen brought told work.outlook)
    (reported : ∀ f, (Signal.replied reply now).fault? = some f → f.kind = .cancelled → brought f) :
    Foreseen brought told (p.resume work reply).2.2.outlook := by
  cases work with
  | deciding batch =>
    cases reply with
    | settled fault => exact h
    | answered a =>
      have walk := walk_start (.make p.mode p.failedNacks batch a)
      intro e he
      change (Processor.start _).2.outlook = _ at he
      rw [walk.outlook] at he
      obtain ⟨f,hf,rfl⟩ := Option.map_eq_some_iff.mp he
      rcases failure_make hf with ordinary | rfl
      · exact caused_of_ordinary ordinary
      · exact reported f rfl
  | settling call rest closing failure =>
    cases reply with
    | answered a => exact h
    | settled fault =>
      have onward : ∀ progress, Walk (callsOf rest) failure progress →
          Foreseen brought told progress.outlook := fun progress walk => walk.outlook.symm ▸ h
      have res := resumed p call rest closing failure fault
      revert res
      generalize p.resume (.settling call rest closing failure) (.settled fault) = result
      rcases result with ⟨q,log,progress⟩
      intro res
      cases res with
      | taken walk => exact onward progress walk
      | ackFailed ordinary walk => exact onward progress walk
      | nackFailed ordinary walk => exact onward progress walk
      | cumulativeFailed ordinary => exact foreseen_none
      | broken grave => exact foreseen_some (reported _ rfl)

end

namespace Consumer

variable {brought : Fault → Prop} {told : Prop} {c d : Consumer τ} {r : Run τ} {exit : Exit}

theorem caused_of_run (hr : c.run = some r) (h : r.Caused brought told) : c.Caused brought told := by
  simpa only [Caused,hr] using h

theorem Caused.run (h : c.Caused brought told) (hr : c.run = some r) : r.Caused brought told := by
  simpa only [Caused,hr] using h

theorem Caused.ending (h : c.Caused brought told) (hr : c.run = none) :
    ∃ e, c.ending = some e ∧ e.Caused brought told := by
  simpa only [Caused,hr] using h

theorem Caused.mono (h : c.Caused brought told) {more : Prop} (grows : told → more) :
    c.Caused brought more := by
  cases hr : c.run with
  | some r =>
    have kept := h.run hr
    exact caused_of_run hr ⟨kept.receive.mono grows,kept.phase.mono grows⟩
  | none =>
    obtain ⟨e,he,caused⟩ := h.ending hr
    simp only [Caused,hr]
    exact ⟨e,he,caused.mono grows⟩

theorem caused_finish (c : Consumer τ) (h : exit.Caused brought told) : (c.finish exit).1.Caused brought told :=
  ⟨exit,rfl,h⟩

theorem caused_closeStream (c : Consumer τ) (hr : Foreseen brought told r.receive.outlook)
    (h : exit.Caused brought told) : (c.closeStream r exit).1.Caused brought told := by
  unfold closeStream
  split
  · exact caused_of_run rfl ⟨hr,foreseen_some h⟩
  · exact c.caused_finish h

theorem caused_leave (c : Consumer τ) (hr : Foreseen brought told r.receive.outlook)
    (h : exit.Caused brought told) : (c.leave r exit).1.Caused brought told := by
  unfold leave
  split
  · exact caused_of_run rfl ⟨hr,foreseen_some h⟩
  · exact c.caused_closeStream hr h

/-- A loop that goes on leads to what it has not read yet. -/
theorem caused_of_resumes {batches : List (List Handle)} (go : Resumes c r d batches)
    (hr : Foreseen brought told r.receive.outlook) : d.Caused brought told := by
  cases go with
  | waits ticker =>
    refine caused_of_run rfl ⟨?_,foreseen_none⟩
    change Foreseen brought told r.receive.asked.outlook
    rwa [Receive.outlook_asked]
  | spins ticker empty => exact caused_of_run rfl ⟨hr,foreseen_none⟩
  | flushes ticker filled => exact caused_of_run rfl ⟨hr,foreseen_none⟩

variable [Add τ] [LE τ] [DecidableLE τ]

theorem caused_accept (c : Consumer τ) (hr : Foreseen brought told r.receive.outlook)
    (h : Handle) (now : τ) : (c.accept r h now).1.Caused brought told := by
  unfold accept
  dsimp only
  split
  · exact caused_of_run rfl ⟨hr,foreseen_none⟩
  · exact caused_of_resumes (resumes_turn _ r now).1 hr

theorem caused_read (c : Consumer τ) {got : Reception} (now : τ)
    (h : Foreseen brought told (Receive.ready got).outlook)
    (telling : (∃ a ∈ (c.read r got now).2, a.tellsEnd = true) → told) :
    (c.read r got now).1.Caused brought told := by
  cases got with
  | delivery g => exact c.caused_accept foreseen_none g now
  | ended =>
    have ended : Exit.returned.Caused brought told := telling ⟨_,List.mem_cons_self,rfl⟩
    exact caused_leave (r := { r with receive := .idle }) c foreseen_none ended
  | failed f => exact c.caused_leave foreseen_none h.caused

theorem caused_flushed (c : Consumer τ) (hr : Foreseen brought told r.receive.outlook)
    (trigger : Trigger) (size : Nat) {failure : Option Fault}
    (h : Foreseen brought told (Progress.finished failure).outlook) (now : τ) :
    (c.flushed r trigger size failure now).1.Caused brought told := by
  unfold flushed
  cases failure with
  | none => exact caused_of_resumes (resumes_turn _ r now).1 hr
  | some f =>
    dsimp only
    split
    · exact caused_of_resumes (resumes_turn _ r now).1 hr
    · exact caused_leave _ hr h.caused

theorem caused_proceed (c : Consumer τ) (hr : Foreseen brought told r.receive.outlook)
    (trigger : Trigger) (size : Nat) {work : Processing} {reply : Reply} (now : τ)
    (h : Foreseen brought told work.outlook)
    (reported : ∀ f, (Signal.replied reply now).fault? = some f → f.kind = .cancelled → brought f) :
    (c.proceed r trigger size work reply now).1.Caused brought told := by
  have progress := caused_resume c.processor now h reported
  unfold proceed
  rcases hp : c.processor.resume work reply with ⟨q,log,p⟩
  rw [hp] at progress
  cases p with
  | busy next => exact caused_of_run rfl ⟨hr,progress⟩
  | finished failure => exact caused_flushed _ hr trigger size progress now

omit [Add τ] [LE τ] [DecidableLE τ] in
theorem caused_closed (c : Consumer τ) (h : exit.Caused brought told) {fault : Option Fault}
    (reported : ∀ f, fault = some f → f.kind = .cancelled → brought f) :
    (c.closed exit fault).1.Caused brought told := by
  cases fault with
  | none => exact c.caused_finish h
  | some f =>
    unfold closed
    dsimp only
    split
    · exact c.caused_finish h
    · exact ⟨_,rfl,reported f rfl⟩

omit [Add τ] [LE τ] [DecidableLE τ] in
theorem ordinary_of_toFloat {q : Quantity} {f : Fault} (h : q.toFloat = .error f) : f.isOrdinary = true := by
  cases q with
  | real x => cases h
  | whole n =>
    simp only [Quantity.toFloat] at h
    split at h
    · cases h
    · cases h
      rfl

theorem caused_begin (instant : Float → τ) (c : Consumer τ) (closable : Bool) (now : τ) :
    (c.begin instant (.ok closable) now).1.Caused brought told := by
  unfold begin
  split
  · rename_i f hf
    exact ⟨_,rfl,caused_of_ordinary (ordinary_of_toFloat hf)⟩
  · exact caused_of_resumes (resumes_turn _ _ now).1 foreseen_none

omit [Add τ] [LE τ] [DecidableLE τ] in
theorem Caused.stays (h : c.Caused brought told) {moved : Consumer τ × List Action} (same : moved = (c,[])) :
    moved.1.Caused brought told := by
  rwa [same]

theorem caused_received (hr : c.run = some r) (h : c.Caused brought told) {got : Reception}
    (reported : ∀ f, (Signal.received got : Signal τ).fault? = some f → f.kind = .cancelled → brought f) :
    (c.step (.received got)).1.Caused brought told := by
  by_cases hq : r.receive = .pending
  · have answered : c.step (.received got) = (c.suspend { r with receive := .ready got },[]) := by
      simp only [step,hr,hq]
    rw [answered]
    refine caused_of_run rfl ⟨?_,(h.run hr).phase⟩
    cases got with
    | failed f => exact foreseen_some (caused_streamFault (reported f rfl))
    | _ => exact foreseen_none
  · exact h.stays (by simp only [step,hr])

theorem caused_wake (hr : c.run = some r) (h : c.Caused brought told) {now : τ}
    (telling : (∃ a ∈ (c.step (.wake now)).2, a.tellsEnd = true) → told) :
    (c.step (.wake now)).1.Caused brought told := by
  cases hp : r.phase with
  | waiting =>
    have receive := (h.run hr).receive
    cases hq : r.receive with
    | ready got =>
      have reads : c.step (.wake now) = c.read r got now := by simp only [step,hr,hp,hq]
      rw [hq] at receive
      rw [reads] at telling ⊢
      exact c.caused_read now receive telling
    | _ =>
      have turns : c.step (.wake now) = c.turn r now := by simp only [step,hr,hp,hq]
      rw [turns]
      exact caused_of_resumes (resumes_turn c r now).1 receive
  | _ => exact h.stays (by simp only [step,hr,hp])

theorem caused_replied (hr : c.run = some r) (h : c.Caused brought told) {reply : Reply} {now : τ}
    (reported : ∀ f, (Signal.replied reply now).fault? = some f → f.kind = .cancelled → brought f) :
    (c.step (.replied reply now)).1.Caused brought told := by
  cases hp : r.phase with
  | flushing trigger size work =>
    have phase := (h.run hr).phase
    rw [hp] at phase
    by_cases fits : work.takes reply = true
    · have goes : c.step (.replied reply now) = c.proceed r trigger size work reply now := by
        simp only [step,hr,hp,fits,if_true]
      rw [goes]
      exact c.caused_proceed (h.run hr).receive trigger size now phase reported
    · exact h.stays (by simp [step,hr,hp,fits])
  | _ => exact h.stays (by simp only [step,hr,hp])

theorem caused_receiveStopped (hr : c.run = some r) (h : c.Caused brought told) :
    (c.step .receiveStopped).1.Caused brought told := by
  cases hp : r.phase with
  | stoppingReceive exit =>
    have phase := (h.run hr).phase
    rw [hp] at phase
    have closes : c.step .receiveStopped = c.closeStream { r with receive := .idle } exit := by
      simp only [step,hr,hp]
    rw [closes]
    exact c.caused_closeStream foreseen_none phase.caused
  | _ => exact h.stays (by simp only [step,hr,hp])

theorem caused_step_closed (hr : c.run = some r) (h : c.Caused brought told) {fault : Option Fault}
    (reported : ∀ f, fault = some f → f.kind = .cancelled → brought f) :
    (c.step (.closed fault)).1.Caused brought told := by
  cases hp : r.phase with
  | closingStream exit =>
    have phase := (h.run hr).phase
    rw [hp] at phase
    have ends : c.step (.closed fault) = c.closed exit fault := by simp only [step,hr,hp]
    rw [ends]
    exact c.caused_closed phase.caused reported
  | _ => exact h.stays (by simp only [step,hr,hp])

/-- What a signal leads to has a cause, if what it brings and what is told on it counts as one, and if it is no
cancellation from outside. -/
theorem Caused.step (h : c.Caused brought told) {s : Signal τ} (unasked : s ≠ .cancel)
    (reported : ∀ f, s.fault? = some f → f.kind = .cancelled → brought f)
    (telling : (∃ a ∈ (c.step s).2, a.tellsEnd = true) → told) : (c.step s).1.Caused brought told := by
  cases hr : c.run with
  | none => exact h.stays (by simp only [Consumer.step,hr])
  | some r =>
    cases s with
    | cancel => exact absurd rfl unasked
    | received got => exact caused_received hr h reported
    | wake now => exact caused_wake hr h telling
    | replied reply now => exact caused_replied hr h reported
    | receiveStopped => exact caused_receiveStopped hr h
    | closed fault => exact caused_step_closed hr h reported

end Consumer
end Baler
