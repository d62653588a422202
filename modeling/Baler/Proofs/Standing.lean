import Baler.Proofs.Pace

/-! What a consumer reports about itself. A flush is reported as long as it lasts. A loop that waits
reports what is in its buffer, but not what was left there by an earlier run, until it reads a delivery
or flushes. -/
namespace Baler

variable {τ : Type} {c d e : Consumer τ} {r : Run τ} {batches : List (List Handle)}
  {calls : List Settlement.Call} {x : Sight} {touched : Prop}

/-- Whether a consumer reports to be idle exactly with an empty buffer, and to accumulate exactly with
something in it. -/
structure Consumer.Candid (c : Consumer τ) : Prop where
  idle : c.standing = .idle ↔ c.buffer.items = []
  accumulating : c.standing = .accumulating ↔ c.buffer.items ≠ []

/-- What a run reports in its loop; `touched` tells whether it has read or flushed anything. -/
structure Consumer.Reports (touched : Prop) (c : Consumer τ) : Prop where
  flush : c.flushing = true → c.standing = .flushing ∧ c.buffer.items = []
  first : c.waits = true → ¬ touched → c.standing = .idle
  later : c.waits = true → touched → c.Candid

namespace Consumer

theorem candid_of_idle (hs : c.standing = .idle) (hb : c.buffer.items = []) : c.Candid :=
  ⟨by simp [hs,hb],by simp [hs,hb]⟩

theorem candid_of_accumulating (hs : c.standing = .accumulating) (hb : c.buffer.items ≠ []) :
    c.Candid := ⟨by simp [hs,hb],by simp [hs,hb]⟩

theorem not_waits_of_flushing (h : c.flushing = true) : c.waits = false := by
  refine Bool.eq_false_iff.mpr fun waits => ?_
  obtain ⟨r,hr,hp⟩ := run_of_waits waits
  rw [flushing_of_run hr,hp] at h
  cases h

theorem waits_answered (hr : c.run = some r) (q : Receive) :
    (c.suspend { r with receive := q }).waits = c.waits := by rw [waits_of_run hr]; rfl

/-- A flush that has begun is reported. -/
theorem reports_of_flushing (flushing : c.flushing = true) (standing : c.standing = .flushing)
    (empty : c.buffer.items = []) : c.Reports touched := by
  have busy := not_waits_of_flushing flushing
  exact ⟨fun _ => ⟨standing,empty⟩,by simp [busy],by simp [busy]⟩

/-- Outside the loop there is nothing to report. -/
theorem reports_of_outside (h : c.looping = false) : c.Reports touched := by
  refine ⟨fun hf => ?_,fun hw => ?_,fun hw => ?_⟩
  · simp [looping_of_flushing hf] at h
  · simp [looping_of_waits hw] at h
  · simp [looping_of_waits hw] at h

end Consumer

/-- The loop begins a flush, or goes on with what it holds and reports. -/
theorem Resumes.reports (go : Resumes e r d batches) (first : ¬ touched → e.standing = .idle)
    (later : touched → e.Candid) {touched' : Prop} (same : batches = [] → (touched' ↔ touched)) :
    d.Reports touched' := by
  have rest : d.flushing = false → batches = [] → d.standing = e.standing → d.buffer = e.buffer →
      d.Reports touched' := by
    intro rest none standing buffer
    refine ⟨by simp [rest],fun _ untouched => ?_,fun _ ht => ?_⟩
    · exact standing.trans (first fun ht => untouched ((same none).mpr ht))
    · have candid := later ((same none).mp ht)
      exact ⟨by rw [standing,buffer]; exact candid.idle,by rw [standing,buffer]; exact candid.accumulating⟩
  cases go with
  | waits ticker => exact rest rfl rfl rfl rfl
  | spins ticker empty => exact rest rfl rfl rfl rfl
  | flushes ticker filled => exact Consumer.reports_of_flushing rfl rfl rfl

namespace Session

variable {s : Session τ}

/-- Whether a delivery has been read or a batch taken. -/
def Touched (s : Session τ) : Prop := s.read ≠ [] ∨ s.batches ≠ []

theorem touched_move_nil : ((s.note x).move d []).Touched ↔ (s.note x).Touched := by simp [Touched]

theorem touched_note_of_quiet (quiet : x.reading = []) : (s.note x).Touched ↔ s.Touched := by
  simp [Touched,quiet]

theorem items_of_untouched {held : List Handle} (h : s.Balanced held) (untouched : ¬ s.Touched) :
    s.consumer.buffer.items = held := by
  obtain ⟨read,batches⟩ : s.read = [] ∧ s.batches = [] := by simpa [Touched] using untouched
  simpa [Balanced,read,batches] using h.symm

/-- In its run a consumer reports as it should. A run that is begun makes no such promise: it holds
what an earlier one has left, and reports to be idle. -/
theorem reports_of_move {r : Run τ} (hr : s.consumer.run = some r) (h : s.consumer.Reports s.Touched)
    (m : Move s.consumer x d batches calls) : d.Reports ((s.note x).move d batches).Touched := by
  cases m with
  | stays => rwa [touched_move_nil]
  | refused exit hn => simp [hr] at hn
  | answered got hr hq =>
    rw [touched_move_nil,touched_note_of_quiet got.sight_quiet.1]
    refine ⟨fun hf => h.flush ?_,fun hw => h.first ?_,fun hw => ?_⟩
    · rwa [← Consumer.flushing_answered hr]
    · rwa [← Consumer.waits_answered hr]
    · have candid := h.later (by rwa [← Consumer.waits_answered hr])
      exact fun ht => ⟨(candid ht).idle,(candid ht).accumulating⟩
  | fills hr hp hq full => exact Consumer.reports_of_flushing rfl rfl rfl
  | turns why go =>
    have same : batches = [] → (((s.note x).move d batches).Touched ↔ (s.note x).Touched) := by
      rintro rfl
      exact touched_move_nil
    cases why with
    | begins hn => simp [hr] at hn
    | @reads r g hr hp hq room =>
      have touched : (s.note (.read g)).Touched := .inl (by simp [Sight.reading])
      refine go.reports (fun untouched => absurd touched untouched) (fun _ => ?_) same
      exact Consumer.candid_of_accumulating rfl (by simp)
    | wakes hr hp hq =>
      have waits : s.consumer.waits = true := by rw [Consumer.waits_of_run hr,hp]; rfl
      exact go.reports (h.first waits) (h.later waits) same
  | advances hr hp why go =>
    obtain ⟨standing,empty⟩ := h.flush (by rw [Consumer.flushing_of_run hr,hp]; rfl)
    cases go with
    | asks => exact Consumer.reports_of_flushing rfl standing empty
    | resumes tolerable go =>
      exact go.reports (fun _ => rfl) (fun _ => Consumer.candid_of_idle rfl empty)
        (by rintro rfl; exact touched_move_nil)
    | leaves fatal out => exact Consumer.reports_of_outside out.outside
  | leaves hr why out => exact Consumer.reports_of_outside out.outside

variable [Add τ] [LE τ] [DecidableLE τ]

theorem reports_run (instant : Float → τ) {c : Consumer τ} (hc : c.run = none)
    (subscription : Except Fault Bool) (now : τ) (signals : List (Signal τ)) :
    (run instant c subscription now signals).consumer.Reports
      (run instant c subscription now signals).Touched := by
  refine signal_induction (P := fun s => s.consumer.Reports s.Touched) ?_
    (fun s x d batches calls r h hr m => reports_of_move hr h m) instant signals
  -- the first event begins the run, or refuses it
  have begun : ∀ {x d batches calls}, Move c x d batches calls → x = .nothing →
      d.Reports (((start c).note x).move d batches).Touched := by
    intro x d batches calls m hx
    have untouched : batches = [] → ((((start c).note x).move d batches).Touched ↔ False) := by
      rintro rfl
      simp [hx,Touched,start,note,move]
    cases m with
    | turns why go =>
      cases why with
      | begins hn => exact go.reports (fun _ => rfl) False.elim untouched
      | reads hr hp hq room => simp [hc] at hr
      | wakes hr hp hq => simp [hc] at hr
    | stays => exact Consumer.reports_of_outside (Consumer.looping_of_rest hc)
    | refused exit hn => exact Consumer.reports_of_outside rfl
    | answered got hr hq => simp [hc] at hr
    | fills hr hp hq full => simp [hc] at hr
    | advances hr hp why go => simp [hc] at hr
    | leaves hr why out => simp [hc] at hr
  exact begun (c.move_react instant (.begin subscription now)) rfl

/-- In every run of every session: a flush in progress is reported, and when the loop waits the consumer
reports to be idle or to accumulate as its buffer is empty or not, unless the run was begun with something
in the buffer and has neither read a delivery nor taken a batch since. -/
theorem candid_iff_touched (instant : Float → τ) (queue : String) (policy : Policy) (haltOnFault : Bool)
    (earlier : List (Event τ)) (subscription : Except Fault Bool) (now : τ) (signals : List (Signal τ)) :
    let c := ((start (.fresh queue policy haltOnFault)).after instant earlier).consumer
    let s := run instant c subscription now signals
    c.run = none → (s.consumer.flushing = true → s.consumer.standing = .flushing) ∧
      (s.consumer.waits = true →
        (s.consumer.Candid ↔ c.buffer.items = [] ∨ s.read ≠ [] ∨ s.batches ≠ [])) := by
  intro c s hc
  have reports : s.consumer.Reports s.Touched := reports_run instant hc subscription now signals
  refine ⟨fun hf => (reports.flush hf).1,fun waits => ?_⟩
  by_cases touched : s.Touched
  · exact iff_of_true (reports.later waits touched) (.inr touched)
  · have idle := reports.first waits touched
    have same : s.consumer.buffer.items = c.buffer.items :=
      items_of_untouched (balanced_after (balanced_start c) _) touched
    constructor
    · intro candid
      exact .inl (same ▸ candid.idle.mp idle)
    · intro kept
      exact Consumer.candid_of_idle idle (same.trans (kept.resolve_right touched))

/-- A run reads one delivery and then the end of its stream. -/
def leftOne : List (Event Nat) :=
  .begin (.ok true) 0 :: (arrival 1).map .signal ++
    [.signal (.received .ended), .signal (.wake 0), .signal (.closed none)]

/-- The consumer after that run. -/
def withOneLeft : Consumer Nat := ((start pairs).after (fun _ => 10) leftOne).consumer

/-- Another run completes the pair, settles it and reads a third delivery. -/
def pairCompleted : List (Signal Nat) :=
  arrival 2 ++ [.replied (.answered (.outcome .success)) 0, .replied (.settled none) 0] ++ arrival 3

theorem candid_after_pair_completed :
    let s := run (fun _ => 10) withOneLeft (.ok true) 0 pairCompleted
    withOneLeft.run = none ∧ withOneLeft.buffer.size = 1 ∧ s.consumer.Candid ∧
      s.consumer.standing = .accumulating ∧ s.batches.map ids = [[1, 2]] := by
  intro s
  have rest : withOneLeft.run = none := Option.isNone_iff_eq_none.mp (by decide)
  have waits : s.consumer.waits = true := by decide
  have kept := candid_iff_touched (fun _ => 10) "orders" ⟨2, .real 10, .batched, by decide⟩ false
    leftOne (.ok true) 0 pairCompleted rest
  exact ⟨rest,by decide,(kept.2 waits).mpr (.inr (.inl (by decide))),by decide,by decide⟩

/-- A second run that waits reports to be idle, although the buffer is not empty. -/
theorem idle_with_delivery_left :
    let s := run (fun _ => 10) withOneLeft (.ok true) 0 []
    s.consumer.waits = true ∧ s.consumer.standing = .idle ∧ s.consumer.buffer.size = 1 ∧
      ¬ s.consumer.Candid := by
  intro s
  have idle : s.consumer.standing = .idle := by decide
  have held : s.consumer.buffer.items ≠ [] := by decide
  exact ⟨by decide,idle,by decide,fun candid => held (candid.idle.mp idle)⟩

end Session
end Baler
