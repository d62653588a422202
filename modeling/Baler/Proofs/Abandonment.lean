import Baler.Proofs.CallsInFlight

/-! Deliveries that an interrupted flush leaves behind. They are out on the channel and no later run
knows of them, so the next cumulative ack reaches them. -/
namespace Baler

open Settlement

variable {τ : Type} {c d : Consumer τ} {r : Run τ} {batches : List (List Handle)} {calls : List Call}
  {x : Sight} {id : Int}

theorem mem_asked {call : Call} {actions : List Action} :
    call ∈ asked actions ↔ .settle call ∈ actions := by
  rw [asked,List.mem_filterMap]
  constructor
  · rintro ⟨action,ha,hc⟩
    cases action <;> simp [Action.call?] at hc
    exact hc ▸ ha
  · exact fun h => ⟨_,h,rfl⟩

/-- A flush that is in progress after a move was so before, or its batch has just been taken. -/
theorem Move.flushing (m : Move c x d batches calls) (hd : d.flushing = true) :
    c.flushing = true ∨ batches ≠ [] := by
  cases m with
  | stays => exact .inl hd
  | refused exit hr => cases hd
  | answered got hr hq => exact .inl (by rwa [← Consumer.flushing_answered hr])
  | fills hr hp hq full => exact .inr (List.cons_ne_nil _ _)
  | turns why go =>
    cases go with
    | waits ticker => cases hd
    | spins ticker empty => cases hd
    | flushes ticker filled => exact .inr (List.cons_ne_nil _ _)
  | advances hr hp why go => exact .inl (by rw [Consumer.flushing_of_run hr,hp]; rfl)
  | leaves hr why out => simp [out.not_flushing] at hd

/-- The strategy's answer is all that is seen as a judgement. -/
theorem Consumer.sight_judged {e : Event τ} {batch : List Handle} {a : Answer}
    (h : c.sight e = .judged batch a) :
    c.deciding = some batch ∧ ∃ now, e = .signal (.replied (.answered a) now) := by
  cases e with
  | begin subscription now => cases h
  | signal s =>
    cases hr : c.run with
    | none => simp [sight,hr] at h
    | some r =>
      simp only [sight,hr] at h
      split at h
      · split at h <;> cases h
      · split at h <;> cases h
      · rename_i now trigger size batch' hp
        cases h
        exact ⟨by rw [deciding_of_run hr,hp]; rfl,now,rfl⟩
      all_goals cases h

theorem Consumer.sight_answered {batch : List Handle} {a : Answer} {now : τ}
    (h : c.deciding = some batch) : c.sight (.signal (.replied (.answered a) now)) = .judged batch a := by
  cases hr : c.run with
  | none => simp [deciding,hr] at h
  | some r =>
    rw [deciding_of_run hr] at h
    cases hp : r.phase with
    | flushing trigger size work =>
      cases work with
      | deciding b =>
        rw [hp] at h
        obtain rfl := Option.some.inj h
        simp only [sight,hr,hp]
      | settling call rest closing failure => simp [hp,Phase.deciding] at h
    | _ => simp [hp,Phase.deciding] at h

namespace Session

variable {s : Session τ}

/-- A delivery of an earlier batch than the one that is being flushed. -/
def Behind (s : Session τ) (id : Int) : Prop :=
  ∃ earlier later, s.batches = earlier ++ later ∧ id ∈ ids earlier.flatten ∧
    (s.consumer.flushing = true → later ≠ [])

theorem mem_abandoned_note (h : id ∈ (s.note x).abandoned) :
    id ∈ s.abandoned ∨ x = .interrupted ∧ id ∈ s.forsaken := by
  cases x with
  | interrupted => exact (List.mem_append.mp h).imp_right (fun hf => ⟨rfl,hf⟩)
  | replied call fault => cases fault <;> exact .inl h
  | _ => exact .inl h

/-- What an interrupted flush leaves behind stays behind. -/
theorem behind_move (h : ∀ id ∈ s.abandoned, s.Behind id) (m : Move s.consumer x d batches calls) :
    ∀ id ∈ ((s.note x).move d batches).abandoned, ((s.note x).move d batches).Behind id := by
  intro id hid
  rcases mem_abandoned_note hid with hold | ⟨rfl,hnew⟩
  · obtain ⟨earlier,later,hb,hm,hf⟩ := h id hold
    refine ⟨earlier,later ++ batches,?_,hm,fun hd he => ?_⟩
    · rw [batches_move,batches_note,hb,List.append_assoc]
    · obtain ⟨hl,hn⟩ := List.append_eq_nil_iff.mp he
      exact (m.flushing hd).elim (fun hc => hf hc hl) (fun ht => ht hn)
  · refine ⟨s.batches,batches,?_,?_,fun hd => ?_⟩
    · rw [batches_move,batches_note]
    · have hm := (List.mem_filter.mp hnew).1
      cases hl : s.batches.getLast? with
      | none => simp [hl] at hm
      | some batch =>
        rw [hl] at hm
        obtain ⟨g,hg,rfl⟩ := List.mem_map.mp hm
        exact List.mem_map_of_mem (List.mem_flatten.mpr ⟨batch,List.mem_of_getLast? hl,hg⟩)
    · have hl := Consumer.looping_of_flushing hd
      rw [consumer_move,m.of_interrupted.1] at hl
      cases hl

/-- The batch that is with the strategy comes after every delivery that is behind. -/
theorem Behind.lt (h : s.Behind id) (mid : s.MidFlush) (balanced : s.Balanced []) (inOrder : s.InOrder)
    (increasing : (ids s.handed).Pairwise (· < ·)) (hf : s.consumer.flushing = true) {n : Int}
    (hn : n ∈ ids (s.batches.getLast?.getD [])) : id < n := by
  obtain ⟨earlier,later,hb,hid,hl⟩ := h
  obtain ⟨before,last,rfl⟩ := (List.eq_nil_or_concat later).resolve_left (hl hf)
  rw [List.concat_eq_append] at hb
  have read : s.read = earlier.flatten ++ (before.flatten ++ last) := by
    have hs : s.read = s.batches.flatten ++ s.consumer.buffer.items := balanced
    rw [hs,mid.emptied,hb]
    simp
  have apart : (ids s.read).Pairwise (· < ·) :=
    increasing.sublist (((List.sublist_append_left _ _).trans inOrder).map _)
  rw [hb] at hn
  simp only [← List.append_assoc,List.getLast?_concat,Option.getD_some] at hn
  rw [read,ids,List.map_append,List.map_append] at apart
  exact (List.pairwise_append.mp apart).2.2 id hid n (List.mem_append_right _ hn)

/-- The calls in flight and to come name deliveries of the last batch. -/
def OfLast (s : Session τ) : Prop :=
  ∀ call ∈ s.consumer.calls, call.id ∈ ids (s.batches.getLast?.getD [])

theorem OfLast.move (h : s.OfLast) (mid : s.consumer.flushing = true → s.MidFlush)
    (m : Move s.consumer x d batches calls) : ((s.note x).move d batches).OfLast := by
  intro call hc
  rw [consumer_move] at hc
  obtain rfl := m.nothing_taken (List.ne_nil_of_mem hc)
  rw [batches_move,batches_note,List.append_nil]
  rcases m.calls_cases with hs | ⟨batch,a,rfl,hb,hp⟩
  · exact h call (hs.mem hc)
  · obtain ⟨earlier,last,hbs,-,hw⟩ := (mid (Consumer.flushing_of_deciding hb)).last
    obtain rfl := hw batch hb
    rw [hbs,List.getLast?_concat]
    rw [hp] at hc
    exact (warranted_of_mem_calls hc).id_mem

/-- What holds of a consumer through all its runs. -/
structure Steady (mode : AckMode) (s : Session τ) : Prop where
  mode : s.consumer.processor.mode = mode
  mid : s.consumer.flushing = true → s.MidFlush
  ofLast : s.OfLast
  alone : s.consumer.Alone
  behind : ∀ id ∈ s.abandoned, s.Behind id

theorem steady_start (queue : String) (policy : Policy) (haltOnFault : Bool) :
    (start (.fresh queue policy haltOnFault : Consumer τ)).Steady policy.mode where
  mode := rfl
  mid h := by cases h
  ofLast _ h := by cases h
  alone _ h := by cases h
  behind _ h := by cases h

theorem Steady.move {mode : AckMode} (h : s.Steady mode) (m : Move s.consumer x d batches calls) :
    ((s.note x).move d batches).Steady mode where
  mode := by
    rcases m.processor with hp | ⟨id,requeue,f,-,hp⟩
    · rw [consumer_move,hp,h.mode]
    · rw [consumer_move,hp,Processor.mode_remember,h.mode]
  mid := MidFlush.move h.mid m
  ofLast := h.ofLast.move h.mid m
  alone := h.alone.move m
  behind := behind_move h.behind m

/-- A cumulative ack is asked for when the strategy reports a success and no nack has failed. -/
theorem Steady.cumulative_iff {mode : AckMode} (h : s.Steady mode) {e : Event τ}
    (m : Move s.consumer (s.consumer.sight e) d batches calls) {n : Int} (hn : .ack n true ∈ calls) :
    ∃ batch now, e = .signal (.replied (.answered (.outcome .success)) now) ∧
      s.consumer.deciding = some batch ∧ s.consumer.processor.failedNacks = [] := by
  rcases m.asked_cases hn with ⟨batch,a,hx,hb,hp⟩ | ⟨first,rest,hc,hr⟩
  · obtain ⟨-,rfl,hf,-⟩ := warranted_of_mem_calls hp
    obtain ⟨-,now,rfl⟩ := Consumer.sight_judged hx
    exact ⟨batch,now,rfl,hb,hf⟩
  · have ha := h.alone n (hc ▸ List.mem_cons_of_mem first hr)
    rw [hc] at ha
    obtain ⟨-,rfl⟩ := List.cons.inj ha
    cases hr

/-- A success that is reported while no nack has failed is acked at once, up to the largest id. -/
theorem Steady.asks_cumulative (h : s.Steady .batched) {batch : List Handle}
    (hb : s.consumer.deciding = some batch) (hf : s.consumer.processor.failedNacks = [])
    (m : Move s.consumer (.judged batch (.outcome .success)) d batches calls) :
    ∃ n ∈ ids batch, .ack n true ∈ calls := by
  obtain ⟨earlier,last,-,filled,hw⟩ := (h.mid (Consumer.flushing_of_deciding hb)).last
  obtain rfl := hw batch hb
  have hc := m.asked_of_judged
  rw [h.mode,hf] at hc
  cases batch with
  | nil => exact absurd rfl filled
  | cons first rest =>
    refine ⟨largestId first.id rest,largestId_mem first rest,?_⟩
    rw [hc]
    exact List.mem_cons_self

variable [Add τ] [LE τ] [DecidableLE τ]

/-- Through all runs of a consumer with cumulative acks on one channel with increasing ids: an event
makes an ack that covers what an interrupted flush has left behind exactly when it is the success of a
later batch and no nack has failed. What is left behind stays out until such an ack succeeds. -/
theorem covers_abandoned_iff (instant : Float → τ) (queue : String) (policy : Policy)
    (haltOnFault : Bool) (batched : policy.mode = .batched) (es : List (Event τ)) (e : Event τ) :
    let s := (start (.fresh queue policy haltOnFault)).after instant es
    (ids s.handed).Pairwise (· < ·) → ∀ id ∈ s.abandoned,
      ((∃ n, .settle (.ack n true) ∈ (s.consumer.react instant e).2 ∧ id ≤ n) ↔
        ∃ batch now, e = .signal (.replied (.answered (.outcome .success)) now) ∧
          s.consumer.deciding = some batch ∧ s.consumer.processor.failedNacks = []) ∧
      (id ∈ s.broker.outstanding → id ∉ (s.next instant e).broker.outstanding →
        ∃ n, s.consumer.sight e = .replied (.ack n true) none ∧ id ≤ n) := by
  intro s increasing id hid
  have steady : s.Steady policy.mode :=
    after_induction (steady_start queue policy haltOnFault) (fun _ _ _ _ _ hs m => hs.move m) instant es
  rw [batched] at steady
  have balanced : s.Balanced [] := balanced_of_fresh instant queue policy haltOnFault es
  have inOrder : s.InOrder := inOrder_of_fresh instant queue policy haltOnFault es
  have m := s.consumer.move_react instant e
  have later : s.consumer.flushing = true → ∀ n ∈ ids (s.batches.getLast?.getD []), id < n :=
    fun hf n hn => (steady.behind id hid).lt (steady.mid hf) balanced inOrder increasing hf hn
  refine ⟨⟨?_,?_⟩,?_⟩
  · rintro ⟨n,hn,-⟩
    exact steady.cumulative_iff m (mem_asked.mpr hn)
  · rintro ⟨batch,now,rfl,hb,hf⟩
    have hx : s.consumer.sight (.signal (.replied (.answered (.outcome .success)) now)) =
        .judged batch (.outcome .success) := Consumer.sight_answered hb
    rw [hx] at m
    obtain ⟨n,hn,ha⟩ := steady.asks_cumulative hb hf m
    obtain ⟨earlier,last,hbs,-,hw⟩ := (steady.mid (Consumer.flushing_of_deciding hb)).last
    obtain rfl := hw batch hb
    have hlt := later (Consumer.flushing_of_deciding hb) n (by simpa [hbs] using hn)
    exact ⟨n,mem_asked.mp ha,by omega⟩
  · intro hout hgone
    obtain ⟨call,hx,hr⟩ := (outstanding_note_or_reached hout).resolve_left hgone
    rw [hx] at m
    have hc := m.replied_mem
    -- every call but a cumulative ack names one delivery of the last batch, and those come later
    have hlt := later (Consumer.flushing_of_calls (List.ne_nil_of_mem hc)) call.id (steady.ofLast call hc)
    cases call with
    | nack n requeue =>
      obtain rfl : id = n := hr
      exact absurd hlt (Int.lt_irrefl id)
    | ack n cumulative =>
      cases cumulative with
      | true => exact ⟨n,hx,hr⟩
      | false =>
        obtain rfl : id = n := hr
        exact absurd hlt (Int.lt_irrefl id)

/-- A run is cancelled while the strategy has its first two deliveries, and another one brings two
more. -/
def interruptedPair : List (Event Nat) :=
  .begin (.ok true) 0 :: (arrival 1 ++ arrival 2).map .signal ++
    .signal .cancel :: .signal (.closed none) ::
    .begin (.ok true) 0 :: (arrival 3 ++ arrival 4).map .signal

theorem covers_interrupted_pair :
    let s := (start pairs).after (fun _ => 10) interruptedPair
    s.abandoned = [1, 2] ∧ ∃ n, .settle (.ack n true) ∈ (s.consumer.react (fun _ => 10)
      (.signal (.replied (.answered (.outcome .success)) 0))).2 ∧ 1 ≤ n := by
  intro s
  have deciding : s.consumer.deciding = some [⟨3, [], "orders"⟩, ⟨4, [], "orders"⟩] := by decide
  have covers := covers_abandoned_iff (fun _ => 10) "orders" ⟨2, .real 10, .batched, by decide⟩ false
    rfl interruptedPair (.signal (.replied (.answered (.outcome .success)) 0)) (by decide) 1 (by decide)
  exact ⟨by decide,covers.1.mpr ⟨_,0,rfl,deciding,by decide⟩⟩

theorem interrupted_pair_acked :
    let s := (start pairs).after (fun _ => 10) (interruptedPair ++
      [.signal (.replied (.answered (.outcome .success)) 0), .signal (.replied (.settled none) 0)])
    s.abandoned = [1, 2] ∧ s.broker.acked = [1, 2, 3, 4] ∧ ¬ s.Processed 1 ∧ ¬ s.Processed 2 := by
  decide

end Session
end Baler
