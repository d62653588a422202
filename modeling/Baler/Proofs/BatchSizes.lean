import Baler.Proofs.Accounting

/-! How large batches are. The buffer takes every delivery that it is given, so its bound rests on the
loop: it drains the buffer whenever that is full, and before it waits again. -/
namespace Baler

variable {τ : Type} {c d e : Consumer τ} {r : Run τ} {batches : List (List Handle)}
  {calls : List Settlement.Call} {x : Sight} {capacity : Nat}

/-- Whether a batch of some length may be flushed by a trigger: a full one by its size, and one that
is not full but holds something by the timer. -/
def Trigger.fits (capacity : Nat) : Trigger → Nat → Prop
  | .size, length => length = capacity
  | .timeout, length => 0 < length ∧ length < capacity

theorem Trigger.pos_of_fits {trigger : Trigger} {length : Nat} (h : trigger.fits capacity length)
    (hc : 0 < capacity) : 0 < length := by
  cases trigger with
  | size => rwa [show length = capacity from h]
  | timeout => exact h.1

namespace Buffer

theorem isReady_iff {b : Buffer} (h : b.limit = .whole capacity) :
    b.isReady = true ↔ capacity ≤ b.size := by
  simp [isReady,h]

theorem size_eq_zero_iff {b : Buffer} : b.size = 0 ↔ b.items = [] := List.length_eq_zero_iff

end Buffer

/-- What bounds the buffer of a consumer: it is not full unless a flush is in progress, which has
emptied it. -/
structure Consumer.Sized (capacity : Nat) (c : Consumer τ) : Prop where
  limit : c.buffer.limit = .whole capacity
  room : c.flushing = false → c.buffer.size < capacity
  emptied : c.flushing = true → c.buffer.items = []

/-- Either way the buffer is not full. -/
theorem Consumer.Sized.size_lt (h : c.Sized capacity) (hc : 0 < capacity) :
    c.buffer.size < capacity := by
  cases hf : c.flushing with
  | false => exact h.room hf
  | true => rwa [Buffer.size_eq_zero_iff.mpr (h.emptied hf)]

/-- A buffer that is not full remains so when the loop takes a turn. -/
theorem Resumes.size_lt (h : Resumes e r d batches) (room : e.buffer.size < capacity) :
    d.buffer.size < capacity := by
  cases h with
  | flushes ticker filled => exact Nat.zero_lt_of_lt room
  | _ => exact room

/-- A batch that the timer takes was neither empty nor full. -/
theorem Resumes.taken (h : Resumes e r d batches) (room : e.buffer.size < capacity)
    {batch : List Handle} (hb : batch ∈ batches) : ∃ r', d.run = some r' ∧
      r'.phase = .flushing .timeout batch.length (.deciding batch) ∧
      Trigger.fits capacity .timeout batch.length := by
  cases h with
  | waits ticker => cases hb
  | spins ticker empty => cases hb
  | flushes ticker filled =>
    obtain rfl := List.mem_singleton.mp hb
    have pos : 0 < e.buffer.items.length := List.length_pos_iff.mpr filled
    exact ⟨_,rfl,rfl,pos,room⟩

/-- What is read before a turn has left the buffer short of a batch. -/
theorem Turns.room (h : Turns c x e r) (sized : c.Sized capacity) : e.buffer.size < capacity := by
  have still := sized.room h.not_flushing
  cases h with
  | begins hr => exact still
  | wakes hr hp hq => exact still
  | @reads r g hr hp hq room =>
    have full : ¬ (c.buffer.add g).isReady = true := by simp [room]
    rw [Buffer.isReady_iff (b := c.buffer.add g) sized.limit] at full
    exact Nat.lt_of_not_le full

theorem Resumes.limit (h : Resumes e r d batches) : d.buffer.limit = e.buffer.limit := by
  cases h <;> rfl

/-- No move changes when a buffer is full. -/
theorem Move.limit (m : Move c x d batches calls) : d.buffer.limit = c.buffer.limit := by
  cases m with
  | turns why go => rw [go.limit]; cases why <;> rfl
  | advances hr hp why go =>
    cases go with
    | asks => rfl
    | resumes tolerable go => exact go.limit
    | leaves fatal out => rw [out.buffer]
  | leaves hr why out => rw [out.buffer]
  | _ => rfl

/-- A buffer that one delivery fills holds exactly a batch. -/
theorem Consumer.Sized.length_filled (sized : c.Sized capacity) (hf : c.flushing = false) {g : Handle}
    (full : (c.buffer.add g).isReady = true) : (c.buffer.add g).items.length = capacity := by
  have room := sized.room hf
  have enough := (Buffer.isReady_iff (b := c.buffer.add g) sized.limit).mp full
  have size : (c.buffer.add g).items.length = c.buffer.size + 1 := c.buffer.size_add g
  rw [Buffer.size_add] at enough
  omega

theorem Consumer.Sized.move (h : c.Sized capacity) (m : Move c x d batches calls)
    (hc : 0 < capacity) : d.Sized capacity := by
  have below := h.size_lt hc
  refine ⟨m.limit.trans h.limit,fun hd => ?_,m.emptied h.emptied⟩
  cases m with
  | fills hr hp hq full => cases hd
  | turns why go => exact go.size_lt (why.room h)
  | advances hr hp why go =>
    cases go with
    | asks => exact below
    | resumes tolerable go => exact go.size_lt below
    | leaves fatal out => exact out.buffer ▸ below
  | leaves hr why out => exact out.buffer ▸ below
  | _ => exact below

/-- A batch that is given to the strategy has the size that its trigger allows. -/
theorem Move.taken_fits (m : Move c x d batches calls) (sized : c.Sized capacity) (hc : 0 < capacity)
    {batch : List Handle} (hb : batch ∈ batches) : ∃ r trigger, d.run = some r ∧
      r.phase = .flushing trigger batch.length (.deciding batch) ∧
      trigger.fits capacity batch.length := by
  cases m with
  | fills hr hp hq full =>
    obtain rfl := List.mem_singleton.mp hb
    have flushing : c.flushing = false := by rw [Consumer.flushing_of_run hr,hp]; rfl
    exact ⟨_,.size,rfl,rfl,sized.length_filled flushing full⟩
  | turns why go =>
    obtain ⟨r',hr',hp',fits⟩ := go.taken (why.room sized) hb
    exact ⟨r',.timeout,hr',hp',fits⟩
  | advances hr hp why go =>
    cases go with
    | resumes tolerable go =>
      obtain ⟨r',hr',hp',fits⟩ := go.taken (sized.size_lt hc) hb
      exact ⟨r',.timeout,hr',hp',fits⟩
    | _ => cases hb
  | _ => cases hb

theorem Resumes.counts (h : Resumes e r d batches) :
    d.flushes + d.flushing.toNat = e.flushes + batches.length := by
  cases h <;> rfl

theorem Departs.counts {n : Nat} {q : Receive} (h : Departs r x n q) : n = r.phase.isFlush.toNat := by
  cases h with
  | ends hp hq hg => rw [hp]; rfl
  | quits hp => rw [hp]; rfl
  | interrupted hp => rw [hp]; rfl
  | cleans hp => cases hq : r.phase <;> simp [hq,Phase.isLoop] at hp ⊢ <;> rfl

/-- The flushes that are over and the one in progress are counted by the batches that are taken. -/
theorem Move.counts (m : Move c x d batches calls) :
    d.flushes + d.flushing.toNat = c.flushes + c.flushing.toNat + batches.length := by
  cases m with
  | stays => rfl
  | refused exit hr =>
    have still : c.flushing = false := by rw [Consumer.flushing,hr]; rfl
    rw [still]
    rfl
  | answered got hr hq => rw [Consumer.flushing_answered hr]; rfl
  | fills hr hp hq full => rw [Consumer.flushing_of_run hr,hp]; rfl
  | turns why go =>
    have same : ∀ {e r}, Turns c x e r → e.flushes = c.flushes := fun h => by cases h <;> rfl
    rw [go.counts,same why,why.not_flushing]
    rfl
  | advances hr hp why go =>
    rw [Consumer.flushing_of_run hr,hp]
    cases go with
    | asks => rfl
    | resumes tolerable go => exact go.counts
    | leaves fatal out => rw [out.flushes,out.not_flushing]; rfl
  | leaves hr why out =>
    rw [out.flushes,out.not_flushing,why.counts,Consumer.flushing_of_run hr]
    rfl

namespace Session

variable [Add τ] [LE τ] [DecidableLE τ]

theorem sized_after (instant : Float → τ) (queue : String) (policy : Policy) (haltOnFault : Bool)
    (es : List (Event τ)) :
    ((start (.fresh queue policy haltOnFault)).after instant es).consumer.Sized policy.capacity := by
  refine after_induction (P := fun s => s.consumer.Sized policy.capacity) ?_ ?_ instant es
  · exact ⟨rfl,fun _ => policy.capacity_pos,fun hf => by cases hf⟩
  · exact fun s x d batches calls h m => h.move m policy.capacity_pos

/-- Every batch that is taken begins a flush, and every flush that ends is counted. -/
theorem counted_after (instant : Float → τ) (queue : String) (policy : Policy) (haltOnFault : Bool)
    (es : List (Event τ)) :
    let s := (start (.fresh queue policy haltOnFault)).after instant es
    s.consumer.flushes + s.consumer.flushing.toNat = s.batches.length := by
  refine after_induction
    (P := fun s => s.consumer.flushes + s.consumer.flushing.toNat = s.batches.length) rfl ?_ instant es
  intro s x d batches calls h m
  rw [consumer_move,batches_move,batches_note,m.counts,h,List.length_append]

/-- Through all runs of a consumer, whatever its stream, its strategy and the broker answer and
whenever it is cancelled: the buffer is short of a batch unless a flush is in progress, and empty
then; whenever no flush is in progress all batches that the strategy was given are counted; and a
batch that it is given is full if its size has triggered the flush, and is not full but holds
something if the timer has. -/
theorem batch_sizes (instant : Float → τ) (queue : String) (policy : Policy) (haltOnFault : Bool)
    (es : List (Event τ)) :
    let s := (start (.fresh queue policy haltOnFault)).after instant es
    (s.consumer.flushing = false → s.consumer.buffer.size < policy.capacity ∧
      s.consumer.flushes = s.batches.length) ∧
    (s.consumer.flushing = true → s.consumer.buffer.size = 0) ∧
    ∀ e batch, .process batch ∈ (s.consumer.react instant e).2 → batch ≠ [] ∧
      ∃ r trigger, (s.next instant e).consumer.run = some r ∧
        r.phase = .flushing trigger batch.length (.deciding batch) ∧
        trigger.fits policy.capacity batch.length := by
  intro s
  have sized : s.consumer.Sized policy.capacity := sized_after instant queue policy haltOnFault es
  have counted : s.consumer.flushes + s.consumer.flushing.toNat = s.batches.length :=
    counted_after instant queue policy haltOnFault es
  refine ⟨fun hf => ⟨sized.room hf,?_⟩,fun hf => Buffer.size_eq_zero_iff.mpr (sized.emptied hf),?_⟩
  · rw [hf] at counted
    exact counted
  · intro e batch given
    have m := s.consumer.move_react instant e
    have hb : batch ∈ taken (s.consumer.react instant e).2 :=
      List.mem_filterMap.mpr ⟨_,given,rfl⟩
    obtain ⟨r,trigger,hr,hp,fits⟩ := m.taken_fits sized policy.capacity_pos hb
    have filled := List.ne_nil_of_length_pos (Trigger.pos_of_fits fits policy.capacity_pos)
    exact ⟨filled,r,trigger,hr,hp,fits⟩

/-- A first pair fills its batch and is acked, and a third delivery is left alone in the buffer. -/
def pairAndOne : List (Signal Nat) :=
  arrival 1 ++ arrival 2 ++
    [.replied (.answered (.outcome .success)) 0, .replied (.settled none) 0] ++ arrival 3

theorem timer_takes_third :
    let s := (start pairs).after (fun _ => 10) (.begin (.ok true) 0 :: pairAndOne.map .signal)
    s.consumer.buffer.size = 1 ∧ s.consumer.buffer.size < 2 ∧ s.consumer.flushes = s.batches.length ∧
      s.batches.map ids = [[1, 2]] ∧
      ∃ r trigger, (s.next (fun _ => 10) (.signal (.wake 10))).consumer.run = some r ∧
        r.phase = .flushing trigger 1 (.deciding [⟨3, [], "orders"⟩]) ∧ trigger.fits 2 1 := by
  intro s
  have h := batch_sizes (fun _ => 10) "orders" ⟨2, .real 10, .batched, by decide⟩ false
    (.begin (.ok true) 0 :: pairAndOne.map .signal)
  have waits := h.1 (by decide)
  have given := h.2.2 (.signal (.wake 10)) [⟨3, [], "orders"⟩] (.tail _ (.head _))
  exact ⟨by decide,waits.1,waits.2,by decide,given.2⟩

end Session
end Baler
