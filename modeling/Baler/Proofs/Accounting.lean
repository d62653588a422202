import Baler.Proofs.Moves

/-! Where deliveries are. What a consumer has read is in a batch or in its buffer, each in order of
arrival; what its stream has handed over is read, or waits to be read, or came too late. -/
namespace Baler

open Settlement

variable {τ : Type} {c d : Consumer τ} {r : Run τ} {batches : List (List Handle)} {calls : List Call}
  {x : Sight}

theorem Leaves.not_flushing {n : Nat} {q : Receive} (h : Leaves c n q d) : d.flushing = false := by
  cases hf : d.flushing with
  | false => rfl
  | true =>
    have hl := Consumer.looping_of_flushing hf
    rw [h.outside] at hl
    cases hl

/-- A move takes batches out of the front of the buffer and puts what is read at its end. -/
theorem Move.conserves (m : Move c x d batches calls) :
    batches.flatten ++ d.buffer.items = c.buffer.items ++ x.reading := by
  cases m with
  | stays => exact (List.append_nil _).symm
  | refused exit hr => exact (List.append_nil _).symm
  | answered got hr hq => rw [got.sight_quiet.1,List.append_nil]; rfl
  | @fills r h hr hp hq full =>
    change [c.buffer.items ++ [h]].flatten ++ [] = c.buffer.items ++ [h]
    simp
  | turns why go => rw [go.conserves,why.buffer]
  | advances hr hp why go => rw [why.quiet.2,List.append_nil]; exact go.conserves
  | leaves hr why out =>
    rw [why.quiet.2.1,List.append_nil]
    exact congrArg Buffer.items out.buffer

/-- As long as the loop goes on, what is handed over is read or waits to be read. -/
theorem Move.unread (m : Move c x d batches calls) (hd : d.looping = true) :
    c.unread ++ x.handing = x.reading ++ d.unread := by
  cases m with
  | stays => exact List.append_nil _
  | refused exit hr => cases hd
  | answered got hr hq =>
    rw [Consumer.unread_of_run hr,hq,got.handing_sight,got.sight_quiet.1]
    rfl
  | fills hr hp hq full =>
    rw [Consumer.unread_of_run hr,hq]
    rfl
  | turns why go => rw [why.reads_unread,why.quiet.1,go.unread,why.nothing_unread]
  | advances hr hp why go =>
    rw [Consumer.unread_of_run hr,go.unread hd,why.quiet.1,why.quiet.2,List.append_nil]
    rfl
  | leaves hr why out => simp [out.outside] at hd

/-- A run that leaves its loop takes no batch any more and reads nothing. -/
theorem Move.outside (m : Move c x d batches calls) (hd : d.looping = false) :
    batches = [] ∧ x.reading = [] ∧ d.buffer = c.buffer := by
  cases m with
  | stays => exact ⟨rfl,rfl,rfl⟩
  | refused exit hr => exact ⟨rfl,rfl,rfl⟩
  | answered got hr hq => exact ⟨rfl,got.sight_quiet.1,rfl⟩
  | fills hr hp hq full => cases hd
  | turns why go => simp [go.looping] at hd
  | advances hr hp why go =>
    cases go with
    | asks => exact ⟨rfl,why.quiet.2,rfl⟩
    | resumes tolerable go => simp [go.looping] at hd
    | leaves fatal out => exact ⟨rfl,why.quiet.2,out.buffer⟩
  | leaves hr why out => exact ⟨rfl,why.quiet.2.1,out.buffer⟩

/-- A flush has emptied the buffer, which stays empty as long as it is in progress. -/
theorem Move.emptied (m : Move c x d batches calls)
    (h : c.flushing = true → c.buffer.items = []) (hd : d.flushing = true) : d.buffer.items = [] := by
  cases m with
  | stays => exact h hd
  | refused exit hr => cases hd
  | answered got hr hq => exact h (by rwa [← Consumer.flushing_answered hr])
  | fills hr hp hq full => rfl
  | turns why go =>
    cases go with
    | flushes ticker filled => rfl
    | _ => cases hd
  | advances hr hp why go =>
    cases go with
    | asks => exact h (by rw [Consumer.flushing_of_run hr,hp]; rfl)
    | resumes tolerable go =>
      cases go with
      | flushes ticker filled => rfl
      | _ => cases hd
    | leaves fatal out => simp [out.not_flushing] at hd
  | leaves hr why out => simp [out.not_flushing] at hd

/-- What waits to be read after a move did so before, or has just come. -/
theorem Move.unread_sublist (m : Move c x d batches calls) :
    (x.reading ++ d.unread).Sublist (c.unread ++ x.handing) := by
  cases hd : d.looping with
  | true => exact m.unread hd ▸ List.Sublist.refl _
  | false =>
    obtain ⟨-,hx,-⟩ := m.outside hd
    rw [hx,List.nil_append]
    have keep : ∀ {r : Run τ}, c.run = some r → d.unread.Sublist r.receive.unread →
        d.unread.Sublist (c.unread ++ x.handing) := by
      intro r hr h
      rw [Consumer.unread_of_run hr]
      exact h.trans (List.sublist_append_left _ _)
    cases m with
    | stays => exact List.sublist_append_left _ _
    | refused exit hr => exact List.nil_sublist _
    | answered got hr hq => rw [got.handing_sight]; exact List.sublist_append_right _ _
    | fills hr hp hq full => cases hd
    | turns why go => simp [go.looping] at hd
    | advances hr hp why go => exact keep hr go.unread_sublist
    | leaves hr why out => exact keep hr (out.unread_sublist.trans why.unread_sublist)

/-- A run that has left its loop does not come back to it. -/
theorem Move.looping (m : Move c x d batches calls) (hr : c.run = some r) (hd : d.looping = true) :
    c.looping = true := by
  cases m with
  | stays => exact hd
  | refused exit hn => simp [hr] at hn
  | answered got hr hq => rwa [Consumer.looping_of_run hr]
  | fills hr hp hq full => rw [Consumer.looping_of_run hr,hp]; rfl
  | turns why go => exact why.looping hr
  | advances hr hp why go => rw [Consumer.looping_of_run hr,hp]; rfl
  | leaves hr why out => simp [out.outside] at hd

namespace Session

variable {s : Session τ} {held : List Handle}

/-- With the deliveries that the consumer held before, all that is read is in a batch or in the
buffer. -/
def Balanced (held : List Handle) (s : Session τ) : Prop :=
  held ++ s.read = s.batches.flatten ++ s.consumer.buffer.items

theorem balanced_start (c : Consumer τ) : (start c).Balanced c.buffer.items := List.append_nil _

theorem Balanced.move (h : s.Balanced held) (m : Move s.consumer x d batches calls) :
    ((s.note x).move d batches).Balanced held := by
  simp only [Balanced,read_move,read_note,batches_move,batches_note,consumer_move]
  calc held ++ (s.read ++ x.reading) = (held ++ s.read) ++ x.reading := by simp
    _ = s.batches.flatten ++ (s.consumer.buffer.items ++ x.reading) := by rw [h]; simp
    _ = (s.batches ++ batches).flatten ++ d.buffer.items := by rw [← m.conserves]; simp

/-- Nothing that was handed over is lost: it is read or waits to be read, and a run that is cleaning
up has nothing to read any more. -/
structure Complete (s : Session τ) : Prop where
  handed : s.handed = s.read ++ s.consumer.unread
  rest : s.consumer.looping = false → s.consumer.unread = [] ∧
    ∀ r, s.consumer.run = some r → r.receive ≠ .pending

theorem Complete.of_looping (h : s.handed = s.read ++ s.consumer.unread)
    (m : Move s.consumer x d batches calls) (hd : d.looping = true) :
    ((s.note x).move d batches).Complete := by
  refine ⟨?_,fun hn => absurd hd (by simp_all)⟩
  simp only [handed_move,handed_note,read_move,read_note,consumer_move]
  rw [h,List.append_assoc,List.append_assoc,m.unread hd]

/-- A run that goes on, or leaves its loop to read the end or a failure, loses nothing. -/
theorem Complete.move (h : s.Complete) (m : Move s.consumer x d batches calls)
    (orderly : s.consumer.looping = true → d.looping = true ∨ x = .ended) :
    ((s.note x).move d batches).Complete := by
  cases hd : d.looping with
  | true => exact .of_looping h.handed m hd
  | false =>
    have ended : s.consumer.looping = true → x = .ended := fun hl =>
      (orderly hl).resolve_left (by simp [hd])
    have quiet : x.handing = [] → x.reading = [] → s.consumer.unread = [] → d.unread = [] →
        (∀ r, d.run = some r → r.receive ≠ .pending) → ((s.note x).move d batches).Complete := by
      intro hx hy hc hu hq
      refine ⟨?_,fun _ => ⟨hu,hq⟩⟩
      simp only [handed_move,handed_note,read_move,read_note,consumer_move,hx,hy,hu,List.append_nil]
      rw [h.handed,hc,List.append_nil]
    cases m with
    | stays =>
      obtain ⟨hu,hq⟩ := h.rest hd
      exact quiet rfl rfl hu hu hq
    | refused exit hr =>
      exact quiet rfl rfl (Consumer.unread_of_rest hr) rfl (fun _ hn => by cases hn)
    -- a run in its cleanup has no request under way that could still be answered
    | answered got hr hq => exact absurd hq ((h.rest (by rwa [Consumer.looping_of_run hr])).2 _ hr)
    | fills hr hp hq full => cases hd
    | turns why go => simp [go.looping] at hd
    | advances hr hp why go =>
      have hx := ended (by rw [Consumer.looping_of_run hr,hp]; rfl)
      cases why <;> cases hx
    | leaves hr why out =>
      cases why with
      | ends hp hq hg =>
        refine quiet rfl rfl ?_ (out.unread rfl) (fun r hr => by simp [out.receive r hr])
        rw [Consumer.unread_of_run hr,hq,Receive.unread_of_not_delivery hg]
      | quits hp => cases ended (by rw [Consumer.looping_of_run hr,hp]; rfl)
      | interrupted hp => cases ended (by rw [Consumer.looping_of_run hr,hp]; rfl)
      | cleans hp =>
        obtain ⟨hu,-⟩ := h.rest (by rwa [Consumer.looping_of_run hr])
        exact quiet rfl rfl hu (out.unread rfl) (fun r hr => by simp [out.receive r hr])

/-- What is read and what waits to be read comes in the order in which it was handed over. -/
def InOrder (s : Session τ) : Prop := (s.read ++ s.consumer.unread).Sublist s.handed

theorem inOrder_start {c : Consumer τ} (hc : c.run = none) : (start c).InOrder := by
  rw [InOrder,show (start c).consumer.unread = [] from Consumer.unread_of_rest hc]
  exact List.Sublist.refl _

theorem InOrder.move (h : s.InOrder) (m : Move s.consumer x d batches calls) :
    ((s.note x).move d batches).InOrder := by
  simp only [InOrder,read_move,read_note,handed_move,handed_note,consumer_move]
  have hm : (s.read ++ (x.reading ++ d.unread)).Sublist (s.read ++ (s.consumer.unread ++ x.handing)) :=
    m.unread_sublist.append_left s.read
  rw [← List.append_assoc,← List.append_assoc] at hm
  exact hm.trans (List.Sublist.append_right h x.handing)

variable [Add τ] [LE τ] [DecidableLE τ] {instant : Float → τ}

theorem balanced_after (h : s.Balanced held) (es : List (Event τ)) : (s.after instant es).Balanced held :=
  after_induction h (fun _ _ _ _ _ hs m => hs.move m) instant es

theorem inOrder_after (h : s.InOrder) (es : List (Event τ)) : (s.after instant es).InOrder :=
  after_induction h (fun _ _ _ _ _ hs m => hs.move m) instant es

theorem balanced_of_fresh (instant : Float → τ) (queue : String) (policy : Policy) (haltOnFault : Bool)
    (es : List (Event τ)) : ((start (.fresh queue policy haltOnFault)).after instant es).Balanced [] :=
  balanced_after (balanced_start (.fresh queue policy haltOnFault)) es

theorem inOrder_of_fresh (instant : Float → τ) (queue : String) (policy : Policy) (haltOnFault : Bool)
    (es : List (Event τ)) : ((start (.fresh queue policy haltOnFault)).after instant es).InOrder :=
  inOrder_after (inOrder_start rfl) es

theorem complete_after (h : s.Complete) (es : List (Event τ)) (orderly : s.Orderly instant es) :
    (s.after instant es).Complete := by
  induction es generalizing s with
  | nil => exact h
  | cons e es ih =>
    obtain ⟨he,hes⟩ := orderly
    exact ih (h.move (s.consumer.move_react instant e) he) hes

theorem run_append (instant : Float → τ) (c : Consumer τ) (subscription : Except Fault Bool) (now : τ)
    (first rest : List (Signal τ)) : run instant c subscription now (first ++ rest) =
      (run instant c subscription now first).after instant (rest.map .signal) := by
  simp [run,after]

/-- As long as a run is in its loop, it has lost nothing. -/
theorem handed_of_looping (instant : Float → τ) {c : Consumer τ} (hc : c.run = none)
    (subscription : Except Fault Bool) (now : τ) (signals : List (Signal τ)) :
    let s := run instant c subscription now signals
    s.consumer.looping = true → s.handed = s.read ++ s.consumer.unread := by
  have begun : (start c).handed = (start c).read ++ (start c).consumer.unread :=
    (Consumer.unread_of_rest hc).symm
  refine signal_induction (P := fun s => s.consumer.looping = true → s.handed = s.read ++ s.consumer.unread)
    (fun hl => ?_) (fun s x d batches calls r hs hr m hd => ?_) instant signals
  · have m := (start c).consumer.move_react instant (.begin subscription now)
    exact (Complete.of_looping begun m hl).handed
  · exact (Complete.of_looping (hs (m.looping hr hd)) m hd).handed

/-- Over all runs of a consumer, whatever its strategy and the broker answer and whenever it is
cancelled, the deliveries that its loop has read are the batches, one after the other, and then its
buffer. As long as runs end by the end or a failure of their stream alone, these are all deliveries
that the streams have handed over but for one that waits to be read. -/
theorem batches_then_buffer_of_read (instant : Float → τ) (queue : String) (policy : Policy)
    (haltOnFault : Bool) (es : List (Event τ)) :
    let s₀ := start (.fresh queue policy haltOnFault)
    let s := s₀.after instant es
    s.read = s.batches.flatten ++ s.consumer.buffer.items ∧
      (s₀.Orderly instant es → s.handed = s.read ++ s.consumer.unread) := by
  intro s₀ s
  have balanced : s.Balanced [] := balanced_of_fresh instant queue policy haltOnFault es
  have complete : s₀.Complete := ⟨rfl,fun _ => ⟨rfl,fun r hr => by cases hr⟩⟩
  exact ⟨balanced,fun orderly => (complete_after complete es orderly).handed⟩

/-- A first run reads one delivery and the end of its stream, a second run another delivery. -/
def twoStreams : List (Event Nat) :=
  .begin (.ok true) 0 :: (arrival 1).map .signal ++
    .signal (.received .ended) :: .signal (.wake 0) :: .signal (.closed none) ::
    .begin (.ok true) 0 :: (arrival 2).map .signal

theorem batch_over_two_streams :
    let s := (start pairs).after (fun _ => 10) twoStreams
    (start pairs).Orderly (fun _ => 10) twoStreams ∧ s.handed = s.read ++ s.consumer.unread ∧
      s.batches.map ids = [[1, 2]] := by
  intro s
  have orderly : (start pairs).Orderly (fun _ => 10) twoStreams := by decide
  have h := batches_then_buffer_of_read (fun _ => 10) "orders" ⟨2, .real 10, .batched, by decide⟩ false
    twoStreams
  exact ⟨orderly,h.2 orderly,by decide⟩

end Session
end Baler
