import Baler.Proofs.Accounting

/-! The batch of a flush in progress. It is the last one that was taken, it has emptied the buffer,
and what the stream has handed over since waits to be read. -/
namespace Baler

open Settlement

variable {τ : Type} {c d : Consumer τ} {r : Run τ} {batches : List (List Handle)} {calls : List Call}
  {x : Sight}

/-- A batch is with the strategy from when it is taken until it is judged or the flush interrupted. -/
theorem Move.judging (m : Move c x d batches calls) :
    (x.judging.map Prod.fst ++ d.deciding.toList).Sublist (c.deciding.toList ++ batches) := by
  have gone : x.judging = [] → d.looping = false →
      (x.judging.map Prod.fst ++ d.deciding.toList).Sublist (c.deciding.toList ++ batches) := by
    intro hx hd
    rw [hx,Consumer.deciding_of_outside hd]
    exact List.nil_sublist _
  cases m with
  | stays => exact List.sublist_append_left _ _
  | refused exit hr => exact gone rfl rfl
  | answered got hr hq =>
    rw [got.sight_quiet.2,Consumer.deciding_answered hr]
    exact List.sublist_append_left _ _
  | fills hr hp hq full => exact List.sublist_append_right _ _
  | turns why go =>
    rw [why.quiet.2,go.deciding]
    exact List.sublist_append_right _ _
  | advances hr hp why go =>
    rw [go.deciding]
    cases why with
    | judged walk => rw [Consumer.deciding_of_run hr,hp]; exact List.Sublist.refl _
    | replied res => exact List.sublist_append_right _ _
  | leaves hr why out => exact gone why.quiet.2.2 out.outside

/-- A flush goes on by the strategy's answer or the broker's reply alone. -/
theorem Move.of_flushing (m : Move c x d batches calls) (h : c.flushing = true) :
    (∃ batch a, x = .judged batch a ∧ c.deciding = some batch ∧ c.calls = []) ∨
      (∃ call fault, x = .replied call fault ∧ c.deciding = none) ∨ d.looping = false ∨
      (d.deciding = c.deciding ∧ d.calls = c.calls) := by
  cases m with
  | stays => exact .inr (.inr (.inr ⟨rfl,rfl⟩))
  | refused exit hr => exact .inr (.inr (.inl rfl))
  | answered got hr hq =>
    exact .inr (.inr (.inr ⟨Consumer.deciding_answered hr _,Consumer.calls_answered hr _⟩))
  | fills hr hp hq full =>
    rw [Consumer.flushing_of_run hr,hp] at h
    cases h
  | turns why go => simp [why.not_flushing] at h
  | advances hr hp why go =>
    rw [Consumer.deciding_of_run hr,Consumer.calls_of_run hr,hp]
    cases why with
    | judged walk => exact .inl ⟨_,_,rfl,rfl,rfl⟩
    | replied res => exact .inr (.inl ⟨_,_,rfl,rfl⟩)
  | leaves hr why out => exact .inr (.inr (.inl out.outside))

namespace Session

variable {s : Session τ}

/-- A flush in progress has emptied the buffer into the last batch. -/
structure MidFlush (s : Session τ) : Prop where
  emptied : s.consumer.buffer.items = []
  late : s.late = s.consumer.unread
  last : ∃ earlier batch, s.batches = earlier ++ [batch] ∧ batch ≠ [] ∧
    ∀ b, s.consumer.deciding = some b → b = batch

/-- The batch that a timer takes, when nothing waits to be read. -/
theorem MidFlush.of_resumes (s : Session τ) (go : Resumes c r d batches)
    (hq : r.receive.unread = []) (hd : d.flushing = true) : (s.move d batches).MidFlush := by
  cases go with
  | waits ticker => cases hd
  | spins ticker empty => cases hd
  | flushes ticker filled =>
    refine ⟨rfl,?_,s.batches,c.buffer.items,rfl,filled,?_⟩
    · rw [late_move_cons]
      exact hq.symm
    · intro b hb
      exact (Option.some.inj hb).symm

/-- A flush that goes on keeps its batch: the buffer is empty, so no other can be taken. -/
theorem MidFlush.of_advances (h : s.MidFlush) {trigger : Trigger} {size : Nat} {p : Progress}
    (hr : s.consumer.run = some r) (go : Advances c r trigger size p d batches calls)
    (hc : c.buffer = s.consumer.buffer) (hx : x.handing = []) (hd : d.flushing = true) :
    ((s.note x).move d batches).MidFlush := by
  cases go with
  | asks =>
    obtain ⟨earlier,batch,hb,hn,-⟩ := h.last
    refine ⟨?_,?_,earlier,batch,?_,hn,fun b hb => by cases hb⟩
    · exact (congrArg Buffer.items hc).trans h.emptied
    · rw [late_move_nil,late_note,hx,List.append_nil,h.late,Consumer.unread_of_run hr]
      rfl
    · rw [batches_move,batches_note,hb,List.append_nil]
  | resumes tolerable go =>
    cases go with
    | waits ticker => cases hd
    | spins ticker empty => cases hd
    | flushes ticker filled => exact absurd ((congrArg Buffer.items hc).trans h.emptied) filled
  | leaves fatal out => simp [out.not_flushing] at hd

/-- A flush begins with nothing to read, and what comes in its course waits. -/
theorem MidFlush.move (h : s.consumer.flushing = true → s.MidFlush)
    (m : Move s.consumer x d batches calls) (hd : d.flushing = true) :
    ((s.note x).move d batches).MidFlush := by
  cases m with
  | stays =>
    obtain ⟨emptied,late,earlier,batch,hb,hn,hw⟩ := h hd
    exact ⟨emptied,late,earlier,batch,by rw [batches_move,batches_note,hb,List.append_nil],hn,hw⟩
  | refused exit hr => cases hd
  | @answered r got hr hq =>
    obtain ⟨emptied,late,earlier,batch,hb,hn,hw⟩ := h (by rwa [← Consumer.flushing_answered hr])
    refine ⟨emptied,?_,earlier,batch,?_,hn,fun b hb => hw b ?_⟩
    · rw [late_move_nil,late_note,late,Consumer.unread_of_run hr,hq,got.handing_sight]
      rfl
    · rw [batches_move,batches_note,hb,List.append_nil]
    · rwa [← Consumer.deciding_answered hr]
  | @fills r g hr hp hq full =>
    refine ⟨rfl,?_,s.batches,(s.consumer.buffer.add g).items,?_,?_,?_⟩
    · rw [late_move_cons]
      rfl
    · rw [batches_move,batches_note]
    · exact List.append_ne_nil_of_right_ne_nil _ (List.cons_ne_nil _ _)
    · intro b hb
      exact (Option.some.inj hb).symm
  | turns why go => exact .of_resumes _ go why.nothing_unread hd
  | advances hr hp why go =>
    have mid := h (by rw [Consumer.flushing_of_run hr,hp]; rfl)
    exact mid.of_advances hr go rfl why.quiet.1 hd
  | leaves hr why out => simp [out.not_flushing] at hd

/-- The strategy judges batches that were taken, each once and in order. -/
def Judged (s : Session τ) : Prop :=
  (s.reports.map Prod.fst ++ s.consumer.deciding.toList).Sublist s.batches

theorem Judged.move (h : s.Judged) (m : Move s.consumer x d batches calls) :
    ((s.note x).move d batches).Judged := by
  simp only [Judged,reports_move,reports_note,batches_move,batches_note,consumer_move,List.map_append]
  have hm := m.judging.append_left (s.reports.map Prod.fst)
  rw [← List.append_assoc,← List.append_assoc] at hm
  exact hm.trans (List.Sublist.append_right h batches)

variable [Add τ] [LE τ] [DecidableLE τ] {instant : Float → τ}

theorem midFlush_after (h : s.consumer.flushing = true → s.MidFlush) (es : List (Event τ))
    (hf : (s.after instant es).consumer.flushing = true) : (s.after instant es).MidFlush :=
  after_induction (P := fun s => s.consumer.flushing = true → s.MidFlush) h
    (fun _ _ _ _ _ hs m => MidFlush.move hs m) instant es hf

end Session
end Baler
