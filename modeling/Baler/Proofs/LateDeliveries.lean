import Baler.Proofs.LastBatch

/-! Deliveries that come in the course of a flush. The timer flushes while the stream is asked for
the next delivery, and what comes then waits until the loop reads it. If the flush ends the run, the
loop does not read it any more. -/
namespace Baler

open Settlement

variable {τ : Type} {d : Consumer τ} {r : Run τ} {batches : List (List Handle)}

namespace Session

variable {s : Session τ} {x : Sight} {calls : List Call} {held : List Handle}

/-- All that is handed over is in a batch or in the buffer, but for what came since the last batch
was taken. -/
def Accounted (held : List Handle) (s : Session τ) : Prop :=
  held ++ s.handed = s.batches.flatten ++ s.consumer.buffer.items ++ s.late

theorem mem_handed_of_late (h : ∀ g ∈ s.late, g ∈ s.handed) (d : Consumer τ) :
    ∀ g ∈ ((s.note x).move d batches).late, g ∈ ((s.note x).move d batches).handed := by
  intro g hg
  rw [handed_move,handed_note]
  cases batches with
  | cons batch batches => simp at hg
  | nil =>
    rw [late_move_nil,late_note] at hg
    rcases List.mem_append.mp hg with hg | hg
    · exact List.mem_append_left _ (h g hg)
    · exact List.mem_append_right _ hg

/-- In a flush of a run that has lost nothing, what is late is what waits to be read. -/
theorem MidFlush.accounted (h : s.MidFlush) (balanced : s.Balanced held)
    (complete : s.handed = s.read ++ s.consumer.unread) : s.Accounted held := by
  unfold Accounted
  calc held ++ s.handed = (held ++ s.read) ++ s.consumer.unread := by rw [complete,List.append_assoc]
    _ = s.batches.flatten ++ s.consumer.buffer.items ++ s.late := by rw [balanced,h.late]

/-- Outside the loop whatever comes is late. -/
theorem Accounted.move (h : s.Accounted held) (m : Move s.consumer x d batches calls)
    (hd : d.looping = false) : ((s.note x).move d batches).Accounted held := by
  obtain ⟨rfl,-,hb⟩ := m.outside hd
  simp only [Accounted,handed_move,handed_note,batches_move,batches_note,consumer_move,late_move_nil,
    late_note,List.append_nil]
  rw [hb,← List.append_assoc,h,List.append_assoc]

variable [Add τ] [LE τ] [DecidableLE τ]

theorem accounted_after {instant : Float → τ} (h : s.Accounted held) (hl : s.consumer.looping = false)
    (signals : List (Signal τ)) : (s.after instant (signals.map .signal)).Accounted held := by
  have both : (s.after instant (signals.map .signal)).consumer.looping = false ∧
      (s.after instant (signals.map .signal)).Accounted held := by
    refine signal_induction (P := fun s => s.consumer.looping = false ∧ s.Accounted held)
      ⟨hl,h⟩ ?_ instant signals
    rintro s x d batches calls r ⟨hs,ha⟩ hr m
    have hd : d.looping = false := by
      cases hd : d.looping with
      | false => rfl
      | true => exact (hs.symm.trans (m.looping hr hd)).symm
    exact ⟨hd,ha.move m hd⟩
  exact both.2

/-- If a flush of the timer ends its run, by its fault or a cancellation, then what came since the
flush began is in no batch and in no buffer, and it is all that is lost. -/
theorem lost_iff_late_of_timer_flush (instant : Float → τ) {c : Consumer τ} (hc : c.run = none)
    (subscription : Except Fault Bool) (now : τ) (before rest : List (Signal τ)) (last : Signal τ)
    (flush : (run instant c subscription now before).consumer.flushesOnTime)
    (leaves : (run instant c subscription now (before ++ [last])).consumer.looping = false) :
    let s := run instant c subscription now (before ++ last :: rest)
    c.buffer.items ++ s.handed = s.batches.flatten ++ s.consumer.buffer.items ++ s.late ∧
      ((c.buffer.items ++ s.handed).Nodup →
        ((∀ h ∈ s.handed, h ∈ s.batches.flatten ∨ h ∈ s.consumer.buffer.items) ↔ s.late = [])) := by
  intro s
  obtain ⟨r,size,work,hr,hp⟩ := flush
  have flushing : (run instant c subscription now before).consumer.flushing = true := by
    rw [Consumer.flushing_of_run hr,hp]
    rfl
  have midFlush : (run instant c subscription now before).MidFlush := by
    refine midFlush_after (fun h => ?_) _ flushing
    simp [start,Consumer.flushing,hc] at h
  have balanced : (run instant c subscription now before).Balanced c.buffer.items :=
    balanced_after (balanced_start c) _
  have complete := handed_of_looping instant hc subscription now before
    (Consumer.looping_of_flushing flushing)
  -- from the last signal on nothing is read, so what comes is late as well
  have left : (run instant c subscription now (before ++ [last])).Accounted c.buffer.items := by
    have m := (run instant c subscription now before).consumer.move_react instant (.signal last)
    rw [run_append] at leaves ⊢
    exact (midFlush.accounted balanced complete).move m leaves
  have account : s.Accounted c.buffer.items := by
    have hs : s = (run instant c subscription now (before ++ [last])).after instant
        (rest.map .signal) := by
      rw [← run_append,List.append_assoc]
      rfl
    rw [hs]
    exact accounted_after left leaves rest
  have late : ∀ h ∈ s.late, h ∈ s.handed :=
    after_induction (P := fun s => ∀ h ∈ s.late, h ∈ s.handed) (fun h hh => by cases hh)
      (fun _ _ d _ _ hs _ => mem_handed_of_late hs d) instant _
  refine ⟨account,fun nodup => ⟨fun kept => ?_,fun none h hh => ?_⟩⟩
  · rw [account] at nodup
    refine List.eq_nil_iff_forall_not_mem.mpr fun h hh => ?_
    have elsewhere := List.mem_append.mpr (kept h (late h hh))
    exact (List.nodup_append.mp nodup).2.2 h elsewhere h hh rfl
  · have hm : h ∈ s.batches.flatten ++ s.consumer.buffer.items ++ s.late := by
      rw [← account]
      exact List.mem_append_right _ hh
    rw [none,List.append_nil] at hm
    exact List.mem_append.mp hm

/-- A consumer of batches of up to ten whose faults end it. Its timer is due after ten steps. -/
def patient : Consumer Nat := .fresh "orders" ⟨10, .real 10, .individual, by decide⟩ true

/-- The timer flushes a first delivery, in the course of the flush a second one comes, and the
strategy fails. -/
def flushedLate : List (Signal Nat) :=
  arrival 1 ++ [.wake 10, .received (.delivery ⟨2, [], "orders"⟩),
    .replied (.answered (.raised ⟨.runtime, "sink down"⟩)) 10]

theorem lost_of_failed_flush :
    let s := run (fun _ => 10) patient (.ok true) 0
      (flushedLate ++ .replied (.settled none) 10 :: [.closed none])
    s.late = [⟨2, [], "orders"⟩] ∧
      ¬ ∀ h ∈ s.handed, h ∈ s.batches.flatten ∨ h ∈ s.consumer.buffer.items := by
  intro s
  have late : s.late = [⟨2, [], "orders"⟩] := by decide
  have h := (lost_iff_late_of_timer_flush (fun _ => 10) (c := patient) rfl (.ok true) 0 flushedLate
    [.closed none] (.replied (.settled none) 10) ⟨_,_,_,rfl,rfl⟩ (by decide)).2 (by decide)
  exact ⟨late,fun kept => by simp [s,h.mp kept] at late⟩

theorem second_delivery_lost :
    let s := run (fun _ => 10) patient (.ok true) 0
      (flushedLate ++ .replied (.settled none) 10 :: [.closed none])
    s.consumer.run.isNone = true ∧ ⟨2, [], "orders"⟩ ∈ s.handed ∧
      ⟨2, [], "orders"⟩ ∉ s.batches.flatten ∧ ⟨2, [], "orders"⟩ ∉ s.consumer.buffer.items := by
  decide

end Session
end Baler
