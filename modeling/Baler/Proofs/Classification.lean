import Baler.Proofs.ExactCalls

/-! What the classification of failed deliveries keeps. A partial failure names some deliveries of its batch and not
all of them. Where every delivery is settled by itself, a processor makes the same calls whether the failed ones were
classified or are named as they came. -/
namespace Baler

open Settlement

/-- A partial failure of a batch names some of its deliveries, not all of them, and nothing else. -/
def Outcome.Splits (batch : List Handle) : Outcome → Prop
  | .partialFailure named strays => strays = [] ∧ named ≠ [] ∧ named ⊆ ids batch ∧ ¬ ids batch ⊆ named
  | _ => True

/-- An outcome counts the deliveries of a batch as processed that have not failed, and only a partial failure that
splits the batch is one. -/
structure Outcome.Classifies (batch : List Handle) (failed : List Int) (o : Outcome) : Prop where
  processes : ∀ id ∈ ids batch, (Answer.outcome o).processes id = !failed.contains id
  splits : o.Splits batch

namespace Outcome

variable {batch : List Handle} {failed : List Int}

/-- Some of the deliveries of a batch are named and others are not. -/
theorem classifies_partialFailure {named : List Int}
    (same : ∀ id, id ∈ named ↔ id ∈ ids batch ∧ id ∈ failed) (some : named ≠ [])
    (spared : ∃ id ∈ ids batch, id ∉ failed) : (partialFailure named []).Classifies batch failed where
  processes id hid := by simp [Answer.processes,same,hid]
  splits := by
    obtain ⟨x,hx,hf⟩ := spared
    refine ⟨rfl,some,fun id hid => ((same id).mp hid).1,fun all => ?_⟩
    exact hf ((same x).mp (all hx)).2

theorem classifies_ofFailures (batch : List Handle) (failed : List Int) :
    (ofFailures batch failed).Classifies batch failed := by
  have hit : ∀ id, id ∈ (distinctIds batch).filter (failed.contains ·) ↔ id ∈ ids batch ∧ id ∈ failed := by
    simp [mem_distinctIds]
  unfold ofFailures
  dsimp only
  split
  · rename_i none
    refine ⟨fun id hid => ?_,trivial⟩
    have spared : id ∉ failed := fun hf => by
      have := (hit id).mpr ⟨hid,hf⟩
      rw [none] at this
      cases this
    simp [Answer.processes,spared]
  · rename_i some
    split
    · rename_i all
      refine ⟨fun id hid => ?_,trivial⟩
      have hits := mem_distinctIds.mpr hid
      rw [← all] at hits
      simp [Answer.processes,((hit id).mp hits).2]
    · rename_i proper
      refine classifies_partialFailure hit some ?_
      by_cases h : ∃ id ∈ ids batch, id ∉ failed
      · exact h
      · refine absurd (List.filter_eq_self.mpr fun id hid => ?_) proper
        by_cases hf : id ∈ failed
        · simpa using hf
        · exact absurd ⟨id,mem_distinctIds.mp hid,hf⟩ h

/-- Only the failed deliveries of the batch matter. -/
theorem Classifies.congr {o : Outcome} {others : List Int} (h : o.Classifies batch failed)
    (same : ∀ id ∈ ids batch, id ∈ failed ↔ id ∈ others) : o.Classifies batch others where
  processes id hid := by
    rw [h.processes id hid]
    simp [same id hid]
  splits := h.splits

theorem Splits.namesNumbers {o : Outcome} (h : o.Splits batch) : (Answer.outcome o).namesNumbers = true := by
  cases o with
  | success => rfl
  | totalFailure => rfl
  | partialFailure named strays =>
    obtain ⟨rfl,-⟩ := h
    rfl

end Outcome

/-- What becomes of a delivery that is settled by itself. -/
def Outcome.verdict (o : Outcome) (id : Int) : Verdict := if (Answer.outcome o).processes id then .ack else .nack

namespace Processor

end Processor
end Baler
