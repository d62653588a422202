import Baler.Settlement

/-! The broker's own book of a channel. It is moved by deliveries and by the calls that succeed,
and knows nothing of batches. -/
namespace Baler

/-- The deliveries that are out, those that were acked and those that went back to the queue. -/
structure Broker where
  outstanding : List Int
  acked : List Int
  requeued : List Int
deriving DecidableEq, Repr

namespace Broker

/-- A channel on which nothing has been delivered. -/
def fresh : Broker := ⟨[], [], []⟩

/-- A delivery goes out. -/
def deliver (b : Broker) (id : Int) : Broker := { b with outstanding := b.outstanding ++ [id] }

/-- A call that succeeds. A cumulative ack reaches every outstanding delivery up to its id. -/
def settle (b : Broker) : Settlement.Call → Broker
  | .ack id true => { b with
      outstanding := b.outstanding.filter (id < ·)
      acked := b.acked ++ b.outstanding.filter (· ≤ id) }
  | .ack id false => { b with
      outstanding := b.outstanding.filter (· ≠ id)
      acked := b.acked ++ [id] }
  | .nack id _ => { b with
      outstanding := b.outstanding.filter (· ≠ id)
      requeued := b.requeued ++ [id] }

theorem outstanding_settle_subset (b : Broker) (c : Settlement.Call) :
    (b.settle c).outstanding ⊆ b.outstanding := by
  intro d hd
  cases c with
  | ack id cumulative => cases cumulative <;> exact (List.mem_filter.mp hd).1
  | nack id requeue => exact (List.mem_filter.mp hd).1

/-- Whether a call reaches a delivery. -/
def reaches : Settlement.Call → Int → Prop
  | .ack id true, d => d ≤ id
  | .ack id false, d => d = id
  | .nack id _, d => d = id

theorem reaches_iff {c : Settlement.Call} {d : Int} :
    reaches c d ↔ d = c.id ∨ c.isCumulative = true ∧ d < c.id := by
  cases c with
  | ack id cumulative =>
    cases cumulative with
    | true =>
      simp only [reaches,Settlement.Call.id,Settlement.Call.isCumulative,true_and]
      omega
    | false => simp [reaches,Settlement.Call.id,Settlement.Call.isCumulative]
  | nack id requeue => simp [reaches,Settlement.Call.id,Settlement.Call.isCumulative]

/-- A call moves no delivery but those that it reaches. -/
theorem mem_outstanding_settle {b : Broker} {c : Settlement.Call} {d : Int}
    (hd : d ∈ b.outstanding) (hr : ¬ reaches c d) : d ∈ (b.settle c).outstanding := by
  cases c with
  | ack id cumulative =>
    cases cumulative with
    | true => exact List.mem_filter.mpr ⟨hd,by simpa [reaches] using hr⟩
    | false => exact List.mem_filter.mpr ⟨hd,by simpa [reaches] using hr⟩
  | nack id requeue => exact List.mem_filter.mpr ⟨hd,by simpa [reaches] using hr⟩

theorem not_mem_outstanding_settle {b : Broker} {c : Settlement.Call} {d : Int}
    (hr : reaches c d) : d ∉ (b.settle c).outstanding := by
  intro hd
  cases c with
  | ack id cumulative =>
    cases cumulative with
    | true =>
      have h := (List.mem_filter.mp hd).2
      simp only [decide_eq_true_eq] at h
      exact absurd hr (Int.not_le.mpr h)
    | false => simp [settle,show d = id from hr] at hd
  | nack id requeue => simp [settle,show d = id from hr] at hd

/-- What a call adds to the acked deliveries. -/
theorem mem_acked_settle {b : Broker} {c : Settlement.Call} {d : Int}
    (h : d ∈ (b.settle c).acked) :
    d ∈ b.acked ∨ c = .ack d false ∨ ∃ n, c = .ack n true ∧ d ∈ b.outstanding ∧ d ≤ n := by
  cases c with
  | nack id requeue => exact .inl h
  | ack id cumulative =>
    cases cumulative with
    | false =>
      rcases List.mem_append.mp h with h | h
      · exact .inl h
      · obtain rfl := List.mem_singleton.mp h
        exact .inr (.inl rfl)
    | true =>
      rcases List.mem_append.mp h with h | h
      · exact .inl h
      · obtain ⟨ho,hn⟩ := List.mem_filter.mp h
        exact .inr (.inr ⟨id,rfl,ho,by simpa using hn⟩)

end Broker
end Baler
