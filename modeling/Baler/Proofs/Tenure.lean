import Baler.Proofs.ChannelLife
import Baler.Proofs.Stations

/-! Whose channel a consumer is on. An assembly puts each consumer on a channel that has connected, and the consumer
stays there. A later connection that fails leaves another channel in that place. -/
namespace Baler

open Amqp

/-- A call of the owner of an assembly: to connect, with the replies of the line, or to close, with the way in which
the channel in use is closed. -/
inductive Assembly.Turn
  | connect (replies : Amqp.Replies)
  | close (closing : Channel → Channel.Result)

/-- The courses of a connection of an assembly, for its consumer: it is refused before a channel is built; or a
channel is built that nobody is put on; or a consumer is put on a channel that has connected. -/
inductive Assembly.Seats {τ : Type} (a : Assembly τ) (replies : Amqp.Replies) (r : Assembly.Result τ) : Prop
  | refused (fault : r.fault.isSome = true) (assembly : r.assembly = a)
  | bare (fault : r.fault.isSome = true) (c : Channel)
      (assembly : r.assembly =
        { a with stations := a.stations ++ [⟨c, none⟩], channelAt := some a.stations.length })
  | seated (fault : r.fault = none) (e : Endpoint) (line : a.settings.line? = .ok e)
      (connected : ((Channel.fresh e).connect replies).fault = none) (last : Station τ)
      (assembly : r.assembly = { a with
        stations := a.stations ++ [last]
        channelAt := some a.stations.length
        consumerAt := some a.stations.length })

theorem Assembly.seats_connect {τ : Type} (a : Assembly τ) (replies : Amqp.Replies) :
    a.Seats replies (a.connect replies) := by
  unfold connect
  cases hp : a.settings.policy? with
  | error f => exact .refused rfl rfl
  | ok policy =>
    dsimp only
    cases hl : a.settings.line? with
    | error f => exact .refused rfl rfl
    | ok e =>
      dsimp only
      cases hc : ((Channel.fresh e).connect replies).fault with
      | some f => exact .bare rfl _ rfl
      | none =>
        let b : Assembly τ := { a with
          stations := a.stations ++ [⟨((Channel.fresh e).connect replies).channel,none⟩]
          channelAt := some a.stations.length }
        cases hj : b.judge? with
        | error f =>
          have wired : b.wire a.stations.length policy = ⟨b,[],some f⟩ := by simp only [wire,hj]
          exact .bare (by rw [wired]; rfl) _ (by rw [wired])
        | ok judge =>
          let c : Consumer τ := .fresh a.settings.queueName policy a.settings.stopOnProcessingError
          refine .seated ?_ e hl hc ⟨((Channel.fresh e).connect replies).channel,some ⟨judge,c⟩⟩ ?_
          · change (b.wire a.stations.length policy).fault = none
            simp only [wire,hj]
          · change (b.wire a.stations.length policy).assembly = _
            simp only [wire,hj,b]
            rw [List.modify_eq_take_cons_drop (by simp)]
            simp [c]

/-- A closing gives up the consumer in use, or it is cut short and both stay in use. -/
theorem Assembly.close_cases {τ : Type} (a : Assembly τ) (closing : Channel → Channel.Result) :
    let r := a.close closing
    r.assembly.settings = a.settings ∧ r.assembly.stations.length = a.stations.length ∧
      (r.assembly.consumerAt = none ∨ r.fault.isSome = true ∧ r.assembly.consumerAt = a.consumerAt ∧
        r.assembly.channelAt = a.channelAt) := by
  unfold close
  cases hc : a.channelAt with
  | none => exact ⟨rfl,rfl,.inl rfl⟩
  | some i =>
    dsimp only
    cases hs : a.stations[i]? with
    | none => exact ⟨rfl,rfl,.inl rfl⟩
    | some s =>
      have size : (a.setChannel i (closing s.channel).channel).stations.length = a.stations.length :=
        List.length_modify ..
      dsimp only
      cases hf : (closing s.channel).fault with
      | none => exact ⟨rfl,size,.inl rfl⟩
      | some f =>
        dsimp only
        split
        · exact ⟨rfl,size,.inl rfl⟩
        · exact ⟨rfl,size,.inr ⟨rfl,rfl,hc⟩⟩

/-- An assembly, with the replies to the connection of each channel that it has built, and whether a connection that
failed has put its channel in place since the consumer was put on its own. -/
structure Tenure (τ : Type) where
  assembly : Assembly τ
  built : List Amqp.Replies
  displaced : Bool

namespace Tenure

variable {τ : Type}

/-- Nothing has been built. -/
def start (settings : Settings) (judge : Option Judge) : Tenure τ := ⟨.fresh settings judge, [], false⟩

/-- An assembly and its book after a turn. -/
def next (k : Tenure τ) : Assembly.Turn → Tenure τ
  | .connect replies =>
    let r := k.assembly.connect replies
    let builds : Bool := k.assembly.stations.length < r.assembly.stations.length
    { assembly := r.assembly
      built := k.built ++ if builds then [replies] else []
      displaced := r.fault.isSome && (k.displaced || builds) }
  | .close closing =>
    let r := k.assembly.close closing
    { k with assembly := r.assembly, displaced := r.fault.isSome && k.displaced }

/-- An assembly and its book after turns. -/
def after (k : Tenure τ) (turns : List Assembly.Turn) : Tenure τ := turns.foldl next k

/-- The channel of a station has connected without a fault. -/
def ConnectedAt (k : Tenure τ) (i : Nat) : Prop := ∃ e replies, k.assembly.settings.line? = .ok e ∧
  k.built[i]? = some replies ∧ ((Channel.fresh e).connect replies).fault = none

/-- The consumer in use is on a channel that has connected, and this is in use unless another was put in its place. -/
structure Seated (k : Tenure τ) : Prop where
  size : k.built.length = k.assembly.stations.length
  connected : ∀ i, k.assembly.consumerAt = some i → k.ConnectedAt i
  inUse : ∀ i, k.assembly.consumerAt = some i → (k.assembly.channelAt = some i ↔ k.displaced = false)

variable {k d : Tenure τ}

theorem seated_start (settings : Settings) (judge : Option Judge) : (start settings judge : Tenure τ).Seated where
  size := rfl
  connected i h := by cases h
  inUse i h := by cases h

theorem ConnectedAt.lt {i : Nat} (h : k.ConnectedAt i) : i < k.built.length := by
  obtain ⟨e,replies,-,hb,-⟩ := h
  exact (List.getElem?_eq_some_iff.mp hb).1

/-- What has connected is remembered. -/
theorem ConnectedAt.mono {i : Nat} (h : k.ConnectedAt i) (settings : d.assembly.settings = k.assembly.settings)
    {more : List Amqp.Replies} (built : d.built = k.built ++ more) : d.ConnectedAt i := by
  have known := h.lt
  obtain ⟨e,replies,line,hb,fault⟩ := h
  refine ⟨e,replies,settings ▸ line,?_,fault⟩
  rw [built,List.getElem?_append_left known,hb]

theorem Seated.connect (h : k.Seated) (replies : Amqp.Replies) : (k.next (.connect replies)).Seated := by
  have grows : ∀ last, k.assembly.stations.length < (k.assembly.stations ++ [last]).length := by simp
  cases k.assembly.seats_connect replies with
  | refused fault assembly =>
    have same : k.next (.connect replies) = k := by simp [next,assembly,fault]
    rwa [same]
  | bare fault c assembly =>
    have passed : k.next (.connect replies) = ⟨{ k.assembly with
        stations := k.assembly.stations ++ [⟨c,none⟩], channelAt := some k.assembly.stations.length },
        k.built ++ [replies],true⟩ := by
      simp [next,assembly,fault]
    rw [passed]
    refine ⟨by simp [h.size],fun i hi => (h.connected i hi).mono rfl rfl,fun i hi => ?_⟩
    -- a station has one place in the book, so the channel that was built is not the one of the consumer
    have older : i < k.assembly.stations.length := h.size ▸ (h.connected i hi).lt
    simp only [Option.some.injEq,Bool.true_eq_false,iff_false]
    omega
  | seated fault e line connected last assembly =>
    have passed : k.next (.connect replies) = ⟨{ k.assembly with
        stations := k.assembly.stations ++ [last], channelAt := some k.assembly.stations.length,
        consumerAt := some k.assembly.stations.length },k.built ++ [replies],false⟩ := by
      simp [next,assembly,fault]
    rw [passed]
    refine ⟨by simp [h.size],fun i hi => ?_,fun i hi => iff_of_true hi rfl⟩
    obtain rfl := Option.some.inj hi
    exact ⟨e,replies,line,by rw [← h.size]; exact List.getElem?_concat_length,connected⟩

theorem Seated.close (h : k.Seated) (closing : Channel → Channel.Result) : (k.next (.close closing)).Seated := by
  obtain ⟨settings,size,rest⟩ := k.assembly.close_cases closing
  refine ⟨h.size.trans size.symm,fun i hi => ?_,fun i hi => ?_⟩ <;>
    simp only [next] at hi ⊢ <;> rcases rest with gone | ⟨fault,consumer,channel⟩
  · simp [gone] at hi
  · rw [consumer] at hi
    exact (h.connected i hi).mono settings (List.append_nil _).symm
  · simp [gone] at hi
  · rw [consumer] at hi
    rw [channel,h.inUse i hi,fault,Bool.true_and]

theorem Seated.next (h : k.Seated) (t : Assembly.Turn) : (k.next t).Seated := by
  cases t with
  | connect replies => exact h.connect replies
  | close closing => exact h.close closing

theorem Seated.after (h : k.Seated) (turns : List Assembly.Turn) : (k.after turns).Seated := by
  induction turns generalizing k with
  | nil => exact h
  | cons t turns ih => exact ih (h.next t)

/-- Whatever is connected and closed, and however it fails: a consumer that is available is on a channel that has
connected without a fault. This is the channel in use unless a connection has failed since and has put its own channel
in place. -/
theorem inUse_iff_not_displaced (settings : Settings) (judge : Option Judge) (turns : List Assembly.Turn) :
    let k := (start settings judge : Tenure τ).after turns
    k.assembly.wired?.isOk = true → ∃ i, k.assembly.consumerAt = some i ∧ k.ConnectedAt i ∧
      (k.assembly.channelAt = some i ↔ k.displaced = false) := by
  intro k available
  have seated : k.Seated := (seated_start settings judge).after turns
  cases hi : k.assembly.consumerAt with
  | none => simp [Assembly.wired?,hi,Except.isOk,Except.toBool] at available
  | some i => exact ⟨i,rfl,seated.connected i hi,seated.inUse i hi⟩

/-- The second connection fails as it is set up, the third is ready, and the fourth is refused. -/
def relapses : List Assembly.Turn :=
  [.connect fun _ => none, .connect (failsAt [.qos]), .connect fun _ => none, .connect (failsAt [.connect])]

theorem third_displaced_of_relapses :
    let k := (start Duty.forPairs.assembly.settings none : Tenure Nat).after relapses
    k.assembly.wired?.isOk = true ∧ k.assembly.channelAt = some 3 ∧ k.displaced = true ∧
      ∃ i, k.assembly.consumerAt = some i ∧ k.ConnectedAt i ∧
        (k.assembly.channelAt = some i ↔ k.displaced = false) := by
  have available : ((start Duty.forPairs.assembly.settings none : Tenure Nat).after
      relapses).assembly.wired?.isOk = true := by decide +kernel
  exact ⟨available,by decide +kernel,by decide +kernel,inUse_iff_not_displaced _ none relapses available⟩

/-- After a connection that is refused, the consumer is available and the channel in use is another one, which is not
connected. -/
theorem consumer_outlives_its_place :
    let k := (start Duty.forPairs.assembly.settings none : Tenure Nat).after
      [.connect fun _ => none, .connect (failsAt [.connect])]
    k.assembly.wired?.isOk = true ∧ k.assembly.consumerAt = some 0 ∧ k.assembly.channelAt = some 1 ∧
      (k.assembly.channel?.map (·.stage)).toOption = some .disconnected := by
  decide +kernel

end Tenure
end Baler
