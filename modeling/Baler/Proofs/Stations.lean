import Baler.Assembly
import Baler.Proofs.Exchanges

/-! What an assembly does to the line. It connects a new channel each time and puts it in the place of the one
in use, and it closes the one in use only. -/
namespace Baler

open Amqp

variable {τ : Type}

namespace Assembly

variable {a : Assembly τ} {replies : Amqp.Replies}

/-- The courses of a connection of an assembly: it is refused before a channel is built; or a channel is built
and connected, and takes the place of the one in use. -/
inductive Builds (a : Assembly τ) (replies : Amqp.Replies) (r : Result τ) : Prop
  | refused (f : Fault) (fault : r.fault = some f) (assembly : r.assembly = a)
      (passed : exchanges replies r.acts = [])
  | builds (e : Endpoint) (wired : Option (Wired τ))
      (stations : r.assembly.stations = a.stations ++ [⟨((Channel.fresh e).connect replies).channel, wired⟩])
      (channelAt : r.assembly.channelAt = some a.stations.length)
      (passed : exchanges replies r.acts = exchanges replies ((Channel.fresh e).connect replies).acts)
      (fault : ((Channel.fresh e).connect replies).fault = r.fault ∨
        ((Channel.fresh e).connect replies).fault = none ∧ ∃ f, r.fault = some f ∧ f.isOrdinary = true)

theorem exchanges_prefetchWarning (replies : Amqp.Replies) (prefetch : Int) (capacity : Nat) :
    exchanges replies (prefetchWarning prefetch capacity) = [] := by
  unfold prefetchWarning
  split <;> rfl

theorem judge?_ordinary {f : Fault} (h : a.judge? = .error f) : f.isOrdinary = true := by
  unfold judge? at h
  cases hj : a.judge with
  | some j => simp [hj] at h
  | none =>
    simp only [hj,Keyword.make?] at h
    split at h
    · cases h
      rfl
    · cases h

/-- To put a consumer on the last station leaves the channels as they are. -/
theorem wire_last {xs : List (Station τ)} {ch : Channel} (ha : a.stations = xs ++ [⟨ch,none⟩])
    (replies : Amqp.Replies) (policy : Policy) : let r := a.wire xs.length policy
    ∃ wired, r.assembly.stations = xs ++ [⟨ch,wired⟩] ∧ r.assembly.channelAt = a.channelAt ∧
      exchanges replies r.acts = [] ∧ ∀ f, r.fault = some f → f.isOrdinary = true := by
  simp only [wire]
  cases hj : a.judge? with
  | error f => exact ⟨none,ha,rfl,rfl,fun g hg => Option.some.inj hg ▸ judge?_ordinary hj⟩
  | ok judge =>
    refine ⟨some ⟨judge,.fresh a.settings.queueName policy a.settings.stopOnProcessingError⟩,?_,rfl,rfl,
      fun g hg => by cases hg⟩
    dsimp only
    rw [ha,List.modify_eq_take_cons_drop (by simp)]
    simp

theorem builds_connect (a : Assembly τ) (replies : Amqp.Replies) : a.Builds replies (a.connect replies) := by
  unfold connect
  cases hp : a.settings.policy? with
  | error f => exact .refused f rfl rfl rfl
  | ok policy =>
    have warned := exchanges_prefetchWarning replies a.settings.prefetchCount policy.capacity
    dsimp only
    cases hl : a.settings.line? with
    | error f => exact .refused f rfl rfl warned
    | ok e =>
      dsimp only
      cases hc : ((Channel.fresh e).connect replies).fault with
      | some f => exact .builds e none rfl rfl (by simp [warned]) (.inl hc)
      | none =>
        let b : Assembly τ := { a with
          stations := a.stations ++ [⟨((Channel.fresh e).connect replies).channel,none⟩]
          channelAt := some a.stations.length }
        obtain ⟨wired,stations,channelAt,said,ordinary⟩ := wire_last (a := b) rfl replies policy
        refine .builds e wired stations channelAt ?_ ?_
        · change exchanges replies (_ ++ _ ++ (b.wire a.stations.length policy).acts) = _
          simp [warned,said]
        · change _ = (b.wire a.stations.length policy).fault ∨
            _ ∧ ∃ f, (b.wire a.stations.length policy).fault = _ ∧ _
          cases hw : (b.wire a.stations.length policy).fault with
          | none => exact .inl hc
          | some f => exact .inr ⟨hc,f,rfl,ordinary f hw⟩

theorem fault_close {c : Channel} {f : Fault} (h : (c.close replies).fault = some f) : f.isOrdinary = false := by
  rw [(c.close_eq replies).2.1] at h
  cases Channel.releases_release c.parted replies with
  | all fault => simp [fault] at h
  | cutAtChannel g grave refused held fault => exact Option.some.inj (fault.symm.trans h) ▸ grave
  | cutAtConnection g grave refused held fault => exact Option.some.inj (fault.symm.trans h) ▸ grave

/-- To close an assembly is to close the channel in use; it is in use still if that was cut short. -/
theorem close_station {i : Nat} {s : Station τ} (replies : Amqp.Replies) (h : a.channelAt = some i)
    (hs : a.stations[i]? = some s) :
    let r := a.close (·.close replies)
    let u := s.channel.close replies
    r.fault = u.fault ∧ exchanges replies r.acts = exchanges replies u.acts ∧
      r.assembly.stations = (a.setChannel i u.channel).stations ∧
      (u.fault = none → r.assembly.channelAt = none) := by
  intro r u
  cases hf : u.fault with
  | none =>
    have gone : r = ⟨{ a.setChannel i u.channel with channelAt := none, consumerAt := none },u.acts,none⟩ := by
      simp only [r,u,close,h,hs] at hf ⊢
      simp only [hf]
    rw [gone]
    exact ⟨rfl,rfl,rfl,fun _ => rfl⟩
  | some f =>
    have kept : r = ⟨a.setChannel i u.channel,u.acts,some f⟩ := by
      simp only [r,u,close,h,hs] at hf ⊢
      simp only [hf,fault_close hf,Bool.false_eq_true,if_false]
    rw [kept]
    exact ⟨rfl,rfl,rfl,fun hn => by cases hn⟩

end Assembly
end Baler
