import Baler.Proofs.ChannelLife
import Baler.Proofs.Stations

/-! Who closes a connection. A bystander writes down whose connections an assembly has opened, which of them it
has tried to close, and which were open when another channel took their place. The last are closed by nobody. -/
namespace Baler

open Amqp

/-- What the owner of an assembly asks for. -/
inductive Assembly.Order
  | connect (replies : Amqp.Replies)
  | close (replies : Amqp.Replies)

/-- How the line replies to an order. -/
def Assembly.Order.replies : Assembly.Order → Amqp.Replies
  | .connect r | .close r => r

/-- An assembly, with the stations whose connection was opened, those where its closing was tried, and those that
lost their place while it was open. -/
structure Custody (τ : Type) where
  assembly : Assembly τ
  opened : List Nat
  closings : List Nat
  dropped : List Nat

namespace Custody

variable {τ : Type}

/-- Nothing has been built. -/
def start (settings : Settings) (judge : Option Judge) : Custody τ := ⟨.fresh settings judge, [], [], []⟩

/-- The station in use, if its connection was opened and its closing was not tried. -/
def unclosed (k : Custody τ) : List Nat :=
  k.assembly.channelAt.toList.filter fun i => i ∈ k.opened ∧ i ∉ k.closings

/-- An assembly and its book after an order. A channel that is built gets the next number. -/
def next (k : Custody τ) : Assembly.Order → Custody τ
  | .connect replies =>
    let r := k.assembly.connect replies
    let xs := exchanges replies r.acts
    let i := k.assembly.stations.length
    { assembly := r.assembly
      opened := k.opened ++ if opensLine xs then [i] else []
      closings := k.closings ++ if closesLine xs then [i] else []
      dropped := k.dropped ++ if i < r.assembly.stations.length then k.unclosed else [] }
  | .close replies =>
    let r := k.assembly.close (·.close replies)
    { k with
      assembly := r.assembly
      closings := k.closings ++
        if closesLine (exchanges replies r.acts) then k.assembly.channelAt.toList else [] }

/-- An assembly and its book after orders. -/
def after (k : Custody τ) (os : List Assembly.Order) : Custody τ := os.foldl next k

/-- The channel in use holds its connection until its closing is tried, and of the others only those are open that
were dropped. -/
structure Kept (k : Custody τ) : Prop where
  known : ∀ i, i ∈ k.opened ∨ i ∈ k.closings ∨ i ∈ k.dropped → i < k.assembly.stations.length
  inUse : ∀ i, k.assembly.channelAt = some i → ∃ s, k.assembly.stations[i]? = some s ∧
    (s.channel.hasConnection = true ↔ i ∈ k.opened ∧ i ∉ k.closings)
  dropped : ∀ i ∈ k.dropped, i ∈ k.opened ∧ i ∉ k.closings ∧ k.assembly.channelAt ≠ some i
  remembered : ∀ i ∈ k.opened, i ∉ k.closings → k.assembly.channelAt = some i ∨ i ∈ k.dropped

theorem held_iff {c : Channel} {replies : Amqp.Replies} {r : Channel.Result} (free : c.hasConnection = false)
    (ordinary : replies.Ordinary) (h : c.Connects replies r) : r.channel.hasConnection = true ↔
      opensLine (exchanges replies r.acts) = true ∧ closesLine (exchanges replies r.acts) = false := by
  cases h with
  | refused f refused fault channel passed =>
    rw [channel]
    rcases passed with nothing | called
    · simp [free,nothing,opensLine]
    · simp [free,called,opensLine]
  | ready answered served fault channel passed =>
    rw [channel,passed]
    exact iff_of_true rfl ⟨rfl,rfl⟩
  | broken f grave held xs answered stumbles =>
    obtain ⟨site,refused⟩ := stumbles.refused
    simp [Channel.isOrdinary_ofCall ordinary refused] at grave
  | undone f calm held xs u answered stumbles releases fault channel passed =>
    obtain ⟨silent,bared,parted⟩ := releases.of_ordinary ordinary
    rw [silent,Option.isNone_none,if_pos rfl,bared] at channel
    rw [channel,passed,parted,closesLine_append,Channel.closesLine_parting]
    simp [Channel.bare,Channel.half]

variable {k d : Custody τ} {replies : Amqp.Replies}

theorem kept_start (settings : Settings) (judge : Option Judge) : (start settings judge : Custody τ).Kept where
  known i h := by simp [start] at h
  inUse i h := by cases h
  dropped i h := by cases h
  remembered i h := by cases h

theorem mem_unclosed {i : Nat} :
    i ∈ k.unclosed ↔ k.assembly.channelAt = some i ∧ i ∈ k.opened ∧ i ∉ k.closings := by
  simp [unclosed]

theorem mem_append_ite {i n : Nat} {xs : List Nat} {b : Bool} :
    (i ∈ xs ++ if b = true then [n] else []) ↔ i ∈ xs ∨ i = n ∧ b = true := by
  cases b <;> simp

/-- A channel was built. It has the next number and is in use, and the one before is dropped if it is open. -/
structure Replaces (k d : Custody τ) (opens closes : Bool) : Prop where
  size : d.assembly.stations.length = k.assembly.stations.length + 1
  channelAt : d.assembly.channelAt = some k.assembly.stations.length
  station : ∃ s, d.assembly.stations[k.assembly.stations.length]? = some s ∧
    (s.channel.hasConnection = true ↔ opens = true ∧ closes = false)
  opened : ∀ i, i ∈ d.opened ↔ i ∈ k.opened ∨ i = k.assembly.stations.length ∧ opens = true
  closings : ∀ i, i ∈ d.closings ↔ i ∈ k.closings ∨ i = k.assembly.stations.length ∧ closes = true
  dropped : ∀ i, i ∈ d.dropped ↔ i ∈ k.dropped ∨ i ∈ k.unclosed

/-- The channel in use was closed, with its connection if it held one. -/
structure Closes (k d : Custody τ) (i : Nat) (held : Bool) : Prop where
  size : d.assembly.stations.length = k.assembly.stations.length
  channelAt : d.assembly.channelAt = none
  opened : d.opened = k.opened
  closings : ∀ j, j ∈ d.closings ↔ j ∈ k.closings ∨ j = i ∧ held = true
  dropped : d.dropped = k.dropped

theorem Kept.replaces (h : k.Kept) {opens closes : Bool} (m : k.Replaces d opens closes) : d.Kept := by
  have sooner : ∀ i, i ∈ k.opened ∨ i ∈ k.closings ∨ i ∈ k.dropped → i ≠ k.assembly.stations.length :=
    fun i hi => Nat.ne_of_lt (h.known i hi)
  have old : ∀ i, i ∈ d.dropped → i ∈ k.opened ∧ i ∉ k.closings := by
    intro i hi
    rcases (m.dropped i).mp hi with hi | hi
    · exact ⟨(h.dropped i hi).1,(h.dropped i hi).2.1⟩
    · exact (mem_unclosed.mp hi).2
  constructor
  case known =>
    intro i hi
    have before : i ∈ k.opened ∨ i ∈ k.closings → i < k.assembly.stations.length :=
      fun hi => h.known i (hi.elim .inl fun hc => .inr (.inl hc))
    rw [m.size]
    rcases hi with hi | hi | hi
    · rcases (m.opened i).mp hi with hi | ⟨rfl,-⟩
      · have := before (.inl hi)
        omega
      · omega
    · rcases (m.closings i).mp hi with hi | ⟨rfl,-⟩
      · have := before (.inr hi)
        omega
      · omega
    · have := before (.inl (old i hi).1)
      omega
  case inUse =>
    intro i hi
    obtain rfl := Option.some.inj (m.channelAt.symm.trans hi)
    obtain ⟨s,hs,held⟩ := m.station
    have new : k.assembly.stations.length ∉ k.opened ∧ k.assembly.stations.length ∉ k.closings :=
      ⟨fun hn => sooner _ (.inl hn) rfl,fun hn => sooner _ (.inr (.inl hn)) rfl⟩
    refine ⟨s,hs,held.trans ?_⟩
    rw [m.opened,m.closings]
    simp [new]
  case dropped =>
    intro i hi
    obtain ⟨was,never⟩ := old i hi
    have other := sooner i (.inl was)
    refine ⟨(m.opened i).mpr (.inl was),?_,?_⟩
    · rw [m.closings]
      exact fun hc => hc.elim never fun hc => other hc.1
    · rw [m.channelAt]
      exact fun he => other (Option.some.inj he).symm
  case remembered =>
    intro i hi hn
    rw [m.closings] at hn
    rcases (m.opened i).mp hi with was | ⟨rfl,-⟩
    · have never : i ∉ k.closings := fun hc => hn (.inl hc)
      refine .inr ((m.dropped i).mpr ?_)
      exact (h.remembered i was never).elim (fun hu => .inr (mem_unclosed.mpr ⟨hu,was,never⟩)) .inl
    · exact .inl m.channelAt

theorem Kept.closes (h : k.Kept) {i : Nat} {s : Station τ} (inUse : k.assembly.channelAt = some i)
    (hs : k.assembly.stations[i]? = some s) (m : k.Closes d i s.channel.hasConnection) : d.Kept := by
  obtain ⟨s',hs',held⟩ := h.inUse i inUse
  obtain rfl : s = s' := Option.some.inj (hs.symm.trans hs')
  constructor
  case known =>
    intro j hj
    rw [m.size]
    rw [m.opened,m.closings,m.dropped] at hj
    rcases hj with hj | (hj | ⟨rfl,-⟩) | hj
    · exact h.known j (.inl hj)
    · exact h.known j (.inr (.inl hj))
    · exact (List.getElem?_eq_some_iff.mp hs).1
    · exact h.known j (.inr (.inr hj))
  case inUse =>
    intro j hj
    simp [m.channelAt] at hj
  case dropped =>
    intro j hj
    rw [m.dropped] at hj
    obtain ⟨was,never,elsewhere⟩ := h.dropped j hj
    rw [m.opened,m.closings,m.channelAt]
    exact ⟨was,fun hc => hc.elim never fun hc => elsewhere (hc.1 ▸ inUse),nofun⟩
  case remembered =>
    intro j hj hn
    rw [m.opened] at hj
    rw [m.closings] at hn
    have never : j ∉ k.closings := fun hc => hn (.inl hc)
    rcases h.remembered j hj never with here | there
    · obtain rfl : i = j := Option.some.inj (inUse.symm.trans here)
      exact absurd (.inr ⟨rfl,held.mpr ⟨hj,never⟩⟩) hn
    · exact .inr (m.dropped ▸ there)

/-- A connection is refused and changes nothing, or a channel is built. -/
theorem replaces_connect (k : Custody τ) (ordinary : replies.Ordinary) : k.next (.connect replies) = k ∨
    ∃ opens closes, k.Replaces (k.next (.connect replies)) opens closes := by
  cases k.assembly.builds_connect replies with
  | refused f fault assembly passed =>
    refine .inl ?_
    simp [next,assembly,passed,opensLine,closesLine]
  | builds e wired stations channelAt passed fault =>
    have held := held_iff (c := .fresh e) rfl ordinary (Channel.connects_connect rfl)
    rw [← passed] at held
    have size : (k.assembly.connect replies).assembly.stations.length = k.assembly.stations.length + 1 := by
      simp [stations]
    have place : (k.assembly.connect replies).assembly.stations[k.assembly.stations.length]? =
        some ⟨((Channel.fresh e).connect replies).channel,wired⟩ := by
      rw [stations]
      exact List.getElem?_concat_length
    refine .inr ⟨_,_,size,channelAt,⟨_,place,held⟩,fun i => mem_append_ite,fun i => mem_append_ite,fun i => ?_⟩
    simp only [next,size]
    rw [if_pos (Nat.lt_succ_self _),List.mem_append]

theorem closes_close (k : Custody τ) (ordinary : replies.Ordinary) {i : Nat} {s : Station τ}
    (inUse : k.assembly.channelAt = some i) (hs : k.assembly.stations[i]? = some s) :
    k.Closes (k.next (.close replies)) i s.channel.hasConnection := by
  obtain ⟨fault,passed,stations,gone⟩ := Assembly.close_station replies inUse hs
  obtain ⟨said,silent,-⟩ := s.channel.close_eq replies
  obtain ⟨none,-,parted⟩ := (Channel.releases_release s.channel.parted replies).of_ordinary ordinary
  have shut : closesLine (exchanges replies (k.assembly.close (·.close replies)).acts) =
      s.channel.hasConnection := by
    rw [passed,said,parted]
    exact s.channel.parted.closesLine_parting replies
  refine ⟨?_,gone (silent.trans none),rfl,fun j => ?_,rfl⟩
  · change (k.assembly.close (·.close replies)).assembly.stations.length = _
    rw [stations,Assembly.setChannel]
    exact List.length_modify ..
  · simp only [next,shut,inUse,Option.toList_some]
    exact mem_append_ite

theorem Kept.connect (h : k.Kept) (ordinary : replies.Ordinary) : (k.next (.connect replies)).Kept := by
  rcases k.replaces_connect ordinary with same | ⟨opens,closes,replaced⟩
  · rwa [same]
  · exact h.replaces replaced

theorem Kept.close (h : k.Kept) (ordinary : replies.Ordinary) :
    (k.next (.close replies)).Kept ∧ (k.next (.close replies)).assembly.channelAt = none := by
  cases hc : k.assembly.channelAt with
  | none =>
    have idle : k.assembly.close (·.close replies) = ⟨{ k.assembly with consumerAt := none },[],none⟩ := by
      simp only [Assembly.close,hc]
    have same : k.next (.close replies) = { k with assembly := { k.assembly with consumerAt := none } } := by
      simp [next,idle,closesLine]
    rw [same]
    exact ⟨⟨h.known,h.inUse,h.dropped,h.remembered⟩,hc⟩
  | some i =>
    obtain ⟨s,hs,-⟩ := h.inUse i hc
    have closed := k.closes_close ordinary hc hs
    exact ⟨h.closes hc hs closed,closed.channelAt⟩

theorem Kept.next (h : k.Kept) {o : Assembly.Order} (ordinary : o.replies.Ordinary) : (k.next o).Kept := by
  cases o with
  | connect replies => exact h.connect ordinary
  | close replies => exact (h.close ordinary).1

theorem Kept.after (h : k.Kept) {os : List Assembly.Order} (ordinary : ∀ o ∈ os, o.replies.Ordinary) :
    (k.after os).Kept := by
  induction os generalizing k with
  | nil => exact h
  | cons o os ih =>
    obtain ⟨first,rest⟩ := List.forall_mem_cons.mp ordinary
    exact ih (h.next first) rest

/-- After each closing, whatever was asked for before and however the broker failed: the connections that were
opened and that nobody has tried to close are those that were open when another channel took their place. -/
theorem unclosed_iff_dropped (settings : Settings) (judge : Option Judge) (os : List Assembly.Order)
    (replies : Amqp.Replies) (ordinary : ∀ o ∈ os ++ [.close replies], o.replies.Ordinary) :
    let k := (start settings judge : Custody τ).after (os ++ [.close replies])
    ∀ i, i ∈ k.opened ∧ i ∉ k.closings ↔ i ∈ k.dropped := by
  intro k i
  obtain ⟨before,last⟩ := List.forall_mem_append.mp ordinary
  have kept := (kept_start settings judge : (start settings judge : Custody τ).Kept).after before
  have closed : k = ((start settings judge : Custody τ).after os).next (.close replies) := List.foldl_concat ..
  obtain ⟨sound,empty⟩ := kept.close (last _ (List.mem_singleton_self _))
  rw [closed]
  constructor
  · rintro ⟨was,never⟩
    exact (sound.remembered i was never).resolve_left (by simp [empty])
  · intro hi
    obtain ⟨was,never,-⟩ := sound.dropped i hi
    exact ⟨was,never⟩

/-- Three connections, of which the second fails as it is set up. -/
def retries : List Assembly.Order :=
  [.connect fun _ => none, .connect (failsAt [.qos]), .connect fun _ => none]

theorem first_dropped_of_retries :
    let k := (start Duty.forPairs.assembly.settings none : Custody Nat).after
      (retries ++ [.close (failsAt [.closeChannel])])
    (∀ o ∈ retries ++ [.close (failsAt [.closeChannel])], o.replies.Ordinary) ∧ k.opened = [0,1,2] ∧
      k.closings = [1,2] ∧ ∀ i, i ∈ k.opened ∧ i ∉ k.closings ↔ i ∈ k.dropped := by
  have ordinary : ∀ o ∈ retries ++ [.close (failsAt [.closeChannel])], o.replies.Ordinary := by
    simp only [retries,List.cons_append,List.nil_append,List.forall_mem_cons]
    exact ⟨nofun,ordinary_failsAt _,nofun,ordinary_failsAt _,nofun⟩
  exact ⟨ordinary,by decide +kernel,by decide +kernel,unclosed_iff_dropped _ none retries _ ordinary⟩

/-- A second connection takes the place of the first, which nobody closes then. -/
theorem first_connection_orphaned :
    let k := (start Duty.forPairs.assembly.settings none : Custody Nat).after
      [.connect fun _ => none, .connect fun _ => none, .close fun _ => none]
    0 ∈ k.opened ∧ 0 ∉ k.closings := by
  decide +kernel

end Custody
end Baler
