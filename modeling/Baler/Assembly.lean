import Baler.Amqp.Stream
import Baler.Settings
import Baler.Strategy.Keyword

/-!
The assembly of a worker: it builds a broker channel, connects it and puts a consumer on it, and it
closes what it has built. Connecting again builds a new channel beside the earlier ones; a consumer
stays with the channel that it was built on.
-/
namespace Baler

/-- Who judges batches: the keyword strategy, or code supplied from outside. -/
inductive Judge
  | keyword (k : Keyword)
  | custom
deriving DecidableEq, Repr

/-- A consumer with its strategy. -/
structure Wired (τ : Type) where
  judge : Judge
  consumer : Consumer τ

/-- A broker channel, with the consumer that was built on it. -/
structure Station (τ : Type) where
  channel : Amqp.Channel
  wired : Option (Wired τ)

/-- What has been built: every station, the one whose channel is in use, and the one whose consumer
is in use. -/
structure Assembly (τ : Type) where
  settings : Settings
  judge : Option Judge
  stations : List (Station τ)
  channelAt : Option Nat
  consumerAt : Option Nat

namespace Assembly

variable {τ : Type}

/-- Nothing has been built. -/
def fresh (settings : Settings) (judge : Option Judge) : Assembly τ :=
  ⟨settings, judge, [], none, none⟩

/-- The broker channel in use. -/
def channel? (a : Assembly τ) : Except Fault Amqp.Channel :=
  match a.channelAt.bind (a.stations[·]?) with
  | some s => .ok s.channel
  | none => .error ⟨.runtime, "broker_channel is not initialized"⟩

/-- The consumer in use. -/
def wired? (a : Assembly τ) : Except Fault (Wired τ) :=
  match (a.consumerAt.bind (a.stations[·]?)).bind (·.wired) with
  | some w => .ok w
  | none => .error ⟨.runtime, "consumer is not initialized"⟩

/-- Put a channel in the place of that of a station. -/
def setChannel (a : Assembly τ) (i : Nat) (c : Amqp.Channel) : Assembly τ :=
  { a with stations := a.stations.modify i fun s => { s with channel := c } }

/-- Put a consumer in the place of that of a station. -/
def setConsumer (a : Assembly τ) (i : Nat) (c : Consumer τ) : Assembly τ :=
  { a with stations := a.stations.modify i fun s =>
      { s with wired := s.wired.map fun w => { w with consumer := c } } }

/-- The consumer of a station. -/
def consumer? (a : Assembly τ) (i : Nat) : Option (Consumer τ) :=
  (a.stations[i]?.bind (·.wired)).map (·.consumer)

/-- The strategy of the consumer of a station. -/
def judgeAt? (a : Assembly τ) (i : Nat) : Option Judge :=
  (a.stations[i]?.bind (·.wired)).map (·.judge)

/-- What an assembly has become, what was done, and the fault with which it ends. -/
structure Result (τ : Type) where
  assembly : Assembly τ
  acts : List Amqp.Act
  fault : Option Fault

/-- The strategy of the next consumer: the one from outside, or the keyword strategy. -/
def judge? (a : Assembly τ) : Except Fault Judge :=
  match a.judge with
  | some j => .ok j
  | none => (Keyword.make? a.settings.failureKeyword).map .keyword

/-- Put a consumer on the channel of a station that has been connected. -/
def wire (a : Assembly τ) (i : Nat) (policy : Policy) : Result τ :=
  match a.judge? with
  | .error f => ⟨a, [], some f⟩
  | .ok judge =>
    let s := a.settings
    let consumer := Consumer.fresh s.queueName policy s.stopOnProcessingError
    let stations := a.stations.modify i fun t => { t with wired := some ⟨judge, consumer⟩ }
    ⟨{ a with stations, consumerAt := some i },
      [.event (.wired s.queueName policy.capacity policy.wait.toValue policy.mode)], none⟩

/-- Warn if fewer deliveries can be under way than make a batch. -/
def prefetchWarning (prefetch : Int) (capacity : Nat) : List Amqp.Act :=
  if prefetch < capacity then
    [.warn (s!"prefetch_count {prefetch} is below batch_max_size {capacity}; " ++
      "batches will only flush on timeout")]
  else []

/-- Build a channel, connect it and put a consumer on it. -/
def connect (a : Assembly τ) (replies : Amqp.Replies) : Result τ :=
  match a.settings.policy? with
  | .error f => ⟨a, [], some f⟩
  | .ok policy =>
    let warning := prefetchWarning a.settings.prefetchCount policy.capacity
    match a.settings.line? with
    | .error f => ⟨a, warning, some f⟩
    | .ok endpoint =>
      let i := a.stations.length
      let r := (Amqp.Channel.fresh endpoint).connect replies
      let b : Assembly τ :=
        { a with stations := a.stations ++ [⟨r.channel, none⟩], channelAt := some i }
      match r.fault with
      | some f => ⟨b, warning ++ r.acts, some f⟩
      | none =>
        let w := b.wire i policy
        { w with acts := warning ++ r.acts ++ w.acts }

/-- Close the channel in use, in the given way, and give up the consumer in use. An ordinary fault
of closing is logged; any other is passed on and leaves both in use. -/
def close (a : Assembly τ) (closing : Amqp.Channel → Amqp.Channel.Result) : Result τ :=
  match a.channelAt with
  | none => ⟨{ a with consumerAt := none }, [], none⟩
  | some i =>
    match a.stations[i]? with
    | none => ⟨{ a with channelAt := none, consumerAt := none }, [], none⟩
    | some s =>
      let r := closing s.channel
      let b := a.setChannel i r.channel
      let gone : Assembly τ := { b with channelAt := none, consumerAt := none }
      match r.fault with
      | none => ⟨gone, r.acts, none⟩
      | some f =>
        if f.isOrdinary then
          ⟨gone, r.acts ++ [.warn s!"broker channel close failed: {f.text}"], none⟩
        else ⟨b, r.acts, some f⟩

end Assembly
end Baler
