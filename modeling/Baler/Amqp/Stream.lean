import Baler.Amqp.Channel
import Baler.Consumer

/-!
The delivery stream of a queue. It looks the queue up when the first delivery is asked for; a fault
of the broker line, wherever it arises, reaches the reader as one kind of failure.
-/
namespace Baler.Amqp

/-- Where a stream stands: nothing asked for yet, reading, or over. -/
inductive Stream
  | fresh
  | reading
  | done
deriving DecidableEq, Repr

namespace Stream

/-- A fault as the reader of the stream sees it. -/
def failure (queue : String) (f : Fault) : Fault :=
  if f.isLineFailure then ⟨.stream, s!"delivery stream for {queue} failed: {f.text}"⟩
  else f.leavingStream

/-- Look the queue up and start to consume it. -/
def subscribe (c : Channel) (queue : String) (replies : Replies) : List Act × Option Fault :=
  if !c.hasChannel then ([], some ⟨.runtime, "broker channel not connected"⟩)
  else
    let tag := c.endpoint.consumerTag
    let lookup : Act := .call (.getQueue queue)
    match replies.ofCall .getQueue with
    | some f => ([lookup], some (failure queue f))
    | none =>
      let asked : List Act :=
        [lookup, .call (.iterator (if tag.isEmpty then none else some tag))]
      match replies .iterator with
      | some f => (asked, some (failure queue f))
      | none =>
        match replies.ofCall .enter with
        | some f => (asked, some (failure queue f))
        | none => (asked ++ [.event (.subscribed queue)], none)

/-- Stop consuming for the given cause; a fault of stopping takes its place. -/
def leave (queue : String) (replies : Replies) (cause : Option Fault) : List Act × Option Fault :=
  let fault := match replies.ofCall .leave with
    | some f => some f
    | none => cause
  ([.call .leave], fault.map (failure queue))

/-- Take a delivery in: it becomes a handle and stays pending until it is settled. -/
def takeIn (c : Channel) (d : Delivery) : Except Fault (Channel × Handle) := do
  let h ← d.handle?
  return (c.track h.id d, h)

theorem takeIn_of_ok {d : Delivery} {h : Handle} (hd : d.handle? = .ok h) (c : Channel) :
    takeIn c d = .ok (c.track h.id d, h) := by
  simp [takeIn, hd, bind, Except.bind, pure, Except.pure]

theorem takeIn_of_error {d : Delivery} {f : Fault} (hd : d.handle? = .error f) (c : Channel) :
    takeIn c d = .error f := by
  simp [takeIn, hd, bind, Except.bind]

/-- The stream is over: its reader gets the fault, or learns that nothing more comes. -/
def reception : Option Fault → Reception
  | some f => .failed f
  | none => .ended

end Stream
end Baler.Amqp
