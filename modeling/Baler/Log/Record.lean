import Baler.Log.Level
import Baler.Value

/-!
Log records. What the worker does is logged as events with typed fields; everything else is a note
in plain words. Whole numbers are shown in full, whatever their size.
-/
namespace Baler

/-- Why a batch was flushed. -/
inductive Trigger
  | size
  | timeout
deriving DecidableEq, Repr

/-- The name of a trigger in the log. -/
def Trigger.name : Trigger → String
  | .size => "size"
  | .timeout => "timeout"

namespace Log

/-- Something that the worker reports about its work. -/
inductive Event
  | consumerStarted (queue : String) (capacity : Nat) (wait : Float) (mode : AckMode)
  | sizeReached (buffered : Nat)
  | timeoutReached (buffered : Nat)
  | flushed (trigger : Trigger) (size : Nat)
  | streamEnded (queue : String) (buffered : Nat)
  | abandoned (count : Nat)
  | consumerStopped (queue : String) (flushes : Nat)
  | strategyFailed (size : Nat) (error : String)
  | ackedUpTo (size : Nat) (last : Int)
  | ackedEach (size : Nat)
  | partialFailure (size succeeded failed : Nat)
  | totalFailure (size : Nat)
  | ackFailed (id : Int) (cumulative : Bool) (error : String)
  | nackFailed (id : Int) (error : String)
  | connecting (host : String) (port : Int)
  | connected
  | subscribed (queue : String)
  | closing (unsettled : Nat)
  | wired (queue : String) (capacity : Nat) (wait : Value) (mode : AckMode)
  | workerStarted (queue : String)
  | shutdownRequested
  | workerStopped
  | workerInterrupted

/-- The name of an event. -/
def Event.name : Event → String
  | .consumerStarted .. => "batch_consumer_started"
  | .sizeReached .. => "batch_size_reached"
  | .timeoutReached .. => "batch_timeout_reached"
  | .flushed .. => "batch_flushed"
  | .streamEnded .. => "consumer_stream_ended"
  | .abandoned .. => "unsettled_messages_abandoned"
  | .consumerStopped .. => "consumer_stopped"
  | .strategyFailed .. => "batch_strategy_failed"
  | .ackedUpTo .. => "batch_acked"
  | .ackedEach .. => "batch_acked"
  | .partialFailure .. => "batch_partial_failure"
  | .totalFailure .. => "batch_total_failure"
  | .ackFailed .. => "ack_failed"
  | .nackFailed .. => "nack_failed"
  | .connecting .. => "rmq_connecting"
  | .connected => "rmq_connected"
  | .subscribed .. => "rmq_subscribed"
  | .closing .. => "rmq_closing"
  | .wired .. => "worker_wired"
  | .workerStarted .. => "worker_started"
  | .shutdownRequested => "shutdown_signal"
  | .workerStopped => "worker_stopped"
  | .workerInterrupted => "worker_interrupted"

/-- What an event tells besides its name. -/
def Event.details : Event → List (String × Value)
  | .consumerStarted queue capacity wait mode =>
    [("queue", .text queue), ("max_batch_size", .whole capacity), ("max_wait_time", .real wait),
      ("ack_mode", .text mode.name)]
  | .sizeReached buffered => [("buffered", .whole buffered)]
  | .timeoutReached buffered => [("buffered", .whole buffered)]
  | .flushed trigger size => [("trigger", .text trigger.name), ("batch_size", .whole size)]
  | .streamEnded queue buffered => [("queue", .text queue), ("buffered", .whole buffered)]
  | .abandoned count => [("count", .whole count)]
  | .consumerStopped queue flushes => [("queue", .text queue), ("flushes", .whole flushes)]
  | .strategyFailed size error => [("batch_size", .whole size), ("error", .text error)]
  | .ackedUpTo size last =>
    [("batch_size", .whole size), ("up_to_delivery_id", .whole last), ("cumulative", .bool true)]
  | .ackedEach size => [("batch_size", .whole size), ("cumulative", .bool false)]
  | .partialFailure size succeeded failed =>
    [("batch_size", .whole size), ("succeeded", .whole succeeded), ("failed", .whole failed)]
  | .totalFailure size => [("batch_size", .whole size)]
  | .ackFailed id cumulative error =>
    [("delivery_id", .whole id), ("cumulative", .bool cumulative), ("error", .text error)]
  | .nackFailed id error => [("delivery_id", .whole id), ("error", .text error)]
  | .connecting host port => [("host", .text host), ("port", .whole port)]
  | .connected => []
  | .subscribed queue => [("queue", .text queue)]
  | .closing unsettled => [("unsettled", .whole unsettled)]
  | .wired queue capacity wait mode =>
    [("queue", .text queue), ("max_batch_size", .whole capacity), ("max_wait_time", wait),
      ("ack_mode", .text mode.name)]
  | .workerStarted queue => [("queue", .text queue)]
  | .shutdownRequested => []
  | .workerStopped => []
  | .workerInterrupted => []

/-- One entry of the log. -/
inductive Record
  | event (e : Event)
  | note (level : Level) (text : String)

namespace Record

/-- The name under which the worker's events are logged. -/
def serviceName : String := "batch_worker"

/-- The level of a record; events are information. -/
def level : Record → Level
  | event _ => .info
  | note level _ => level

/-- The text of a record; events have none. -/
def text : Record → String
  | event _ => ""
  | note _ text => text

/-- The fields of a record; notes have none. -/
def fields : Record → List (String × Value)
  | event e => ("service_name", .text serviceName) :: ("event", .text e.name) :: e.details
  | note _ _ => []

end Record
end Log
end Baler
