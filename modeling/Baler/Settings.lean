import Baler.Amqp.Address
import Baler.Policy

/-!
The settings of a worker, with the parts that its pieces are made from: the broker line and the
batching policy.
-/
namespace Baler

/-- Everything that can be set. -/
structure Settings where
  brokerHost : String
  brokerPort : Int
  brokerUser : String
  brokerPassword : String
  brokerVhost : String
  queueName : String
  consumerTag : String
  prefetchCount : Int
  consumerBackend : String
  batchMaxSize : Int
  batchMaxWaitMs : Int
  batchAckMode : AckMode
  stopOnProcessingError : Bool
  failureKeyword : String
  logLevel : String
  logSerialize : Bool
deriving DecidableEq, Repr

namespace Settings

/-- The settings of the broker line. -/
def endpoint (s : Settings) : Amqp.Endpoint where
  host := s.brokerHost
  port := s.brokerPort
  user := s.brokerUser
  password := s.brokerPassword
  vhost := s.brokerVhost
  consumerTag := s.consumerTag
  prefetch := s.prefetchCount

/-- The batching policy; the wait is set in milliseconds and kept in seconds. -/
def policy? (s : Settings) : Except Fault Policy := do
  let ms ← (Quantity.whole s.batchMaxWaitMs).toFloat
  Policy.make? (.whole s.batchMaxSize) (.real (ms / 1000.0)) (.mode s.batchAckMode)

/-- The backend for which there is a channel. -/
def supportedBackend : String := "rabbitmq"

/-- The broker line for the chosen backend, whose name may be written in any case. -/
def line? (s : Settings) : Except Fault Amqp.Endpoint :=
  let backend := Text.lower (Text.trim s.consumerBackend)
  if backend = supportedBackend then .ok s.endpoint
  else .error ⟨.value, s!"Unsupported consumer backend: {backend}"⟩

end Settings
end Baler
