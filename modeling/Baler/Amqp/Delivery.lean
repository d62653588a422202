import Baler.Handle
import Baler.Value.Convert

/-!
Raw deliveries of the broker and the handles made from them. The delivery tag is checked first,
then the body is read and then the tag.
-/
namespace Baler.Amqp

/-- A message as the broker delivers it; the serial number tells messages apart. -/
structure Delivery where
  serial : Nat
  tag : Value
  body : Value
  route : Option String

/-- The handle of a delivery. -/
def Delivery.handle? (d : Delivery) : Except Fault Handle := do
  if d.tag matches .null then
    throw ⟨.value, "message has no delivery tag (consumed with no_ack?)"⟩
  let payload ← d.body.toBytes?
  let id ← d.tag.toWhole?
  return { id, payload, route := d.route.getD "" }

end Baler.Amqp
