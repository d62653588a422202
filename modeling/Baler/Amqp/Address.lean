import Baler.Number.Written
import Baler.Text.Percent

/-!
Where a broker is found and how it is addressed. The user, the password and the virtual host are
percent encoded, so that no mark inside them can be taken for a separator of the address. There is
no address for a port that has too many digits to be written down.
-/
namespace Baler.Amqp

/-- The settings of a broker line. -/
structure Endpoint where
  host : String
  port : Int
  user : String
  password : String
  vhost : String
  consumerTag : String
  prefetch : Int
deriving DecidableEq, Repr

namespace Endpoint

/-- The characters without the slashes at both ends. -/
def trimSlashes (cs : List Char) : List Char :=
  ((cs.dropWhile (· = '/')).reverse.dropWhile (· = '/')).reverse

/-- The characters of the address for a port that is written down. -/
def addressChars (e : Endpoint) (port : String) : List Char :=
  "amqp://".toList ++ Text.Percent.encode e.user.toList ++ ':' ::
    Text.Percent.encode e.password.toList ++ '@' :: e.host.toList ++ ':' ::
    port.toList ++ '/' :: Text.Percent.encode (trimSlashes e.vhost.toList)

/-- The address of the broker. -/
def address? (e : Endpoint) : Except Fault String :=
  (Number.written? e.port).map fun port => String.ofList (e.addressChars port)

theorem address?_eq_ok {e : Endpoint} {address : String} : e.address? = .ok address ↔
    Number.digitCount e.port.natAbs ≤ Number.maxDigits ∧
      address = String.ofList (e.addressChars (toString e.port)) := by
  unfold address?
  cases hw : Number.written? e.port with
  | ok port =>
    obtain ⟨short, rfl⟩ := Number.written?_eq_ok.mp hw
    simp [Except.map, short, eq_comm]
  | error f =>
    obtain ⟨long, -⟩ := Number.written?_eq_error.mp hw
    simp [Except.map]
    omega

theorem isOrdinary_of_address? {e : Endpoint} {f : Fault} (h : e.address? = .error f) :
    f.isOrdinary = true := by
  unfold address? at h
  cases hw : Number.written? e.port with
  | ok port => simp [hw, Except.map] at h
  | error g =>
    obtain ⟨-, rfl⟩ := Number.written?_eq_error.mp hw
    simp only [hw, Except.map, Except.error.injEq] at h
    exact h ▸ rfl

end Endpoint
end Baler.Amqp
