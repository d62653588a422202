import Baler.Settings
import Baler.Settings.DotEnv
import Baler.Settings.Field
import Baler.Strategy.Keyword

/-!
Where settings come from. For each entry a value given in the program wins over the environment,
which wins over the file of assignments, which wins over the default; only then it is checked.
-/
namespace Baler.Settings

/-- The sources of settings, in order of precedence. -/
structure Sources where
  given : List (String × Value)
  environment : List (String × String)
  file : Option String

/-- The names of the entries, in the order in which they are checked. -/
def entryNames : List String :=
  ["BROKER_HOST", "BROKER_PORT", "BROKER_USER", "BROKER_PASSWORD", "BROKER_VHOST", "QUEUE_NAME",
    "CONSUMER_TAG", "PREFETCH_COUNT", "CONSUMER_BACKEND", "BATCH_MAX_SIZE", "BATCH_MAX_WAIT_MS",
    "BATCH_ACK_MODE", "STOP_ON_PROCESSING_ERROR", "FAILURE_KEYWORD", "LOG_LEVEL", "LOG_SERIALIZE"]

namespace Sources

/-- The last assignment to a name in any case. -/
def lastOf? {α : Type} (name : String) (assignments : List (String × α)) : Option α :=
  ((assignments.filter fun a => Text.lower a.1 = Text.lower name).getLast?).map (·.2)

/-- The value of an entry in the first source that has one. -/
def find? (s : Sources) (name : String) : Option Value :=
  let filed := (s.file.map (DotEnv.read s.environment)).getD []
  lastOf? name s.given <|> (lastOf? name s.environment).map .text <|>
    ((lastOf? name filed).bind id).map .text

/-- Read an entry, or take its default. -/
def get {α : Type} (s : Sources) (name : String) (read : Value → Except Cause α)
    (default : Option α) : Checked α :=
  match s.find? name, default with
  | some v, _ =>
    match read v with
    | .ok a => .sound a
    | .error cause => .faulty [⟨name, cause⟩]
  | none, some a => .sound a
  | none, none => .faulty [⟨name, .missing⟩]

/-- The settings from all sources. -/
def settings? (s : Sources) : Checked Settings :=
  (Checked.sound Settings.mk)
    |>.apply (s.get "BROKER_HOST" readText none)
    |>.apply (s.get "BROKER_PORT" readWhole none)
    |>.apply (s.get "BROKER_USER" readText none)
    |>.apply (s.get "BROKER_PASSWORD" readText none)
    |>.apply (s.get "BROKER_VHOST" readText (some "/"))
    |>.apply (s.get "QUEUE_NAME" readText none)
    |>.apply (s.get "CONSUMER_TAG" readText (some "batch_consumer"))
    |>.apply (s.get "PREFETCH_COUNT" readWhole (some 50))
    |>.apply (s.get "CONSUMER_BACKEND" readText (some supportedBackend))
    |>.apply (s.get "BATCH_MAX_SIZE" readPositive (some Policy.standardCapacity))
    |>.apply (s.get "BATCH_MAX_WAIT_MS" readPositive (some 100))
    |>.apply (s.get "BATCH_ACK_MODE" readMode (some .individual))
    |>.apply (s.get "STOP_ON_PROCESSING_ERROR" readFlag (some true))
    |>.apply (s.get "FAILURE_KEYWORD" readText (some Keyword.standard))
    |>.apply (s.get "LOG_LEVEL" readText (some "INFO"))
    |>.apply (s.get "LOG_SERIALIZE" readFlag (some false))

end Sources
end Baler.Settings
