import Baler.Log.Record
import Baler.Outcome
import Baler.Text.Case
import Baler.Text.Utf8

/-!
The keyword strategy: it logs every message of a batch and fails those whose text contains a
keyword in any case. Payloads that are not well-formed text are read with replacement characters.
-/
namespace Baler

/-- A keyword: the lower case of a text, and not empty. -/
structure Keyword where
  chars : List Char
  lowered : ∃ cs, chars = Text.lowerChars cs
  ne_nil : chars ≠ []
deriving DecidableEq, Repr

namespace Keyword

/-- The keyword where none is given. -/
def standard : String := "error"

/-- The keyword that some characters stand for. -/
def ofChars (cs : List Char) (h : cs ≠ []) : Keyword :=
  ⟨Text.lowerChars cs, ⟨cs, rfl⟩, Text.lowerChars_ne_nil h⟩

theorem chars_ofChars {cs : List Char} (h : cs ≠ []) : (ofChars cs h).chars = Text.lowerChars cs := rfl

/-- The keyword that a text stands for. -/
def make? (s : String) : Except Fault Keyword :=
  if h : s.toList = [] then .error ⟨.value, "keyword must be non-empty"⟩
  else .ok (ofChars s.toList h)

/-- The keyword that a value stands for; a byte string cannot be looked for in a text. -/
def ofValue? : Value → Except Fault Keyword
  | .text s => make? s
  | .mode m => make? m.name
  | .bytes (_ :: _) => .error ⟨.type, "'in <string>' requires string as left operand, not bytes"⟩
  | v =>
    if v.isVoid then make? ""
    else .error ⟨.attribute, s!"'{v.kindName}' object has no attribute 'lower'"⟩

/-- A keyword as a text. -/
def text (k : Keyword) : String := String.ofList k.chars

/-- Whether a list occurs in another without a gap. -/
def occurs (needle : List Char) : List Char → Bool
  | [] => needle.isEmpty
  | c :: rest => needle.isPrefixOf (c :: rest) || occurs needle rest

/-- Whether a payload fails. -/
def hits (k : Keyword) (payload : List UInt8) : Bool :=
  occurs k.chars (Text.lowerChars (Text.Utf8.decodeLossy payload))

/-- The ids of the messages of a batch that fail. -/
def failedIds (k : Keyword) (batch : List Handle) : List Int :=
  (batch.filter fun h => k.hits h.payload).map (·.id)

/-- The answer for a batch. -/
def judge (k : Keyword) (batch : List Handle) : Outcome := .ofFailures batch (k.failedIds batch)

/-- What is logged about the messages of a batch, which are counted from `index`. -/
def reportFrom (k : Keyword) : (index : Nat) → List Handle → List Log.Record
  | _, [] => []
  | index, h :: rest =>
    let content := String.ofList (Text.Utf8.decodeLossy h.payload)
    let failed := if k.hits h.payload then
      [.note .warning s!"processing failed for delivery {h.id}"] else []
    .note .info s!"{index}. [{h.route}] {content}" :: failed ++ reportFrom k (index + 1) rest

/-- What is logged about a batch. -/
def report (k : Keyword) (batch : List Handle) : List Log.Record := k.reportFrom 1 batch

end Keyword
end Baler
