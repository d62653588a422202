import Baler.Log.Sink

/-!
Records as lines of text. A plain line holds the level of a record and the first line of its text; a
structured one holds the whole text and the fields and is one JSON object.
-/
namespace Baler.Log

/-- What a plain line shows of a text: its first line. -/
def headline (text : String) : String := String.ofList (text.toList.takeWhile (· ≠ '\n'))

/-- A value as a structured line keeps it: bytes, for which JSON has no form, become their text
between quotes, and modes their names. -/
def kept : Value → Value
  | .bytes b => .text (Text.quoteBytes b)
  | .mode m => .text m.name
  | .list items => .list (keptItems items)
  | .table entries => .table (keptEntries entries)
  | v => v
where
  /-- The items of a list. -/
  keptItems : List Value → List Value
    | [] => []
    | v :: rest => kept v :: keptItems rest
  /-- The entries of a table. -/
  keptEntries : List (String × Value) → List (String × Value)
    | [] => []
    | (k, v) :: rest => (k, kept v) :: keptEntries rest

/-- A character in a JSON text. -/
def jsonChar (c : Char) : List Char :=
  if c = '"' ∨ c = '\\' then ['\\', c]
  else if c.toNat < 0x20 then '\\' :: 'u' :: Text.hexDigits 4 c.toNat
  else [c]

/-- A text as JSON. -/
def jsonText (s : String) : String :=
  String.ofList ('"' :: s.toList.flatMap jsonChar ++ ['"'])

/-- Members as a JSON object. -/
def jsonObject (members : List String) : String :=
  "\x7b" ++ ", ".intercalate members ++ "\x7d"

/-- A value as JSON. Only finite doubles are numbers there; bytes are written as a text. -/
def json : Value → String
  | .null => "null"
  | .bool b => if b then "true" else "false"
  | .whole n => toString n
  | .real x => if x.isFinite then Value.realText x else jsonText (Value.realText x)
  | .text s => jsonText s
  | .bytes b => jsonText (Text.quoteBytes b)
  | .mode m => jsonText m.name
  | .list items => "[" ++ ", ".intercalate (jsonItems items) ++ "]"
  | .table entries => jsonObject (jsonMembers entries)
where
  /-- The items of a list. -/
  jsonItems : List Value → List String
    | [] => []
    | v :: rest => json v :: jsonItems rest
  /-- The members of an object. -/
  jsonMembers : List (String × Value) → List String
    | [] => []
    | (k, v) :: rest => (jsonText k ++ ": " ++ json v) :: jsonMembers rest

/-- A record as a line. -/
def Record.line (structured : Bool) (r : Record) : String :=
  if structured then
    json (.table [("level", .text r.level.name), ("text", .text r.text), ("fields", .table r.fields)])
  else s!"{r.level.name}: {headline r.text}"

/-- The lines that a sink writes. -/
def Sink.lines (s : Sink) (records : List Record) : List String :=
  (s.emitted records).map (Record.line s.structured)

end Baler.Log
