import Baler.Text.Blank

/-!
Files of assignments `KEY=value`. A value may stand between quotes, and then over several lines; a
line that cannot be read is passed over. References to other names are resolved from the lines
before and from the environment.
-/
namespace Baler.Settings.DotEnv

/-- A blank inside a line. -/
def isGap (c : Char) : Bool := Text.isBlank c && c != '\n' && c != '\r'

/-- Every line end is written as one character. -/
def normalizeLines : List Char → List Char
  | '\r' :: '\n' :: rest => '\n' :: normalizeLines rest
  | '\r' :: rest => '\n' :: normalizeLines rest
  | c :: rest => c :: normalizeLines rest
  | [] => []

/-- What follows the line end. -/
def dropLine (cs : List Char) : List Char := (cs.dropWhile (· ≠ '\n')).drop 1

/-- What follows the word that may stand before a key. -/
def dropExport (cs : List Char) : List Char :=
  match cs with
  | 'e' :: 'x' :: 'p' :: 'o' :: 'r' :: 't' :: c :: rest =>
    if isGap c then rest.dropWhile isGap else cs
  | _ => cs

/-- A character of a key without quotes. -/
def isKeyChar (c : Char) : Bool := c != '=' && c != '#' && !Text.isBlank c

/-- Read a key; a comment has none. -/
def key? : List Char → Option (Option String × List Char)
  | '#' :: rest => some (none, '#' :: rest)
  | '\'' :: rest =>
    match rest.span (· ≠ '\'') with
    | (name@(_ :: _), _ :: after) => some (some (String.ofList name), after)
    | _ => none
  | cs =>
    match cs.span isKeyChar with
    | (name@(_ :: _), after) => some (some (String.ofList name), after)
    | _ => none

/-- Read up to the closing quote; the character after a backslash never closes. -/
def closeQuote (mark : Char) : List Char → Option (List Char × List Char)
  | [] => none
  | '\\' :: c :: rest =>
    (closeQuote mark rest).map fun (value, left) => ('\\' :: c :: value, left)
  | c :: rest =>
    if c = mark then some ([], rest)
    else (closeQuote mark rest).map fun (value, left) => (c :: value, left)

/-- Replace the escapes of a value. -/
def unescape (image? : Char → Option Char) : List Char → List Char
  | '\\' :: c :: rest =>
    match image? c with
    | some d => d :: unescape image? rest
    | none => '\\' :: unescape image? (c :: rest)
  | c :: rest => c :: unescape image? rest
  | [] => []

/-- The escapes between single quotes. -/
def singleEscape? (c : Char) : Option Char := if c = '\\' ∨ c = '\'' then some c else none

/-- The escapes between double quotes. -/
def doubleEscape? : Char → Option Char
  | '\\' => some '\\'
  | '\'' => some '\''
  | '"' => some '"'
  | 'a' => some '\x07'
  | 'b' => some '\x08'
  | 'f' => some '\x0c'
  | 'n' => some '\n'
  | 'r' => some '\r'
  | 't' => some '\t'
  | 'v' => some '\x0b'
  | _ => none

/-- A value without quotes up to the comment, which begins with a blank. -/
def cutComment : List Char → List Char
  | [] => []
  | c :: rest =>
    if Text.isBlank c && (rest.dropWhile Text.isBlank).head? == some '#' then []
    else c :: cutComment rest

/-- The characters without the blanks at their end. -/
def trimEnd (cs : List Char) : List Char := (cs.reverse.dropWhile Text.isBlank).reverse

/-- Read a value after the blanks in front of it, if there are any. -/
def value? (blanks : Bool) : List Char → Option (List Char × List Char)
  | '\'' :: rest =>
    (closeQuote '\'' rest).map fun (value, left) => (unescape singleEscape? value, left)
  | '"' :: rest =>
    (closeQuote '"' rest).map fun (value, left) => (unescape doubleEscape? value, left)
  | cs =>
    let (line, left) := cs.span (· ≠ '\n')
    some (if blanks && line.head? == some '#' then [] else trimEnd (cutComment line), left)

/-- What follows a comment, if there is one. -/
def dropComment (cs : List Char) : List Char :=
  match cs.dropWhile isGap with
  | '#' :: rest => rest.dropWhile (· ≠ '\n')
  | _ => cs

/-- A key, and its value if one is assigned. -/
abbrev Binding := String × Option (List Char)

/-- End the line of a binding; anything else on it makes it unreadable. -/
def endLine (key : Option String) (value : Option (List Char)) (cs : List Char) :
    Option Binding × List Char :=
  let after := dropComment cs
  match after.dropWhile isGap with
  | [] => (key.map (·, value), [])
  | '\n' :: rest => (key.map (·, value), rest)
  | _ => (none, dropLine after)

/-- Read one line, or as many as a quoted value takes. -/
def binding (cs : List Char) : Option Binding × List Char :=
  let cs := dropExport cs
  match key? cs with
  | none => (none, dropLine cs)
  | some (key, rest) =>
    match rest.dropWhile isGap with
    | '=' :: assigned =>
      let after := assigned.dropWhile isGap
      match value? (after.length < assigned.length) after with
      | none => (none, dropLine after)
      | some (value, left) => endLine key (some value) left
    | after => endLine key none after

/-- Read all lines; each takes at least one character. -/
def bindingsFrom : (fuel : Nat) → List Char → List Binding
  | 0, _ => []
  | fuel + 1, cs =>
    match cs.dropWhile Text.isBlank with
    | [] => []
    | start =>
      let (b, rest) := binding start
      b.toList ++ bindingsFrom fuel rest

/-- The characters of a file without the mark of byte order that it may begin with. -/
def dropOrderMark : List Char → List Char
  | '\uFEFF' :: rest => rest
  | cs => cs

/-- The bindings of a file. -/
def bindings (cs : List Char) : List Binding :=
  let cs := normalizeLines (dropOrderMark cs)
  bindingsFrom cs.length cs

/-- Read a reference after its opening: the name, what stands for it by default, and the rest. -/
def reference? (cs : List Char) : Option (List Char × List Char × List Char) :=
  match cs.span fun c => c ≠ '\x7d' ∧ c ≠ ':' with
  | (name, ':' :: '-' :: rest) =>
    match rest.span (· ≠ '\x7d') with
    | (default, _ :: left) => some (name, default, left)
    | _ => none
  | (name, '\x7d' :: left) => some (name, [], left)
  | _ => none

/-- Replace the references of a value; each takes at least one character. -/
def expandFrom (lookup : String → Option (List Char)) : (fuel : Nat) → List Char → List Char
  | fuel + 1, '$' :: '\x7b' :: rest =>
    match reference? rest with
    | some (name, default, left) =>
      (lookup (String.ofList name)).getD default ++ expandFrom lookup fuel left
    | none => '$' :: expandFrom lookup fuel ('\x7b' :: rest)
  | fuel + 1, c :: rest => c :: expandFrom lookup fuel rest
  | _, _ => []

/-- Put a value under a key; a key that is there keeps its place. -/
def put {α : Type} (key : String) (a : α) : List (String × α) → List (String × α)
  | [] => [(key, a)]
  | e :: rest => if e.1 = key then (key, a) :: rest else e :: put key a rest

/-- The value of a name for a reference: a key without a value stands for nothing. -/
def lookup (environment : List (String × String)) (done : List Binding) (name : String) :
    Option (List Char) :=
  match done.lookup name with
  | some value => some (value.getD [])
  | none => (environment.lookup name).map (·.toList)

/-- Resolve the references of all values, in order. -/
def resolve (environment : List (String × String)) (bs : List Binding) : List Binding :=
  bs.foldl (fun done (key, value) =>
    put key (value.map fun v => expandFrom (lookup environment done) v.length v) done) []

/-- The assignments of a file in an environment. -/
def read (environment : List (String × String)) (text : String) : List (String × Option String) :=
  (resolve environment (bindings text.toList)).map fun (key, value) =>
    (key, value.map String.ofList)

end Baler.Settings.DotEnv
