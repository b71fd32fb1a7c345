import SqlTemplate.Hex
import SqlTemplate.Value

/-!
Values as JSON text.  Writing leaves no blanks and escapes only quotes, backslashes and control
characters; reading takes any JSON text.
-/
namespace SqlTemplate

namespace Json

/-- One character between the quotes of a string. -/
def escape (c : Char) : Text :=
  if c = '\x22' then ['\x5c', '\x22']
  else if c = '\x5c' then ['\x5c', '\x5c']
  else if c.toNat < 0x20 then
    match c.toNat with
    | 0x08 => ['\x5c', 'b']
    | 0x09 => ['\x5c', 't']
    | 0x0a => ['\x5c', 'n']
    | 0x0c => ['\x5c', 'f']
    | 0x0d => ['\x5c', 'r']
    | n => ['\x5c', 'u'] ++ Hex.digits 4 n
  else [c]

def quote (s : Text) : Text := '\x22' :: s.flatMap escape ++ ['\x22']

end Json

namespace Value

mutual

def json : Value → Text
  | null => "null".toList
  | bool true => "true".toList
  | bool false => "false".toList
  | number n => n.text.toList
  | string s => Json.quote s
  | array items => '[' :: Text.join [','] (jsonItems items) ++ [']']
  | object fields => '{' :: Text.join [','] (jsonFields fields) ++ ['}']

def jsonItems : List Value → List Text
  | [] => []
  | v :: vs => v.json :: jsonItems vs

def jsonFields : List (Text × Value) → List Text
  | [] => []
  | (k, v) :: rest => (Json.quote k ++ ':' :: v.json) :: jsonFields rest

end

/-- The text that comparisons and pipes see: a string's own characters, JSON for all else. -/
def display : Value → Text
  | string s => s
  | v => v.json

end Value

namespace Json

def isSpace (c : Char) : Bool := c == ' ' || c == '\t' || c == '\n' || c == '\r'

def skipSpace (cs : Text) : Text := cs.dropWhile isSpace

/-- Four hexadecimal digits, and four more behind `\u` where the first four open a pair. -/
def readUnicode (cs : Text) : Option (Char × Text) := do
  let high ← if cs.length < 4 then none else Hex.number? (cs.take 4)
  if 0xd800 ≤ high ∧ high < 0xdc00 then
    match cs.drop 4 with
    | '\x5c' :: 'u' :: rest =>
      let low ← if rest.length < 4 then none else Hex.number? (rest.take 4)
      if 0xdc00 ≤ low ∧ low < 0xe000 then
        some (Char.ofNat (0x10000 + (high - 0xd800) * 0x400 + (low - 0xdc00)), rest.drop 4)
      else none
    | _ => none
  else if 0xdc00 ≤ high ∧ high < 0xe000 then none
  else some (Char.ofNat high, cs.drop 4)

/-- The characters up to the closing quote, and what follows it. -/
def readString : Nat → Text → Option (Text × Text)
  | 0, _ => none
  | _ + 1, [] => none
  | fuel + 1, '\x5c' :: 'u' :: cs => do
    let (c, rest) ← readUnicode cs
    let (s, rest) ← readString fuel rest
    some (c :: s, rest)
  | fuel + 1, '\x5c' :: c :: cs => do
    let c ← match c with
      | '\x22' => some '\x22'
      | '\x5c' => some '\x5c'
      | '/' => some '/'
      | 'b' => some '\x08'
      | 'f' => some '\x0c'
      | 'n' => some '\n'
      | 'r' => some '\r'
      | 't' => some '\t'
      | _ => none
    let (s, rest) ← readString fuel cs
    some (c :: s, rest)
  | fuel + 1, c :: cs =>
    if c = '\x22' then some ([], cs)
    else if c.toNat < 0x20 then none
    else (readString fuel cs).map fun (s, rest) => (c :: s, rest)

/-- Whether a text is a JSON number. -/
def isNumber (cs : Text) : Bool :=
  let body := match cs with
    | '-' :: rest => rest
    | _ => cs
  let whole := body.takeWhile Char.isDigit
  let rest := body.dropWhile Char.isDigit
  let rest := match rest with
    | '.' :: more =>
      if (more.takeWhile Char.isDigit).isEmpty then rest else more.dropWhile Char.isDigit
    | _ => rest
  !whole.isEmpty && (whole.length == 1 || whole.head? != some '0') &&
    (Double.exponentOfText? rest).isSome

/-- An integer literal is an integer where it fits one; minus zero and all else are doubles. -/
def number? (cs : Text) : Option Number :=
  if !isNumber cs then none
  else
    let (negative, digits) := takeSign cs
    if digits.all Char.isDigit then
      let n : Int := natOfDigits digits
      if negative ∧ n = 0 then some (.double (.zero true))
      else some (.ofInt (if negative then -n else n))
    else (Double.ofText? cs).map .double

def isNumberPart (c : Char) : Bool := c.isDigit || "+-.eE".toList.contains c

mutual

def readValue : Nat → Text → Option (Value × Text)
  | 0, _ => none
  | fuel + 1, cs =>
    match skipSpace cs with
    | '\x22' :: rest => (readString (rest.length + 1) rest).map fun (s, rest) => (.string s, rest)
    | '[' :: rest =>
      match skipSpace rest with
      | ']' :: rest => some (.array [], rest)
      | _ => (readItems fuel rest).map fun (items, rest) => (.array items, rest)
    | '{' :: rest =>
      match skipSpace rest with
      | '}' :: rest => some (.object [], rest)
      | _ => (readFields fuel rest).map fun (fields, rest) => (.ofFields fields, rest)
    | cs =>
      match Text.dropFront? "null".toList cs, Text.dropFront? "true".toList cs,
          Text.dropFront? "false".toList cs with
      | some rest, _, _ => some (.null, rest)
      | _, some rest, _ => some (.bool true, rest)
      | _, _, some rest => some (.bool false, rest)
      | none, none, none =>
        (number? (cs.takeWhile isNumberPart)).map fun n => (.number n, cs.dropWhile isNumberPart)

def readItems : Nat → Text → Option (List Value × Text)
  | 0, _ => none
  | fuel + 1, cs => do
    let (v, rest) ← readValue fuel cs
    match skipSpace rest with
    | ',' :: rest =>
      let (vs, rest) ← readItems fuel rest
      some (v :: vs, rest)
    | ']' :: rest => some ([v], rest)
    | _ => none

def readFields : Nat → Text → Option (List (Text × Value) × Text)
  | 0, _ => none
  | fuel + 1, cs => do
    let '\x22' :: rest := skipSpace cs | none
    let (k, rest) ← readString (rest.length + 1) rest
    let ':' :: rest := skipSpace rest | none
    let (v, rest) ← readValue fuel rest
    match skipSpace rest with
    | ',' :: rest =>
      let (more, rest) ← readFields fuel rest
      some ((k, v) :: more, rest)
    | '}' :: rest => some ([(k, v)], rest)
    | _ => none

end

end Json

/-- The value that a whole text writes in JSON. -/
def Value.ofJson? (cs : Text) : Option Value := do
  let (v, rest) ← Json.readValue (2 * cs.length + 2) cs
  if (Json.skipSpace rest).isEmpty then some v else none

end SqlTemplate
