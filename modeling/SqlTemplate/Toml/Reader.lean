import SqlTemplate.Hex
import SqlTemplate.Toml

/-!
Reading TOML documents line by line.  Numbers, dates and arrays are refused, because no setting
has such a value.
-/
namespace SqlTemplate.Toml

def isSpace (c : Char) : Bool := c == ' ' || c == '\t'

def skipSpace (cs : Text) : Text := cs.dropWhile isSpace

/-- Characters that may stand in comments and on one line of a string. -/
def isPrintable (c : Char) : Bool := c == '\t' || (0x20 ≤ c.toNat && c.toNat != 0x7f)

/-- Drops a line ending. -/
def newline? : Text → Option Text
  | '\n' :: cs => some cs
  | '\r' :: '\n' :: cs => some cs
  | _ => none

/-- Drops blanks, a comment, and a line ending or the end of the document. -/
def lineEnd? (cs : Text) : Option Text :=
  let cs := skipSpace cs
  let cs := match cs with
    | '#' :: rest => rest.dropWhile isPrintable
    | _ => cs
  if cs.isEmpty then some [] else newline? cs

/-- A character given by `width` hexadecimal digits. -/
def codePoint (width : Nat) (cs : Text) : Option (Char × Text) := do
  let digits := cs.take width
  if digits.length < width then none
  else
    let c ← Hex.char? (← Hex.number? digits)
    return (c, cs.drop width)

/-- The character that an escape stands for, given what follows its backslash. -/
def escape : Text → Option (Char × Text)
  | 'b' :: cs => some ('\x08', cs)
  | 't' :: cs => some ('\t', cs)
  | 'n' :: cs => some ('\n', cs)
  | 'f' :: cs => some ('\x0c', cs)
  | 'r' :: cs => some ('\r', cs)
  | '\x22' :: cs => some ('\x22', cs)
  | '\x5c' :: cs => some ('\x5c', cs)
  | 'u' :: cs => codePoint 4 cs
  | 'U' :: cs => codePoint 8 cs
  | _ => none

/-- Drops blanks and line endings behind a backslash at the end of a line. -/
def skipLines : Nat → Text → Text
  | 0, cs => cs
  | n + 1, cs =>
    match newline? (skipSpace cs) with
    | some rest => skipLines n rest
    | none => skipSpace cs

/-- The rest of a string on one line, behind its opening quote. -/
def basic : Nat → Text → Option (Text × Text)
  | 0, _ => none
  | _ + 1, [] => none
  | n + 1, c :: cs =>
    if c = '\x22' then some ([], cs)
    else if c = '\x5c' then do
      let (d, rest) ← escape cs
      let (s, rest) ← basic n rest
      return (d :: s, rest)
    else if isPrintable c then (basic n cs).map fun (s, rest) => (c :: s, rest)
    else none

/-- The quotes that a text starts with. -/
def quotes (mark : Char) (cs : Text) : Nat := (cs.takeWhile (· == mark)).length

/-- The rest of a string over several lines, behind its opening quotes.  Up to two quotes may stand
in front of the closing ones.  Without `escapes` a backslash stands for itself. -/
def multiLine (mark : Char) (escapes : Bool) : Nat → Text → Option (Text × Text)
  | 0, _ => none
  | _ + 1, [] => none
  | n + 1, c :: cs =>
    if c = mark then
      let count := quotes mark (c :: cs)
      if count < 3 then
        (multiLine mark escapes n (cs.drop (count - 1))).map fun (s, rest) =>
          (List.replicate count mark ++ s, rest)
      else
        let own := min count 5 - 3
        some (List.replicate own mark, cs.drop (own + 2))
    else
      match newline? (c :: cs) with
      | some rest => (multiLine mark escapes n rest).map fun (s, rest) => ('\n' :: s, rest)
      | none =>
        if escapes ∧ c = '\x5c' then
          match newline? (skipSpace cs) with
          | some rest => multiLine mark escapes n (skipLines (rest.length + 1) rest)
          | none => do
            let (d, rest) ← escape cs
            let (s, rest) ← multiLine mark escapes n rest
            return (d :: s, rest)
        else if isPrintable c then
          (multiLine mark escapes n cs).map fun (s, rest) => (c :: s, rest)
        else none

/-- The rest of a literal string on one line, behind its opening quote. -/
def literal : Text → Option (Text × Text)
  | [] => none
  | c :: cs =>
    if c = '\x27' then some ([], cs)
    else if isPrintable c then (literal cs).map fun (s, rest) => (c :: s, rest)
    else none

/-- Drops the line ending directly behind opening quotes. -/
def dropNewline (cs : Text) : Text := (newline? cs).getD cs

def string? : Text → Option (Text × Text)
  | '\x22' :: '\x22' :: '\x22' :: cs =>
    multiLine '\x22' true (cs.length + 1) (dropNewline cs)
  | '\x22' :: cs => basic (cs.length + 1) cs
  | '\x27' :: '\x27' :: '\x27' :: cs =>
    multiLine '\x27' false (cs.length + 1) (dropNewline cs)
  | '\x27' :: cs => literal cs
  | _ => none

def isBare (c : Char) : Bool := c.isAlphanum || c == '-' || c == '_'

/-- One part of a key: bare, or a string on one line. -/
def keyPart? (cs : Text) : Option (Text × Text) :=
  match cs with
  | '\x22' :: rest => basic (rest.length + 1) rest
  | '\x27' :: rest => literal rest
  | _ =>
    if (cs.takeWhile isBare).isEmpty then none
    else some (cs.takeWhile isBare, cs.dropWhile isBare)

/-- A key of parts with dots between them, and blanks around each. -/
def key? : Nat → Text → Option (List Text × Text)
  | 0, _ => none
  | n + 1, cs => do
    let (part, rest) ← keyPart? (skipSpace cs)
    match skipSpace rest with
    | '.' :: rest =>
      let (parts, rest) ← key? n rest
      return (part :: parts, rest)
    | rest => return ([part], rest)

mutual

/-- A value and what follows it. -/
def value? : Nat → Text → Option (Toml × Text)
  | 0, _ => none
  | n + 1, cs =>
    match cs with
    | '{' :: rest =>
      match skipSpace rest with
      | '}' :: rest => some (.table .inline [], rest)
      | rest => (pairs? n [] rest).map fun (es, rest) => (.table .inline es, rest)
    | _ =>
      match string? cs, Text.dropFront? "true".toList cs, Text.dropFront? "false".toList cs with
      | some (s, rest), _, _ => some (.string s, rest)
      | _, some rest, _ => some (.boolean true, rest)
      | _, _, some rest => some (.boolean false, rest)
      | _, _, _ => none

/-- A key with its value, entered into `es`. -/
def pair? : Nat → Entries → Text → Option (Entries × Text)
  | 0, _, _ => none
  | n + 1, es, cs =>
    match key? (cs.length + 1) cs with
    | some (path, '=' :: rest) =>
      match value? n (skipSpace rest) with
      | some (v, rest) => (assign v path es).map fun es => (es, rest)
      | none => none
    | _ => none

/-- The pairs of a table in braces, up to the closing one. -/
def pairs? : Nat → Entries → Text → Option (Entries × Text)
  | 0, _, _ => none
  | n + 1, es, cs =>
    match pair? n es cs with
    | some (es, rest) =>
      match skipSpace rest with
      | ',' :: rest => pairs? n es rest
      | '}' :: rest => some (es, rest)
      | _ => none
    | none => none

end

/-- Reads a pair outside braces. -/
def topPair? (cs : Text) : Option (List Text × Toml × Text) := do
  let (path, rest) ← key? (cs.length + 1) cs
  match rest with
  | '=' :: rest =>
    let (v, rest) ← value? (2 * rest.length + 2) (skipSpace rest)
    return (path, v, rest)
  | _ => none

/-- Reads the lines of a document.  `header` is the path of the table that pairs go to. -/
def lines? : Nat → List Text → Entries → Text → Option Entries
  | 0, _, _, _ => none
  | n + 1, header, es, cs =>
    match skipSpace cs with
    | [] => some es
    | '[' :: rest =>
      match key? (rest.length + 1) rest with
      | some (path, ']' :: rest) => do
        let es ← define path es
        lines? n path es (← lineEnd? rest)
      | _ => none
    | c :: rest =>
      if c = '#' ∨ c = '\n' ∨ c = '\r' then do lines? n header es (← lineEnd? (c :: rest))
      else do
        let (path, v, rest) ← topPair? (c :: rest)
        let es ← change (assign v path) header es
        lines? n header es (← lineEnd? rest)

/-- The entries of a document; a byte order mark may stand in front of it. -/
def ofText? (cs : Text) : Option Entries :=
  let cs := match cs with
    | '\ufeff' :: rest => rest
    | _ => cs
  lines? (cs.length + 1) [] [] cs

end SqlTemplate.Toml
