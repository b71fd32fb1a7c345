import SqlTemplate.Pattern
import SqlTemplate.Unicode.Property
import SqlTemplate.Double.Reader

/-!
Reading search patterns: literals, classes with nesting and set operations, anchors, groups,
alternatives, repetitions and flags.  There are no references to groups and no looking around.
-/
namespace SqlTemplate.Pattern

/-- The flags in force at a place in a pattern. -/
structure Flags where
  caseless : Bool
  multiLine : Bool
  dotAll : Bool
  unicode : Bool
  crlf : Bool
  spaced : Bool

def Flags.initial : Flags := ⟨false, false, false, true, false, false⟩

/-- What an escape, or a character outside classes, stands for. -/
inductive Atom where
  | literal (c : Char)
  | set (s : CharSet)
  | anchor (a : Anchor)

/-- Drops blanks and comments where the flags say that they do not count. -/
def skip (fl : Flags) (cs : Text) : Text :=
  if fl.spaced then go (cs.length + 1) cs else cs
where
  go : Nat → Text → Text
    | 0, cs => cs
    | n + 1, cs =>
      match Text.skipBlanks cs with
      | '#' :: rest => go n ((rest.dropWhile (· != '\n')).drop 1)
      | rest => rest

/-- Characters that have a meaning somewhere in patterns. -/
def isMeta (c : Char) : Bool := "\\.+*?()|[]\x7b\x7d^$#&-~".toList.contains c

/-- Characters that may be escaped to stand for themselves. -/
def isEscapable (c : Char) : Bool :=
  isMeta c || (c.toNat < 128 && !c.isAlphanum && c != '<' && c != '>')

/-- A set in the case that the flags ask for, or its complement.  Without `u` it must not hold
characters above ASCII. -/
def finishSet (fl : Flags) (negated : Bool) (s : CharSet) : Option CharSet :=
  let s :=
    if !fl.caseless then s else if fl.unicode then .caseless s else .asciiCaseless s
  let s := if negated then .compl s else s
  if fl.unicode then some s
  else if (List.range 128).any fun n => s.contains (Char.ofNat (128 + n)) then none
  else some (.inter s (.ranges [(0, 127)]))

/-- The class that a letter names: digits, blanks, word characters. -/
def letterSet (fl : Flags) (c : Char) : CharSet :=
  match fl.unicode, c.toLower with
  | true, 'd' => .digit
  | true, 's' => .blank
  | true, _ => .word
  | false, 'd' => .ranges [(0x30, 0x39)]
  | false, 's' => .ranges [(0x9, 0xd), (0x20, 0x20)]
  | false, _ => .ranges [(0x30, 0x39), (0x41, 0x5a), (0x5f, 0x5f), (0x61, 0x7a)]

/-- The named classes of ASCII characters. -/
def asciiClass? (name : Text) : Option (List (Nat × Nat)) :=
  match name.str with
  | "alnum" => some [(0x30, 0x39), (0x41, 0x5a), (0x61, 0x7a)]
  | "alpha" => some [(0x41, 0x5a), (0x61, 0x7a)]
  | "ascii" => some [(0, 0x7f)]
  | "blank" => some [(0x9, 0x9), (0x20, 0x20)]
  | "cntrl" => some [(0, 0x1f), (0x7f, 0x7f)]
  | "digit" => some [(0x30, 0x39)]
  | "graph" => some [(0x21, 0x7e)]
  | "lower" => some [(0x61, 0x7a)]
  | "print" => some [(0x20, 0x7e)]
  | "punct" => some [(0x21, 0x2f), (0x3a, 0x40), (0x5b, 0x60), (0x7b, 0x7e)]
  | "space" => some [(0x9, 0xd), (0x20, 0x20)]
  | "upper" => some [(0x41, 0x5a)]
  | "word" => some [(0x30, 0x39), (0x41, 0x5a), (0x5f, 0x5f), (0x61, 0x7a)]
  | "xdigit" => some [(0x30, 0x39), (0x41, 0x46), (0x61, 0x66)]
  | _ => none

/-- A code point behind `x`, `u` or `U`: hexadecimal digits, `width` of them or any number in
braces. -/
def hexEscape (fl : Flags) (width : Nat) (cs : Text) : Option (Nat × Text) := do
  let (digits, rest) ← match skip fl cs with
    | '{' :: cs => braced (cs.length + 1) cs
    | cs => fixed width cs
  return (← Hex.number? digits, rest)
where
  braced : Nat → Text → Option (Text × Text)
    | 0, _ => none
    | n + 1, cs =>
      match skip fl cs with
      | [] => none
      | '}' :: rest => some ([], skip fl rest)
      | c :: rest => (braced n rest).map fun (digits, rest) => (c :: digits, rest)
  fixed : Nat → Text → Option (Text × Text)
    | 0, cs => some ([], cs)
    | n + 1, cs =>
      match cs with
      | [] => none
      | c :: rest => (fixed n (skip fl rest)).map fun (digits, rest) => (c :: digits, rest)

/-- The name in the braces of a property, or the single letter of one, and what follows. -/
def propertyName (fl : Flags) (cs : Text) : Option (Text × Text) :=
  match skip fl cs with
  | [] => none
  | '{' :: cs => braced (cs.length + 1) cs
  | c :: rest => if c = '\x5c' then none else some ([c], skip fl rest)
where
  braced : Nat → Text → Option (Text × Text)
    | 0, _ => none
    | n + 1, cs =>
      match skip fl cs with
      | [] => none
      | '}' :: rest => some ([], rest)
      | c :: rest => (braced n rest).map fun (name, rest) => (c :: name, rest)

/-- The text before and after the first `!=`. -/
def cutUnequal? : Text → Option (Text × Text)
  | '!' :: '=' :: cs => some ([], cs)
  | [] => none
  | c :: cs => (cutUnequal? cs).map fun (a, b) => (c :: a, b)

/-- A set by name, or by the name of a property and one of its values, and whether its complement
is meant. -/
def propertySet? (name : Text) : Option (CharSet × Bool) := do
  let (points, negated) ←
    match cutUnequal? name with
    | some (property, value) => do pure (← Unicode.valued? property value, true)
    | none =>
      match (name.cut? ':').orElse fun _ => name.cut? '=' with
      | some (property, value) => do pure (← Unicode.valued? property value, false)
      | none => do pure (← Unicode.named? name, false)
  let s := CharSet.ranges points.ranges
  return (if points.complement then .compl s else s, negated)

/-- The half boundaries and boundaries of words that have names. -/
def namedBoundary? (ascii : Bool) (name : Text) : Option Anchor :=
  match name.str with
  | "start" => some (.wordStart ascii)
  | "end" => some (.wordStop ascii)
  | "start-half" => some (.noWordBefore ascii)
  | "end-half" => some (.noWordAfter ascii)
  | _ => none

def isBoundaryPart (c : Char) : Bool := c.isAlpha || c == '-'

/-- What follows `\b`: a name in braces, unless the braces hold something else. -/
def boundary (fl : Flags) (cs : Text) : Option (Atom × Text) :=
  let plain : Atom := .anchor (.boundary (!fl.unicode))
  match cs with
  | '{' :: rest =>
    match skip fl rest with
    | [] => none
    | c :: _ =>
      if !isBoundaryPart c then some (plain, cs)
      else
        let (name, rest) := letters (rest.length + 1) (skip fl rest)
        match rest with
        | '}' :: rest => (namedBoundary? (!fl.unicode) name).map fun a => (.anchor a, rest)
        | _ => none
  | _ => some (plain, cs)
where
  letters : Nat → Text → Text × Text
    | 0, cs => ([], cs)
    | n + 1, cs =>
      match cs with
      | c :: rest =>
        if isBoundaryPart c then
          let (name, rest) := letters n (skip fl rest)
          (c :: name, rest)
        else ([], cs)
      | [] => ([], cs)

/-- What an escape stands for, given what follows the backslash. -/
def escape (fl : Flags) (cs : Text) : Option (Atom × Text) :=
  match cs with
  | [] => none
  | c :: rest =>
    if c = 'x' ∨ c = 'u' ∨ c = 'U' then do
      let (n, rest) ← hexEscape fl (if c = 'x' then 2 else if c = 'u' then 4 else 8) rest
      let c ← Hex.char? n
      if !fl.unicode && 128 ≤ n then none else some (.literal c, rest)
    else if c = 'p' ∨ c = 'P' then do
      let (name, rest) ← propertyName fl rest
      let (s, negated) ← propertySet? name
      if !fl.unicode then none
      else (finishSet fl (negated != (c == 'P')) s).map fun s => (.set s, rest)
    else if "dswDSW".toList.contains c then
      let s := letterSet fl c
      if c.isUpper then if fl.unicode then some (.set (.compl s), rest) else none
      else some (.set s, rest)
    else if isEscapable c then some (.literal c, rest)
    else
      match c with
      | 'a' => some (.literal '\x07', rest)
      | 'f' => some (.literal '\x0c', rest)
      | 't' => some (.literal '\t', rest)
      | 'n' => some (.literal '\n', rest)
      | 'r' => some (.literal '\r', rest)
      | 'v' => some (.literal '\x0b', rest)
      | 'A' => some (.anchor .start, rest)
      | 'z' => some (.anchor .stop, rest)
      | 'b' => boundary fl rest
      | 'B' => some (.anchor (.inside (!fl.unicode)), rest)
      | '<' => some (.anchor (.wordStart (!fl.unicode)), rest)
      | '>' => some (.anchor (.wordStop (!fl.unicode)), rest)
      | _ => none

/-- An operation between two parts of a class. -/
inductive SetOp where
  | inter
  | diff
  | symmDiff

def SetOp.apply (fl : Flags) (op : SetOp) (a b : CharSet) : CharSet :=
  let fold (s : CharSet) : CharSet :=
    if !fl.caseless then s else if fl.unicode then .caseless s else .asciiCaseless s
  let a := fold a
  let b := fold b
  match op with
  | .inter => .inter a b
  | .diff => .inter a (.compl b)
  | .symmDiff => .union (.inter a (.compl b)) (.inter b (.compl a))

/-- One member of a class: a character or an escape. -/
def classAtom (fl : Flags) (cs : Text) : Option (Atom × Text) :=
  match cs with
  | [] => none
  | '\x5c' :: rest => escape fl rest
  | c :: rest => if !fl.unicode && 128 ≤ c.toNat then none else some (.literal c, rest)

def Atom.set? : Atom → Option CharSet
  | .literal c => some (.single c)
  | .set s => some s
  | .anchor _ => none

/-- A member of a class, or a range between two. -/
def classItem (fl : Flags) (cs : Text) : Option (CharSet × Text) := do
  let (first, rest) ← classAtom fl cs
  match skip fl rest with
  | [] => none
  | '-' :: after =>
    let next := (skip fl after).head?
    if next = some ']' ∨ next = some '-' then return (← first.set?, '-' :: after)
    else
      match skip fl after with
      | [] => none
      | after =>
        let (second, rest) ← classAtom fl after
        match first, second with
        | .literal a, .literal b =>
          if a ≤ b then some (.ranges [(a.toNat, b.toNat)], rest) else none
        | _, _ => none
  | rest => return (← first.set?, rest)

/-- A named class of ASCII characters, given what follows its opening bracket. -/
def namedClass? (fl : Flags) (cs : Text) : Option (CharSet × Text) :=
  match cs with
  | ':' :: cs =>
    let (negated, cs) := match cs with
      | '^' :: rest => (true, rest)
      | _ => (false, cs)
    match cs.dropWhile (· != ':') with
    | ':' :: ']' :: rest => do
      let rs ← asciiClass? (cs.takeWhile (· != ':'))
      return (← finishSet fl negated (.ranges rs), rest)
    | _ => none
  | _ => none

/-- The characters that stand for themselves at the start of a class: hyphens, or else a closing
bracket. -/
def classFront (fl : Flags) : Nat → Text → List CharSet × Text
  | 0, cs => ([], cs)
  | n + 1, cs =>
    match cs with
    | '-' :: rest =>
      let (front, rest) := hyphens n (skip fl rest)
      (.single '-' :: front, rest)
    | ']' :: rest => ([.single ']'], skip fl rest)
    | _ => ([], cs)
where
  hyphens : Nat → Text → List CharSet × Text
    | 0, cs => ([], cs)
    | n + 1, cs =>
      match cs with
      | '-' :: rest =>
        let (front, rest) := hyphens n (skip fl rest)
        (.single '-' :: front, rest)
      | _ => ([], cs)

mutual

/-- A class, given what follows its opening bracket. -/
def bracket (fl : Flags) : Nat → Text → Option (CharSet × Text)
  | 0, _ => none
  | n + 1, cs =>
    let (negated, cs) := match skip fl cs with
      | '^' :: rest => (true, skip fl rest)
      | cs => (false, cs)
    let (front, cs) := classFront fl (cs.length + 1) cs
    match classRest fl n none front cs with
    | some (s, rest) => (finishSet fl negated s).map fun s => (s, rest)
    | none => none

/-- The rest of a class.  `left` is what stands to the left of the last operation and `members`
what has been read since. -/
def classRest (fl : Flags) :
    Nat → Option (SetOp × CharSet) → List CharSet → Text → Option (CharSet × Text)
  | 0, _, _, _ => none
  | n + 1, left, members, cs =>
    let whole := match left with
      | some (op, s) => op.apply fl s (.unions members)
      | none => .unions members
    match skip fl cs with
    | [] => none
    | '[' :: rest =>
      match namedClass? fl rest with
      | some (s, rest) => classRest fl n left (s :: members) rest
      | none =>
        match bracket fl n rest with
        | some (s, rest) => classRest fl n left (s :: members) rest
        | none => none
    | ']' :: rest => some (whole, rest)
    | '&' :: '&' :: rest => classRest fl n (some (.inter, whole)) [] rest
    | '-' :: '-' :: rest => classRest fl n (some (.diff, whole)) [] rest
    | '~' :: '~' :: rest => classRest fl n (some (.symmDiff, whole)) [] rest
    | cs =>
      match classItem fl cs with
      | some (s, rest) => classRest fl n left (s :: members) rest
      | none => none

end

/-- A decimal number with blanks around it, below `2 ^ 32`. -/
def count? (fl : Flags) (cs : Text) : Option (Nat × Text) :=
  let (digits, rest) := go (cs.length + 1) (Text.skipBlanks cs)
  let n := natOfDigits digits
  if digits.isEmpty || Nat.pow 2 32 ≤ n then none else some (n, skip fl (Text.skipBlanks rest))
where
  go : Nat → Text → Text × Text
    | 0, cs => ([], cs)
    | n + 1, cs =>
      match cs with
      | c :: rest =>
        if c.isDigit then
          let (digits, rest) := go n (skip fl rest)
          (c :: digits, rest)
        else ([], cs)
      | [] => ([], cs)

/-- The bounds in braces behind what is repeated, given what follows the opening brace. -/
def bounds? (fl : Flags) (cs : Text) : Option (Nat × Option Nat × Text) := do
  let (least, rest) ← count? fl (skip fl cs)
  match rest with
  | '}' :: rest => some (least, some least, rest)
  | ',' :: rest =>
    match skip fl rest with
    | '}' :: rest => some (least, none, rest)
    | rest =>
      let (most, rest) ← count? fl rest
      match rest with
      | '}' :: rest => if least ≤ most then some (least, some most, rest) else none
      | _ => none
  | _ => none

/-- The flag letters in front of a colon or a closing parenthesis, in order, each with whether a
minus precedes it. -/
def flagLetters : Bool → Text → Option (List (Char × Bool) × Text)
  | _, [] => none
  | negative, c :: cs =>
    if c = ':' ∨ c = ')' then some ([], c :: cs)
    else if c = '-' then
      match cs with
      | d :: _ => if negative || d == ':' || d == ')' then none else flagLetters true cs
      | [] => none
    else if "imsUuRx".toList.contains c then
      match flagLetters negative cs with
      | some (more, rest) =>
        if more.any (·.1 == c) then none else some ((c, !negative) :: more, rest)
      | none => none
    else none

def Flags.set (fl : Flags) : Char × Bool → Flags
  | ('i', on) => { fl with caseless := on }
  | ('m', on) => { fl with multiLine := on }
  | ('s', on) => { fl with dotAll := on }
  | ('u', on) => { fl with unicode := on }
  | ('R', on) => { fl with crlf := on }
  | ('x', on) => { fl with spaced := on }
  | _ => fl

def isNameStart (c : Char) : Bool := c == '_' || (Unicode.isAlphanumeric c && !Unicode.isDecimal c)

def isNamePart (c : Char) : Bool := "_.[]".toList.contains c || Unicode.isAlphanumeric c

/-- The name of a group in front of `>`. -/
def groupName? (cs : Text) : Option (Text × Text) := do
  let (name, rest) ← Text.cut? '>' cs
  if (name.head?.any isNameStart) && name.all isNamePart then some (name, rest) else none

/-- How a group opens: with flags for what follows, or with flags for its own inside and perhaps
a name. -/
inductive Opening where
  | flags (fl : Flags)
  | group (fl : Flags) (name : Option Text)

/-- The opening of a group, given what follows its parenthesis. -/
def opening? (fl : Flags) (cs : Text) : Option (Opening × Text) :=
  match skip fl cs with
  | '?' :: '=' :: _ => none
  | '?' :: '!' :: _ => none
  | '?' :: '<' :: '=' :: _ => none
  | '?' :: '<' :: '!' :: _ => none
  | '?' :: 'P' :: '<' :: rest =>
    (groupName? rest).map fun (name, rest) => (.group fl (some name), rest)
  | '?' :: '<' :: rest =>
    (groupName? rest).map fun (name, rest) => (.group fl (some name), rest)
  | '?' :: rest =>
    match flagLetters false rest with
    | some (letters, ':' :: rest) => some (.group (letters.foldl Flags.set fl) none, rest)
    | some (letters, _ :: rest) =>
      if letters.isEmpty then none else some (.flags (letters.foldl Flags.set fl), rest)
    | _ => none
  | rest => some (.group fl none, rest)

/-- The pattern of a character that stands for itself. -/
def literalPattern (fl : Flags) (c : Char) : Pattern :=
  if !fl.caseless then .set (.single c)
  else if fl.unicode then .set (.caseless (.single c))
  else .set (.asciiCaseless (.single c))

def dot (fl : Flags) : Option Pattern :=
  if !fl.unicode then none
  else if fl.dotAll then some (.set (.compl .nothing))
  else if fl.crlf then some (.set (.compl (.ranges [(0xa, 0xa), (0xd, 0xd)])))
  else some (.set (.compl (.single '\n')))

def Atom.pattern (fl : Flags) : Atom → Pattern
  | .literal c => literalPattern fl c
  | .set s => .set s
  | .anchor a => .anchor a

/-- A pattern outside classes that begins with `c` and is neither a group nor a repetition. -/
def atom (fl : Flags) (c : Char) (rest : Text) : Option (Pattern × Text) :=
  match c with
  | '\x5c' => (escape fl rest).map fun (a, rest) => (a.pattern fl, rest)
  | '[' => (bracket fl (2 * rest.length + 2) rest).map fun (s, rest) => (.set s, rest)
  | '.' => (dot fl).map fun p => (p, rest)
  | '^' =>
    let a := if !fl.multiLine then .start else if fl.crlf then .anyLineStart else .lineStart
    some (.anchor a, rest)
  | '$' =>
    let a := if !fl.multiLine then .stop else if fl.crlf then .anyLineStop else .lineStop
    some (.anchor a, rest)
  | c => some (literalPattern fl c, rest)

/-- A reading position: the flags in force, the names of groups so far, and what follows. -/
structure Cursor where
  flags : Flags
  names : List Text
  rest : Text

/-- The question mark behind a repetition changes only which of several matches is preferred. -/
def dropLazy : Text → Text
  | '?' :: cs => cs
  | cs => cs

/-- Reads alternatives up to a closing parenthesis or the end.  `items` holds what the current
alternative consists of, last first, with nothing for flags; `branches` holds the alternatives
before it, last first. -/
def alternatives : Nat → List (Option Pattern) → List Pattern → Cursor → Option (Pattern × Cursor)
  | 0, _, _, _ => none
  | n + 1, items, branches, cur =>
    let branch := sequence (items.reverse.filterMap id)
    let rest := skip cur.flags cur.rest
    match rest with
    | [] => some (branches.foldl (fun p b => .alt b p) branch, { cur with rest })
    | ')' :: _ => some (branches.foldl (fun p b => .alt b p) branch, { cur with rest })
    | '|' :: rest => alternatives n [] (branch :: branches) { cur with rest }
    | '(' :: rest =>
      match opening? cur.flags rest with
      | none => none
      | some (.flags fl, rest) =>
        alternatives n (none :: items) branches { cur with flags := fl, rest }
      | some (.group fl name, rest) =>
        if name.any cur.names.contains then none
        else
          match alternatives n [] [] ⟨fl, name.toList ++ cur.names, rest⟩ with
          | some (p, ⟨_, names, ')' :: rest⟩) =>
            alternatives n (some p :: items) branches ⟨cur.flags, names, rest⟩
          | _ => none
    | c :: rest =>
      if c = '*' ∨ c = '+' ∨ c = '?' then
        match items with
        | some p :: items =>
          let least := if c = '+' then 1 else 0
          let most := if c = '?' then some 1 else none
          alternatives n (some (.repeated p least most) :: items) branches
            { cur with rest := dropLazy rest }
        | _ => none
      else if c = '{' then
        match items, bounds? cur.flags rest with
        | some p :: items, some (least, most, rest) =>
          alternatives n (some (.repeated p least most) :: items) branches
            { cur with rest := dropLazy (skip cur.flags rest) }
        | _, _ => none
      else
        match atom cur.flags c rest with
        | some (p, rest) => alternatives n (some p :: items) branches { cur with rest }
        | none => none

/-- Roughly how many transitions between bytes tell the characters of a set apart. -/
def setSize : CharSet → Nat
  | .ranges rs => (rs.map fun r => if r.2 < 128 then 1 else 4).sum
  | .digit => 150
  | .blank => 20
  | .word => 1600
  | .union a b => setSize a + setSize b
  | .inter a b => setSize a + setSize b
  | .compl a => setSize a + 8
  | .caseless a => 2 * setSize a
  | .asciiCaseless a => 2 * setSize a

/-- The size of a pattern with its repetitions written out. -/
def size : Pattern → Nat
  | .empty => 0
  | .set s => setSize s
  | .anchor _ => 1
  | .seq p q => size p + size q
  | .alt p q => size p + size q + 1
  | .repeated p least most => (size p + 1) * max 1 (max least (most.getD 0))

/-- Larger patterns are refused. -/
def sizeLimit : Nat := 320000

/-- The pattern that a text writes, if it is one. -/
def ofText? (cs : Text) : Option Pattern := do
  let (p, cur) ← alternatives (cs.length + 1) [] [] ⟨.initial, [], cs⟩
  if cur.rest.isEmpty && p.size ≤ sizeLimit then some p else none

end SqlTemplate.Pattern
