import SqlTemplate.Args
import SqlTemplate.Placeholder
import SqlTemplate.Template.Loop

/-!
Names for the values of one loop element.  Every reference to a loop variable in the text of an
element becomes a new argument, so that the text can leave the loop.
-/
namespace SqlTemplate.Template

/-- A loop variable with the dotted path behind it. -/
structure Reference where
  var : Text
  path : Text
  deriving DecidableEq, Repr

def Reference.text (r : Reference) : Text := r.var ++ r.path

namespace Reference

/-- Reads a variable in braces behind a dollar sign; of two that fit the first counts. -/
def readPlaceholder? (vars : List Text) (cs : Text) : Option (Mark × Reference × Text) :=
  match cs with
  | '$' :: '{' :: cs =>
    let (mark, cs) := Mark.read (Text.skipBlanks cs)
    let cs := Text.skipBlanks cs
    vars.findSome? fun v =>
      match Text.dropFront? v cs with
      | some rest =>
        let (segments, rest) := Name.path rest
        match Text.skipBlanks rest with
        | '}' :: rest => some (mark, ⟨v, Name.dotted segments⟩, rest)
        | _ => none
      | none => none
  | _ => none

/-- Reads a variable behind a sigil, which `cs` follows.  A reference ends where a word ends; a
last segment that does not is left out. -/
def readParameter? (vars : List Text) (cs : Text) : Option (Reference × Text) :=
  vars.findSome? fun v =>
    match Text.dropFront? v cs with
    | some rest =>
      let (segments, rest') := Name.path rest
      if !rest'.head?.any Unicode.isWord then some (⟨v, Name.dotted segments⟩, rest')
      else
        match segments.getLast? with
        | some last => some (⟨v, Name.dotted segments.dropLast⟩, '.' :: last ++ rest')
        | none => none
    | none => none

/-- A text as a sequence of references and single characters. -/
inductive Piece where
  | char (c : Char)
  | kept (r : Reference)
  | placeholder (mark : Mark) (r : Reference)
  | parameter (r : Reference)
  deriving DecidableEq, Repr

theorem length_lt_of_readPlaceholder? {vars : List Text} {cs rest : Text} {m : Mark}
    {r : Reference} (h : readPlaceholder? vars cs = some (m, r, rest)) :
    rest.length < cs.length := by
  unfold readPlaceholder? at h
  split at h
  · rename_i cs
    dsimp only at h
    obtain ⟨v, -, h⟩ := List.exists_of_findSome?_eq_some h
    split at h
    · rename_i tail htail
      split at h
      · rename_i rest' hrest
        obtain ⟨-, hr⟩ := Prod.mk.inj (Option.some.inj h)
        obtain ⟨-, rfl⟩ := Prod.mk.inj hr
        have h1 := Text.length_skipBlanks_le cs
        have h2 := Placeholder.length_read_le (Text.skipBlanks cs)
        have h3 := Text.length_skipBlanks_le (Mark.read (Text.skipBlanks cs)).2
        have h4 := congrArg List.length (Text.eq_append_of_dropFront? htail)
        have h5 := congrArg List.length (Name.path_append tail)
        have h6 := Text.length_skipBlanks_le (Name.path tail).2
        rw [hrest] at h6
        simp only [List.length_append, List.length_cons] at h4 h5 h6 ⊢
        omega
      · simp at h
    · simp at h
  · simp at h

theorem length_le_of_readParameter? {vars : List Text} {cs rest : Text} {r : Reference}
    (h : readParameter? vars cs = some (r, rest)) : rest.length ≤ cs.length := by
  unfold readParameter? at h
  obtain ⟨v, -, h⟩ := List.exists_of_findSome?_eq_some h
  split at h
  · rename_i tail htail
    have h4 := congrArg List.length (Text.eq_append_of_dropFront? htail)
    have h5 := congrArg List.length (Name.path_append tail)
    simp only [List.length_append] at h4 h5
    dsimp only at h
    split at h
    · obtain ⟨-, rfl⟩ := Prod.mk.inj (Option.some.inj h)
      omega
    · split at h
      · rename_i last hlast
        obtain ⟨-, rfl⟩ := Prod.mk.inj (Option.some.inj h)
        have h6 := congrArg List.length (Name.dotted_dropLast hlast)
        simp only [List.length_append, List.length_cons] at h6
        simp only [List.length_append, List.length_cons]
        omega
      · simp at h
  · simp at h

/-- Splits a text at the placeholders of loop variables. -/
def splitPlaceholders (vars : List Text) (cs : Text) : List Piece :=
  match h : readPlaceholder? vars cs with
  | some (mark, r, rest) =>
    have := length_lt_of_readPlaceholder? h
    .placeholder mark r :: splitPlaceholders vars rest
  | none =>
    match cs with
    | [] => []
    | c :: rest => .char c :: splitPlaceholders vars rest
termination_by cs.length

/-- Splits a text at the parameters of loop variables.  One behind a second sigil is kept as it
is.  `last` is the character in front of the text. -/
def splitParameters (sigil : Char) (vars : List Text) (last : Option Char) (cs : Text) :
    List Piece :=
  match cs with
  | [] => []
  | c :: rest =>
    if c = sigil then
      match h : readParameter? vars rest with
      | some (r, rest') =>
        have := length_le_of_readParameter? h
        let piece := if last = some sigil then [.char c, .kept r] else [.parameter r]
        piece ++ splitParameters sigil vars r.text.getLast? rest'
      | none => .char c :: splitParameters sigil vars (some c) rest
    else .char c :: splitParameters sigil vars (some c) rest
termination_by cs.length

end Reference

/-- One element of a loop: its item, its position in the list, the number of the loop among those
run so far, and the arguments in scope. -/
structure Element where
  item : Value
  position : Nat
  loop : Nat
  scope : Args

/-- The arguments made so far, and those of them that the references of one element stand for. -/
structure Naming where
  given : Dict Text
  bound : Args

namespace Naming

/-- The value that a reference has in an element. -/
def value (header : LoopHeader) (e : Element) (r : Reference) : Value :=
  if header.index = some r.var then .ofNat e.position
  else (e.item.walk? r.path).getD .null

/-- The name that a reference has unless it is taken. -/
def baseName (e : Element) (r : Reference) : Text :=
  '_' :: r.var ++ r.path.map (fun c => if c = '.' then '_' else c) ++
    '_' :: (toString e.loop).toList ++ '_' :: (toString e.position).toList

/-- A name with the number of tries before it. -/
def numbered (base : Text) : Nat → Text
  | 0 => base
  | n + 1 => base ++ '_' :: (toString (n + 1)).toList

/-- The first name that is taken neither in the scope nor among the arguments made so far.  There
are more candidates than taken names. -/
def freshName (base : Text) (scope bound : Args) : Text :=
  (((List.range (scope.size + bound.size + 1)).map (numbered base)).find? fun name =>
    !scope.contains name && !bound.contains name).getD base

/-- The name of a reference; equal references of one element have one name. -/
def nameOf (header : LoopHeader) (e : Element) (r : Reference) : StateM Naming Text := fun n =>
  match n.given.get? r.text with
  | some name => (name, n)
  | none =>
    let name := freshName (baseName e r) e.scope n.bound
    (name, ⟨n.given.insert r.text name, n.bound.insert name (value header e r)⟩)

/-- Writes a piece with its reference under its new name. -/
def write (header : LoopHeader) (sigil : Char) (e : Element) : Reference.Piece → StateM Naming Text
  | .char c => pure [c]
  | .kept r => pure r.text
  | .placeholder mark r => do
    let name ← nameOf header e r
    return '$' :: '{' :: mark.text ++ name ++ ['}']
  | .parameter r => do
    let name ← nameOf header e r
    return sigil :: name

def writeAll (header : LoopHeader) (sigil : Char) (e : Element) :
    List Reference.Piece → StateM Naming Text
  | [] => pure []
  | p :: ps => do
    let t ← write header sigil e p
    let more ← writeAll header sigil e ps
    return t ++ more

/-- Renames in a plain text: first the placeholders, then the parameters of what that gives. -/
def renamePlain (header : LoopHeader) (sigil : Char) (e : Element) (t : Text) :
    StateM Naming Text := do
  let t ← writeAll header sigil e (Reference.splitPlaceholders header.vars t)
  writeAll header sigil e (Reference.splitParameters sigil header.vars none t)

def renameSegments (header : LoopHeader) (sigil : Char) (e : Element) :
    List Segment → StateM Naming Text
  | [] => pure []
  | .inert t :: ss => do
    let more ← renameSegments header sigil e ss
    return t ++ more
  | .plain t :: ss => do
    let t ← renamePlain header sigil e t
    let more ← renameSegments header sigil e ss
    return t ++ more

/-- Renames the references in the text of an element; the second part is the arguments made so
far, those of the element included. -/
def rename (header : LoopHeader) (sigil : Char) (e : Element) (t : Text) (bound : Args) :
    Text × Args :=
  let (t, n) := (renameSegments header sigil e (segments t)).run ⟨∅, bound⟩
  (t, n.bound)

end Naming

end SqlTemplate.Template
