import SqlTemplate.Template.Loop

/-!
Templates: SQL text whose directive lines have been read into a tree of blocks.  Reading keeps a
stack of the blocks that are open, so that every problem is found where it arises.
-/
namespace SqlTemplate

inductive Block where
  /-- One line of SQL. -/
  | text (line : Text)
  | guarded (condition : Condition) (body : List Block)
  /-- The first branch whose condition holds counts, and the other one if there is none. -/
  | choose (branches : List (Condition × List Block)) (otherwise : Option (List Block))
  | loop (header : LoopHeader) (body : List Block)
  deriving Repr

/-- A template is the list of its blocks. -/
abbrev Template := List Block

namespace Template

open Directive (Fault Keyword Kind)

/-- The branch that is being read. -/
inductive Branch where
  | when (condition : Condition) (body : List Block)
  | otherwise (body : List Block)

/-- A choice as far as it has been read; between branches there is no current one. -/
structure Choice where
  switch : Option Text
  branches : List (Condition × List Block)
  otherwise : Option (List Block)
  current : Option Branch

/-- A block that is open. -/
inductive Frame where
  | guarded (condition : Condition) (body : List Block)
  | choose (choice : Choice)
  | loop (header : LoopHeader) (body : List Block)

def Frame.kind : Frame → Kind
  | guarded _ _ => .if
  | choose choice => if choice.switch.isSome then .switch else .choose
  | loop _ _ => .for

/-- The blocks read so far: those outside all open blocks, and the open blocks, innermost first,
each with the line that opened it. -/
structure Draft where
  done : List Block
  frames : List (Nat × Frame)

namespace Choice

/-- The same choice with no current branch. -/
def close (c : Choice) : Choice :=
  match c.current with
  | none => c
  | some (.when condition body) =>
    { c with branches := c.branches ++ [(condition, body)], current := none }
  | some (.otherwise body) => { c with otherwise := some body, current := none }

/-- Whether the other branch has been opened. -/
def hasOtherwise (c : Choice) : Bool :=
  match c.current with
  | some (.otherwise _) => true
  | _ => c.otherwise.isSome

end Choice

/-- Text that may stand between the branches of a choice: blank lines and comments. -/
def isGap (line : Text) : Bool := line.isBlank || Text.startsWith ['-', '-'] line.trim

namespace Draft

/-- Adds a block to the innermost open one. -/
def add (d : Draft) (b : Block) (line : Nat) : Except Fault Draft :=
  match d.frames with
  | [] => .ok { d with done := d.done ++ [b] }
  | (n, .guarded c body) :: rest => .ok { d with frames := (n, .guarded c (body ++ [b])) :: rest }
  | (n, .loop h body) :: rest => .ok { d with frames := (n, .loop h (body ++ [b])) :: rest }
  | (n, .choose choice) :: rest =>
    match choice.current with
    | some (.when c body) =>
      let choice := { choice with current := some (.when c (body ++ [b])) }
      .ok { d with frames := (n, .choose choice) :: rest }
    | some (.otherwise body) =>
      let choice := { choice with current := some (.otherwise (body ++ [b])) }
      .ok { d with frames := (n, .choose choice) :: rest }
    | none =>
      match b with
      | .text t => if isGap t then .ok d else .error ⟨line, .textOutsideBranch⟩
      | _ => .error ⟨line, .textOutsideBranch⟩

def push (d : Draft) (frame : Frame) (line : Nat) : Draft :=
  { d with frames := (line, frame) :: d.frames }

/-- Opens a branch of the innermost block, which must be a choice. -/
def openWhen (d : Draft) (keyword : Keyword) (rest : Text) (line : Nat) : Except Fault Draft :=
  match d.frames with
  | (n, .choose choice) :: frames =>
    if choice.hasOtherwise then .error ⟨line, .branchAfterDefault⟩
    else do
      let condition ← match keyword, choice.switch with
        | .case, some name => Directive.condition (Directive.caseSource name rest) line
        | .case, none => .error ⟨line, .caseOutsideSwitch⟩
        | _, _ => Directive.condition rest line
      let choice := { choice.close with current := some (.when condition []) }
      .ok { d with frames := (n, .choose choice) :: frames }
  | _ => .error ⟨line, .branchOutside⟩

def openOtherwise (d : Draft) (line : Nat) : Except Fault Draft :=
  match d.frames with
  | (n, .choose choice) :: frames =>
    if choice.hasOtherwise then .error ⟨line, .secondDefault⟩
    else
      let choice := { choice.close with current := some (.otherwise []) }
      .ok { d with frames := (n, .choose choice) :: frames }
  | _ => .error ⟨line, .defaultOutside⟩

/-- Ends the current branch. -/
def endBranch (d : Draft) (line : Nat) : Except Fault Draft :=
  match d.frames with
  | (n, .choose choice) :: frames => .ok { d with frames := (n, .choose choice.close) :: frames }
  | _ => .error ⟨line, .breakOutside⟩

def closeIf (d : Draft) (line : Nat) : Except Fault Draft :=
  match d.frames with
  | (_, .guarded c body) :: frames => add { d with frames } (.guarded c body) line
  | (n, frame) :: _ => .error ⟨line, .mismatch .fi frame.kind n⟩
  | [] => .error ⟨line, .unopenedIf⟩

/-- `end` closes choices and loops, and `done` loops only. -/
def closeBlock (d : Draft) (closing : Keyword) (line : Nat) : Except Fault Draft :=
  match d.frames with
  | (n, .choose choice) :: frames =>
    if closing = .end then
      add { d with frames } (.choose choice.close.branches choice.close.otherwise) line
    else .error ⟨line, .mismatch closing (Frame.choose choice).kind n⟩
  | (_, .loop h body) :: frames => add { d with frames } (.loop h body) line
  | (n, frame) :: _ => .error ⟨line, .mismatch closing frame.kind n⟩
  | [] => .error ⟨line, .unopened closing⟩

/-- Reads one line. -/
def step (d : Draft) (n : Nat) (line : Text) : Except Fault Draft :=
  match Directive.read? line with
  | none => d.add (.text line) n
  | some (.if, rest) => do
    let c ← Directive.condition rest n
    .ok (d.push (.guarded c []) n)
  | some (.fi, _) => d.closeIf n
  | some (.choose, _) => .ok (d.push (.choose ⟨none, [], none, none⟩) n)
  | some (.switch, rest) => do
    let name ← Directive.switchName rest n
    .ok (d.push (.choose ⟨some name, [], none, none⟩) n)
  | some (.when, rest) => d.openWhen .when rest n
  | some (.case, rest) => d.openWhen .case rest n
  | some (.default, _) => d.openOtherwise n
  | some (.break, _) => d.endBranch n
  | some (.end, _) => d.closeBlock .end n
  | some (.done, _) => d.closeBlock .done n
  | some (.for, rest) => do
    let header ← LoopHeader.ofText rest n
    .ok (d.push (.loop header []) n)

/-- Reads lines, the first of which has number `n`. -/
def steps (d : Draft) (n : Nat) : List Text → Except Fault Draft
  | [] => .ok d
  | line :: lines => do steps (← d.step n line) (n + 1) lines

/-- The blocks, if none is still open. -/
def finish (d : Draft) : Except Fault Template :=
  match d.frames with
  | [] => .ok d.done
  | (n, frame) :: _ => .error ⟨n, .unclosed frame.kind⟩

end Draft

/-- Reads the directives of a text. -/
def ofText (t : Text) : Except Fault Template := do
  (← Draft.steps ⟨[], []⟩ 1 t.lines).finish

/-- Whether there is any directive. -/
def isDynamic (blocks : Template) : Bool :=
  blocks.any fun
    | .text _ => false
    | _ => true

end Template

end SqlTemplate
