import SqlTemplate.Condition.Eval
import SqlTemplate.Error
import SqlTemplate.Template
import SqlTemplate.Template.Rename

/-!
Rendering: the lines of a template that remain for given arguments, and those arguments together
with the ones that its loops make.
-/
namespace SqlTemplate

/-- The answer of a condition, or the error that stands in its place. -/
def Condition.holds (ctx : Condition.Context) (args : Args) (c : Condition) : Except Error Bool :=
  match Condition.eval ctx args c.formula with
  | .ok b => .ok b
  | .error (.missingArgument name) => .error (.missingArgument name)
  | .error (.problem p) => .error (.condition c.source p)

/-- SQL with the arguments it needs. -/
structure Rendering where
  sql : Text
  args : Args

namespace Template

/-- How many loops have run, and the arguments they have made. -/
structure Progress where
  loops : Nat
  bound : Args

abbrev Render := StateT Progress (Except Error)

/-- The items that a loop runs over: an array's own, or a single value. -/
def loopItems (ctx : Condition.Context) (args : Args) (source : Text) :
    Except Error (Option (List Value)) :=
  match args.lookup? source with
  | some (.array items) => .ok (some items)
  | some .null | none => if ctx.strict then .error (.emptyLoop source) else .ok none
  | some v => .ok (some [v])

/-- The arguments in scope inside an element. -/
def elementScope (header : LoopHeader) (scope : Args) (item : Value) (position : Nat) : Args :=
  let scope := scope.insert header.item item
  match header.index with
  | some index => scope.insert index (.ofNat position)
  | none => scope

/-- Whether an element is kept. -/
def passes (ctx : Condition.Context) (header : LoopHeader) (scope : Args) : Except Error Bool :=
  match header.filter with
  | some filter => filter.holds ctx scope
  | none => .ok true

/-- The texts of the elements that are kept.  `body` renders the lines of one in its scope. -/
def renderElements (ctx : Condition.Context) (sigil : Char) (header : LoopHeader) (scope : Args)
    (loop : Nat) (body : Args → Render (List Text)) : Nat → List Value → Render (List Text)
  | _, [] => pure []
  | position, item :: items => do
    let inner := elementScope header scope item position
    if ← passes ctx header inner then
      let lines ← body inner
      let p ← get
      let (t, bound) :=
        Naming.rename header sigil ⟨item, position, loop, inner⟩ (Text.unlines lines) p.bound
      set { p with bound }
      let more ← renderElements ctx sigil header scope loop body (position + 1) items
      return t :: more
    else renderElements ctx sigil header scope loop body (position + 1) items

/-- A loop gives one piece of text, or none if no element is kept. -/
def renderLoop (ctx : Condition.Context) (sigil : Char) (header : LoopHeader) (scope : Args)
    (body : Args → Render (List Text)) : Render (List Text) := do
  let p ← get
  set { p with loops := p.loops + 1 }
  match ← loopItems ctx scope header.source with
  | none => return []
  | some items =>
    let texts ← renderElements ctx sigil header scope p.loops body 0 items
    return if texts.isEmpty then [] else [Text.join header.delimiter texts]

mutual

/-- The lines of a block. -/
def renderBlock (ctx : Condition.Context) (sigil : Char) (scope : Args) :
    Block → Render (List Text)
  | .text line => pure [line]
  | .guarded condition body => do
    if ← condition.holds ctx scope then renderBlocks ctx sigil scope body else pure []
  | .choose branches none => renderBranches ctx sigil scope (pure []) branches
  | .choose branches (some otherwise) =>
    renderBranches ctx sigil scope (renderBlocks ctx sigil scope otherwise) branches
  | .loop header body =>
    renderLoop ctx sigil header scope fun inner => renderBlocks ctx sigil inner body

def renderBlocks (ctx : Condition.Context) (sigil : Char) (scope : Args) :
    List Block → Render (List Text)
  | [] => pure []
  | b :: bs => do
    let lines ← renderBlock ctx sigil scope b
    let more ← renderBlocks ctx sigil scope bs
    return lines ++ more

/-- The lines of the first branch that applies, or else those that `otherwise` gives. -/
def renderBranches (ctx : Condition.Context) (sigil : Char) (scope : Args)
    (otherwise : Render (List Text)) : List (Condition × List Block) → Render (List Text)
  | [] => otherwise
  | (condition, body) :: rest => do
    if ← condition.holds ctx scope then renderBlocks ctx sigil scope body
    else renderBranches ctx sigil scope otherwise rest

end

/-- Renders a template.  Arguments of the caller keep their values. -/
def render (ctx : Condition.Context) (sigil : Char) (blocks : Template) (args : Args) :
    Except Error Rendering := do
  let (lines, p) ← (renderBlocks ctx sigil args blocks).run ⟨0, ∅⟩
  return ⟨Text.unlines lines, args.union p.bound⟩

end Template

end SqlTemplate
