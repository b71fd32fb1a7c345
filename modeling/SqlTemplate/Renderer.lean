import SqlTemplate.Cleanup
import SqlTemplate.Statement
import SqlTemplate.Template.Render

/-!
The way from a template to SQL: directives first, then placeholders, then parameters.
-/
namespace SqlTemplate

/-- The settings of a rendering: the sigil of parameters, the constants for placeholders that no
argument fills, and the settings of conditions. -/
structure Renderer where
  sigil : Char
  constants : Dict Text
  context : Condition.Context

namespace Renderer

/-- A renderer with the built-in pipes.  A sigil that names could hold is refused. -/
def make (sigil : Char) (constants : Dict Text) (strict : Bool) : Except Error Renderer :=
  if isSigil sigil then .ok ⟨sigil, constants, strict, Pipes.builtin⟩
  else .error (.settings (.sigil sigil))

/-- The same renderer with one more pipe, or another one of that name. -/
def withPipe (r : Renderer) (name : Text) (pipe : Pipe) : Renderer :=
  { r with context := { r.context with pipes := r.context.pipes.insert name pipe } }

/-- Renders the directives and cleans up after clauses that were left out. -/
def render (r : Renderer) (t : Template) (args : Args) : Except Error Rendering := do
  let rendering ← t.render r.context r.sigil args
  return { rendering with sql := cleanup rendering.sql }

/-- The rendered SQL with its placeholders filled. -/
def expand (r : Renderer) (rendering : Rendering) : Text :=
  Placeholder.expand rendering.args r.constants rendering.sql

/-- Renders to a statement with question marks. -/
def prepare (r : Renderer) (t : Template) (args : Args) : Except Error Statement := do
  let rendering ← r.render t args
  return Statement.ofSql r.sigil (r.expand rendering) rendering.args

/-- Renders to SQL with literals. -/
def inline (r : Renderer) (t : Template) (args : Args) : Except Error Text := do
  let rendering ← r.render t args
  Statement.inline r.sigil (r.expand rendering) rendering.args r.context.strict

end Renderer

/-- Reads a template; what is wrong with its directives is an error. -/
def Template.parse (t : Text) : Except Error Template :=
  match Template.ofText t with
  | .ok blocks => .ok blocks
  | .error fault => .error (.directive fault)

namespace Renderer

/-- Reads a template and renders it to a statement. -/
def prepareText (r : Renderer) (t : Text) (args : Args) : Except Error Statement := do
  r.prepare (← Template.parse t) args

/-- Reads a template and renders it to SQL with literals. -/
def inlineText (r : Renderer) (t : Text) (args : Args) : Except Error Text := do
  r.inline (← Template.parse t) args

end Renderer

end SqlTemplate
