import SqlTemplate.Error
import SqlTemplate.Parameter

/-!
Statements: SQL text whose named parameters have become question marks, with the names in their
order; and the other way to fill parameters in, by writing their values as literals.
-/
namespace SqlTemplate

/-- SQL text as it was, and with question marks for its parameters.  The names of these are in
order, and each has a list of its positions, counted from one. -/
structure Statement where
  source : Text
  sql : Text
  names : List Text
  ordinalMap : Dict (List Nat)
  args : Args

namespace Statement

def writePositional : Parameter.Piece → Text
  | .text t => t
  | .parameter _ => ['?']

/-- Collects a name, with its position. -/
def collect (s : Statement) (name : Text) : Statement :=
  let names := s.names ++ [name]
  let ordinals := (s.ordinalMap.get? name).getD [] ++ [names.length]
  { s with names, ordinalMap := s.ordinalMap.insert name ordinals }

/-- Writes one more piece, and collects its name if it is a parameter. -/
def write (s : Statement) (p : Parameter.Piece) : Statement :=
  let s := { s with sql := s.sql ++ writePositional p }
  match p with
  | .text _ => s
  | .parameter name => s.collect name

/-- Makes question marks of the parameters. -/
def ofSql (sigil : Char) (sql : Text) (args : Args) : Statement :=
  (Parameter.split sigil sql).foldl write ⟨sql, [], [], ∅, args⟩

/-! What is made of some pieces. -/

section

variable (ps : List Parameter.Piece) (s : Statement)

/-- What no piece changes is the same behind all of them. -/
theorem foldl_write_eq {α : Type} {f : Statement → α} (h : ∀ s p, f (s.write p) = f s) :
    f (ps.foldl write s) = f s := by
  induction ps generalizing s with
  | nil => rfl
  | cons p ps ih => rw [List.foldl_cons, ih, h]

theorem sql_foldl_write : (ps.foldl write s).sql = s.sql ++ ps.flatMap writePositional := by
  induction ps generalizing s with
  | nil => simp
  | cons p ps ih =>
    rw [List.foldl_cons, ih, List.flatMap_cons, ← List.append_assoc]
    cases p <;> rfl

theorem names_foldl_write :
    (ps.foldl write s).names = s.names ++ ps.filterMap fun
      | .text _ => none
      | .parameter name => some name := by
  induction ps generalizing s with
  | nil => simp
  | cons p ps ih =>
    rw [List.foldl_cons, ih]
    cases p <;> simp [write, collect]

end

section

variable (sigil : Char) (sql : Text) (args : Args)

@[simp] theorem source_ofSql : (ofSql sigil sql args).source = sql :=
  foldl_write_eq _ _ fun _ p => by cases p <;> rfl

@[simp] theorem args_ofSql : (ofSql sigil sql args).args = args :=
  foldl_write_eq _ _ fun _ p => by cases p <;> rfl

theorem sql_ofSql :
    (ofSql sigil sql args).sql = (Parameter.split sigil sql).flatMap writePositional :=
  sql_foldl_write _ _

@[simp] theorem names_ofSql : (ofSql sigil sql args).names = Parameter.names sigil sql :=
  names_foldl_write _ _

end

/-- The values of the names, in their order. -/
def values (s : Statement) : List (Option Value) := s.names.map s.args.lookup?

/-- Writes a piece with its parameter as a literal.  A parameter without a value is an error in
strict mode and stays as it is otherwise. -/
def writeLiteral (sigil : Char) (args : Args) (strict : Bool) :
    Parameter.Piece → Except Error Text
  | .text t => .ok t
  | .parameter name =>
    match args.lookup? name with
    | some v => .ok v.literal
    | none => if strict then .error (.missingArgument name) else .ok (sigil :: name)

/-- Writes the values of the parameters as literals in their places. -/
def inline (sigil : Char) (sql : Text) (args : Args) (strict : Bool) : Except Error Text := do
  let ts ← (Parameter.split sigil sql).mapM (writeLiteral sigil args strict)
  return ts.flatten

end Statement

end SqlTemplate
