import SqlTemplate.Statement

/-!
Queries: statements with a binder that gives a value for each of their names, and a database that
records what it is sent.
-/
namespace SqlTemplate

/-- A value as it is bound to a question mark. -/
inductive Bound where
  | null
  | bool (b : Bool)
  | signed (n : Int)
  | unsigned (n : Int)
  | double (x : Double)
  | text (t : Text)
  deriving DecidableEq, Repr

namespace Bound

/-- Integers are signed where they fit; arrays and objects are bound as their JSON text. -/
def ofValue : Option Value → Bound
  | none => null
  | some .null => null
  | some (.bool b) => bool b
  | some (.number (.integer n)) => if n < Int.pow 2 63 then signed n else unsigned n
  | some (.number (.double x)) => double x
  | some (.string s) => text s
  | some v => text v.json

end Bound

/-- What is bound for a name; nothing may be. -/
abbrev Binder := Text → Option Bound

/-- A statement's text, the names of its question marks in order, and their binder. -/
structure Query where
  sql : Text
  order : List Text
  binder : Binder

/-- A statement as it was sent, with its values. -/
structure Sent where
  sql : Text
  bound : List Bound
  deriving DecidableEq, Repr

/-- The ways to run a query. -/
inductive Run where
  | execute
  | fetchAll
  | fetchOne
  | fetchOptional
  deriving DecidableEq, Repr

/-- What comes back from a database without rows. -/
inductive Outcome where
  | counts (affected lastId : Nat)
  | rows (count : Nat)
  | row (found : Bool)
  deriving DecidableEq, Repr

/-- A database that keeps what it is sent, in order, and has no rows. -/
structure Recorder where
  sent : List Sent

namespace Query

/-- A query of a statement with a binder. -/
def ofStatement (s : Statement) (binder : Binder) : Query := ⟨s.sql, s.names, binder⟩

/-- A query of SQL text, whose parameters are marked by colons. -/
def ofSql (sql : Text) (binder : Binder) : Query := ofStatement (Statement.ofSql ':' sql ∅) binder

/-- A query that binds the statement's own arguments; each of its names has to have a value. -/
def ofArgs (s : Statement) : Except Error Query :=
  match s.names.find? fun name => (s.args.lookup? name).isNone with
  | some name => .error (.unboundParameter name)
  | none => .ok (ofStatement s fun name => some (Bound.ofValue (s.args.lookup? name)))

/-- What one execution sends: the binder is asked once for each name. -/
def sent (q : Query) : Sent := ⟨q.sql, q.order.filterMap q.binder⟩

/-- Runs a query. -/
def run (q : Query) (r : Run) (db : Recorder) : Except Error Outcome × Recorder :=
  let db := ⟨db.sent ++ [q.sent]⟩
  match r with
  | .execute => (.ok (.counts 0 0), db)
  | .fetchAll => (.ok (.rows 0), db)
  | .fetchOne => (.error .noRow, db)
  | .fetchOptional => (.ok (.row false), db)

/-- Runs several queries one after another. -/
def runAll : List (Query × Run) → Recorder → List (Except Error Outcome) × Recorder
  | [], db => ([], db)
  | (q, r) :: rest, db =>
    let (outcome, db) := q.run r db
    let (outcomes, db) := runAll rest db
    (outcome :: outcomes, db)

/-- A binder of the arguments with exactly the names asked for. -/
def exactBinder (args : Args) : Binder := fun name =>
  (args.get? name).map fun v => Bound.ofValue (some v)

end Query

end SqlTemplate
