import SqlTemplate.Args
import SqlTemplate.Condition.Parser
import SqlTemplate.Pattern.Parser
import SqlTemplate.Pipe

/-!
What conditions mean.  Values compare as numbers where both sides have a numeric value and as
texts otherwise; null equals only null and has no order; `blank` on one side asks whether the
other side is blank.
-/
namespace SqlTemplate

namespace Value

/-- What counts as true when a value stands alone. -/
def isTrue : Value → Bool
  | bool b => b
  | number n => !n.toDouble.isZero
  | string s => !s.isBlank && !s.trim.sameWord "false".toList
  | v => !v.isBlank

def equals : Value → Value → Bool
  | null, null => true
  | null, _ => false
  | _, null => false
  | bool a, bool b => a == b
  | a, b =>
    match a.toDouble?, b.toDouble? with
    | some x, some y => x.compare? y == some .eq
    | _, _ => a.display == b.display

/-- The order of texts is that of their characters. -/
def compareText (a b : Text) : Ordering := if a < b then .lt else if a = b then .eq else .gt

def order? : Value → Value → Option Ordering
  | null, _ => none
  | _, null => none
  | a, b =>
    match a.toDouble?, b.toDouble? with
    | some x, some y => x.compare? y
    | _, _ => some (compareText a.display b.display)

end Value

namespace Condition

/-- Settings that all conditions of one rendering share. -/
structure Context where
  /-- Absent arguments are errors; otherwise they count as null. -/
  strict : Bool
  pipes : Pipes

/-- What an operand stands for: a value, or the word `blank`. -/
inductive Meaning where
  | value (v : Value)
  | blank

/-- Why a condition has no answer. -/
inductive Failure where
  | missingArgument (name : Text)
  | problem (p : Problem)

def applyPipes (ctx : Context) : List Text → Value → Except Failure Value
  | [], v => .ok v
  | name :: names, v =>
    match ctx.pipes.get? name with
    | some pipe => applyPipes ctx names (pipe v)
    | none => .error (.problem (.unknownPipe name))

def meaning (ctx : Context) (args : Args) : Operand → Except Failure Meaning
  | .blank => .ok .blank
  | .literal v => .ok (.value v)
  | .argument name pipes =>
    match args.lookup? name with
    | some v => (applyPipes ctx pipes v).map .value
    | none =>
      if ctx.strict then .error (.missingArgument name)
      else (applyPipes ctx pipes .null).map .value

/-- Null holds no match, but the pattern is read all the same. -/
def search (l r : Value) : Except Failure Bool :=
  match Pattern.ofText? r.display with
  | none => .error (.problem .badPattern)
  | some p => .ok (!l.isNull && p.occursIn l.display)

def compareValues (op : Comparison) (l r : Value) : Except Failure Bool :=
  match op with
  | .eq => .ok (l.equals r)
  | .ne => .ok (!l.equals r)
  | .lt => .ok (l.order? r == some .lt)
  | .gt => .ok (l.order? r == some .gt)
  | .le => .ok (l.order? r == some .lt || l.order? r == some .eq)
  | .ge => .ok (l.order? r == some .gt || l.order? r == some .eq)
  | .found => search l r
  | .notFound => (search l r).map (!·)

def compareMeanings (op : Comparison) : Meaning → Meaning → Except Failure Bool
  | .blank, .blank => .ok (op == .eq)
  | .value v, .blank => .ok (isBlankAs op v)
  | .blank, .value v => .ok (isBlankAs op v)
  | .value l, .value r => compareValues op l r
where
  isBlankAs (op : Comparison) (v : Value) : Bool :=
    match op with
    | .eq => v.isBlank
    | .ne => !v.isBlank
    | _ => false

mutual

/-- The answer of a formula.  Connectives ask no further part than they need. -/
def eval (ctx : Context) (args : Args) : Formula → Except Failure Bool
  | .any parts => evalAny ctx args parts
  | .all parts => evalAll ctx args parts
  | .not part => (eval ctx args part).map (!·)
  | .compare left op right => do
    let l ← meaning ctx args left
    let r ← meaning ctx args right
    compareMeanings op l r
  | .test operand => do
    match ← meaning ctx args operand with
    | .blank => .ok false
    | .value v => .ok v.isTrue

def evalAny (ctx : Context) (args : Args) : List Formula → Except Failure Bool
  | [] => .ok false
  | part :: parts => do if ← eval ctx args part then .ok true else evalAny ctx args parts

def evalAll (ctx : Context) (args : Args) : List Formula → Except Failure Bool
  | [] => .ok true
  | part :: parts => do if ← eval ctx args part then evalAll ctx args parts else .ok false

end

end Condition

end SqlTemplate
