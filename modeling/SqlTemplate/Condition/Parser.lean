import SqlTemplate.Condition.Lexer

/-!
Conditions as trees, and reading them from tokens.  Alternatives bind loosest, then conjunctions,
then negation; parentheses group; a comparison is not a comparison's side.
-/
namespace SqlTemplate

inductive Operand where
  | argument (name : Text) (pipes : List Text)
  | literal (v : Value)
  | blank
  deriving Repr

/-- Chains of one connective are one node. -/
inductive Formula where
  | any (parts : List Formula)
  | all (parts : List Formula)
  | not (part : Formula)
  | compare (left : Operand) (op : Comparison) (right : Operand)
  | test (operand : Operand)
  deriving Repr

/-- A condition with its text, blanks around it removed. -/
structure Condition where
  source : Text
  formula : Formula
  deriving Repr

namespace Condition

/-- What some of the tokens `ts` mean, and those behind them. -/
structure Parsed (α : Type) (ts : List Token) where
  value : α
  rest : List Token
  shorter : rest.length < ts.length

/-- The same for what may take no token at all. -/
structure ParsedMany (α : Type) (ts : List Token) where
  values : List α
  rest : List Token
  notLonger : rest.length ≤ ts.length

/-- The names of pipes, each behind a bar. -/
def pipes (ts : List Token) : Except Problem (ParsedMany Text ts) :=
  match ts with
  | .pipe :: .word w :: ts' => do
    let p ← pipes ts'
    .ok ⟨w :: p.values, p.rest, by have := p.notLonger; simp only [List.length_cons]; omega⟩
  | .pipe :: _ => .error .missingPipeName
  | ts => .ok ⟨[], ts, Nat.le_refl _⟩

/-- What a bare word stands for; four words, in any case, are not their own text. -/
def wordOperand (w : Text) : Operand :=
  if w.sameWord "null".toList then .literal .null
  else if w.sameWord "blank".toList then .blank
  else if w.sameWord "true".toList then .literal (.bool true)
  else if w.sameWord "false".toList then .literal (.bool false)
  else .literal (.string w)

def operand (ts : List Token) : Except Problem (Parsed Operand ts) :=
  match ts with
  | [] => .error .unexpectedEnd
  | .argument name :: rest => do
    let p ← pipes rest
    .ok ⟨.argument name p.values, p.rest, Nat.lt_succ_of_le p.notLonger⟩
  | .string s :: rest => .ok ⟨.literal (.string s), rest, Nat.lt_succ_self _⟩
  | .number n :: rest => .ok ⟨.literal (.number n), rest, Nat.lt_succ_self _⟩
  | .word w :: rest => .ok ⟨wordOperand w, rest, Nat.lt_succ_self _⟩
  | t :: _ => .error (.unexpectedToken t)

/-- `not`, where it stands first. -/
def negated : List Token → Bool × List Token
  | .word w :: rest => if w.sameWord "not".toList then (true, rest) else (false, .word w :: rest)
  | ts => (false, ts)

theorem length_negated_le (ts : List Token) : (negated ts).2.length ≤ ts.length := by
  unfold negated
  split
  · split <;> simp
  · simp

/-- What may follow `is` and `is not`. -/
def nullOrBlank (ts : List Token) : Except Problem (Parsed Operand ts) :=
  match ts with
  | .word w :: rest =>
    if w.sameWord "null".toList then .ok ⟨.literal .null, rest, Nat.lt_succ_self _⟩
    else if w.sameWord "blank".toList then .ok ⟨.blank, rest, Nat.lt_succ_self _⟩
    else .error .missingNullOrBlank
  | _ => .error .missingNullOrBlank

/-- An operand, compared with another one, with null or blank, or standing alone. -/
def comparison (ts : List Token) : Except Problem (Parsed Formula ts) := do
  let left ← operand ts
  have := left.shorter
  match hrest : left.rest with
  | .comparison op :: rest =>
    let right ← operand rest
    .ok ⟨.compare left.value op right.value, right.rest, by
      have := right.shorter; have := congrArg List.length hrest
      simp only [List.length_cons] at this; omega⟩
  | .word w :: rest =>
    if w.sameWord "is".toList then
      let right ← nullOrBlank (negated rest).2
      .ok ⟨.compare left.value (if (negated rest).1 then .ne else .eq) right.value, right.rest, by
        have := right.shorter; have := length_negated_le rest
        have := congrArg List.length hrest
        simp only [List.length_cons] at this; omega⟩
    else .ok ⟨.test left.value, .word w :: rest, by rw [← hrest]; exact left.shorter⟩
  | rest => .ok ⟨.test left.value, rest, by rw [← hrest]; exact left.shorter⟩

/-- A chain of one part is that part. -/
def chain (node : List Formula → Formula) (first : Formula) : List Formula → Formula
  | [] => first
  | more => node (first :: more)

mutual

def disjunction (ts : List Token) : Except Problem (Parsed Formula ts) := do
  let first ← conjunction ts
  have := first.shorter
  let more ← disjuncts first.rest
  .ok ⟨chain .any first.value more.values, more.rest, by have := more.notLonger; omega⟩
termination_by (ts.length, 4)

def disjuncts (ts : List Token) : Except Problem (ParsedMany Formula ts) :=
  match ts with
  | .or :: rest => do
    let next ← conjunction rest
    have := next.shorter
    let more ← disjuncts next.rest
    .ok ⟨next.value :: more.values, more.rest, by
      have := more.notLonger; simp only [List.length_cons]; omega⟩
  | ts => .ok ⟨[], ts, Nat.le_refl _⟩
termination_by (ts.length, 3)

def conjunction (ts : List Token) : Except Problem (Parsed Formula ts) := do
  let first ← unary ts
  have := first.shorter
  let more ← conjuncts first.rest
  .ok ⟨chain .all first.value more.values, more.rest, by have := more.notLonger; omega⟩
termination_by (ts.length, 2)

def conjuncts (ts : List Token) : Except Problem (ParsedMany Formula ts) :=
  match ts with
  | .and :: rest => do
    let next ← unary rest
    have := next.shorter
    let more ← conjuncts next.rest
    .ok ⟨next.value :: more.values, more.rest, by
      have := more.notLonger; simp only [List.length_cons]; omega⟩
  | ts => .ok ⟨[], ts, Nat.le_refl _⟩
termination_by (ts.length, 1)

def unary (ts : List Token) : Except Problem (Parsed Formula ts) :=
  match ts with
  | .bang :: rest => do
    let part ← unary rest
    .ok ⟨.not part.value, part.rest, Nat.lt_succ_of_lt part.shorter⟩
  | .openParen :: rest => do
    let inner ← disjunction rest
    match hrest : inner.rest with
    | .closeParen :: rest' => .ok ⟨inner.value, rest', by
        have := inner.shorter; have := congrArg List.length hrest
        simp only [List.length_cons] at this ⊢; omega⟩
    | _ => .error .missingParenthesis
  | ts => comparison ts
termination_by (ts.length, 0)

end

/-- Reads all tokens as one condition. -/
def formulaOfTokens (ts : List Token) : Except Problem Formula := do
  let parsed ← disjunction ts
  match parsed.rest with
  | [] => .ok parsed.value
  | t :: _ => .error (.unexpectedToken t)

def ofText (source : Text) : Except Problem Condition := do
  let ts ← tokens source
  let formula ← formulaOfTokens ts
  .ok ⟨source.trim, formula⟩

end Condition

end SqlTemplate
