import SqlTemplate.Proofs.Args
import SqlTemplate.Template.Render

/-!
The names that conditions ask for.  What a condition answers depends on the arguments of these
names only.
-/
namespace SqlTemplate

def Operand.names : Operand → List Text
  | .argument name _ => [name]
  | .literal _ => []
  | .blank => []

mutual

/-- The names of the arguments in a formula. -/
def Formula.names : Formula → List Text
  | .any parts => Formula.namesOf parts
  | .all parts => Formula.namesOf parts
  | .not part => part.names
  | .compare left _ right => left.names ++ right.names
  | .test operand => operand.names

def Formula.namesOf : List Formula → List Text
  | [] => []
  | part :: parts => part.names ++ Formula.namesOf parts

end

namespace Condition

variable {ctx : Context} {args args' : Args}

theorem meaning_congr {operand : Operand}
    (h : ∀ name ∈ operand.names, args.lookup? name = args'.lookup? name) :
    meaning ctx args operand = meaning ctx args' operand := by
  cases operand with
  | argument name pipes => rw [meaning, meaning, h name (List.mem_singleton_self name)]
  | literal v => rfl
  | blank => rfl

mutual

theorem eval_congr : ∀ f : Formula,
    (∀ name ∈ f.names, args.lookup? name = args'.lookup? name) →
      eval ctx args f = eval ctx args' f
  | .any parts, h => by
    simp only [Formula.names] at h
    rw [eval, eval, evalAny_congr parts h]
  | .all parts, h => by
    simp only [Formula.names] at h
    rw [eval, eval, evalAll_congr parts h]
  | .not part, h => by
    simp only [Formula.names] at h
    rw [eval, eval, eval_congr part h]
  | .compare left op right, h => by
    simp only [Formula.names, List.mem_append] at h
    rw [eval, eval, meaning_congr fun name hname => h name (Or.inl hname),
      meaning_congr fun name hname => h name (Or.inr hname)]
  | .test operand, h => by
    simp only [Formula.names] at h
    rw [eval, eval, meaning_congr h]

theorem evalAny_congr : ∀ parts : List Formula,
    (∀ name ∈ Formula.namesOf parts, args.lookup? name = args'.lookup? name) →
      evalAny ctx args parts = evalAny ctx args' parts
  | [], _ => by rw [evalAny, evalAny]
  | part :: parts, h => by
    simp only [Formula.namesOf, List.mem_append] at h
    rw [evalAny, evalAny, eval_congr part fun name hname => h name (Or.inl hname),
      evalAny_congr parts fun name hname => h name (Or.inr hname)]

theorem evalAll_congr : ∀ parts : List Formula,
    (∀ name ∈ Formula.namesOf parts, args.lookup? name = args'.lookup? name) →
      evalAll ctx args parts = evalAll ctx args' parts
  | [], _ => by rw [evalAll, evalAll]
  | part :: parts, h => by
    simp only [Formula.namesOf, List.mem_append] at h
    rw [evalAll, evalAll, eval_congr part fun name hname => h name (Or.inl hname),
      evalAll_congr parts fun name hname => h name (Or.inr hname)]

end

/-- A condition answers alike where its names stand for the same. -/
theorem holds_congr {c : Condition}
    (h : ∀ name ∈ c.formula.names, args.lookup? name = args'.lookup? name) :
    c.holds ctx args = c.holds ctx args' := by
  rw [holds, holds, eval_congr c.formula h]

end Condition

/-- A name that a condition asks for, and the variables of the loops around the condition. -/
structure Ask where
  vars : List Text
  name : Text

/-- What the filter of a loop asks for; the loop's own variables are around it. -/
def LoopHeader.asks (vars : List Text) (header : LoopHeader) : List Ask :=
  match header.filter with
  | some filter => filter.formula.names.map fun name => ⟨header.vars ++ vars, name⟩
  | none => []

mutual

/-- What the conditions and filters in a block ask for, inside loops with these variables. -/
def Block.asks (vars : List Text) : Block → List Ask
  | .text _ => []
  | .guarded c body => c.formula.names.map (⟨vars, ·⟩) ++ Template.asks vars body
  | .choose branches none => Template.branchAsks vars branches
  | .choose branches (some otherwise) =>
    Template.branchAsks vars branches ++ Template.asks vars otherwise
  | .loop header body => header.asks vars ++ Template.asks (header.vars ++ vars) body

def Template.asks (vars : List Text) : List Block → List Ask
  | [] => []
  | b :: bs => b.asks vars ++ Template.asks vars bs

def Template.branchAsks (vars : List Text) : List (Condition × List Block) → List Ask
  | [] => []
  | (c, body) :: rest =>
    c.formula.names.map (⟨vars, ·⟩) ++ Template.asks vars body ++ Template.branchAsks vars rest

end

end SqlTemplate
