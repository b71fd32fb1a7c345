import SqlTemplate.Condition.Parser

/-!
Directive lines.  A directive stands alone on a line behind a number sign, which may be written as
a comment; it opens, divides or closes a block.
-/
namespace SqlTemplate.Directive

inductive Keyword where
  | «if»
  | fi
  | choose
  | switch
  | when
  | case
  | default
  | break
  | «end»
  | done
  | «for»
  deriving DecidableEq, Repr

namespace Keyword

def text : Keyword → String
  | «if» => "if"
  | fi => "fi"
  | choose => "choose"
  | switch => "switch"
  | when => "when"
  | case => "case"
  | default => "default"
  | «break» => "break"
  | «end» => "end"
  | done => "done"
  | «for» => "for"

def all : List Keyword :=
  [«if», fi, choose, switch, when, case, default, «break», «end», done, «for»]

/-- Keywords are read in any case of their letters. -/
def ofText? (w : Text) : Option Keyword := all.find? fun k => w.sameWord k.text.toList

end Keyword

/-- What follows the number sign of a line that may be a directive. -/
def body? (line : Text) : Option Text :=
  let line := line.trim
  let line := match Text.dropFront? ['-', '-'] line with
    | some rest => Text.skipBlanks rest
    | none => line
  Text.dropFront? ['#'] line

/-- The keyword of a directive line and what follows it, without the blanks around it. -/
def read? (line : Text) : Option (Keyword × Text) := do
  let body ← body? line
  let k ← Keyword.ofText? (body.takeWhile (!Unicode.isBlank ·))
  return (k, Text.trim (body.dropWhile (!Unicode.isBlank ·)))

/-- The kinds of blocks that directives open. -/
inductive Kind where
  | «if»
  | choose
  | switch
  | «for»
  deriving DecidableEq, Repr

def Kind.keyword : Kind → Keyword
  | «if» => .if
  | choose => .choose
  | switch => .switch
  | «for» => .for

/-- What can be wrong with the directives of a text. -/
inductive Problem where
  | missingCondition
  | badCondition (source : Text) (p : Condition.Problem)
  | badSwitchName (rest : Text)
  | badLoop (rest : Text)
  | unopenedIf
  | unopened (closing : Keyword)
  | mismatch (closing : Keyword) (opened : Kind) (line : Nat)
  | unclosed (opened : Kind)
  | branchOutside
  | branchAfterDefault
  | caseOutsideSwitch
  | defaultOutside
  | secondDefault
  | breakOutside
  | textOutsideBranch
  deriving DecidableEq, Repr

/-- A directive as messages show it. -/
def Keyword.label (k : Keyword) : String := "'--#" ++ k.text ++ "'"

def Problem.message : Problem → String
  | missingCondition => "missing condition"
  | badCondition source p => Condition.message source p
  | badSwitchName rest => "'--#switch' expects ':name', got '" ++ rest.str ++ "'"
  | badLoop rest => "malformed '--#for' header '" ++ rest.str ++ "'"
  | unopenedIf => "'--#fi' without matching '--#if'"
  | unopened closing => closing.label ++ " without matching '--#choose' or '--#for'"
  | mismatch closing opened line =>
    closing.label ++ " cannot close " ++ opened.keyword.label ++ " opened at line " ++ toString line
  | unclosed opened => opened.keyword.label ++ " is never closed"
  | branchOutside => "'--#when'/'--#case' outside of '--#choose'/'--#switch'"
  | branchAfterDefault => "branch after '--#default'"
  | caseOutsideSwitch => "'--#case' outside of '--#switch'"
  | defaultOutside => "'--#default' outside of '--#choose'"
  | secondDefault => "duplicate '--#default'"
  | breakOutside => "'--#break' outside of '--#choose'"
  | textOutsideBranch => "SQL outside of a '--#when'/'--#default' branch"

/-- A problem and the number of the line that shows it, counted from one. -/
structure Fault where
  line : Nat
  problem : Problem
  deriving DecidableEq, Repr

/-- The condition of a directive. -/
def condition (source : Text) (line : Nat) : Except Fault Condition :=
  if source.isBlank then .error ⟨line, .missingCondition⟩
  else
    match Condition.ofText source with
    | .ok c => .ok c
    | .error p => .error ⟨line, .badCondition source p⟩

def isSwitchPart (c : Char) : Bool := Unicode.isAlphanumeric c || c == '_' || c == '.'

/-- The argument that a switch compares with, behind a colon. -/
def switchName (rest : Text) (line : Nat) : Except Fault Text :=
  match rest with
  | ':' :: name =>
    if !name.isEmpty && name.all isSwitchPart then .ok name else .error ⟨line, .badSwitchName rest⟩
  | _ => .error ⟨line, .badSwitchName rest⟩

/-- A case compares the argument of its switch with what follows it. -/
def caseSource (name rest : Text) : Text := ':' :: name ++ " = ".toList ++ rest

end SqlTemplate.Directive
