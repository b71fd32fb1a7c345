import SqlTemplate.Dict
import SqlTemplate.Double.Reader
import SqlTemplate.Double.Shortest
import SqlTemplate.Unicode.Class

/-!
Argument values: null, truth values, numbers, strings, and arrays and objects of values.
-/
namespace SqlTemplate

/-- An integer is kept exactly; every other number is a double. -/
inductive Number where
  | integer (n : Int)
  | double (x : Double)
  deriving DecidableEq, Repr

namespace Number

def toDouble : Number → Double
  | integer n => Double.ofInt n
  | double x => x

def text : Number → String
  | integer n => toString n
  | double x => x.text

/-- Whether `n` fits a signed or an unsigned word of 64 bits. -/
def fits (n : Int) : Bool := -Int.pow 2 63 ≤ n && n < Int.pow 2 64

/-- Integers that fit no word of 64 bits become doubles. -/
def ofInt (n : Int) : Number := if fits n then integer n else double (Double.ofInt n)

end Number

/-- The fields of an object are in ascending order of their keys. -/
inductive Value where
  | null
  | bool (b : Bool)
  | number (n : Number)
  | string (s : Text)
  | array (items : List Value)
  | object (fields : List (Text × Value))
  deriving Repr

namespace Value

instance : Inhabited Value := ⟨null⟩

def ofFields (fields : List (Text × Value)) : Value := object (Dict.ofList fields).entries

def ofNat (n : Nat) : Value := number (.integer n)

def isNull : Value → Bool
  | null => true
  | _ => false

/-- Null, strings of white space, and empty containers. -/
def isBlank : Value → Bool
  | null => true
  | string s => s.isBlank
  | array items => items.isEmpty
  | object fields => fields.isEmpty
  | bool _ | number _ => false

/-- Numbers, and strings that write a number between white space, have a numeric value. -/
def toDouble? : Value → Option Double
  | number n => some n.toDouble
  | string s => Double.ofText? s.trim
  | _ => none

end Value

end SqlTemplate
