import Mathlib.Algebra.Order.Field.Rat
import OrchestratorEngine.Foundation.Dict
import OrchestratorEngine.Foundation.Outcome

set_option autoImplicit false

namespace OrchestratorEngine.Metrics

open Foundation

-- What the interpreter raises where a value is not of the type that is used.
inductive Fault where
  | typeError
  | valueError (message : String)
  | overflow
deriving DecidableEq, Repr

-- What json.loads returns; the keys of an object are distinct.
inductive Json where
  | null
  | bool (truth : Bool)
  | int (value : Int)
  | float (value : Rat)
  | str (text : String)
  | arr (items : List Json)
  | obj (fields : List (String × Json))

namespace Json

def hashable : Json → Bool
  | arr _ => false
  | obj _ => false
  | _ => true

-- "value in {...}" for a set of strings.
def among (value : Json) (names : List String) : Except Fault Bool :=
  match value with
  | str text => .ok (decide (text ∈ names))
  | other => if other.hashable then .ok false else .error .typeError

def isStr : Json → Bool
  | str _ => true
  | _ => false

-- "isinstance(value, str) and value"
def isText : Json → Bool
  | str text => decide (text ≠ "")
  | _ => false

def text? : Json → Option String
  | str text => if text = "" then none else some text
  | _ => none

def truthy : Json → Bool
  | null => false
  | bool truth => truth
  | int value => decide (value ≠ 0)
  | float value => decide (value ≠ 0)
  | str text => decide (text ≠ "")
  | arr items => !items.isEmpty
  | obj fields => !fields.isEmpty

def isTrue : Json → Bool
  | bool truth => truth
  | _ => false

def isFalse : Json → Bool
  | bool truth => !truth
  | _ => false

def isNull : Json → Bool
  | null => true
  | _ => false

def number? : Json → Option Rat
  | bool truth => some (if truth then 1 else 0)
  | int value => some value
  | float value => some value
  | _ => none

-- "value == text"
def names (value : Json) (text : String) : Bool :=
  match value with
  | .str other => decide (other = text)
  | _ => false

def sameScalar : Json → Json → Bool
  | null, null => true
  | str left, str right => decide (left = right)
  | left, right =>
      match left.number?, right.number? with
      | some first, some second => decide (first = second)
      | _, _ => false

mutual

def agree (scalar : Json → Json → Bool) : Json → Json → Bool
  | arr left, arr right => agreeItems scalar left right
  | obj left, obj right => decide (left.length = right.length) && agreeFields scalar left right
  | left, right => scalar left right

def agreeItems (scalar : Json → Json → Bool) : List Json → List Json → Bool
  | [], [] => true
  | left :: leftRest, right :: rightRest => agree scalar left right && agreeItems scalar leftRest rightRest
  | _, _ => false

def agreeFields (scalar : Json → Json → Bool) : List (String × Json) → List (String × Json) → Bool
  | [], _ => true
  | (name, left) :: rest, fields =>
      (match Dict.getItem name fields with
        | some right => agree scalar left right
        | none => false) && agreeFields scalar rest fields

end

-- "left == right"
def equals : Json → Json → Bool := agree sameScalar

end Json

end OrchestratorEngine.Metrics
