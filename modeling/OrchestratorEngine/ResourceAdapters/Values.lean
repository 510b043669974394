import Mathlib.Algebra.Order.Field.Rat
import OrchestratorEngine.Foundation.Dict
import OrchestratorEngine.Foundation.Raising

set_option autoImplicit false

namespace OrchestratorEngine.ResourceAdapters

open Foundation

-- A string of the interpreter is a sequence of code points, which may hold a
-- surrogate on its own.
abbrev Text := List Nat

instance : LawfulBEq Text := List.instLawfulBEq

def lit (text : String) : Text := text.toList.map Char.toNat

def surrogate (point : Nat) : Bool := decide (0xD800 ≤ point ∧ point ≤ 0xDFFF)

def control (point : Nat) : Bool := decide (point < 32 ∨ 127 ≤ point ∧ point ≤ 159)

def utf8Size (point : Nat) : Nat :=
  if point < 0x80 then 1 else if point < 0x800 then 2 else if point < 0x10000 then 3 else 4

-- What json.loads returns. A number outside the range of a float is read as infinite.
inductive Json where
  | null
  | bool (truth : Bool)
  | int (value : Int)
  | float (value : Option Rat)
  | str (text : Text)
  | arr (items : List Json)
  | obj (fields : List (Text × Json))

inductive Failure where
  | resource (message : String)
  | typeError
  | unicodeError
  | overflow
deriving DecidableEq, Repr

def Failure.expected : Failure → Prop
  | resource _ => True
  | _ => False

instance : DecidablePred Failure.expected := fun failure =>
  match failure with
  | .resource _ => isTrue trivial
  | .typeError => isFalse id
  | .unicodeError => isFalse id
  | .overflow => isFalse id

namespace Json

def hashable : Json → Bool
  | arr _ => false
  | obj _ => false
  | _ => true

def isText (expected : Text) : Json → Bool
  | str text => decide (text = expected)
  | _ => false

-- "value in {...}" for a set of strings.
def among (value : Json) (names : List Text) : Except Failure Bool :=
  match value with
  | str text => .ok (decide (text ∈ names))
  | other => if other.hashable then .ok false else .error .typeError

-- "value.get(name)"
def item (name : String) (fields : List (Text × Json)) : Json := (Dict.getItem (lit name) fields).getD .null

-- "set(value) == {...}"
def hasFields (names : List String) (fields : List (Text × Json)) : Bool :=
  (names.all fun name => decide (lit name ∈ fields.map Prod.fst)) &&
    fields.all fun entry => decide (entry.1 ∈ names.map lit)

end Json

@[simp] theorem is_text_iff (expected : Text) (value : Json) : value.isText expected = true ↔
    value = .str expected := by
  cases value <;> simp [Json.isText]

@[simp] theorem among_confined (value : Json) (names : List Text) :
    Confined Failure.expected (value.among names) ↔ value.hashable = true := by
  cases value <;> simp [Json.among, Json.hashable, Failure.expected]

end OrchestratorEngine.ResourceAdapters
