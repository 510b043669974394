import Mathlib.Data.List.Dedup
import Mathlib.Data.List.Sort
import Mathlib.Data.String.Basic
import OrchestratorEngine.Foundation.Claims
import OrchestratorEngine.Foundation.Outcome

set_option autoImplicit false

namespace OrchestratorEngine.ResourceQueue

open Foundation

abbrev Name := String

-- ResourceError and TypeError carry their texts; a KeyError names the missing key.
-- The file system may refuse a step (OSError) and a signal may break one off.
inductive Error where
  | resource (message : String)
  | key (name : String)
  | type (message : String)
  | os
  | interrupted
deriving DecidableEq, Repr

def identifier (value : Name) : Except Error Name := do
  refuse (value = "" ∨ 160 < value.length)
    (.resource "expected a nonempty identifier of at most 160 characters")
  return value

-- What JSON may hold where the source expects a number. A list and an object
-- stand by their text; integers have no bound, and sums of fractions are exact.
inductive Quantity where
  | integer (value : Int)
  | fraction (value : Rat)
  | truth (value : Bool)
  | null
  | text (value : String)
  | list (items : String)
  | object (items : String)
deriving DecidableEq, Repr

namespace Quantity

def typeName : Quantity → String
  | integer _ => "int"
  | fraction _ => "float"
  | truth _ => "bool"
  | null => "NoneType"
  | text _ => "str"
  | list _ => "list"
  | object _ => "dict"

-- What an integer is compared with: it exceeds a number if it exceeds its floor.
def floor : Quantity → Except Error Int
  | integer value => return value
  | fraction value => return value.floor
  | truth value => return value.toNat
  | other => throw (.type ("'>' not supported between instances of 'int' and '" ++ other.typeName ++ "'"))

def numeric : Quantity → Bool
  | integer _ | fraction _ | truth _ => true
  | _ => false

def next : Quantity → Except Error Quantity
  | integer value => return .integer (value + 1)
  | fraction value => return .fraction (value + 1)
  | truth value => return .integer (value.toNat + 1)
  | text _ => throw (.type "can only concatenate str (not \"int\") to str")
  | list _ => throw (.type "can only concatenate list (not \"int\") to list")
  | other => throw (.type ("unsupported operand type(s) for +: '" ++ other.typeName ++ "' and 'int'"))

theorem floor_total (quantity : Quantity) :
    (∃ value, quantity.floor = .ok value) ↔ quantity.numeric = true := by
  cases quantity <;> simp [floor, numeric]

theorem next_total (quantity : Quantity) :
    (∃ later, quantity.next = .ok later) ↔ quantity.numeric = true := by
  cases quantity <;> simp [next, numeric]

theorem next_numeric (quantity later : Quantity) (done : quantity.next = .ok later) :
    later.numeric = quantity.numeric := by
  cases quantity <;> simp_all [next, numeric] <;> subst done <;> rfl

end Quantity

def positive (value : Quantity) : Except Error Nat := do
  match value with
  | .integer value =>
      refuse (value < 1) (.resource "capacity and units must be positive integers")
      return value.toNat
  | _ => throw (.resource "capacity and units must be positive integers")

theorem positive_iff (value : Quantity) (units : Nat) :
    positive value = .ok units ↔ value = .integer units ∧ 1 ≤ units := by
  cases value with
  | integer value =>
      simp only [positive, bind_ok_iff, refuse_ok_iff, exists_const, pure_ok, Except.ok.injEq, Quantity.integer.injEq]
      omega
  | _ => simp [positive]

inductive Kind where
  | resource
  | aliased
  | pool
  | bundle
  | other (text : String)
deriving DecidableEq, Repr

inductive Release where
  | process
  | probe
  | other (text : String)
deriving DecidableEq, Repr

-- One object of the registry, before or after normalization. Every key is
-- optional, a selector may carry keys that only leaves use, and the command
-- of a probe stays opaque (none when it is missing or empty).
structure Entry where
  kind : Option Kind := none
  members : Option (List Name) := none
  physicalId : Option Name := none
  capacity : Option Quantity := none
  incarnation : Option Name := none
  release : Option Release := none
  probe : Option String := none
  recoveryGroup : Option Name := none
deriving DecidableEq, Repr

abbrev Registry := Dict Name Entry

abbrev Claim := Foundation.Claim Name

abbrev Allocation := Foundation.Allocation Name Name

def unknownSelector : Error := .resource "unknown or cyclic resource selector"

def enter (registry : Registry) (name : Name) (trail : List Name) : Except Error Entry :=
  if name ∈ trail then throw unknownSelector
  else
    match registry.get? name with
    | none => throw unknownSelector
    | some entry => return entry

-- The trail only grows with distinct registry names, so it bounds every
-- recursion over selectors; one level more than its longest is enough fuel.
def depth (registry : Registry) : Nat := registry.items.length + 1

def selectorLeavesWithin (registry : Registry) : Nat → Name → List Name → Except Error (List Name)
  | 0, _, _ => throw unknownSelector
  | fuel + 1, name, trail => do
      let entry ← enter registry name trail
      if entry.kind = some .resource then
        return [name]
      let leaves ← (entry.members.getD []).mapM fun member =>
        selectorLeavesWithin registry fuel member (trail ++ [name])
      return leaves.flatten.dedup

def selectorLeaves (registry : Registry) (name : Name) : Except Error (List Name) :=
  selectorLeavesWithin registry (depth registry) name []

def selectorAvailableWithin (registry : Registry) (excluded : List Name) :
    Nat → Name → List Name → Except Error Bool
  | 0, _, _ => throw unknownSelector
  | fuel + 1, name, trail => do
      let entry ← enter registry name trail
      if entry.kind = some .resource then
        return decide (name ∉ excluded)
      let available ← (entry.members.getD []).mapM fun member =>
        selectorAvailableWithin registry excluded fuel member (trail ++ [name])
      if entry.kind = some .aliased ∨ entry.kind = some .pool then
        return available.any id
      return available.all id

def capacityOf (registry : Registry) (leaf : Name) : Except Error Int :=
  match registry.get? leaf with
  | none => throw (.key leaf)
  | some entry =>
      match entry.capacity with
      | none => throw (.key "capacity")
      | some capacity => capacity.floor

def compatibleItem (registry : Registry) (others : List Allocation) (item : Name × Claim) : Except Error Bool := do
  let (leaf, claim) := item
  if (registry.get? leaf).isSome then
    if (← capacityOf registry leaf) < claim.units then
      return false
  let occupied := claimsOn leaf others
  if occupied = [] then
    return true
  if claim.mode = .exclusive ∨
      occupied.any (fun other => other.mode ≠ .shared ∨ other.compatibility ≠ claim.compatibility) then
    return false
  if (← capacityOf registry leaf) < claim.units + unitsHeld occupied then
    return false
  return true

def compatible (registry : Registry) (allocation : Allocation) (others : List Allocation) : Except Error Bool :=
  allocation.items.allM (compatibleItem registry others)

def selectorClaimAvailableWithin (registry : Registry) (claim : Claim) (others : List Allocation)
    (excluded : List Name) : Nat → Name → List Name → Except Error Bool
  | 0, _, _ => throw unknownSelector
  | fuel + 1, name, trail => do
      let entry ← enter registry name trail
      if entry.kind = some .resource then
        if name ∈ excluded then
          return false
        return (← compatible registry (Dict.single name claim) others)
      let check := fun member =>
        selectorClaimAvailableWithin registry claim others excluded fuel member (trail ++ [name])
      if entry.kind = some .aliased ∨ entry.kind = some .pool then
        (entry.members.getD []).anyM check
      else
        (entry.members.getD []).allM check

def selectorClaimAvailable (registry : Registry) (name : Name) (claim : Claim) (others : List Allocation)
    (excluded : List Name) : Except Error Bool :=
  selectorClaimAvailableWithin registry claim others excluded (depth registry) name []

def memberKey (registry : Registry) (priority : Name → Int) (member : Name) : Except Error (Int × Name) := do
  let leaves ← selectorLeaves registry member
  return ((leaves.map priority).min?.getD 0, member)

def keyOrder (first second : Int × Name) : Prop :=
  first.1 < second.1 ∨ first.1 = second.1 ∧ first.2 ≤ second.2

instance (first second : Int × Name) : Decidable (keyOrder first second) := by
  unfold keyOrder
  infer_instance

def sortedMembers (registry : Registry) (priority : Name → Int) (members : List Name) :
    Except Error (List Name) := do
  let keyed ← members.mapM (memberKey registry priority)
  return (keyed.insertionSort keyOrder).map Prod.snd

-- The recursion over a bundle's members; the option lists stand for the
-- generators that the source restarts at every index.
def combine : List (List (List Name)) → List Name → List (List Name)
  | [], selected => [selected.insertionSort (· ≤ ·)]
  | options :: rest, selected => options.flatMap fun option =>
      if option.any (fun leaf => decide (leaf ∈ selected)) then [] else combine rest (selected ++ option)

def alternativesWithin (registry : Registry) (priority : Name → Int) (excluded : List Name) :
    Nat → Name → List Name → Except Error (List (List Name))
  | 0, _, _ => throw unknownSelector
  | fuel + 1, name, trail => do
      let entry ← enter registry name trail
      if entry.kind = some .resource then
        return if name ∈ excluded then [] else [[name]]
      if !(← selectorAvailableWithin registry excluded (fuel + 1) name trail) then
        return []
      let members ← sortedMembers registry priority (entry.members.getD [])
      let options ← members.mapM fun member =>
        alternativesWithin registry priority excluded fuel member (trail ++ [name])
      if entry.kind = some .aliased ∨ entry.kind = some .pool then
        return options.flatten.eraseDups
      return (combine options []).eraseDups

def alternatives (registry : Registry) (name : Name) (priority : Name → Int) (excluded : List Name) :
    Except Error (List (List Name)) :=
  alternativesWithin registry priority excluded (depth registry) name []

def normalizeResource (name : Name) (entry : Entry) (physical : List Name) : Except Error (Entry × List Name) := do
  let key ← identifier (entry.physicalId.getD name)
  refuse (key ∈ physical) (.resource "duplicate physical resource; use an alias")
  let capacity ← positive (entry.capacity.getD (.integer 1))
  let incarnation ← identifier (entry.incarnation.getD "1")
  refuse (entry.release ≠ some .process ∧ entry.release ≠ some .probe)
    (.resource "each leaf must declare process or probe release")
  refuse (entry.release = some .probe ∧ entry.probe = none)
    (.resource "probe release requires a registered probe command")
  return ({ entry with
    kind := some .resource
    physicalId := some key
    capacity := some (.integer capacity)
    incarnation := some incarnation }, key :: physical)

def normalizeSelector (kind : Kind) (entry : Entry) : Except Error Entry := do
  let members := entry.members.getD []
  refuse (members = [] ∨ ¬ members.Nodup) (.resource "selectors need distinct nonempty members")
  refuse (kind = .aliased ∧ members.length ≠ 1) (.resource "alias must identify one target")
  return { entry with kind := some kind }

def normalizeEntry (state : Registry × List Name) (item : Name × Entry) : Except Error (Registry × List Name) := do
  let (result, physical) := state
  let (name, entry) := item
  let name ← identifier name
  match entry.kind.getD .resource with
  | .resource => do
      let (entry, physical) ← normalizeResource name entry physical
      return (result.set name entry, physical)
  | .other _ => throw (.resource "unsupported resource kind")
  | kind => do
      let entry ← normalizeSelector kind entry
      return (result.set name entry, physical)

def requireAlternative (registry : Registry) (name : Name) : Except Error Unit := do
  let options ← alternatives registry name (fun _ => 0) []
  refuse (options.head? = none) (.resource "bundle has no assignment without overlapping members")

def normalizeRegistry (raw : Registry) : Except Error Registry := do
  let (result, _) ← raw.items.foldlM normalizeEntry (Dict.empty, [])
  let _ ← result.keys.mapM (requireAlternative result)
  return result

end OrchestratorEngine.ResourceQueue
