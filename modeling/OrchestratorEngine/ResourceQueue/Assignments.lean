import OrchestratorEngine.ResourceQueue.Registry

set_option autoImplicit false

namespace OrchestratorEngine.ResourceQueue

open Foundation

structure Need where
  resource : Option Name
  mode : Option String := none
  units : Option Quantity := none
  compatibility : Option Name := none
deriving DecidableEq, Repr

structure Specification where
  name : Name
  mode : Mode
  units : Nat
  group : Option Name
deriving DecidableEq, Repr

def Specification.claim (specification : Specification) : Claim :=
  ⟨specification.mode, specification.units, specification.group⟩

def accessMode (text : String) : Except Error Mode :=
  if text = "exclusive" then return .exclusive
  else if text = "shared" then return .shared
  else throw (.resource "unsupported resource mode")

def compatibilityClass (mode : Mode) (group : Option Name) : Except Error Unit := do
  if mode = .shared then
    let _ ← identifier (group.getD "")

def demand (registry : Registry) (need : Need) : Except Error Specification := do
  refuse (need.resource = none) (.resource "need requires a resource identifier")
  let name ← identifier (need.resource.getD "")
  let mode ← accessMode (need.mode.getD "exclusive")
  let units ← positive (need.units.getD (.integer 1))
  compatibilityClass mode need.compatibility
  refuse (mode = .exclusive ∧ units ≠ 1) (.resource "exclusive access consumes the entire leaf")
  refuse (registry.get? name = none) unknownSelector
  return ⟨name, mode, units, need.compatibility⟩

def demands (registry : Registry) (needs : List Need) : Except Error (List Specification) :=
  needs.mapM (demand registry)

def mergeLeaf (registry : Registry) (specification : Specification) (candidate : Allocation) (leaf : Name) :
    Except Error (Option Allocation) := do
  match specification.claim.join (candidate.get? leaf) with
  | none => return none
  | some claim =>
      if (← capacityOf registry leaf) < claim.units then
        return none
      return some (candidate.set leaf claim)

def mergeLeaves (registry : Registry) (specification : Specification) :
    List Name → Allocation → Except Error (Option Allocation)
  | [], candidate => return some candidate
  | leaf :: rest, candidate => do
      match ← mergeLeaf registry specification candidate leaf with
      | none => return none
      | some grown => mergeLeaves registry specification rest grown

def remainingLeaves (registry : Registry) : List Specification → Except Error (List Name)
  | [] => return []
  | specification :: rest => do
      let later ← remainingLeaves registry rest
      let leaves ← selectorLeaves registry specification.name
      return later ++ leaves

def meets (required leaves : List Name) : Bool :=
  decide (required = []) || required.any fun leaf => decide (leaf ∈ leaves)

def unavailableLeaf (registry : Registry) (others : List Allocation) (claim : Claim) (leaf : Name) :
    Except Error Bool := do
  return !(← compatible registry (Dict.single leaf claim) others)

-- One alternative of the current frame: extend the allocation, prune it against
-- the others, and go on to the next frame.
def tryChoice (registry : Registry) (others : List Allocation) (specification : Specification)
    (next : Allocation → Except Error (List Allocation)) (allocation : Allocation) (choice : List Name) :
    Except Error (List Allocation) := do
  match ← mergeLeaves registry specification choice allocation with
  | none => return []
  | some candidate =>
      if !(← compatible registry candidate others) then
        return []
      next candidate

-- The frames of the source hold an index, the allocation built so far and the
-- alternatives left at that index; popping them is the recursion below, and
-- the list of results is what the generator yields, in its order.
def search (registry : Registry) (others : List Allocation) (excluded : List Name) (priority : Name → Int)
    (required : List Name) : List Specification → Allocation → Except Error (List Allocation)
  | [], allocation => return if meets required allocation.keys then [allocation] else []
  | specification :: rest, allocation => do
      let remaining ← remainingLeaves registry (specification :: rest)
      if !meets required (allocation.keys ++ remaining) then
        return []
      if !(← selectorClaimAvailable registry specification.name specification.claim others excluded) then
        return []
      let leaves ← selectorLeaves registry specification.name
      let unavailable ← filterOk (unavailableLeaf registry others specification.claim) leaves
      let options ← alternatives registry specification.name priority (excluded ++ unavailable)
      let found ← options.mapM (tryChoice registry others specification
        (search registry others excluded priority required rest) allocation)
      return found.flatten

def assignments (registry : Registry) (needs : List Need) (others : List Allocation) (excluded : List Name)
    (priority : Name → Int) (required : List Name) : Except Error (List Allocation) := do
  let specifications ← demands registry needs
  search registry others excluded priority required specifications Dict.empty

end OrchestratorEngine.ResourceQueue
