import Mathlib.Data.String.Basic

set_option autoImplicit false

namespace OrchestratorEngine.WorkerLease

def identitySource : String := "linux-proc-stat"

def darwinSource : String := "darwin-proc-bsdinfo"

structure Identity where
  source : Option String := none
  pid : Option Int := none
  startTicks : Option Int := none
  machineId : Option String := none
  bootId : Option String := none
deriving DecidableEq, Repr

def identityMatches (recorded observed : Option Identity) : Bool :=
  match recorded, observed with
  | some recorded, some observed =>
      if recorded.source ≠ observed.source ∧
          (recorded.source ≠ none ∨ observed.source ≠ some identitySource) then false
      else if recorded.pid = none ∨ recorded.pid ≠ observed.pid then false
      else if recorded.startTicks = none ∨ recorded.startTicks ≠ observed.startTicks then false
      else if recorded.machineId ≠ observed.machineId then false
      else if observed.source = some darwinSource ∧ (recorded.bootId = none ∨ recorded.bootId = some "") then false
      else if recorded.bootId ≠ none ∧ observed.bootId ≠ none then decide (recorded.bootId = observed.bootId)
      else true
  | _, _ => false

end OrchestratorEngine.WorkerLease
