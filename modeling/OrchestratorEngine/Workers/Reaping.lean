import OrchestratorEngine.Workers.Publication

set_option autoImplicit false

namespace OrchestratorEngine.Workers

open Foundation

inductive ProcessState where
  | alive | gone | unknown
deriving DecidableEq, Repr

def defaultLeaseExpiry : Int := 90000

def supervisorState (identity : Option Nat) (readable : Bool) (engine : Engine) : ProcessState :=
  match identity with
  | none => .unknown
  | some pid => if readable = false then .unknown else if pid ∈ engine.live then .alive else .gone

def Engine.workerRunning (engine : Engine) (pid : Nat) : Bool :=
  match engine.workers[pid]? with
  | some process => decide (process.state = .running)
  | none => false

def workerState (identity : Option Nat) (readable : Bool) (engine : Engine) : ProcessState :=
  match identity with
  | none => .unknown
  | some pid => if readable = false then .unknown else if engine.workerRunning pid then .alive else .gone

def Engine.endWorker (engine : Engine) (pid : Nat) (code : Option Int) : Engine :=
  { engine with workers := engine.workers.modify pid fun process =>
      if process.state = .running then { process with state := .exited code } else process }

structure Observations where
  supervisorReadable : String → Bool
  workerReadable : String → Bool
  -- The worker exits when it is signalled.
  stops : String → Bool

def leaseAge (stamp now : Int) : Int := max (now - stamp) 0

def releaseDispatchClaim (taskId : String) (descriptor : Descriptor) : Program Unit :=
  match descriptor.dispatchClaim with
  | none => return ()
  | some key => Thread.write fun engine =>
      match engine.claims.get? key with
      | none => engine
      | some claim => { engine with
          claims := engine.claims.without [key]
          claimHistory := engine.claimHistory.set taskId claim }

def putLease (taskId : String) (lease : Lease) : Program Unit :=
  writeTask taskId fun files => { files with lease := some lease }

def releaseLease (taskId : String) (lease : Lease) : Program Unit := putLease taskId { lease with status := .released }

def stopWorkerTree (lease : Lease) (readable stops : Bool) : Program Unit := do
  match lease.workerPid with
  | none => return ()
  | some pid => do
      match ← Thread.ask (workerState lease.workerIdentity readable) with
      | .alive => if stops then Thread.write fun engine => engine.endWorker pid none else return ()
      | .gone | .unknown => return ()

def Descriptor.ended (descriptor : Descriptor) (result : WorkerResult) (signalEmitted : Bool) : Descriptor :=
  { descriptor with
    status := some (.terminal result.terminalStatus)
    finishedAt := some result.finishedAt
    signalEmitted := some signalEmitted }

def endTask (taskId : String) (descriptor : Descriptor) (result : WorkerResult) (signalEmitted : Bool) :
    Program Unit := do
  putDescriptor taskId (descriptor.ended result signalEmitted)
  releaseDispatchClaim taskId (descriptor.ended result signalEmitted)

def reapReleased (pid : Nat) (taskId : String) (descriptor : Descriptor) : Program Unit := do
  match ← Thread.attempt (finalizeReleased pid taskId descriptor) with
  | .error error => if error.suppressed then return () else Thread.fail error
  | .ok (some (.published _ result signalEmitted)) => endTask taskId descriptor result signalEmitted
  | .ok _ => return ()

def reapLost (pid : Nat) (taskId : String) (descriptor : Descriptor) (lease : Option Lease) : Program Unit := do
  match ← finalizeLost pid taskId descriptor with
  | .lost none => return ()
  | .lost (some _) => Thread.fail (.missingKey "event_path")
  | .published _ result signalEmitted => do
      endTask taskId descriptor result signalEmitted
      match lease with
      | some held => releaseLease taskId held
      | none => return ()

def Descriptor.unclaimed (descriptor : Descriptor) (current : Int) : Bool :=
  descriptor.leaseRequired && decide (descriptor.status = some .starting) &&
    descriptor.createdAt.any fun created => decide (defaultLeaseExpiry < leaseAge created current)

def reapLeased (pid : Nat) (taskId : String) (descriptor : Descriptor) (lease : Lease) (observed : Observations)
    (current : Int) : Program Unit := do
  if leaseAge lease.renewedAt current ≤ lease.expiry.getD defaultLeaseExpiry then return ()
  else
    match ← Thread.ask (supervisorState lease.supervisorIdentity (observed.supervisorReadable taskId)) with
    | .alive | .unknown => return ()
    | .gone => do
        stopWorkerTree lease (observed.workerReadable taskId) (observed.stops taskId)
        reapLost pid taskId descriptor (some lease)

def reapTask (pid : Nat) (observed : Observations) (current : Int) (taskId : String) : Program Unit := do
  match ← askTask taskId TaskFiles.descriptor with
  | none => return ()
  | some descriptor =>
      if descriptor.taskId = none ∨ (descriptor.status.any Status.active) = false then return ()
      else do
        match ← askTask taskId TaskFiles.lease with
        | none => if descriptor.unclaimed current then reapLost pid taskId descriptor none else return ()
        | some lease =>
            if lease.status = .released then reapReleased pid taskId descriptor
            else reapLeased pid taskId descriptor lease observed current

def taskIds : Program (List String) := Thread.ask fun engine => engine.tasks.keys

def reapWorkerTasks (pid : Nat) (observed : Observations) : Program Unit := do
  let current ← utcNow
  let listed ← taskIds
  Thread.each (reapTask pid observed current) listed

end OrchestratorEngine.Workers
