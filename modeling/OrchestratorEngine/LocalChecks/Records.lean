import Mathlib.Data.Rat.Defs

set_option autoImplicit false

namespace OrchestratorEngine.LocalChecks

inductive Status where
  | starting | running | passed | failed | errored | cancelled
deriving DecidableEq, Repr

def Status.terminal : Status → Bool
  | starting | running => false
  | passed | failed | errored | cancelled => true

inductive Execution where
  | foreground | detached
deriving DecidableEq, Repr

inductive WakePolicy where
  | always | onFailure | never
deriving DecidableEq, Repr

inductive TerminalStatus where
  | completed | failed
deriving DecidableEq, Repr

structure Metadata where
  attemptId : String
  artifactSha256 : String
  inputRawSha256 : String
  declarationSha256 : String
  requestFingerprint : String
  sourceNamespace : String
  nativeLocationBinding : String
  suiteFingerprint : String
deriving DecidableEq, Repr

structure Dispatch where
  checkId : String
  suite : String
  verification : String
  fingerprint : String
  execution : Execution
  requestedExecution : String
  wakePolicy : WakePolicy
  requestedWakePolicy : String
  longThresholdSeconds : Rat
  plan : String
  createdAt : String
  wakeTarget : Option String
  applicability : Option Metadata
deriving DecidableEq, Repr

abbrev Identity := Nat

structure Publication where
  eventId : String
  signalled : Bool
deriving DecidableEq, Repr

structure Descriptor where
  dispatch : Dispatch
  status : Status
  supervisorPid : Option Nat := none
  -- The token is null where it could not be read.
  supervisorIdentity : Option (Option Identity) := none
  startedAt : Option String := none
  commandLaunching : Bool := false
  activeCommand : Option Identity := none
  activeCommandStop : Bool := false
  finishedAt : Option String := none
  durationSeconds : Option Rat := none
  error : Option String := none
  published : Option Publication := none
  recoveredAt : Option String := none
deriving DecidableEq, Repr

structure CommandResult where
  required : Bool
  status : String
deriving DecidableEq, Repr

def overallStatus (commands : List CommandResult) : Status :=
  let required := commands.filter CommandResult.required
  if required.any fun item => decide (item.status = "errored") then .errored
  else if required.any fun item => decide (item.status ≠ "passed") then .failed
  else .passed

structure Result where
  checkId : String
  suite : String
  status : Status
  exitCode : Option Int
  startedAt : String
  finishedAt : String
  durationSeconds : Rat
  commands : List CommandResult
  error : Option String
  execution : Option Execution
  fingerprint : Option String
  applicability : Option Metadata
deriving DecidableEq, Repr

structure Evidence where
  checkId : String
  suite : String
  fingerprint : String
  execution : Execution
  wakePolicy : WakePolicy
  plan : String
  resultSha256 : String
  recordedAt : String
  error : Option String
  wakeTarget : Option String
  applicability : Option Metadata
deriving DecidableEq, Repr

structure Event where
  eventId : String
  projectId : String
  operationId : String
  terminalStatus : TerminalStatus
  resultSha256 : String
  evidenceSha256 : String
  wakeTarget : Option String
  createdAt : String
deriving DecidableEq, Repr

structure Site where
  projectId : String
  followupEventId : String → String
  resultSha256 : Result → String
  evidenceSha256 : Evidence → String

inductive Outcome where
  | concluded (commands : List CommandResult) (durationSeconds : Rat)
  | launchFailure (error : String)
deriving DecidableEq, Repr

namespace Outcome

def status : Outcome → Status
  | concluded commands _ => overallStatus commands
  | launchFailure _ => .errored

def result (outcome : Outcome) (descriptor : Descriptor) (now : String) : Result :=
  match outcome with
  | concluded commands duration => {
      checkId := descriptor.dispatch.checkId
      suite := descriptor.dispatch.suite
      status := overallStatus commands
      exitCode := some (if overallStatus commands = .passed then 0 else 1)
      startedAt := descriptor.startedAt.getD descriptor.dispatch.createdAt
      finishedAt := now
      durationSeconds := duration
      commands
      error := none
      execution := some descriptor.dispatch.execution
      fingerprint := some descriptor.dispatch.fingerprint
      applicability := descriptor.dispatch.applicability }
  | launchFailure error => {
      checkId := descriptor.dispatch.checkId
      suite := descriptor.dispatch.suite
      status := .errored
      exitCode := none
      startedAt := descriptor.startedAt.getD descriptor.dispatch.createdAt
      finishedAt := now
      durationSeconds := 0
      commands := []
      error := some (error.take 1000).toString
      execution := none
      fingerprint := none
      applicability := descriptor.dispatch.applicability }

def error? : Outcome → Option String
  | concluded _ _ => none
  | launchFailure error => some (error.take 1000).toString

def evidence (outcome : Outcome) (site : Site) (descriptor : Descriptor) (retained : Result)
    (now : String) : Evidence where
  checkId := descriptor.dispatch.checkId
  suite := descriptor.dispatch.suite
  fingerprint := descriptor.dispatch.fingerprint
  execution := descriptor.dispatch.execution
  wakePolicy := descriptor.dispatch.wakePolicy
  plan := descriptor.dispatch.plan
  resultSha256 := site.resultSha256 retained
  recordedAt := now
  error := outcome.error?
  wakeTarget := descriptor.dispatch.wakeTarget
  applicability := descriptor.dispatch.applicability

end Outcome

def eventStatus (status : Status) : TerminalStatus := if status = .passed then .completed else .failed

def emitsSignal (policy : WakePolicy) (status : Status) : Bool :=
  match policy with
  | .always => true
  | .onFailure => decide (status ≠ .passed)
  | .never => false

def followupEvent (site : Site) (dispatch : Dispatch) (status : Status) (result : Result) (evidence : Evidence)
    (now : String) : Event where
  eventId := site.followupEventId dispatch.checkId
  projectId := site.projectId
  operationId := dispatch.checkId
  terminalStatus := eventStatus status
  resultSha256 := site.resultSha256 result
  evidenceSha256 := site.evidenceSha256 evidence
  wakeTarget := dispatch.wakeTarget
  createdAt := now

def retainEvent (existing : Option Event) (event : Event) : Option Event :=
  match existing with
  | none => some event
  | some retained => if { retained with createdAt := event.createdAt } = event then some retained else none

def publicationOf (site : Site) (dispatch : Dispatch) (status : Status) : Publication :=
  ⟨site.followupEventId dispatch.checkId, emitsSignal dispatch.wakePolicy status⟩

def Outcome.descriptor (outcome : Outcome) (site : Site) (descriptor : Descriptor) (result : Result) : Descriptor :=
  match outcome with
  | .concluded _ duration => { descriptor with
      status := outcome.status
      finishedAt := some result.finishedAt
      durationSeconds := some duration
      published := some (publicationOf site descriptor.dispatch outcome.status)
      activeCommand := none
      commandLaunching := false }
  | .launchFailure _ => { descriptor with
      status := .errored
      finishedAt := some result.finishedAt
      error := outcome.error?
      published := some (publicationOf site descriptor.dispatch .errored) }

def recoveredDescriptor (site : Site) (descriptor : Descriptor) (result : Result) (now : String) : Descriptor :=
  { descriptor with
    status := result.status
    finishedAt := some result.finishedAt
    durationSeconds := some result.durationSeconds
    published := some (publicationOf site descriptor.dispatch result.status)
    recoveredAt := some now }

end OrchestratorEngine.LocalChecks
