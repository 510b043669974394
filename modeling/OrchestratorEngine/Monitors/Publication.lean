import OrchestratorEngine.Monitors.Records

set_option autoImplicit false

namespace OrchestratorEngine.Monitors.Recovery

inductive VerificationStatus where
  | passed
  | failed
  | cancelled
  | unknown
deriving DecidableEq, Repr

inductive EventStatus where
  | completed
  | failed
  | cancelled
  | timedOut
  | actionRequired
  | unavailable
  | ambiguous
deriving DecidableEq, Repr

-- What one kind of monitor makes of an observation. Recovery reads an observation back
-- from the evidence; the laws say that it reads enough of it.
structure Reporting (ο τ : Type) where
  monitorStatus : ο → τ
  verificationStatus : ο → VerificationStatus
  eventStatus : ο → EventStatus
  shouldWake : WakePolicy → ο → Bool
  launchFailed : String → ο
  processFailure : ο → String → ο
  lost : Status τ → ο
  recovered : ο → ο
  -- Finalization runs inside supervise_monitor's own exception handler.
  handled : ο → Bool
  -- recover_completed_monitor also compares the directories and looks at the schema versions.
  strict : Bool
  recovered_monitor : ∀ observation, monitorStatus (recovered observation) = monitorStatus observation
  recovered_event : ∀ observation, eventStatus (recovered observation) = eventStatus observation

-- A file that claim_json creates before it fills it.
inductive File (α : Type) where
  | absent
  | torn
  | whole (value : α)
deriving DecidableEq, Repr

def schemaVersion : Nat := 1

def isSupportedSchemaVersion (version : Nat) : Bool := decide (version = schemaVersion)

structure Result (ο : Type) where
  schemaVersion : Nat
  status : VerificationStatus
  observation : ο
  startedAt : String
  finishedAt : String
deriving DecidableEq, Repr

structure Evidence (ο : Type) where
  schemaVersion : Nat
  observation : ο
  startedAt : String
  finishedAt : String
deriving DecidableEq, Repr

structure Event where
  terminalStatus : EventStatus
  resultSha256 : String
  evidenceSha256 : String
  wakeTarget : Option String
  createdAt : String
deriving DecidableEq, Repr

structure Descriptor (τ : Type) where
  monitorDir : String
  status : Status τ
  -- supervisor_identity is recorded.
  identified : Bool
  wakePolicy : WakePolicy
  wakeTarget : Option String
  createdAt : String
  startedAt : Option String
  finishedAt : Option String
  signalEmitted : Option Bool
deriving DecidableEq, Repr

structure Files (ο τ : Type) where
  owner : File Unit
  descriptor : File (Descriptor τ)
  launch : Bool
  summary : Bool
  result : Option (Result ο)
  evidence : Option (Evidence ο)
  event : Option Event
  signal : Bool
deriving DecidableEq, Repr

def Files.empty {ο τ : Type} : Files ο τ := ⟨.absent, .absent, false, false, none, none, none, false⟩

structure Site (ο : Type) where
  monitorDir : String
  resultSha256 : Result ο → String
  evidenceSha256 : Evidence ο → String

inductive Error where
  | invalidOwner
  | unownedArtifacts
  | missingFile
  | conflictingEvent
deriving DecidableEq, Repr

structure Report (ο τ : Type) where
  observation : ο
  descriptor : Descriptor τ
  startedAt : String
  finishedAt : String
deriving DecidableEq, Repr

inductive Stage where
  | owner
  | summary
  | result
  | evidence
  | event
  | signal
  | descriptor
deriving DecidableEq, Repr

def finalization : List Stage := [.owner, .summary, .result, .evidence, .event, .signal, .descriptor]

def recovery : List Stage := [.event, .signal, .descriptor]

section Publishing

variable {ο τ : Type} (reporting : Reporting ο τ) (site : Site ο)

namespace Report

def result (report : Report ο τ) : Result ο :=
  ⟨schemaVersion, reporting.verificationStatus report.observation, report.observation, report.startedAt,
  report.finishedAt⟩

def evidence (report : Report ο τ) : Evidence ο := ⟨schemaVersion, report.observation, report.startedAt,
    report.finishedAt⟩

def event (report : Report ο τ) (result : Result ο) (evidence : Evidence ο) : Event where
  terminalStatus := reporting.eventStatus report.observation
  resultSha256 := site.resultSha256 result
  evidenceSha256 := site.evidenceSha256 evidence
  wakeTarget := report.descriptor.wakeTarget
  createdAt := report.finishedAt

def wakes (report : Report ο τ) : Bool := reporting.shouldWake report.descriptor.wakePolicy report.observation

def final (report : Report ο τ) : Descriptor τ :=
  { report.descriptor with
    status := .terminal (reporting.monitorStatus report.observation)
    startedAt := some report.startedAt
    finishedAt := some report.finishedAt
    signalEmitted := some (report.wakes reporting) }

end Report

def claimOwner (files : Files ο τ) : Except Error (Files ο τ) :=
  match files.owner with
  | .whole _ => .ok files
  | .torn => .error .invalidOwner
  | .absent =>
      if files.summary ∨ files.result.isSome then .error .unownedArtifacts
      else .ok { files with owner := .whole () }

def retainEvent (existing : Option Event) (event : Event) : Except Error Event :=
  match existing with
  | none => .ok event
  | some retained =>
      if { retained with createdAt := event.createdAt } = event then .ok retained else .error .conflictingEvent

def writeEvent (report : Report ο τ) (files : Files ο τ) : Except Error (Files ο τ) :=
  match files.result, files.evidence with
  | some result, some evidence =>
      match retainEvent files.event (report.event reporting site result evidence) with
      | .ok event => .ok { files with event := some event }
      | .error error => .error error
  | _, _ => .error .missingFile

def perform (report : Report ο τ) : Stage → Files ο τ → Except Error (Files ο τ)
  | .owner, files => claimOwner files
  | .summary, files => .ok { files with summary := true }
  | .result, files => .ok { files with result := some (report.result reporting) }
  | .evidence, files => .ok { files with evidence := some report.evidence }
  | .event, files => writeEvent reporting site report files
  | .signal, files => .ok { files with signal := files.signal || report.wakes reporting }
  | .descriptor, files => .ok { files with descriptor := .whole (report.final reporting) }

def finalize (report : Report ο τ) : List Stage → Files ο τ → Except Error (Files ο τ)
  | [], files => .ok files
  | stage :: rest, files =>
      match perform reporting site report stage files with
      | .ok next => finalize report rest next
      | .error error => .error error

def admits (descriptor : Descriptor τ) (result : Result ο) (evidence : Evidence ο) : Bool :=
  !reporting.strict || (decide (descriptor.monitorDir = site.monitorDir) &&
    isSupportedSchemaVersion result.schemaVersion && isSupportedSchemaVersion evidence.schemaVersion)

-- What a reaper does with a descriptor whose supervisor is gone: it publishes what a
-- complete set of files tells, or that the monitor failed.
def burial (files : Files ο τ) (descriptor : Descriptor τ) (now : String) : Report ο τ × List Stage :=
  match files.result, files.evidence with
  | some result, some evidence =>
      if files.summary = true ∧ admits reporting site descriptor result evidence = true then
        (⟨reporting.recovered evidence.observation, descriptor, evidence.startedAt, evidence.finishedAt⟩, recovery)
      else
        (⟨reporting.lost descriptor.status, descriptor, descriptor.startedAt.getD descriptor.createdAt, now⟩,
          finalization)
  | _, _ =>
      (⟨reporting.lost descriptor.status, descriptor, descriptor.startedAt.getD descriptor.createdAt, now⟩,
        finalization)

-- A descriptor that may be reaped: it is not terminal, and the process that its own
-- identity or the launch record names has ended.
def doomed (files : Files ο τ) (gone : Bool) : Option (Descriptor τ) :=
  match files.descriptor with
  | .whole descriptor =>
      if descriptor.status.ended = false ∧ (descriptor.identified ∨ files.launch) ∧ gone then some descriptor else none
  | _ => none

def reapMonitor (now : String) (files : Files ο τ) (gone : Bool) : Except Error (Files ο τ) :=
  match doomed files gone with
  | some descriptor =>
      let (report, stages) := burial reporting site files descriptor now
      finalize reporting site report stages files
  | none => .ok files

end Publishing

end OrchestratorEngine.Monitors.Recovery
