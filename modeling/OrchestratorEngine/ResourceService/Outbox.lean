import Mathlib
import OrchestratorEngine.Foundation.Journal
import OrchestratorEngine.ResourceQueue.Notices
import OrchestratorEngine.ResourceService.Configuration
import OrchestratorEngine.Watcher.Readers

set_option autoImplicit false

namespace OrchestratorEngine.ResourceService.Outbox

open Foundation ResourceQueue

inductive SourceKind where
  | resourceRecipe
  | localCheck
deriving DecidableEq

inductive TerminalStatus where
  | completed
  | failed
  | cancelled
  | actionRequired
deriving DecidableEq

inductive Place where
  | result (root : Path) (request : Id)
  | recoveryRequired (root : Path) (request : Id) (outcomeId : OutcomeId)
  | verificationResult (root : Path) (check : String)
  | checkRecoveryRequired (root : Path) (check : String) (outcomeId : OutcomeId)
deriving DecidableEq

structure Report where
  request : Id
  project : Name
  external : Name
  status : Status
  outcomeId : OutcomeId
  generation : Nat
  plan : Plan
  stages : List Stage
deriving DecidableEq

inductive Content where
  | report (value : Report)
  | recoveryRequired (check : String) (request : Id) (stages : List Stage)
  | verification (check suite fingerprint : String) (status : Status) (request : Id) (plan : Plan)
      (stages : List Stage) (finishedAt : Time)
deriving DecidableEq

def SourceKind.text : SourceKind → String
  | .resourceRecipe => "resource_recipe"
  | .localCheck => "local_check"

def TerminalStatus.text : TerminalStatus → String
  | .completed => "completed"
  | .failed => "failed"
  | .cancelled => "cancelled"
  | .actionRequired => "action_required"

-- The texts that uuid5 makes of its values: 36 hexadecimal digits and hyphens.
structure EventNames where
  text : EventId → String
  valid : ∀ id, Watcher.Faults.validEventId ((text id).toList.map Char.toNat) = true

-- "project_root.resolve().name", of a root that was resolved when it was registered.
def projectId (root : Path) : String := (root.splitOn "/").getLastD ""

def schemaVersion : Nat := 1

structure Event where
  schemaVersion : Nat
  kind : String
  eventId : EventId
  projectId : String
  sourceKind : SourceKind
  operationId : Name
  terminalStatus : TerminalStatus
  resultPath : Place
  resultSha256 : Content
  evidencePath : Place
  evidenceSha256 : Content
  createdAt : Time
  wakeTarget : Option WakeTarget
deriving DecidableEq

structure Signal where
  schemaVersion : Nat
  eventId : EventId
  projectId : String
  sourceKind : SourceKind
  operationId : Name
  eventPath : Path × EventId
  terminalStatus : TerminalStatus
  resultPath : Place
  evidencePath : Place
  createdAt : Time
  wakeTarget : Option WakeTarget
deriving DecidableEq

structure Check where
  resourceManaged : Bool
  resourceRequest : Option Id
  submission : Name
  suite : String
  fingerprint : String
  status : Option Status := none
  resultPath : Option Place := none
  finishedAt : Option Time := none
deriving DecidableEq

structure Files where
  artifacts : Dict Place Content := Dict.empty
  events : Dict (Path × EventId) Event := Dict.empty
  signals : Dict (Path × EventId) Signal := Dict.empty
  checks : Dict (Path × String) (Option Check) := Dict.empty
  delivered : List EventId := []
  retries : Dict EventId (Nat × Time) := Dict.empty

inductive Write where
  | directory
  | artifact
  | check
  | event
  | signal
deriving DecidableEq

-- What one delivery finds: the time, the stages as the ledger shows them, what
-- it makes of the runner's evidence, and the writes that fail.
structure Sight where
  now : Time
  snapshot : List Stage := []
  evidence : Except Error Unit := .ok ()
  failing : List Write := []

inductive Failure where
  | caught (error : Error)
  | localCheck
deriving DecidableEq

abbrev Program (α : Type) := Journal Files Failure α

def Sight.writing (sight : Sight) (write : Write) : Program Unit := Journal.require
    (write ∈ sight.failing) (.caught .os)

def settle (id : EventId) : Program Unit := Journal.write fun files => { files with delivered := id :: files.delivered }

def retain (sight : Sight) (place : Place) (content : Content) : Program Unit := do
  if ← Journal.ask fun files => (files.artifacts.get? place).isSome then return ()
  else do
    sight.writing .artifact
    Journal.write fun files => { files with artifacts := files.artifacts.set place content }

def terminalStatus : Status → TerminalStatus
  | .passed => .completed
  | .failed => .failed
  | .cancelled => .cancelled
  | .actionRequired => .actionRequired

def resultPlace (root : Path) (notice : Notice) : Place :=
  if notice.status = .actionRequired then .recoveryRequired root notice.request notice.outcomeId
  else .result root notice.request

def report (notice : Notice) (plan : Plan) (stages : List Stage) : Report :=
  ⟨notice.request, notice.project, notice.external, notice.status, notice.outcomeId, notice.generation, plan, stages⟩

def wakes (notice : Notice) : Bool :=
  notice.subscriber.wake.getD false || decide (notice.subscriber.wakePolicy = some "always") ||
    decide (notice.subscriber.wakePolicy = some "on-failure" ∧ notice.status ≠ .passed)

def projectResult (sight : Sight) (root : Path) (check : String) (request : Request) (notice : Notice)
    (stages : List Stage) : Program Place := do
  match ← Journal.ask fun files => files.checks.get? (root, check) with
  | none => Journal.raise (.caught .os)
  | some none => Journal.raise .localCheck
  | some (some descriptor) => do
      Journal.require (descriptor.resourceManaged = false)
        (.caught (.resource "terminal projection does not own this check"))
      Journal.require (descriptor.resourceRequest.any (fun owner => decide (owner ≠ request.id)) = true)
        (.caught (.resource "terminal projection belongs to another request"))
      Journal.require (descriptor.submission ≠ request.external)
        (.caught (.resource "check projection has a different submission identity"))
      if notice.status = .actionRequired then do
        -- Quiescence is unresolved, so no terminal test failure is made of it.
        retain sight (.checkRecoveryRequired root check notice.outcomeId) (.recoveryRequired check request.id stages)
        return .checkRecoveryRequired root check notice.outcomeId
      else do
        let status : Status := if notice.status = .passed then .passed else .failed
        retain sight (.verificationResult root check)
          (.verification check descriptor.suite descriptor.fingerprint status request.id request.plan stages sight.now)
        sight.writing .check
        Journal.write fun files => { files with
          checks := files.checks.set (root, check) (some { descriptor with
            status := some status, resourceRequest := some request.id
            resultPath := some (.verificationResult root check), finishedAt := some sight.now }) }
        return .verificationResult root check

def ensureFile (place : Place) : Program Content := do
  match ← Journal.ask fun files => files.artifacts.get? place with
  | none => Journal.raise (.caught (.resource "result is not a file"))
  | some content => return content

def putSignal (sight : Sight) (root : Path) (signal : Signal) : Program Unit := do
  sight.writing .signal
  Journal.write fun files => { files with signals := files.signals.set (root, signal.eventId) signal }

def writeFollowupEvent (sight : Sight) (root : Path) (notice : Notice) (sourceKind : SourceKind) (operationId : Name)
    (result : Place) : Program Unit := do
  Journal.require (operationId = "") (.caught (.resource "operation_id is required"))
  let content ← ensureFile result
  sight.writing .event
  Journal.write fun files => { files with
    events := files.events.set (root, notice.id) {
      schemaVersion := schemaVersion, kind := "ORCHESTRATOR_TERMINAL"
      eventId := notice.id, projectId := projectId root, sourceKind := sourceKind, operationId := operationId
      terminalStatus := terminalStatus notice.status, resultPath := result, resultSha256 := content
      evidencePath := result, evidenceSha256 := content, createdAt := sight.now
      wakeTarget := notice.subscriber.wakeTarget } }
  if wakes notice then
    putSignal sight root {
      schemaVersion := schemaVersion
      eventId := notice.id, projectId := projectId root, sourceKind := sourceKind, operationId := operationId
      eventPath := (root, notice.id), terminalStatus := terminalStatus notice.status, resultPath := result
      evidencePath := result, createdAt := sight.now, wakeTarget := notice.subscriber.wakeTarget }
  else return ()

def verifyKey (key value : String) : Except Error Unit :=
  refuse (value = "") (.resource ("terminal event has invalid " ++ key))

def verifyArtifact (files : Files) (place : Place) (expected : Content) : Except Error Unit :=
  match files.artifacts.get? place with
  | none => .error (.resource "terminal artifact is unavailable")
  | some content => refuse (content ≠ expected) (.resource "terminal artifact hash mismatch")

def verifyTerminalEvent (names : EventNames) (files : Files) (event : Event) : Except Error Unit := do
  refuse (Watcher.Faults.isSupportedSchemaVersion (.int event.schemaVersion) = false)
    (.resource "unsupported terminal event schema")
  refuse (event.kind ∉ ["WORKER_TERMINAL", "ORCHESTRATOR_TERMINAL"]) (.resource "unsupported terminal event kind")
  verifyKey "event_id" (names.text event.eventId)
  verifyKey "project_id" event.projectId
  verifyKey "source_kind" event.sourceKind.text
  verifyKey "operation_id" event.operationId
  refuse (Watcher.Faults.validEventId ((names.text event.eventId).toList.map Char.toNat) = false)
    (.resource "event_id must match [A-Za-z0-9][A-Za-z0-9_.-]\x7b0,127\x7d")
  refuse (event.terminalStatus.text ∉ Watcher.Faults.followupStatuses)
    (.resource "terminal event has invalid terminal_status")
  verifyArtifact files event.resultPath event.resultSha256
  verifyArtifact files event.evidencePath event.evidenceSha256

def Event.signal (event : Event) (eventPath : Path × EventId) : Signal where
  schemaVersion := event.schemaVersion
  eventId := event.eventId
  projectId := event.projectId
  sourceKind := event.sourceKind
  operationId := event.operationId
  eventPath := eventPath
  terminalStatus := event.terminalStatus
  resultPath := event.resultPath
  evidencePath := event.evidencePath
  createdAt := event.createdAt
  wakeTarget := event.wakeTarget

def announce (names : EventNames) (sight : Sight) (root : Path) (notice : Notice) (sourceKind : SourceKind)
    (operationId : Name)
    (result : Place) : Program Unit := do
  match ← Journal.ask fun files => files.events.get? (root, notice.id) with
  | none => writeFollowupEvent sight root notice sourceKind operationId result
  | some event =>
      if ← Journal.ask fun files => wakes notice && (files.signals.get? (root, notice.id)).isNone then do
        -- A stop between the event and its signal.
        Journal.lift (← Journal.ask fun files => (verifyTerminalEvent names files event).mapError .caught)
        putSignal sight root (event.signal (root, notice.id))
      else return ()

def publish (names : EventNames) (sight : Sight) (root : Path) (request : Request) (notice : Notice) :
    Program Unit := do
  Journal.lift (sight.evidence.mapError .caught)
  sight.writing .directory
  let stages := if notice.stages = [] then sight.snapshot else notice.stages
  retain sight (resultPlace root notice) (.report (report notice request.plan stages))
  match notice.subscriber.checkId.filter fun check => decide (check ≠ "") with
  | some check => do
      let result ← projectResult sight root check request notice stages
      announce names sight root notice .localCheck check result
  | none => announce names sight root notice .resourceRecipe notice.external (resultPlace root notice)
  settle notice.id

def postpone (sight : Sight) (id : EventId) : Program Unit := Journal.write fun files =>
  let attempts := ((files.retries.get? id).map Prod.fst).getD 0 + 1
  { files with retries := files.retries.set id (attempts, sight.now + min 60 (2 ^ min attempts 6)) }

def recovering (ledger : Ledger) (request : Id) : Bool :=
  (ledger.stagesOf request).any fun stage => decide (stage.state = .recoveryRequired)

def projectRoot (config : Configuration) (project : Name) : Except Error Path :=
  match config.projects.get? project with
  | none => .error (.key project)
  | some registered => .ok registered.root

def deliverRow (names : EventNames) (config : Configuration) (ledger : Ledger) (sight : Sight) (notice : Notice) :
    Program Unit := do
  let request ← Journal.lift ((ledger.request notice.request).mapError .caught)
  if notice.subscriber ∉ request.subscribers then settle notice.id
  -- Recovery supersedes an undelivered advisory, never a final result.
  else if notice.status = .actionRequired ∧ recovering ledger notice.request = false then settle notice.id
  else do
    let root ← Journal.lift ((projectRoot config notice.project).mapError .caught)
    match ← Journal.attempt (publish names sight root request notice) with
    | .ok _ => return ()
    | .error (.caught _) => postpone sight notice.id
    | .error .localCheck => Journal.raise .localCheck

def due (files : Files) (notice : Notice) (now : Time) : Bool :=
  decide (notice.id ∉ files.delivered) && (files.retries.get? notice.id).all fun retry => decide (retry.2 ≤ now)

structure System where
  ledger : Ledger := Ledger.create
  files : Files := {}

-- Ledger calls, deliveries of a row that stop after some of their writes, and
-- other programs that write a check's descriptor.
inductive Move where
  | call (call : Call)
  | deliver (notice : Notice) (sight : Sight) (stop : Nat)
  | describe (root : Path) (check : String) (descriptor : Option Check)

def Move.apply (names : EventNames) (host : Host) (config : Configuration) (system : System) : Move → System
  | .call operation => { system with ledger := commit host system.ledger operation }
  | .deliver notice sight stop =>
      if notice ∈ system.ledger.outbox ∧ due system.files notice sight.now = true then
        let visited := ((deliverRow names config system.ledger sight notice).run system.files).1
        { system with files := (visited.take stop).getLastD system.files }
      else system
  | .describe root check descriptor =>
      { system with files := { system.files with checks := system.files.checks.set (root, check) descriptor } }

def replay (names : EventNames) (host : Host) (config : Configuration) (moves : List Move) : System :=
  moves.foldl (Move.apply names host config) {}

end OrchestratorEngine.ResourceService.Outbox
