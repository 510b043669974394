import OrchestratorEngine.Watcher.Readers

set_option autoImplicit false

namespace OrchestratorEngine.Watcher.Faults

open Foundation
open ResourceAdapters (Json Text lit)

inductive WatcherAction where
  | record | notify | callback | currentThreadCallback
deriving DecidableEq, Repr

-- How a scan is called, with what it is handed: the hosts of its filter, the
-- hosts that have an adapter, the clock, str, and the reason codes of texts.
structure Site where
  action : WatcherAction
  hostFilter : Option (List Text) := none
  adapters : List Text := []
  calendar : Calendar
  print : Json → Text
  reasonCode : Raised → ReasonCode := fun _ => .callbackFailed
  deferCode : Text → ReasonCode := fun _ => .callbackFailed

inductive Guarded where
  | deliver | final | unreadable
deriving DecidableEq, Repr

-- A signal file with what else is read for it, and the answers of what the
-- scan calls: the databases, the workstream under its lock, and the action.
structure SignalFile where
  stem : Text
  path : Text := []
  content : Content
  observed : Except Raised Unit := .ok ()
  disposition : Except Raised Disposition := .ok .deliver
  receipt : Content := .absent
  result : Content := .absent
  state : Except Raised Unit := .ok ()
  judged : Except Raised Guarded := .ok .deliver
  wakeup : Content := .absent
  event : Content := .absent
  artifacts : Artifacts := ⟨fun _ => none⟩
  attempt : Except Raised Wakeup := .ok .done

-- A project: its binding, the failures among its workstreams, what its
-- database and its queue answer where there are any, and its signal files.
structure Project where
  root : String
  binding : Content := .absent
  reconciled : Except Raised (List Bool) := .ok []
  continuity : Option (Except Raised Unit) := none
  queue : Option (Except Raised Unit) := none
  files : List SignalFile := []

inductive Stage where
  | binding | workstreams | workstream | continuity | queue
  | signal | unnamed | eventId | observation | notBefore | host | disposition | guard | action
deriving DecidableEq, Repr

structure Problem where
  root : String
  stem : Option Text := none
  stage : Stage
deriving DecidableEq, Repr

structure Scan where
  scanning : Scanning
  errors : List Problem := []
  met : List Problem := []

def Scan.report (problems : List Problem) (scan : Scan) : Scan :=
  { scan with errors := scan.errors ++ problems, met := scan.met ++ problems }

def Scan.swallow (problems : List Problem) (scan : Scan) : Scan := { scan with met := scan.met ++ problems }

-- "try: ... except (OSError, RuntimeError, ValueError)", and on to the next step.
def noting {α : Type} (attempt : Except Raised α) (problem : Problem) : Except Raised (List Problem) :=
  match attempt with
  | .ok _ => .ok []
  | .error error => if error.caught then .ok [problem] else .error error

inductive Fate where
  | passed | consumed | acting
deriving DecidableEq, Repr

structure Verdict where
  fate : Fate := .passed
  reported : List Problem := []
  swallowed : List Problem := []

def attempting {α : Type} (attempt : Except Raised α) (problem : Problem) (next : α → Except Raised Verdict) :
    Except Raised Verdict :=
  match attempt with
  | .ok value => next value
  | .error error => if error.caught then .ok { reported := [problem] } else .error error

def eventKey (root : String) (signal : Fields) : Option SignalKey :=
  match Json.item "event_id" signal with
  | .str eventId => if validEventId eventId then some ⟨root, spell eventId⟩ else none
  | _ => none

def colonSplit (text : Text) : Option (Text × Text) :=
  if 58 ∈ text then some (text.takeWhile (· ≠ 58), (text.dropWhile (· ≠ 58)).drop 1) else none

def namesContinuation (operationId : Json) : Bool :=
  match operationId with
  | .str text => startsWith "workstream:" text &&
      (colonSplit (text.drop 11)).any fun identity => validEventId identity.1 && validEventId identity.2
  | _ => false

def identityIn (print : Json → Text) (result : Fields) : Except Raised Unit := do
  let workstreamId ← required "workstream_id" result
  refuse (validEventId (print workstreamId) = false) .workstreamError
  let checkpointId ← required "checkpoint_id" result
  refuse (validEventId (print checkpointId) = false) .workstreamError

-- "except (KeyError, OSError, RuntimeError, ValueError)" for the identity, and
-- the usual classes for the state; what is decided on both is not caught.
def continuationDeliveryGuard (site : Site) (file : SignalFile) (signal : Fields) : Except Raised Guarded :=
  if (Json.item "source_kind" signal).isText (lit "workstream_checkpoint") = false then .ok .deliver
  else
    let identity := if namesContinuation (Json.item "operation_id" signal) then .ok ()
      else loadObject file.result >>= identityIn site.print
    match identity with
    | .error error => if error.caught || decide (error = .keyError) then .ok .unreadable else .error error
    | .ok _ =>
        match file.state with
        | .error error => if error.caught then .ok .unreadable else .error error
        | .ok _ => file.judged

def acknowledged (receipt : Fields) : Bool :=
  (Json.item "kind" receipt).isText (lit "LOCAL_AI_ORCHESTRATOR_WATCHER_ACKNOWLEDGEMENT") &&
    (Json.item "status" receipt).isText (lit "acknowledged")

def settleDelivery (site : Site) (file : SignalFile) (signal : Fields) (problem : Stage → Problem) :
    Except Raised Verdict := do
  let receipt ← loadOptionalObject file.receipt
  if receipt.any acknowledged then return { fate := .consumed }
  else
    match ← continuationDeliveryGuard site file signal with
    | .deliver => return { fate := .acting }
    | .final => return { fate := .consumed }
    | .unreadable => return { fate := .consumed, swallowed := [problem .guard] }

-- A host without an adapter, or outside the filter, keeps its signals.
def Site.serves (site : Site) (host : Option Text) : Bool :=
  (decide (site.action ≠ .callback) || host.any fun named => decide (named ∈ site.adapters)) &&
    site.hostFilter.all fun hosts => host.any fun named => decide (named ∈ hosts)

def Site.fallback (site : Site) (binding : Option Fields) : Option Fields :=
  binding.filter fun bound => decide (site.action ≠ .callback) ||
    (hostOf bound).any fun named => decide (named ∈ site.adapters)

def dispose (site : Site) (file : SignalFile) (signal : Fields) (postponed : Bool) (problem : Stage → Problem) :
    Except Raised Verdict :=
  attempting file.disposition (problem .disposition) fun disposition =>
    match disposition with
    | .hold => .ok {}
    | .consume => .ok { fate := .consumed }
    | .deliver => if postponed then .ok {} else settleDelivery site file signal problem

def route (site : Site) (bound : Option Fields) (file : SignalFile) (signal : Fields) (postponed : Bool)
    (problem : Stage → Problem) : Except Raised Verdict :=
  attempting (signalHost site.calendar signal bound) (problem .host) fun host =>
    if site.serves host then dispose site file signal postponed problem else .ok {}

def examine (site : Site) (bound : Option Fields) (file : SignalFile) (signal : Fields) (postponed : Bool)
    (problem : Stage → Problem) (now : Int) : Except Raised Verdict :=
  attempting (signalNotBefore site.calendar signal) (problem .notBefore) fun notBefore =>
    if notBefore.any fun time => decide (now < time) then .ok {}
    else route site bound file signal postponed problem

def observeSignal (project : Project) (file : SignalFile) : Except Raised (List Problem) :=
  if project.continuity.isSome then noting file.observed ⟨project.root, some file.stem, .observation⟩ else .ok []

def judge (site : Site) (project : Project) (bound : Option Fields) (file : SignalFile) (signal : Fields)
    (key : SignalKey) (scanning : Scanning) : Except Raised Verdict := do
  if key ∈ scanning.seen then return {}
  else
    let observed ← observeSignal project file
    let verdict ← examine site bound file signal (scanning.postponed key)
      (fun stage => ⟨project.root, some file.stem, stage⟩) scanning.now
    return { verdict with reported := observed ++ verdict.reported }

def wakeCurrentThread (file : SignalFile) (signal : Fields) : Except Raised Wakeup := do
  refuse (nonempty (Json.item "event_path" signal) = false) .codexAppError
  match ← existingWakeup file.wakeup with
  | some wakeup => return wakeup
  | none => do
      let _ ← verifyTerminalEvent file.artifacts file.event
      file.attempt

def performAction (site : Site) (file : SignalFile) (signal : Fields) : Except Raised Wakeup :=
  match site.action with
  | .record => file.attempt
  | .notify => (notifySignal file.path signal).map fun _ => .done
  | .currentThreadCallback => wakeCurrentThread file signal
  | .callback => file.attempt

def finish (key : SignalKey) (signal : Fields) (delivery : Delivery) (scan : Scan) : Except Raised Scan := do
  match delivery with
  | .done => pure ()
  | .deferred _ => do
      let _ ← subjectFields signal
      pure ()
  return { scan with scanning := Watcher.performAction key delivery scan.scanning }

def act (site : Site) (problem : Problem) (file : SignalFile) (signal : Fields) (key : SignalKey) (scan : Scan) :
    Except Raised Scan :=
  match performAction site file signal with
  | .ok .done => finish key signal .done scan
  | .ok (.deferred reason) => finish key signal (.deferred (site.deferCode reason)) scan
  | .error error =>
      if error.caught then finish key signal (.deferred (site.reasonCode error)) (scan.report [problem])
      else .error error

def conclude (site : Site) (project : Project) (file : SignalFile) (signal : Fields) (key : SignalKey) (scan : Scan)
    (verdict : Verdict) : Except Raised Scan :=
  let noted := (scan.report verdict.reported).swallow verdict.swallowed
  match verdict.fate with
  | .passed => .ok noted
  | .consumed => .ok { noted with scanning := noted.scanning.consume key }
  | .acting => act site ⟨project.root, some file.stem, .action⟩ file signal key noted

def visitSignal (site : Site) (project : Project) (bound : Option Fields) (file : SignalFile) (signal : Fields)
    (scan : Scan) : Except Raised Scan :=
  match eventKey project.root signal with
  | none =>
      match Json.item "event_id" signal with
      | .str _ => .ok (scan.report [⟨project.root, some file.stem, .eventId⟩])
      | _ => .ok (scan.swallow [⟨project.root, some file.stem, .unnamed⟩])
  | some key => judge site project bound file signal key scan.scanning >>= conclude site project file signal key scan

def fileKey (root : String) (file : SignalFile) : SignalKey := ⟨root, spell file.stem⟩

def inbox (root : String) (seen : List SignalKey) : List SignalFile → Except Raised
    (List (SignalFile × Fields) × List Problem)
  | [] => .ok ([], [])
  | file :: rest =>
      if fileKey root file ∈ seen then inbox root seen rest
      else
        match loadObject file.content with
        | .ok signal => do
            let (signals, invalid) ← inbox root seen rest
            return ((file, signal) :: signals, invalid)
        | .error error =>
            if error.listed then do
              let (signals, invalid) ← inbox root seen rest
              return (signals, ⟨root, some file.stem, .signal⟩ :: invalid)
            else .error error

def Site.binds (site : Site) : Bool := decide (site.action = .callback) || site.hostFilter.isSome

def Site.bound (site : Site) (project : Project) : Option Fields :=
  if site.binds then
    match loadBinding project.binding with
    | .ok binding => site.fallback binding
    | .error _ => none
  else none

def readBinding (site : Site) (project : Project) : Except Raised (List Problem) :=
  if site.binds then noting (loadBinding project.binding) ⟨project.root, none, .binding⟩ else .ok []

def askOptional (answer : Option (Except Raised Unit)) (problem : Problem) : Except Raised (List Problem) :=
  answer.elim (.ok []) fun given => noting given problem

def failedWorkstreams (project : Project) : List Problem :=
  match project.reconciled with
  | .ok rows => if false ∈ rows then [⟨project.root, none, .workstream⟩] else []
  | .error _ => []

def prepare (site : Site) (project : Project) (scan : Scan) : Except Raised Scan := do
  let binding ← readBinding site project
  let workstreams ← noting project.reconciled ⟨project.root, none, .workstreams⟩
  let continuity ← askOptional project.continuity ⟨project.root, none, .continuity⟩
  let queue ← askOptional project.queue ⟨project.root, none, .queue⟩
  return (scan.report (binding ++ workstreams ++ continuity ++ queue)).swallow (failedWorkstreams project)

def scanProject (site : Site) (scan : Scan) (project : Project) : Except Raised Scan := do
  let prepared ← prepare site project scan
  let (signals, invalid) ← inbox project.root prepared.scanning.seen project.files
  signals.foldlM (fun scan item => visitSignal site project (site.bound project) item.1 item.2 scan)
    (prepared.report invalid)

def scanOnce (site : Site) (projects : List Project) (now : Int) (file : Option WatcherState) (latest : WatcherState) :
    Except Raised (Scan × WatcherState) := do
  let roots := projects.map Project.root
  let scan ← projects.foldlM (scanProject site) { scanning := openScan roots now file }
  return (scan, mergeScan roots scan.scanning latest)

end OrchestratorEngine.Watcher.Faults
