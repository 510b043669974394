import OrchestratorEngine.Foundation.Dict
import OrchestratorEngine.LocalChecks.Records

set_option autoImplicit false

namespace OrchestratorEngine.LocalChecks

open Foundation

inductive CommandChange where
  | launching
  | abandoned
  | active (identity : Identity)
  | cleared (identity : Identity)
deriving DecidableEq, Repr

inductive Stage where
  | summary
  | result
  | evidence (result : Result)
  | event (result : Result)
  | descriptor (result : Result)
deriving DecidableEq, Repr

inductive Phase where
  | idle
  | launching (descriptor : Descriptor)
  | spawned (identity : Option Identity)
  | recording (identity : Option Identity) (current : Descriptor)
  | claiming (descriptor : Descriptor)
  | owning (descriptor : Descriptor)
  | executing (descriptor : Descriptor)
  | updating (descriptor : Descriptor) (change : CommandChange) (current : Descriptor)
  | publishing (locked : Bool) (descriptor : Descriptor) (outcome : Outcome) (stage : Stage)
  | reaping (descriptor : Descriptor)
  | recovering (descriptor : Descriptor) (result : Result) (noted : Bool)
deriving DecidableEq, Repr

structure Engine where
  descriptor : Option Descriptor := none
  summary : Bool := false
  result : Option Result := none
  evidence : Option Evidence := none
  event : Option Event := none
  lock : Option Nat := none
  gone : List Nat := []
  phases : Dict Nat Phase := Dict.empty
  -- The supervisors that have started the commands of the suite.
  started : List Nat := []

namespace Engine

def phaseOf (engine : Engine) (pid : Nat) : Phase := (engine.phases.get? pid).getD .idle

def turn (engine : Engine) (pid : Nat) (phase : Phase) : Engine := { engine with phases := engine.phases.set pid phase }

def acquire (engine : Engine) (pid : Nat) : Engine := { engine with lock := some pid }

def release (engine : Engine) (pid : Nat) : Engine :=
  { engine with lock := if engine.lock = some pid then none else engine.lock }

def leave (engine : Engine) (pid : Nat) : Engine := (engine.release pid).turn pid .idle

end Engine

-- start_check, once it has found no descriptor; the claim of check.json is exclusive.
def createCheck (pid : Nat) (dispatch : Dispatch) (engine : Engine) : Option Engine :=
  match engine.descriptor with
  | some _ => none
  | none =>
      let descriptor : Descriptor := { dispatch, status := .starting }
      some ({ engine with descriptor := some descriptor }.turn pid (.launching descriptor))

def spawnSupervisor (pid : Nat) (spawned : Except String (Option Identity)) (descriptor : Descriptor)
    (engine : Engine) :
    Engine :=
  match spawned with
  | .error error => engine.turn pid (.publishing false descriptor (.launchFailure error) .summary)
  | .ok identity => engine.turn pid (.spawned identity)

def loadStarted (pid : Nat) (identity : Option Identity) (engine : Engine) : Option Engine :=
  match engine.lock, engine.descriptor with
  | none, some current => some ((engine.acquire pid).turn pid (.recording identity current))
  | _, _ => none

def recordSupervisor (pid : Nat) (identity : Option Identity) (current : Descriptor) (engine : Engine) : Engine :=
  if current.status = .starting then
    match identity with
    | none => (engine.release pid).turn pid
        (.publishing false current (.launchFailure "check supervisor exited before identity was recorded") .summary)
    | some token =>
        { engine with
          descriptor := some { current with supervisorPid := some token, supervisorIdentity := some (some token) }
          }.leave pid
  else engine.leave pid

def loadSupervised (pid : Nat) (engine : Engine) : Option Engine :=
  match engine.lock, engine.descriptor with
  | none, some descriptor => some ((engine.acquire pid).turn pid (.claiming descriptor))
  | _, _ => none

def claimCheck (pid : Nat) (valid : Except String Unit) (readable : Bool) (now : String) (descriptor : Descriptor)
    (engine : Engine) : Engine :=
  if descriptor.status.terminal then engine.leave pid
  else if descriptor.status = .running then engine.leave pid
  else
    match valid with
    | .error error => (engine.release pid).turn pid
        (.publishing false descriptor (.launchFailure ("invalid applicability binding: " ++ error)) .summary)
    | .ok () =>
        let claimed := { descriptor with
          status := .running
          supervisorPid := some pid
          supervisorIdentity := some (if readable then some pid else none)
          startedAt := some now }
        { engine with descriptor := some claimed }.release pid |>.turn pid (.owning claimed)

def readSuite (pid : Nat) (suite : Option String) (descriptor : Descriptor) (engine : Engine) : Engine :=
  match suite with
  | none => engine.leave pid
  | some fingerprint =>
      if fingerprint ≠ descriptor.dispatch.fingerprint then
        engine.turn pid (.publishing false descriptor (.launchFailure "check suite changed after dispatch") .summary)
      else { engine with started := engine.started ++ [pid] }.turn pid (.executing descriptor)

def loadCommand (pid : Nat) (change : CommandChange) (descriptor : Descriptor) (engine : Engine) : Option Engine :=
  match engine.lock, engine.descriptor with
  | none, some current =>
      if descriptor.dispatch.execution = .detached then
        some ((engine.acquire pid).turn pid (.updating descriptor change current))
      else none
  | _, _ => none

def recordCommand (pid : Nat) (descriptor : Descriptor) (change : CommandChange) (current : Descriptor)
    (engine : Engine) : Engine :=
  match change with
  | .launching =>
      if current.status ≠ .running then engine.leave pid
      else { engine with descriptor := some { current with commandLaunching := true } }.release pid
        |>.turn pid (.executing descriptor)
  | .abandoned =>
      { engine with descriptor := some { current with commandLaunching := false } }.release pid
        |>.turn pid (.executing descriptor)
  | .active identity =>
      if current.status ≠ .running then (engine.release pid).turn pid (.executing descriptor)
      else { engine with descriptor := some { current with activeCommand := some identity, commandLaunching :=
        false } }.release
        pid |>.turn pid (.executing descriptor)
  | .cleared identity =>
      if current.activeCommand = some identity then
        { engine with descriptor := some { current with activeCommand := none, commandLaunching := false } }.release pid
          |>.turn pid (.executing descriptor)
      else (engine.release pid).turn pid (.executing descriptor)

def concludeCommands (pid : Nat) (commands : List CommandResult) (duration : Rat) (descriptor : Descriptor)
    (engine : Engine) : Engine :=
  engine.turn pid (.publishing false descriptor (.concluded commands duration) .summary)

def noteEvent (site : Site) (dispatch : Dispatch) (status : Status) (now : String) (engine : Engine) : Option Engine :=
  match engine.result, engine.evidence with
  | some result, some evidence =>
      (retainEvent engine.event (followupEvent site dispatch status result evidence now)).map fun event =>
        { engine with event := some event }
  | _, _ => none

def publish (site : Site) (pid : Nat) (now : String) (locked : Bool) (descriptor : Descriptor) (outcome : Outcome)
    (stage : Stage) (engine : Engine) : Engine :=
  match stage with
  | .summary => { engine with summary := true }.turn pid (.publishing locked descriptor outcome .result)
  | .result =>
      let result := outcome.result descriptor now
      { engine with result := some result }.turn pid (.publishing locked descriptor outcome (.evidence result))
  | .evidence result =>
      match engine.result with
      | none => engine.leave pid
      | some retained => { engine with evidence := some (outcome.evidence site descriptor retained now) }.turn pid
          (.publishing locked descriptor outcome (.event result))
  | .event result =>
      match noteEvent site descriptor.dispatch outcome.status now engine with
      | none => engine.leave pid
      | some noted => noted.turn pid (.publishing locked descriptor outcome (.descriptor result))
  | .descriptor result => { engine with descriptor := some (outcome.descriptor site descriptor result) }.leave pid

def loadReaped (pid : Nat) (engine : Engine) : Option Engine :=
  match engine.lock, engine.descriptor with
  | none, some descriptor => some ((engine.acquire pid).turn pid (.reaping descriptor))
  | _, _ => none

inductive CommandState where
  | unknown
  | alive (exited groupGone : Bool)
  | gone (groupGone : Bool)
deriving DecidableEq, Repr

def proven (gone : List Nat) (readable : Bool) (identity : Option (Option Identity)) : Bool :=
  match identity with
  | some (some token) => readable && decide (token ∈ gone)
  | _ => false

def reapable (gone : List Nat) (readable : Bool) (command : CommandState) (descriptor : Descriptor) :
    Option Descriptor :=
  if descriptor.status.terminal ∨ proven gone readable descriptor.supervisorIdentity = false then none
  else
    match descriptor.activeCommand with
    | none => if descriptor.commandLaunching then none else some descriptor
    | some _ =>
        match command with
        | .alive true true => some { descriptor with activeCommand := none, activeCommandStop := true }
        | .gone true => some { descriptor with activeCommand := none }
        | _ => none

def recoverable (engine : Engine) (descriptor : Descriptor) : Option Result :=
  match engine.result, engine.evidence with
  | some result, some evidence =>
      if engine.summary = true ∧ result.checkId = descriptor.dispatch.checkId ∧ result.status.terminal = true ∧
          evidence.checkId = descriptor.dispatch.checkId ∧ result.applicability = descriptor.dispatch.applicability ∧
          evidence.applicability = descriptor.dispatch.applicability then some result
      else none
  | _, _ => none

def failureKind (status : Status) : String :=
  if status = .starting then "supervisor_never_claimed" else "supervisor_not_alive"

def judgeCheck (pid : Nat) (readable : Bool) (command : CommandState) (descriptor : Descriptor)
    (engine : Engine) : Engine :=
  match reapable engine.gone readable command descriptor with
  | none => engine.leave pid
  | some stopped =>
      match recoverable engine stopped with
      | some result => engine.turn pid (.recovering stopped result false)
      | none => engine.turn pid (.publishing true stopped
          (.launchFailure ("detached local check supervisor exited before finalization: " ++
          failureKind descriptor.status))
          .summary)

def recoverCheck (site : Site) (pid : Nat) (now : String) (descriptor : Descriptor) (result : Result) (noted : Bool)
    (engine : Engine) : Engine :=
  if noted then { engine with descriptor := some (recoveredDescriptor site descriptor result now) }.leave pid
  else
    match noteEvent site descriptor.dispatch result.status now engine with
    | none => engine.leave pid
    | some written => written.turn pid (.recovering descriptor result true)

inductive Action where
  | create (dispatch : Dispatch)
  | spawn (spawned : Except String (Option Identity))
  | loadStarted
  | record
  | supervise
  | claim (valid : Except String Unit) (readable : Bool) (now : String)
  | readSuite (suite : Option String)
  | loadCommand (change : CommandChange)
  | recordCommand
  | conclude (commands : List CommandResult) (duration : Rat)
  | publish (now : String)
  | reap
  | judge (readable : Bool) (command : CommandState)
  | recover (now : String)
  | fail
  | exit

def act (site : Site) (pid : Nat) (action : Action) (engine : Engine) : Option Engine :=
  match action, engine.phaseOf pid with
  | .create dispatch, .idle => createCheck pid dispatch engine
  | .spawn spawned, .launching descriptor =>
      if descriptor.dispatch.execution = .detached then some (spawnSupervisor pid spawned descriptor engine) else none
  | .loadStarted, .spawned identity => loadStarted pid identity engine
  | .record, .recording identity current => some (recordSupervisor pid identity current engine)
  | .supervise, .idle => loadSupervised pid engine
  | .supervise, .launching descriptor =>
      if descriptor.dispatch.execution = .foreground then loadSupervised pid engine else none
  | .claim valid readable now, .claiming descriptor => some (claimCheck pid valid readable now descriptor engine)
  | .readSuite suite, .owning descriptor => some (readSuite pid suite descriptor engine)
  | .loadCommand change, .executing descriptor => loadCommand pid change descriptor engine
  | .recordCommand, .updating descriptor change current => some (recordCommand pid descriptor change current engine)
  | .conclude commands duration, .executing descriptor =>
      some (concludeCommands pid commands duration descriptor engine)
  | .publish now, .publishing locked descriptor outcome stage =>
      some (publish site pid now locked descriptor outcome stage engine)
  | .reap, .idle => loadReaped pid engine
  | .judge readable command, .reaping descriptor => some (judgeCheck pid readable command descriptor engine)
  | .recover now, .recovering descriptor result noted => some (recoverCheck site pid now descriptor result noted engine)
  | .fail, _ => some (engine.leave pid)
  | .exit, _ => some { engine.leave pid with gone := pid :: engine.gone }
  | _, _ => none

def step (site : Site) (label : Nat × Action) (engine : Engine) : Option Engine :=
  if label.1 ∈ engine.gone then none else act site label.1 label.2 engine

end OrchestratorEngine.LocalChecks
