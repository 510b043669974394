import OrchestratorEngine.ResourceAdapters.Values
import OrchestratorEngine.Watcher.Signals

set_option autoImplicit false

namespace OrchestratorEngine.Watcher.Faults

open Foundation
open ResourceAdapters (Json Text lit)

inductive Raised where
  | osError | orchestratorError | watcherError | bindingError | codexAppError | workstreamError
  | recursionError | valueError | keyError | typeError | other
deriving DecidableEq, Repr

-- "except (OSError, RuntimeError, ValueError)"
def Raised.caught : Raised → Bool
  | .keyError => false
  | .typeError => false
  | .other => false
  | _ => true

-- "except (OSError, OrchestratorError)"
def Raised.listed (error : Raised) : Bool := decide (error = .osError ∨ error = .orchestratorError)

abbrev Caught (error : Raised) : Prop := error.caught = true

abbrev Fields := List (Text × Json)

-- What a reader finds under a path: nothing, a failing device, or bytes that
-- are no text, no JSON, nested too deep, with too long a number, or a value.
inductive Content where
  | absent | unreadable | undecodable | unparsable | nested | oversized
  | value (json : Json)

def loadObject : Content → Except Raised Fields
  | .absent => .error .orchestratorError
  | .unreadable => .error .osError
  | .undecodable => .error .valueError
  | .unparsable => .error .orchestratorError
  | .nested => .error .recursionError
  | .oversized => .error .valueError
  | .value (.obj fields) => .ok fields
  | .value _ => .error .orchestratorError

def loadOptionalObject : Content → Except Raised (Option Fields)
  | .absent => .ok none
  | content => (loadObject content).map some

-- "value in {...}" for a set of strings, which hashes the value.
def among (value : Json) (names : List String) : Except Raised Bool :=
  if value.hashable then .ok (names.any fun name => value.isText (lit name)) else .error .typeError

def isSupportedSchemaVersion : Json → Bool
  | .int version => decide (version = 1)
  | _ => false

def letterOrDigit (point : Nat) : Bool :=
  decide (48 ≤ point ∧ point ≤ 57 ∨ 65 ≤ point ∧ point ≤ 90 ∨ 97 ≤ point ∧ point ≤ 122)

def validEventId : Text → Bool
  | [] => false
  | first :: rest => letterOrDigit first && decide (rest.length ≤ 127) &&
      rest.all fun point => letterOrDigit point || decide (point = 95 ∨ point = 46 ∨ point = 45)

def spell (text : Text) : String := String.ofList (text.map Char.ofNat)

structure Calendar where
  parsed : Text → Option (Option Int)

def signalNotBefore (calendar : Calendar) (signal : Fields) : Except Raised (Option Int) :=
  match Json.item "not_before" signal with
  | .null => .ok none
  | .str text =>
      match calendar.parsed text with
      | some (some time) => .ok (some time)
      | _ => .error .watcherError
  | _ => .error .watcherError

def nonempty : Json → Bool
  | .str text => decide (text ≠ [])
  | _ => false

def validateBinding (binding : Fields) : Except Raised Unit := do
  refuse (isSupportedSchemaVersion (Json.item "schema_version" binding) = false) .bindingError
  refuse ((Json.item "kind" binding).isText (lit "ORCHESTRATOR_BINDING") = false) .bindingError
  let supported ← among (Json.item "host" binding) ["codex", "claude", "vscode"]
  refuse (supported = false) .bindingError
  refuse ((Json.item "host" binding).isText (lit "codex") = true ∧
    nonempty (Json.item "target_thread_id" binding) = false)
    .bindingError
  match Json.item "codex_command" binding with
  | .null => .ok ()
  | .str _ => .ok ()
  | _ => .error .bindingError

def loadBinding (content : Content) : Except Raised (Option Fields) := do
  match ← loadOptionalObject content with
  | none => return none
  | some binding => do
      validateBinding binding
      return some binding

def targetBinding (target : Fields) : Fields :=
  (lit "kind", .str (lit "ORCHESTRATOR_BINDING")) :: target.filter fun field =>
    decide (field.1 ∈ ["schema_version", "host", "target_thread_id", "codex_command"].map lit)

def captured (calendar : Calendar) : Json → Bool
  | .str text => (calendar.parsed text).any Option.isSome
  | _ => false

def validateWakeTarget (calendar : Calendar) (target : Fields) : Except Raised Unit := do
  refuse (isSupportedSchemaVersion (Json.item "schema_version" target) = false) .bindingError
  refuse ((Json.item "kind" target).isText (lit "ORCHESTRATOR_WAKE_TARGET") = false) .bindingError
  refuse (captured calendar (Json.item "captured_at" target) = false) .bindingError
  validateBinding (targetBinding target)

def hostOf (fields : Fields) : Option Text :=
  match Json.item "host" fields with
  | .str host => some host
  | _ => none

def signalHost (calendar : Calendar) (signal : Fields) (fallback : Option Fields) : Except Raised (Option Text) :=
  match Json.item "wake_target" signal with
  | .obj target => do
      validateWakeTarget calendar target
      return hostOf target
  | _ => .ok (fallback.bind hostOf)

def subjectFields (value : Fields) : Except Raised Fields :=
  match Json.item "task_id" value, Json.item "operation_id" value with
  | .str (first :: rest), _ => .ok [(lit "task_id", .str (first :: rest))]
  | _, .str (first :: rest) =>
      .ok ((lit "operation_id", .str (first :: rest)) ::
        if nonempty (Json.item "source_kind" value) then [(lit "source_kind", Json.item "source_kind" value)] else [])
  | _, _ => .error .orchestratorError

-- "signal[name]"
def required (name : String) (fields : Fields) : Except Raised Json :=
  (Dict.getItem (lit name) fields).elim (.error .keyError) .ok

structure Notification where
  eventId : Text
  subject : Fields
  terminalStatus : Json
  signalPath : Text

def notifySignal (signalPath : Text) (signal : Fields) : Except Raised Notification :=
  match Json.item "event_id" signal with
  | .str eventId => do
      refuse (validEventId eventId = false) .orchestratorError
      let subject ← subjectFields signal
      let terminalStatus ← required "terminal_status" signal
      return ⟨eventId, subject, terminalStatus, signalPath⟩
  | _ => .error .orchestratorError

structure Artifacts where
  digest : Text → Option Text

def verifyArtifact (artifacts : Artifacts) (event : Fields) (pathKey hashKey : String) : Except Raised Unit :=
  match Json.item pathKey event, Json.item hashKey event with
  | .str path, .str expected => refuse (artifacts.digest path ≠ some expected) .orchestratorError
  | _, _ => .error .orchestratorError

def workerStatuses : List String :=
  ["completed", "failed", "timed_out", "rate_limited", "invalid_result", "cancelled"]

def followupStatuses : List String :=
  ["completed", "failed", "cancelled", "timed_out", "action_required", "unavailable", "ambiguous"]

def verifyTerminalEvent (artifacts : Artifacts) (content : Content) : Except Raised Fields := do
  let event ← loadObject content
  refuse (isSupportedSchemaVersion (Json.item "schema_version" event) = false) .orchestratorError
  let kind := Json.item "kind" event
  let known ← among kind ["WORKER_TERMINAL", "ORCHESTRATOR_TERMINAL"]
  refuse (known = false) .orchestratorError
  let worker := kind.isText (lit "WORKER_TERMINAL")
  let identity := if worker then ["event_id", "project_id", "task_id"]
    else ["event_id", "project_id", "source_kind", "operation_id"]
  refuse (¬ ∀ key ∈ identity, nonempty (Json.item key event) = true) .orchestratorError
  match Json.item "event_id" event with
  | .str eventId => refuse (validEventId eventId = false) .orchestratorError
  | _ => .error .orchestratorError
  let allowed ← among (Json.item "terminal_status" event) (if worker then workerStatuses else followupStatuses)
  refuse (allowed = false) .orchestratorError
  verifyArtifact artifacts event "result_path" "result_sha256"
  verifyArtifact artifacts event "evidence_path" "evidence_sha256"
  return event

inductive Wakeup where
  | done
  | deferred (reason : Text)

def startsWith (front : String) (text : Text) : Bool := (lit front).isPrefixOf text

def ambiguousReason : Json → Option Text
  | .str text => if startsWith "queue_delivery_ambiguous" text || startsWith "headless_delivery_ambiguous" text then
      some text else none
  | _ => none

def existingWakeup (content : Content) : Except Raised (Option Wakeup) := do
  match ← loadOptionalObject content with
  | none => return none
  | some existing =>
      let status := Json.item "status" existing
      if status.isText (lit "delivery_claimed") then do
        let mode := Json.item "delivery_mode" existing
        let known ← among mode ["session_queue", "headless_app_server_turn"]
        let reason := if known ∧ mode.isText (lit "headless_app_server_turn") then "headless_delivery_ambiguous"
          else "queue_delivery_ambiguous"
        return some (.deferred (lit (reason ++ ": a previous durable delivery claim has no acknowledgement")))
      else
        match status.isText (lit "deferred"), ambiguousReason (Json.item "reason" existing) with
        | true, some reason => return some (.deferred reason)
        | _, _ => do
            let settled ← among status ["queued", "woken", "submitted", "failed", "interrupted"]
            return if settled then some .done else none

end OrchestratorEngine.Watcher.Faults
