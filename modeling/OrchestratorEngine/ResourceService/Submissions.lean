import OrchestratorEngine.ResourceQueue.Runs
import OrchestratorEngine.ResourceService.Configuration

set_option autoImplicit false

namespace OrchestratorEngine.ResourceService

open Foundation ResourceQueue

abbrev Manifest := Dict Path String

structure Contract where
  recipe : Recipe
  inputs : Manifest
  lineage : Option Name
deriving DecidableEq

structure Payload where
  recipe : Name
  recipeDigest : Recipe
  id : Name
  inputs : Manifest
  lineage : Option Name := none
  subscriber : Option Subscriber := none
deriving DecidableEq

-- The surroundings of a running authority: its configuration, the digests, and
-- the directories of its snapshots, which never repeat.
structure Intake extends Site where
  config : Configuration
  fingerprint : Contract → String
  planDetail : Contract → String
  snapshot : Nat → Path
  fresh : Function.Injective snapshot

def hexadecimal : List Char := "0123456789abcdef".toList

-- A relative path in normal form, as PurePosixPath spells it, outside .orchestrator.
def insideInputs (relative : Path) : Bool :=
  decide (relative = ".") || (decide ('\\' ∉ relative.toList) &&
    (relative.splitOn "/").all fun part => decide (part ∉ ["", ".", "..", ".orchestrator"]))

def validateInput (item : Path × String) : Except Error Unit := do
  let (relative, sha256) := item
  refuse (relative = "" ∨ 4096 < relative.length) (.resource "input manifest paths must be nonempty strings")
  refuse (insideInputs relative = false) (.resource "input manifest path must stay inside project inputs")
  refuse (sha256.length ≠ 64 ∨ ¬ sha256.toList.all (fun character => decide (character ∈ hexadecimal)) = true)
    (.resource "input manifest values must be lowercase SHA-256 hashes")

def validateInputManifest (value : Manifest) : Except Error Manifest := do
  refuse (value.items = []) (.resource "input contract requires a nonempty input manifest")
  let _ ← value.items.mapM validateInput
  return value

def compileRecipe (site : Site) (recipe : Recipe) : Except Error (List Definition) :=
  if recipe.kind = some "release-upgrade" then site.releaseUpgrade recipe else return recipe.stages

structure Accession where
  root : Path
  contract : Contract

def admitPayload (host : Host) (intake : Intake) (project : Name) (payload : Payload) : Except Error Accession := do
  match intake.config.projects.get? project with
  | none => throw (.key project)
  | some registered => do
      match registered.recipes.get? payload.recipe with
      | none => throw (.resource "recipe changed or is not registered")
      | some recipe => do
          refuse (recipe ≠ payload.recipeDigest) (.resource "recipe changed or is not registered")
          let _ ← identifier payload.id
          let inputs ← validateInputManifest payload.inputs
          let _ ← payload.lineage.toList.mapM identifier
          let _ ← payload.subscriber.toList.mapM (validateSubscriber host)
          return ⟨registered.root, ⟨recipe, inputs.sorted, payload.lineage⟩⟩

structure Answered where
  request : Id
  contractDigest : Plan
  idempotent : Bool
deriving DecidableEq

def replaySubmission (host : Host) (request : Id) (fingerprint : String) (subscriber : Option Subscriber)
    (conflict : String) (ledger : Ledger) : Except Error (Ledger × Answered) := do
  let saved ← ledger.request request
  match saved.plan.contractDigest with
  | none => throw (.key "contract_digest")
  | some recorded => do
      refuse (recorded ≠ fingerprint) (.resource conflict)
      let ledger ← match subscriber with
        | none => pure ledger
        | some subscriber =>
            if subscriber ∈ saved.subscribers then pure ledger
            else ledger.subscribe host request saved.plan subscriber false
      return (ledger, ⟨request, saved.plan, true⟩)

-- How a section that holds the authority's lock and an open ledger ends: it goes
-- through, or an exception is raised before anything is written, after a commit
-- of which the caller does not hear, or when the ledger is closed.
inductive Access where
  | clean
  | raisesBefore (error : Error)
  | uncertain (error : Error)
  | closeFails (error : Error)
deriving DecidableEq, Repr

def locked {α : Type} (access : Access) (ledger : Ledger) (body : Ledger → Except Error (Ledger × α)) :
    Ledger × Except (Error × Option α) α :=
  match access, body ledger with
  | .raisesBefore error, _ => (ledger, .error (error, none))
  | _, .error error => (ledger, .error (error, none))
  | .clean, .ok (next, value) => (next, .ok value)
  | .uncertain error, .ok (next, _) => (next, .error (error, none))
  | .closeFails error, .ok (next, value) => (next, .error (error, some value))

inductive Phase where
  | asked
  | absent
  | captured (workspace : Path) (plan : Plan)
  | failing (workspace : Path) (error : Error)
  | disposing (workspace : Path) (error : Error)
  | replayed (workspace : Path) (answered : Answered)
  | returned (answered : Answered)
  | raised (error : Error)
deriving DecidableEq

structure Submission where
  project : Name
  payload : Payload
  root : Path
  contract : Contract
  phase : Phase := .asked
  workspace : Option Path := none
deriving DecidableEq

def openSubmission (project : Name) (payload : Payload) (accession : Accession) : Submission where
  project := project
  payload := payload
  root := accession.root
  contract := accession.contract

def Submission.fingerprint (intake : Intake) (submission : Submission) : String :=
  intake.fingerprint submission.contract

structure Service where
  ledger : Ledger
  workspaces : List Path
  drawn : Nat
  submissions : List Submission
deriving DecidableEq

def Service.create : Service := ⟨Ledger.create, [], 0, []⟩

inductive CaptureOutcome where
  | taken
  | refused (error : Error)
  | broken (error : Error) (removed : Bool)
deriving DecidableEq, Repr

def lookUpBody (host : Host) (intake : Intake) (submission : Submission) (ledger : Ledger) :
    Except Error (Ledger × Option Answered) :=
  match ledger.findRequest submission.project submission.payload.id with
  | none => return (ledger, none)
  | some row => do
      let (ledger, answered) ← replaySubmission host row.id (submission.fingerprint intake)
        submission.payload.subscriber "request ID already has different immutable inputs" ledger
      return (ledger, some answered)

def lookUp (host : Host) (intake : Intake) (access : Access) (service : Service) (submission : Submission) :
    Service × Submission :=
  let (ledger, result) := locked access service.ledger (lookUpBody host intake submission)
  ({ service with ledger := ledger }, { submission with
    phase := match result with
      | .ok none => .absent
      | .ok (some answered) => .returned answered
      | .error (error, _) => .raised error })

def submissionPlan (intake : Intake) (submission : Submission) (stages : List Definition)
    (workspace : Path) : Plan where
  stages := stages
  contractDigest := some (submission.fingerprint intake)
  workspace := some workspace
  detail := intake.planDetail submission.contract

def takeSnapshot (intake : Intake) (live : Except Error Manifest) (outcome : CaptureOutcome) (service : Service)
    (submission : Submission) : Service × Submission :=
  match live with
  | .error error => (service, { submission with phase := .raised error })
  | .ok actual =>
      if ¬ Dict.Same actual submission.payload.inputs then
        (service, { submission with
          phase := .raised (.resource "declared input snapshot differs from registered project") })
      else
        let workspace := intake.snapshot service.drawn
        let service := { service with drawn := service.drawn + 1 }
        match outcome with
        | .refused error => (service, { submission with phase := .raised error })
        | .broken error removed =>
            ({ service with workspaces := if removed then service.workspaces else service.workspaces ++ [workspace] },
              { submission with phase := .raised error, workspace := some workspace })
        | .taken =>
            ({ service with workspaces := service.workspaces ++ [workspace] },
              { submission with
                workspace := some workspace
                phase := match compileRecipe intake.toSite submission.contract.recipe with
                  | .error error => .raised error
                  | .ok stages => .captured workspace (submissionPlan intake submission stages workspace) })

def enterBody (host : Host) (intake : Intake) (submission : Submission) (plan : Plan) (ledger : Ledger) :
    Except Error (Ledger × (Answered ⊕ Id)) :=
  match ledger.findRequest submission.project submission.payload.id with
  | some row => do
      let (ledger, answered) ← replaySubmission host row.id (submission.fingerprint intake)
        submission.payload.subscriber "concurrent request ID conflict" ledger
      return (ledger, .inl answered)
  | none => do
      let (ledger, request) ← ledger.submit host submission.project submission.payload.id plan
        submission.payload.subscriber
      return (ledger, .inr request)

def enterLedger (host : Host) (intake : Intake) (access : Access) (service : Service) (submission : Submission)
    (workspace : Path) (plan : Plan) : Service × Submission :=
  let (ledger, result) := locked access service.ledger (enterBody host intake submission plan)
  ({ service with ledger := ledger }, { submission with
    phase := match result with
      | .ok (.inl answered) => .replayed workspace answered
      | .ok (.inr request) => .returned ⟨request, plan, false⟩
      | .error (error, some (.inr _)) => .raised error
      | .error (error, _) => .failing workspace error })

def snapshotIsReferenced (intake : Intake) (readable : Bool) (ledger : Ledger) (submission : Submission)
    (workspace : Path) : Bool :=
  if readable then
    match ledger.findRequest submission.project submission.payload.id with
    | none => false
    | some row =>
        match row.plan.workspace with
        | none => true
        | some saved => decide (intake.resolve saved = intake.resolve workspace)
  else true

inductive Act where
  | look (access : Access)
  | capture (live : Except Error Manifest) (outcome : CaptureOutcome)
  | enter (access : Access)
  | inspect (readable : Bool)
  | dispose (removed : Bool)
  | clean (removed : Bool)

def dropWorkspace (workspace : Path) (removed : Bool) (service : Service) : Service :=
  if removed then { service with workspaces := service.workspaces.filter fun other => decide (other ≠ workspace) }
  else service

def move (host : Host) (intake : Intake) (act : Act) (service : Service) (submission : Submission) :
    Service × Submission :=
  match act, submission.phase with
  | .look access, .asked => lookUp host intake access service submission
  | .capture live outcome, .absent => takeSnapshot intake live outcome service submission
  | .enter access, .captured workspace plan => enterLedger host intake access service submission workspace plan
  | .inspect readable, .failing workspace error =>
      (service, { submission with
        phase := if snapshotIsReferenced intake readable service.ledger submission workspace then .raised error
          else .disposing workspace error })
  | .dispose removed, .disposing workspace error =>
      (dropWorkspace workspace removed service, { submission with phase := .raised error })
  | .clean removed, .replayed workspace answered =>
      (dropWorkspace workspace removed service, { submission with
        phase := if removed then .returned answered
          else .raised (.resource "could not remove an unreferenced input snapshot") })
  | _, _ => (service, submission)

inductive Event where
  | ask (project : Name) (payload : Payload)
  | act (index : Nat) (act : Act)
  | other (call : Call)

def isSubmit : Call → Bool
  | .submit .. => true
  | _ => false

def serve (host : Host) (intake : Intake) (service : Service) : Event → Service
  | .ask project payload =>
      match admitPayload host intake project payload with
      | .error _ => service
      | .ok accession => { service with
          submissions := service.submissions ++ [openSubmission project payload accession] }
  | .act index act =>
      match service.submissions[index]? with
      | none => service
      | some submission =>
          let (next, moved) := move host intake act service submission
          { next with submissions := next.submissions.set index moved }
  | .other call => if isSubmit call then service else { service with ledger := commit host service.ledger call }

def served (host : Host) (intake : Intake) (events : List Event) : Service :=
  events.foldl (serve host intake) Service.create

end OrchestratorEngine.ResourceService
