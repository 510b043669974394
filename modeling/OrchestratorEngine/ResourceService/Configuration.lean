import OrchestratorEngine.Foundation.Durable
import OrchestratorEngine.ResourceQueue.Normalization

set_option autoImplicit false

namespace OrchestratorEngine.ResourceService

open Foundation ResourceQueue

abbrev Path := String

structure Recipe where
  kind : Option String := none
  inputs : Option (List Path) := none
  stages : List Definition := []
  detail : String := ""
deriving DecidableEq

structure Project where
  root : Path
  recipes : Dict Name Recipe
  token : Option Token := none
deriving DecidableEq

-- A digest is kept as the value it is taken of; an authority from before the
-- first update may lack the revision and the digest.
structure Configuration where
  projects : Dict Name Project
  resources : Registry
  authority : Option Id := none
  revision : Option Int := none
  resourceDigest : Option Registry := none
deriving DecidableEq

-- config.json, config.next.json and the ledger with its own identity.
structure Directory where
  config : Configuration
  staged : Option Configuration
  authority : Id
  ledger : Ledger
deriving DecidableEq

-- What the authority takes from its surroundings. The contracts of commands and
-- the compilation of a release upgrade are taken as they come.
structure Site where
  resolve : Path → Path
  isDirectory : Path → Bool
  resolved : ∀ path, resolve (resolve path) = resolve path
  token : Name → Token
  releaseUpgrade : Recipe → Except Error (List Definition)
  commandContract : String → Except Error Unit
  probeContract : String → Except Error Unit

def registryDigest (registry : Registry) : Registry := canonical registry

def validateStage (site : Site) (stage : Definition) : Except Error Unit :=
  match stage.commands with
  | none => throw (.resource "stage must contain commands")
  | some commands => site.commandContract commands

def validateRecipe (site : Site) (recipe : Recipe) : Except Error Unit := do
  if recipe.kind = some "release-upgrade" then
    let _ ← site.releaseUpgrade recipe
  else
    refuse (recipe.inputs.getD [] = []) (.resource "recipe must declare explicit input paths")
    let _ ← recipe.stages.mapM (validateStage site)

def validateProject (site : Site) (item : Name × Project) : Except Error Unit := do
  let (name, project) := item
  let _ ← identifier name
  refuse (site.isDirectory (site.resolve project.root) = false) (.resource "project root must be a directory")
  let _ ← project.recipes.items.mapM fun item => validateRecipe site item.2

def validateResource (site : Site) (resource : Entry) : Except Error Unit :=
  if resource.release = some .probe then
    match resource.probe with
    | none => throw (.key "probe")
    | some command => site.probeContract command
  else return

def validateConfig (site : Site) (config : Configuration) : Except Error Unit := do
  refuse (config.projects.items = []) (.resource "register at least one project")
  let _ ← config.projects.items.mapM (validateProject site)
  let _ ← config.resources.items.mapM fun item => validateResource site item.2

def retainProject (site : Site) (projects : Dict Name Project) (item : Name × Project) :
    Except Error (Dict Name Project) := do
  let (name, registered) := item
  match projects.get? name with
  | none => throw (.resource "configuration update cannot remove projects")
  | some replacement => do
      refuse (site.resolve replacement.root ≠ registered.root)
        (.resource "configuration update cannot change an existing project root")
      match registered.token with
      | none => throw (.key "token")
      | some token => return projects.set name { replacement with token := some token }

def settleProject (site : Site) (current : Dict Name Project) (name : Name) (project : Project) : Project :=
  { project with
    root := site.resolve project.root
    token := if name ∈ current.keys then project.token else some (site.token name) }

def prepareUpdate (site : Site) (config : Configuration) (expected : Int) (directory : Directory) :
    Except Error (Configuration × Registry) := do
  let current := directory.config
  let revision := current.revision.getD 1
  refuse (revision ≠ expected)
    (.resource s!"configuration revision changed: expected {expected}, found {revision}")
  refuse (current.authority ≠ some directory.authority)
    (.resource "authority identity mismatch; reconcile restored state")
  refuse (current.resourceDigest ≠ none ∧ current.resourceDigest ≠ some (registryDigest directory.ledger.registry))
    (.resource "authority configuration does not match the resource ledger")
  refuse (directory.ledger.activeStages ≠ [])
    (.resource "configuration update requires a stopped, fully drained authority")
  let projects ← current.projects.items.foldlM (retainProject site) config.projects.sorted
  let resources := canonical config.resources
  let registry ← normalizeRegistry resources
  return ({
    projects := projects.mapValues (settleProject site current.projects)
    resources := resources
    authority := current.authority
    revision := some (revision + 1)
    resourceDigest := some (registryDigest registry) }, registry)

-- What can befall the durable steps of one update: the step of the reconciliation
-- that it starts with, its own steps, and those of its handler and its cleanup.
structure Faults where
  settle : Fault Error := .none
  write : Fault Error := .none
  configure : Fault Error := .none
  replace : Fault Error := .none
  inspect : Fault Error := .none
  rollback : Fault Error := .none
  unlink : Fault Error := .none
deriving DecidableEq

def stage (updated : Configuration) (directory : Directory) : Except Error Directory :=
  return { directory with staged := some updated }

def configure (raw : Registry) (directory : Directory) : Except Error Directory := do
  let ledger ← directory.ledger.configure raw
  return { directory with ledger := ledger }

-- The atomic rename of config.next.json over config.json.
def promote (directory : Directory) : Except Error Directory :=
  match directory.staged with
  | none => throw .os
  | some candidate => return { directory with config := candidate, staged := none }

def discard (directory : Directory) : Except Error Directory :=
  match directory.staged with
  | none => throw .os
  | some _ => return { directory with staged := none }

inductive Verdict where
  | unchanged
  | committed
  | rolledBack
deriving DecidableEq, Repr

def reconcileConfiguration (site : Site) (fault : Fault Error) : Durable Directory Error Verdict := do
  let directory ← Durable.look .ok
  match directory.staged with
  | none => return .unchanged
  | some candidate => do
      Durable.lift (validateConfig site candidate)
      Durable.lift (refuse (candidate.authority ≠ directory.config.authority ∨
          candidate.revision ≠ some (directory.config.revision.getD 1 + 1))
        (.resource "staged configuration is not a recognized next revision"))
      let found := registryDigest directory.ledger.registry
      if candidate.resourceDigest = some found then
        Durable.step fault promote
        return .committed
      else if directory.config.resourceDigest = some found then
        Durable.step fault discard
        return .rolledBack
      else
        Durable.raise (.resource "staged configuration and resource ledger have unrelated revisions")

-- The handler of an update that raised: the old registry comes back where the
-- ledger has the new one, and the exception goes on.
def restore (faults : Faults) (registry : Registry) (error : Error) : Durable Directory Error Unit := do
  Durable.step faults.inspect .ok
  let directory ← Durable.look .ok
  if ¬ Dict.Same directory.ledger.registry registry then
    Durable.step faults.rollback (configure registry)
  Durable.raise error

def install (faults : Faults) (updated : Configuration) : Durable Directory Error Unit := do
  Durable.step faults.configure (configure updated.resources)
  Durable.step faults.replace promote

def cleanup (faults : Faults) : Durable Directory Error Unit :=
  Durable.suppress (fun error => decide (error = .os)) (Durable.step faults.unlink discard)

structure Receipt where
  authority : Option Id
  revision : Option Int
  resourceDigest : Option Registry
deriving DecidableEq

def updateConfiguration (site : Site) (faults : Faults) (config : Configuration) (expected : Int) :
    Durable Directory Error Receipt := do
  Durable.lift (validateConfig site config)
  Durable.lift (refuse (expected < 1) (.resource "expected revision must be a positive integer"))
  let _ ← reconcileConfiguration site faults.settle
  let (updated, _) ← Durable.look (prepareUpdate site config expected)
  let old ← Durable.look fun directory => .ok directory.ledger.registry
  Durable.step faults.write (stage updated)
  Durable.ensure (Durable.rescue (install faults updated) (restore faults old)) (cleanup faults)
  return ⟨updated.authority, updated.revision, updated.resourceDigest⟩

end OrchestratorEngine.ResourceService
