import OrchestratorEngine.Monitors.Records

set_option autoImplicit false

namespace OrchestratorEngine.Monitors

open Foundation

variable {ρ σ τ κ : Type}

namespace World

def start : World ρ σ τ κ := ⟨Dict.empty, Dict.empty, none, fun _ => .idle⟩

def goto (world : World ρ σ τ κ) (pid : Nat) (phase : Phase ρ σ τ κ) : World ρ σ τ κ :=
  { world with phase := Function.update world.phase pid phase }

def put (world : World ρ σ τ κ) (id : String) (stored : Stored σ τ) : World ρ σ τ κ :=
  { world with monitors := world.monitors.set id stored }

def acquire (world : World ρ σ τ κ) (pid : Nat) : World ρ σ τ κ := { world with holder := some pid }

def release (world : World ρ σ τ κ) (pid : Nat) : World ρ σ τ κ :=
  { world with holder := if world.holder = some pid then none else world.holder }

def leave (world : World ρ σ τ κ) (pid : Nat) (phase : Phase ρ σ τ κ) : World ρ σ τ κ :=
  (world.goto pid phase).release pid

def load (world : World ρ σ τ κ) (id : String) : Option (Descriptor σ τ) :=
  match world.monitors.get? id with
  | some (.whole descriptor) => some descriptor
  | _ => none

def supervisor (world : World ρ σ τ κ) (id : String) (descriptor : Descriptor σ τ) : Option Nat :=
  descriptor.supervisor.orElse fun _ => world.launches.get? id

def isGone (world : World ρ σ τ κ) (pid : Nat) : Bool :=
  match world.phase pid with
  | .gone => true
  | _ => false

end World

def Descriptor.end {σ τ : Type} (descriptor : Descriptor σ τ) (status : τ) : Descriptor σ τ :=
  { descriptor with status := .terminal status }

def Descriptor.held {σ τ : Type} (descriptor : Descriptor σ τ) (pid : Nat) : Descriptor σ τ :=
  { descriptor with status := .running, supervisor := some pid }

def Descriptor.about {σ τ : Type} (descriptor : Descriptor σ τ) (subject : σ) : Descriptor σ τ :=
  { descriptor with subject }

def enter (world : World ρ σ τ κ) (pid : Nat) (phase : Phase ρ σ τ κ) : Option (World ρ σ τ κ) :=
  match world.phase pid, world.holder with
  | .idle, none => some ((world.goto pid phase).acquire pid)
  | _, _ => none

variable (family : Family ρ σ κ)

def step : Step ρ τ κ → World ρ σ τ κ → Option (World ρ σ τ κ)
  | .start pid id request, world => enter world pid (.admitting id request)
  | .scan pid, world =>
      match world.phase pid with
      | .admitting id request =>
          match admission family id (family.subject request) world.monitors.items with
          | .admitted => some (world.goto pid (.creating id ⟨family.subject request, .starting, none⟩))
          | _ => some (world.leave pid .idle)
      | _ => none
  | .create pid, world =>
      match world.phase pid with
      | .creating id descriptor =>
          match world.monitors.get? id with
          | none => some ((world.put id .torn).goto pid (.filling id descriptor))
          | some _ => some (world.leave pid .idle)
      | _ => none
  | .fill pid, world =>
      match world.phase pid with
      | .filling id descriptor => some ((world.put id (.whole descriptor)).leave pid (.launching id descriptor))
      | _ => none
  | .spawn pid supervisor, world =>
      match world.phase pid with
      | .launching id _ => some (world.goto pid (.launched id supervisor))
      | _ => none
  | .spawnFails pid, world =>
      match world.phase pid with
      | .launching id descriptor => some (world.goto pid (.failing id descriptor))
      | _ => none
  | .record pid, world =>
      match world.phase pid with
      | .launched id supervisor =>
          some ({ world with launches := world.launches.set id supervisor }.goto pid .idle)
      | _ => none
  | .giveUp pid status, world =>
      match world.phase pid with
      | .failing id descriptor => some ((world.put id (.whole (descriptor.end status))).goto pid .idle)
      | _ => none
  | .supervise pid id, world => enter world pid (.entering id)
  | .take pid, world =>
      match world.phase pid with
      | .entering id =>
          match world.load id with
          | some descriptor =>
              match descriptor.status with
              | .starting => some (world.goto pid (.taking id descriptor))
              | _ => some (world.leave pid .idle)
          | none => some (world.leave pid .idle)
      | _ => none
  | .hold pid, world =>
      match world.phase pid with
      | .taking id descriptor =>
          some ((world.put id (.whole (descriptor.held pid))).leave pid (.supervising id (descriptor.held pid)))
      | _ => none
  | .load pid, world =>
      match world.phase pid with
      | .supervising id descriptor =>
          if family.reloads then
            (world.load id).map fun current => world.goto pid (.beating id descriptor current)
          else some (world.goto pid (.beating id descriptor descriptor))
      | _ => none
  | .beat pid, world =>
      match world.phase pid with
      | .beating id descriptor current => some ((world.put id (.whole current)).goto pid (.supervising id descriptor))
      | _ => none
  | .discover pid run, world =>
      match world.phase pid, world.holder with
      | .supervising id descriptor, none => some ((world.goto pid (.discovering id descriptor run)).acquire pid)
      | _, _ => none
  | .inspect pid, world =>
      match world.phase pid with
      | .discovering id descriptor run =>
          match world.load id with
          | none => some (world.leave pid (.finalizing id descriptor))
          | some current =>
              match discovery family id current.subject run world.monitors.items with
              | .unreadable => some (world.leave pid (.finalizing id descriptor))
              | .owned => some (world.leave pid (.finalizing id current))
              | .free => some (world.goto pid (.resolving id descriptor current run))
      | _ => none
  | .resolve pid, world =>
      match world.phase pid with
      | .resolving id _ current run =>
          let resolved := current.about (family.resolve current.subject run)
          some ((world.put id (.whole resolved)).leave pid (.supervising id resolved))
      | _ => none
  -- The observation ends, or any of its steps raises.
  | .conclude pid, world =>
      match world.phase pid with
      | .supervising id descriptor | .beating id descriptor _ | .discovering id descriptor _
      | .resolving id descriptor _ _ => some (world.leave pid (.finalizing id descriptor))
      | _ => none
  | .finish pid status, world =>
      match world.phase pid with
      | .finalizing id descriptor => some ((world.put id (.whole (descriptor.end status))).goto pid .idle)
      | _ => none
  | .reap pid id, world => enter world pid (.reaping id)
  | .judge pid, world =>
      match world.phase pid with
      | .reaping id =>
          match world.load id with
          | some descriptor =>
              if descriptor.status.ended = false ∧ (world.supervisor id descriptor).any world.isGone then
                some (world.goto pid (.burying id descriptor))
              else some (world.leave pid .idle)
          | none => some (world.leave pid .idle)
      | _ => none
  | .bury pid status, world =>
      match world.phase pid with
      | .burying id descriptor => some ((world.put id (.whole (descriptor.end status))).leave pid .idle)
      | _ => none
  | .fail pid, world => if world.isGone pid then none else some (world.leave pid .idle)
  | .exit pid, world => some (world.leave pid .gone)

end OrchestratorEngine.Monitors
