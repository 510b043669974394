import OrchestratorEngine.Continuity.Endings
import OrchestratorEngine.Watcher.Consumption
import OrchestratorEngine.Workstreams.Finality

set_option autoImplicit false

namespace OrchestratorEngine.Watcher.Channels

open Foundation

inductive Announcement where
  | plain
  | activation (activationId : Nat)
  | continuation (signal : Workstreams.Signal) (source : signal.workstreamSource = true)

structure Channel where
  serves : String → Bool
  announces : SignalKey → Announcement

-- The processes of a channel with the databases and the workstreams of its
-- projects, and the signals for which its action completed without deferral.
structure World where
  system : System := { file := none }
  completed : List SignalKey := []
  works : String → Continuity.Store := fun _ => Continuity.initialized
  streams : String → String → Workstreams.World

inductive Reading where
  | made | failed
deriving DecidableEq, Repr

-- What a visit meets that the databases do not decide: an error, a time or a
-- host that keeps the scan from the signal, its host, whether the guard of the
-- workstreams can read, its clock, and how the action ends.
structure Sight where
  withheld : Bool := false
  host : String := "_unbound"
  reading : Reading := .made
  readings : Workstreams.Readings
  delivery : Delivery := .done

def deliveryDisposition (store : Continuity.Store) : Announcement → Option Disposition
  | .activation activationId => (store.activation? activationId).map fun activation =>
      match activation.status with
      | .published => .deliver
      | .claimed => .consume
      | .revoked => .consume
      | .pending => .hold
  | _ => some .deliver

def look (channel : Channel) (key : SignalKey) (sight : Sight) (world : World) : Look :=
  let disposition := deliveryDisposition (world.works key.project) (channel.announces key)
  { withheld := sight.withheld || disposition.isNone
    disposition := disposition.getD .deliver
    host := sight.host
    delivery := sight.delivery }

def World.stream (project workstreamId : String) (stream : Workstreams.World) (world : World) : World :=
  { world with
    streams := Function.update world.streams project (Function.update (world.streams project) workstreamId stream) }

-- Whatever keeps the guard from reading, the answer is not to deliver. An
-- error that it does not catch ends the scan.
def guarded (project : String) (sight : Sight) (world : World) : Announcement → Option (Bool × World)
  | .continuation signal _ =>
      match sight.reading, signal.identity with
      | .failed, _ => some (false, world)
      | .made, none => some (false, world)
      | .made, some (workstreamId, _) =>
          let stream := world.streams project workstreamId
          let guard := Workstreams.continuationDeliveryGuard workstreamId signal sight.readings
          let after := world.stream project workstreamId ⟨guard.final stream.files, sight.readings.taken⟩
          if stream.clock ≤ sight.readings.taken then
            match (guard.run stream.files).2 with
            | .ok delivery => some (decide (delivery = some .deliver), after)
            | .error _ => none
          else none
  | _ => some (true, world)

def scanning (process : Nat) (world : World) : Option Scanning :=
  match world.system.phase process with
  | some (.visiting _ scan) => some scan
  | _ => none

def visitSignal (channel : Channel) (process : Nat) (key : SignalKey) (sight : Sight) (world : World) :
    Option World := do
  let scan ← scanning process world
  let seen := look channel key sight world
  if consults world.system.receipts key seen scan then
    let (authorized, after) ← guarded key.project sight world (channel.announces key)
    let system ← act (process, .visit key { seen with authorized }) world.system
    let completed := if authorized = true ∧ sight.delivery = .done then add key world.completed else world.completed
    return { after with system, completed }
  else
    let system ← act (process, .visit key seen) world.system
    return { world with system }

-- The steps of a channel, and what happens beside it: acknowledgements and
-- the default state file of other channels, and the calls of both stores.
inductive Label where
  | process (process : Nat) (action : Action)
  | visit (process : Nat) (key : SignalKey) (sight : Sight)
  | acknowledged (receipt : Receipt)
  | elsewhere (legacy : Option WatcherState)
  | continuity (project : String) (world : Continuity.World) (call : Continuity.Call)
  | workstream (project workstreamId : String) (call : Workstreams.Call) (readings : Workstreams.Readings)
      (left : Workstreams.Files)
  | wait (project workstreamId : String) (instant : Int)

def admitted (channel : Channel) : Action → Bool
  | .acknowledgeSignal ack => channel.serves ack.host
  | .visit _ _ => false
  | _ => true

def step (channel : Channel) : Label → World → Option World
  | .process process action, world =>
      if admitted channel action then (act (process, action) world.system).map fun system => { world with system }
      else none
  | .visit process key sight, world =>
      if sight.withheld = true ∨ channel.serves sight.host = true then visitSignal channel process key sight world
      else none
  | .acknowledged receipt, world =>
      some { world with system := { world.system with receipts := add receipt world.system.receipts } }
  | .elsewhere legacy, world => some { world with system := { world.system with legacy } }
  | .continuity project surroundings call, world =>
      let after := (Continuity.perform surroundings call (world.works project)).store
      some { world with works := Function.update world.works project after }
  | .workstream project workstreamId call readings left, world =>
      let stream := world.streams project workstreamId
      if stream.clock ≤ readings.taken ∧
          left ∈ (Workstreams.perform workstreamId readings call).states stream.files then
        some (world.stream project workstreamId ⟨left, readings.taken⟩)
      else none
  | .wait project workstreamId instant, world =>
      let stream := world.streams project workstreamId
      if stream.clock ≤ instant then some (world.stream project workstreamId ⟨stream.files, instant⟩) else none

def Deliverable (channel : Channel) (key : SignalKey) (world : World) : Prop :=
  match channel.announces key with
  | .plain => True
  | .activation activationId =>
      ((world.works key.project).activation? activationId).map Continuity.Activation.status = some .published
  | .continuation signal _ => ∃ workstreamId checkpointId, signal.identity = some (workstreamId, checkpointId) ∧
      Workstreams.Opens workstreamId signal (world.streams key.project workstreamId)

def Closed (channel : Channel) (key : SignalKey) (world : World) : Prop :=
  ∀ schedule later, follow (step channel) schedule world = some later → ¬ Deliverable channel key later

def Accounted (channel : Channel) (key : SignalKey) (world : World) : Prop :=
  key ∈ world.completed ∨ (∃ host, channel.serves host = true ∧ ⟨host, key⟩ ∈ world.system.receipts) ∨
    Closed channel key world

def Handled (channel : Channel) (world : World) : Prop :=
  ∀ key ∈ seenKeys (loadState world.system.file), Accounted channel key world

structure Fresh (world : World) : Prop where
  file : world.system.file = none
  idle : ∀ process, world.system.phase process = none
  completed : world.completed = []
  works : ∀ project, Continuity.Reachable (world.works project)
  streams : ∀ project workstreamId, ∃ origin,
    Workstreams.Runs workstreamId ⟨{}, origin⟩ (world.streams project workstreamId)

def Legible (key : SignalKey) (sight : Sight) (signal : Workstreams.Signal) (world : World) : Prop :=
  sight.reading = .made ∧ ∀ workstreamId checkpointId, signal.identity = some (workstreamId, checkpointId) →
    (world.streams key.project workstreamId).files.checkpoints.get? checkpointId ≠ none

-- A consulted guard can read, or has nothing left to decide. A file of the old
-- format, such as seeding writes, names only events that are accounted for.
def Decided (channel : Channel) : Label → World → Prop
  | .visit process key sight, world => ∀ scan, scanning process world = some scan →
      consults world.system.receipts key (look channel key sight world) scan = true →
        ∀ signal source, channel.announces key = .continuation signal source →
          Legible key sight signal world ∨ Closed channel key world
  | .process process action, world => (loadState world.system.file).seenSignalKeys = none →
      ∀ project ∈ readFor process action world.system, ∀ eventId ∈ (loadState world.system.file).seenEventIds,
        Accounted channel ⟨project, eventId⟩ world
  | _, _ => True

end OrchestratorEngine.Watcher.Channels
