import OrchestratorEngine.Watcher.Signals

set_option autoImplicit false

namespace OrchestratorEngine.Watcher

open Foundation

inductive Phase where
  | seeding (projects : List String) (now : Int) (legacy : WatcherState)
  | opening (projects : List String) (now : Int)
  | visiting (projects : List String) (scan : Scanning)
  | merging (projects : List String) (scan : Scanning) (latest : WatcherState)
  | acknowledging (ack : Acknowledging)
  | receipting (ack : Acknowledging) (state : WatcherState)
  | acknowledged (ack : Acknowledging) (state : WatcherState)
  | retrying (key : SignalKey) (state : WatcherState)
  | finished (seen acknowledged : List SignalKey)
  | failed

-- One state file, the default state file it may be seeded from, and the
-- processes that use it. The lock of the state file is held by one of them.
structure System where
  file : Option WatcherState
  legacy : Option WatcherState := none
  receipts : List Receipt := []
  lock : Option Nat := none
  phase : Nat → Option Phase := fun _ => none

inductive Action where
  | scanOnce (projects : List String) (now : Int)
  | acknowledgeSignal (ack : Acknowledging)
  | retryDeferredEvent (key : SignalKey)
  | visit (key : SignalKey) (look : Look)
  | next
  | stop
deriving DecidableEq, Repr

def System.move (process : Nat) (phase : Phase) (system : System) : System :=
  { system with phase := Function.update system.phase process (some phase) }

def System.release (process : Nat) (system : System) : System :=
  if system.lock = some process then { system with lock := none } else system

-- scan_once looks for a state file, and for a default one to seed it from,
-- before it reads; retry_deferred_event reads at once.
def start (process : Nat) (system : System) : Action → Option System
  | .scanOnce projects now =>
      match system.file, system.legacy with
      | none, some legacy => some (system.move process (.seeding projects now legacy))
      | _, _ => some (system.move process (.opening projects now))
  | .acknowledgeSignal ack => some (system.move process (.acknowledging ack))
  | .retryDeferredEvent key =>
      let state := ensureProjectScopedState [key.project] (loadState system.file)
      match (deferredOf state).get? key with
      | none => some (system.move process .failed)
      | some _ => some (system.move process (.retrying key state))
  | _ => none

def advance (process : Nat) (system : System) : Phase → Option System
  | .seeding projects now legacy =>
      some { system.move process (.opening projects now) with file := some (seeded legacy) }
  | .opening projects now => some (system.move process (.visiting projects (openScan projects now system.file)))
  | .visiting projects scan =>
      if system.lock = none then
        some { system.move process (.merging projects scan (loadState system.file)) with lock := some process }
      else none
  | .merging projects scan latest =>
      some { system.move process (.finished scan.seen []) with
        file := some (mergeScan projects scan latest)
        lock := none }
  | .acknowledging ack =>
      if system.lock = none then
        let state := ensureProjectScopedState [ack.key.project] (loadState system.file)
        if acknowledgeable ack system.receipts state then
          some { system.move process (.receipting ack state) with lock := some process }
        else some (system.move process .failed)
      else none
  | .receipting ack state =>
      some { system.move process (.acknowledged ack state) with receipts := add ⟨ack.host, ack.key⟩ system.receipts }
  | .acknowledged ack state =>
      some { system.move process (.finished [ack.key] [ack.key]) with
        file := some (acknowledge ack state)
        lock := none }
  | .retrying key state =>
      match retryDeferred key state with
      | none => some (system.move process .failed)
      | some after => some { system.move process (.finished [] []) with file := some after }
  | .finished _ _ => none
  | .failed => none

def act (label : Nat × Action) (system : System) : Option System :=
  match system.phase label.1, label.2 with
  | none, action => start label.1 system action
  | some (.visiting projects scan), .visit key look =>
      if key.project ∈ projects then
        some (system.move label.1 (.visiting projects (visit system.receipts key look scan)))
      else none
  | some (.finished _ _), _ => none
  | some _, .stop => some ((system.move label.1 .failed).release label.1)
  | some phase, .next => advance label.1 system phase
  | some _, _ => none

section Acts

variable {process : Nat} {system next : System} {phase : Phase}

theorem act_next (here : system.phase process = some phase) (taken : act (process, .next) system = some next) :
    advance process system phase = some next := by
  cases phase <;> first | simpa only [act, here] using taken | simp [act, here] at taken

theorem act_stop (here : system.phase process = some phase) (taken : act (process, .stop) system = some next) :
    next = (system.move process .failed).release process := by
  cases phase <;> simp_all [act]

end Acts

end OrchestratorEngine.Watcher
