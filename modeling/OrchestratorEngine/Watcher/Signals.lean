import Mathlib.Algebra.Group.Int.Defs
import OrchestratorEngine.Foundation.Dict
import OrchestratorEngine.Foundation.Interleaving

set_option autoImplicit false

namespace OrchestratorEngine.Watcher

open Foundation

structure SignalKey where
  project : String
  eventId : String
deriving DecidableEq, Repr

inductive DeferStatus where
  | retryable | manualRequired
deriving DecidableEq, Repr

inductive ReasonCode where
  | threadActive | threadRecentlyActive | quotaOrUsageLimit | queueDeliveryAmbiguous | headlessDeliveryAmbiguous
  | callbackFailed
deriving DecidableEq, Repr

def deferBaseSeconds : Int := 30
def deferMaxSeconds : Int := 300
def deferMaxAttempts : Nat := 5

def ReasonCode.retryableGuard (code : ReasonCode) : Bool :=
  decide (code = .threadActive ∨ code = .threadRecentlyActive)

structure Deferred where
  eventId : String
  projectRoot : Option String := none
  status : DeferStatus := .retryable
  attempts : Nat := 0
  retryAfterAt : Option Int := none
deriving DecidableEq, Repr

structure Acknowledgement where
  eventId : String
  host : String
deriving DecidableEq, Repr

structure WatcherState where
  seenEventIds : List String := []
  deferredEvents : Dict String Deferred := Dict.empty
  acknowledgedEvents : Dict String Acknowledgement := Dict.empty
  seenSignalKeys : Option (List SignalKey) := none
  deferredSignals : Option (Dict SignalKey Deferred) := none
  acknowledgedSignals : Option (Dict SignalKey Acknowledgement) := none
deriving DecidableEq

def loadState (file : Option WatcherState) : WatcherState := file.getD {}

def scopedRecords {α : Type} (change : String → String → α → α) (projects : List String) (records : Dict String α) :
    Dict SignalKey α :=
  projects.foldl (fun bound project => records.items.foldl (fun bound item =>
    bound.set ⟨project, item.1⟩ (change project item.1 item.2)) bound) Dict.empty

def ensureProjectScopedState (projects : List String) (state : WatcherState) : WatcherState :=
  { state with
    seenSignalKeys := some (state.seenSignalKeys.getD
      (projects.flatMap fun project => state.seenEventIds.map fun eventId => ⟨project, eventId⟩))
    deferredSignals := some (state.deferredSignals.getD
      (scopedRecords (fun project eventId record => { record with eventId, projectRoot := some project }) projects
        state.deferredEvents))
    acknowledgedSignals := some (state.acknowledgedSignals.getD
      (scopedRecords (fun _ eventId record => { record with eventId }) projects state.acknowledgedEvents)) }

def seenKeys (state : WatcherState) : List SignalKey := state.seenSignalKeys.getD []

def deferredOf (state : WatcherState) : Dict SignalKey Deferred := state.deferredSignals.getD Dict.empty

def acknowledgedOf (state : WatcherState) : Dict SignalKey Acknowledgement := state.acknowledgedSignals.getD Dict.empty

def legacyRecords (bound : Dict SignalKey Deferred) : Dict String Deferred :=
  bound.items.foldl (fun records item => records.set item.2.eventId item.2) Dict.empty

def add {α : Type} [DecidableEq α] (value : α) (values : List α) : List α :=
  if value ∈ values then values else values ++ [value]

@[simp] theorem mem_add {α : Type} [DecidableEq α] (value other : α) (values : List α) :
    other ∈ add value values ↔ other = value ∨ other ∈ values := by
  unfold add
  split
  · rename_i present
    constructor
    · exact .inr
    · rintro (rfl | listed)
      · exact present
      · exact listed
  · simp [or_comm]

def buildDeferredRecord (key : SignalKey) (code : ReasonCode) (previous : Option Deferred) (now : Int) : Deferred :=
  let attempts := (previous.map Deferred.attempts).getD 0 + 1
  let manual := decide (code ∈ [.quotaOrUsageLimit, .queueDeliveryAmbiguous, .headlessDeliveryAmbiguous]) ||
    (!code.retryableGuard && decide (deferMaxAttempts ≤ attempts))
  { eventId := key.eventId
    projectRoot := some key.project
    status := if manual then .manualRequired else .retryable
    attempts
    retryAfterAt := if manual then none else some (now + min (deferBaseSeconds * 2 ^ (attempts - 1)) deferMaxSeconds) }

structure Receipt where
  host : String
  key : SignalKey
deriving DecidableEq, Repr

structure Scanning where
  now : Int
  seen : List SignalKey
  seenEventIds : List String
  deferred : Dict SignalKey Deferred
  processed : List SignalKey := []
  acted : List SignalKey := []

def openScan (projects : List String) (now : Int) (file : Option WatcherState) : Scanning :=
  let state := ensureProjectScopedState projects (loadState file)
  { now, seen := seenKeys state, seenEventIds := state.seenEventIds, deferred := deferredOf state }

inductive Disposition where
  | deliver | hold | consume
deriving DecidableEq, Repr

inductive Delivery where
  | done
  | deferred (code : ReasonCode)
deriving DecidableEq, Repr

-- What the surroundings answer while one signal is handled: whether an error,
-- its time or its host keeps the scan from it, the disposition of continuity,
-- the guard of the workstream, and how the action ends.
structure Look where
  withheld : Bool := false
  disposition : Disposition := .deliver
  host : String := "_unbound"
  authorized : Bool := true
  delivery : Delivery := .done
deriving DecidableEq, Repr

def Scanning.consume (key : SignalKey) (scan : Scanning) : Scanning :=
  { scan with
    seen := add key scan.seen
    seenEventIds := add key.eventId scan.seenEventIds
    deferred := scan.deferred.without [key]
    processed := add key scan.processed }

def Scanning.postponed (key : SignalKey) (scan : Scanning) : Bool :=
  match scan.deferred.get? key with
  | none => false
  | some record => decide (record.status = .manualRequired) ||
      record.retryAfterAt.any fun retryAfter => decide (scan.now < retryAfter)

def performAction (key : SignalKey) (delivery : Delivery) (scan : Scanning) : Scanning :=
  match delivery with
  | .done => { scan.consume key with acted := scan.acted ++ [key] }
  | .deferred code => { scan with
      acted := scan.acted ++ [key]
      processed := add key scan.processed
      deferred := scan.deferred.set key (buildDeferredRecord key code (scan.deferred.get? key) scan.now) }

def visit (receipts : List Receipt) (key : SignalKey) (look : Look) (scan : Scanning) : Scanning :=
  if key ∈ scan.seen then scan
  else if look.withheld then scan
  else
    match look.disposition with
    | .hold => scan
    | .consume => scan.consume key
    | .deliver =>
        if scan.postponed key then scan
        else if ⟨look.host, key⟩ ∈ receipts then scan.consume key
        else if !look.authorized then scan.consume key
        else performAction key look.delivery scan

def visitAll (receipts : List Receipt) (looks : List (SignalKey × Look)) (scan : Scanning) : Scanning :=
  looks.foldl (fun scan item => visit receipts item.1 item.2 scan) scan

def mergeDeferred (seen : List SignalKey) (scan : Scanning) (latest : Dict SignalKey Deferred) :
    Dict SignalKey Deferred :=
  scan.processed.foldl (fun merged key =>
    if key ∈ seen then merged.without [key]
    else
      match scan.deferred.get? key with
      | some record => merged.set key record
      | none => merged.without [key]) latest

def mergeScan (projects : List String) (scan : Scanning) (latest : WatcherState) : WatcherState :=
  let state := ensureProjectScopedState projects latest
  let seen := scan.seen ∪ seenKeys state
  let merged := mergeDeferred seen scan (deferredOf state)
  { state with
    seenEventIds := scan.seenEventIds ∪ state.seenEventIds
    seenSignalKeys := some seen
    deferredEvents := legacyRecords merged
    deferredSignals := some merged }

def seeded (legacy : WatcherState) : WatcherState := { seenEventIds := legacy.seenEventIds }

structure Acknowledging where
  key : SignalKey
  host : String
  pending : Bool
deriving DecidableEq, Repr

def acknowledgeable (ack : Acknowledging) (receipts : List Receipt) (state : WatcherState) : Bool :=
  decide (⟨ack.host, ack.key⟩ ∈ receipts) || ((deferredOf state).get? ack.key).isSome || ack.pending ||
    decide (ack.key ∈ seenKeys state)

def acknowledge (ack : Acknowledging) (state : WatcherState) : WatcherState :=
  let deferred := (deferredOf state).without [ack.key]
  let record : Acknowledgement := ⟨ack.key.eventId, ack.host⟩
  { seenSignalKeys := some (add ack.key (seenKeys state))
    seenEventIds := add ack.key.eventId state.seenEventIds
    deferredSignals := some deferred
    deferredEvents := legacyRecords deferred
    acknowledgedEvents := state.acknowledgedEvents.set ack.key.eventId record
    acknowledgedSignals := some ((acknowledgedOf state).set ack.key record) }

def retryDeferred (key : SignalKey) (state : WatcherState) : Option WatcherState :=
  ((deferredOf state).get? key).map fun previous =>
    let deferred := (deferredOf state).set key { previous with status := .retryable, retryAfterAt := none }
    { state with deferredSignals := some deferred, deferredEvents := legacyRecords deferred }

variable (receipts : List Receipt)

theorem visit_seen (key : SignalKey) (look : Look) (scan : Scanning) :
    ∀ other ∈ scan.seen, other ∈ (visit receipts key look scan).seen := by
  have consumed : ∀ other ∈ scan.seen, other ∈ (scan.consume key).seen := fun other listed =>
    (mem_add _ _ _).mpr (.inr listed)
  intro other listed
  unfold visit
  split
  · exact listed
  · split
    · exact listed
    · cases look.disposition with
      | hold => exact listed
      | consume => exact consumed other listed
      | deliver =>
          simp only
          split
          · exact listed
          · split
            · exact consumed other listed
            · split
              · exact consumed other listed
              · cases look.delivery with
                | done => exact consumed other listed
                | deferred code => exact listed

theorem visit_acted (key : SignalKey) (look : Look) (scan : Scanning) :
    ∀ other ∈ (visit receipts key look scan).acted,
      other ∈ scan.acted ∨ other = key ∧ key ∉ scan.seen ∧ ⟨look.host, key⟩ ∉ receipts := by
  intro other acted
  unfold visit at acted
  split at acted
  · exact .inl acted
  · rename_i fresh
    split at acted
    · exact .inl acted
    · cases disposed : look.disposition with
      | hold => exact .inl (by simpa only [disposed] using acted)
      | consume => exact .inl (by simpa only [disposed, Scanning.consume] using acted)
      | deliver =>
          simp only [disposed] at acted
          split at acted
          · exact .inl acted
          · split at acted
            · exact .inl acted
            · rename_i unreceived
              split at acted
              · exact .inl acted
              · have appended : other ∈ scan.acted ++ [key] := by
                  cases delivered : look.delivery with
                  | done => simpa only [delivered, performAction] using acted
                  | deferred code => simpa only [delivered, performAction] using acted
                refine (List.mem_append.mp appended).imp_right fun same => ?_
                exact ⟨List.mem_singleton.mp same, fresh, unreceived⟩

theorem visited_acted (looks : List (SignalKey × Look)) (scan : Scanning) :
    ∀ other ∈ (visitAll receipts looks scan).acted, other ∈ scan.acted ∨
      ∃ look, (other, look) ∈ looks ∧ other ∉ scan.seen ∧ ⟨look.host, other⟩ ∉ receipts := by
  induction looks generalizing scan with
  | nil => exact fun _ acted => .inl acted
  | cons item rest ih =>
      intro other acted
      rcases ih (visit receipts item.1 item.2 scan) other acted with earlier | ⟨look, listed, unseen, unreceived⟩
      · refine (visit_acted receipts item.1 item.2 scan other earlier).imp_right ?_
        rintro ⟨rfl, unseen, unreceived⟩
        exact ⟨item.2, List.mem_cons_self, unseen, unreceived⟩
      · exact .inr ⟨look, List.mem_cons_of_mem _ listed,
          fun seen => unseen (visit_seen receipts item.1 item.2 scan other seen), unreceived⟩

end OrchestratorEngine.Watcher
