import Mathlib.Data.Finset.Basic
import Mathlib.Data.List.Nodup
import Mathlib.Order.Monotone.Defs

set_option autoImplicit false

namespace OrchestratorEngine.WorkerLease.ProcessGroups

def nonExecutingProcessStates : List Char := ['X', 'Z']

-- A thread other than the leader disappears when it exits, so the table shows
-- it only while it executes.
structure Thread where
  tid : Nat
  start : Nat
  state : Char
  executing : state ∉ nonExecutingProcessStates
deriving DecidableEq

-- The letter of a process is the one of its leader, whose entry stays until the
-- process is reaped.
structure Process where
  pid : Nat
  group : Nat
  start : Nat
  state : Char
  threads : List Thread
deriving DecidableEq

abbrev Member := Nat × Nat × Nat

def Process.leader (process : Process) : Member := (process.pid, process.pid, process.start)

def Process.members (process : Process) : List Member :=
  process.leader :: process.threads.map fun thread => (process.pid, thread.tid, thread.start)

def Process.tids (process : Process) : List Nat := process.pid :: process.threads.map Thread.tid

def Process.executing (process : Process) : Bool :=
  decide (process.state ∉ nonExecutingProcessStates) || !process.threads.isEmpty

structure System where
  rows : List Process
  spent : List Member
  distinct : (rows.map Process.pid).Nodup
  separate : ∀ row ∈ rows, row.tids.Nodup
  known : ∀ row ∈ rows, ∀ member ∈ row.members, member ∈ spent

def System.find (system : System) (pid : Nat) : Option Process :=
  system.rows.find? fun row => decide (row.pid = pid)

inductive Changes (row : Process) : Process → List Member → Prop where
  | turn (letter : Char) (running : row.state ∉ nonExecutingProcessStates)
    (still : letter ∉ nonExecutingProcessStates) :
      Changes row { row with state := letter } []
  | exit (letter : Char) (running : row.state ∉ nonExecutingProcessStates)
    (ended : letter ∈ nonExecutingProcessStates) :
      Changes row { row with state := letter } []
  | spawn (thread : Thread) (running : row.executing = true) :
      Changes row { row with threads := row.threads ++ [thread] } [(row.pid, thread.tid, thread.start)]
  | turnThread (old new : Thread) (listed : old ∈ row.threads) (tid : new.tid = old.tid)
    (start : new.start = old.start) :
      Changes row { row with threads := row.threads.map fun other => if other.tid = old.tid then new else other } []
  | exitThread (old : Thread) (listed : old ∈ row.threads) :
      Changes row { row with threads := row.threads.filter fun other => decide (other.tid ≠ old.tid) } []

-- A fork is done by an executing thread, and its child inherits the group. No
-- entry is ever used again.
inductive Step (before after : System) : Prop where
  | idle (same : after = before)
  | change (row new : Process) (entries : List Member) (listed : row ∈ before.rows) (changes : Changes row new entries)
      (fresh : ∀ entry ∈ entries, entry ∉ before.spent)
      (rows : after.rows = before.rows.map fun other => if other.pid = row.pid then new else other)
      (spent : after.spent = entries ++ before.spent)
  | fork (row child : Process) (listed : row ∈ before.rows) (running : row.executing = true)
      (group : child.group = row.group) (starts : child.state ∉ nonExecutingProcessStates) (alone : child.threads = [])
      (fresh : child.leader ∉ before.spent) (rows : after.rows = before.rows ++ [child])
      (spent : after.spent = child.leader :: before.spent)
  | reap (row : Process) (listed : row ∈ before.rows) (ended : row.executing = false)
      (rows : after.rows = before.rows.filter fun other => decide (other.pid ≠ row.pid))
      (spent : after.spent = before.spent)

-- A run of the system, and the moments of it at which the check makes its
-- accesses. Each access may be denied, and a listing comes in any order.
structure Observation where
  world : Nat → System
  steps : ∀ moment, Step (world moment) (world (moment + 1))
  moments : Nat → Nat
  order : Monotone moments
  denied : Nat → Bool
  arrange : Nat → List Nat → List Nat
  arranged : ∀ access names, (arrange access names).Perm names

structure TaskStat where
  state : Char
  processGroup : Nat
  startTicks : Nat
deriving DecidableEq

namespace Observation

def system (observation : Observation) (access : Nat) : System := observation.world (observation.moments access)

def processes (observation : Observation) (access : Nat) : Option (List Nat) :=
  if observation.denied access then none
  else some (observation.arrange access ((observation.system access).rows.map Process.pid))

-- An entry that has vanished, cannot be read or does not parse is handled the
-- same way everywhere.
def tasks (observation : Observation) (access pid : Nat) : Option (List Nat) :=
  if observation.denied access then none
  else ((observation.system access).find pid).map fun row => observation.arrange access row.tids

def stat (observation : Observation) (access pid tid : Nat) : Option TaskStat :=
  if observation.denied access then none
  else do
    let row ← (observation.system access).find pid
    if tid = pid then return ⟨row.state, row.group, row.start⟩
    let thread ← row.threads.find? fun thread => decide (thread.tid = tid)
    return ⟨thread.state, row.group, thread.start⟩

end Observation

inductive Verdict where
  | alive
  | gone
  | unknown
deriving DecidableEq, Repr

structure Progress where
  access : Nat
  members : List Member
  uncertain : Bool
  alive : Bool
deriving DecidableEq

def Progress.advance (progress : Progress) : Progress := { progress with access := progress.access + 1 }

def Progress.unsure (progress : Progress) : Progress := { progress.advance with uncertain := true }

def Progress.record (progress : Progress) (member : Member) : Progress :=
  { progress.advance with members := member :: progress.members }

def readTasks (observation : Observation) (pgid pid : Nat) : List Nat → Progress → Progress
  | [], progress => progress
  | tid :: rest, progress =>
      match observation.stat progress.access pid tid with
      | none => readTasks observation pgid pid rest progress.unsure
      | some stat =>
          if stat.processGroup ≠ pgid then readTasks observation pgid pid rest progress.unsure
          else if stat.state ∉ nonExecutingProcessStates then
            { progress.record (pid, tid, stat.startTicks) with alive := true }
          else readTasks observation pgid pid rest (progress.record (pid, tid, stat.startTicks))

def readEntries (observation : Observation) (pgid : Nat) : List Nat → Progress → Progress
  | [], progress => progress
  | pid :: rest, progress =>
      match observation.stat progress.access pid pid with
      | none => readEntries observation pgid rest progress.unsure
      | some leader =>
          if leader.processGroup ≠ pgid then readEntries observation pgid rest progress.advance
          else
            match observation.tasks progress.advance.access pid with
            | none => readEntries observation pgid rest progress.advance.unsure
            | some [] => readEntries observation pgid rest progress.advance.unsure
            | some (tid :: tids) =>
                let progress := readTasks observation pgid pid (tid :: tids) progress.advance.advance
                if progress.alive then progress else readEntries observation pgid rest progress

def linuxProcessGroupSnapshot (observation : Observation) (pgid access : Nat) : Verdict × Progress :=
  match observation.processes access with
  | none => (.unknown, ⟨access + 1, [], true, false⟩)
  | some pids =>
      let progress := readEntries observation pgid pids ⟨access + 1, [], false, false⟩
      (if progress.alive then .alive else if progress.uncertain then .unknown else .gone, progress)

def linuxProcessGroupExecutionState (observation : Observation) (pgid : Nat) : Verdict × Nat :=
  let (firstState, first) := linuxProcessGroupSnapshot observation pgid 0
  if firstState ≠ .gone then (firstState, first.access)
  else
    let (secondState, second) := linuxProcessGroupSnapshot observation pgid first.access
    if secondState ≠ .gone then (secondState, second.access)
    else if first.members.toFinset ≠ second.members.toFinset then (.unknown, second.access)
    else (if first.members ≠ [] then .gone else .unknown, second.access)

def secondListing (observation : Observation) (pgid : Nat) : Nat :=
  (linuxProcessGroupSnapshot observation pgid 0).2.access

end OrchestratorEngine.WorkerLease.ProcessGroups
