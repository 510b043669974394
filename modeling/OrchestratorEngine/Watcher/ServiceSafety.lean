import OrchestratorEngine.Foundation.Outcome
import OrchestratorEngine.Watcher.Services

set_option autoImplicit false

namespace OrchestratorEngine.Watcher.Services

open Foundation WorkerLease

theorem probe_present (bootId : Option String) (pid : Int) (reading : Reading) (observed : Observed)
    (present : processIdentityProbe bootId pid reading = .ok (.present observed)) :
    observed.identity.pid = some pid := by
  unfold processIdentityProbe at present
  split at present
  · cases present
  · split at present
    · cases present
    · cases present
    · split at present
      · cases present
      · split at present
        · cases present
        · dsimp only at present
          split at present
          · cases present
            rfl
          · cases present

theorem matches_pid (recorded observed : Identity) (same : identityMatches (some recorded) (some observed) = true) :
    recorded.pid = observed.pid := by
  by_contra different
  simp [identityMatches, different] at same

theorem identity_alive (bootId : Option String) (table : Nat → Int → Reading) (now : Nat) (recorded : Option Identity)
    (identity : WorkerLease.Verdict) (done : identityState bootId table now recorded = .ok identity)
    (alive : identity.state = .alive) : ∃ pid observed, recorded.bind Identity.pid = some pid ∧
      processIdentityProbe bootId pid (table now pid) = .ok (.present observed) ∧
      identityMatches recorded (some observed.identity) = true := by
  unfold identityState at done
  split at done
  · cases done
    cases alive
  · rename_i recorded
    split at done
    · rename_i pid ticks known _
      split at done
      · cases done
        cases alive
      · obtain ⟨probe, probed, rest⟩ := (bind_ok_iff _ _ _).mp done
        cases probe with
        | unknown =>
            obtain ⟨again, _, rest⟩ := (bind_ok_iff _ _ _).mp rest
            cases rest
            split at alive <;> cases alive
        | gone =>
            obtain ⟨again, _, rest⟩ := (bind_ok_iff _ _ _).mp rest
            cases rest
            split at alive <;> cases alive
        | present observed =>
            refine ⟨pid, observed, known, probed, ?_⟩
            cases rest
            by_contra different
            simp only [Bool.not_eq_true] at different
            simp [different] at alive
    · cases done
      cases alive

structure Verified (machine : Machine) (record : ServiceRecord) (sent : Sent) : Prop where
  target : record.pid = some sent.group
  alive : ∃ identity, identityState machine.bootId machine.table sent.moment record.processIdentity = .ok identity ∧
    identity.state = .alive

def Reaches (machine : Machine) (sent : Sent) (observed : Observed) : Prop :=
  processIdentityProbe machine.bootId sent.group (machine.table sent.moment sent.group) = .ok (.present observed)

def Strays (machine : Machine) (record : ServiceRecord) (sent : Sent) : Prop :=
  ∃ observed, Reaches machine sent observed ∧ identityMatches record.processIdentity (some observed.identity) = false

variable (machine : Machine)

variable (record : ServiceRecord)

theorem verified_strays (sent : Sent)
    (verified : Verified machine record sent) : Strays machine record sent ↔
      record.processIdentity.bind Identity.pid ≠ record.pid ∧ ∃ observed, Reaches machine sent observed := by
  obtain ⟨identity, done, alive⟩ := verified.alive
  obtain ⟨pid, held, known, present, same⟩ := identity_alive _ _ _ _ _ done alive
  rw [known, verified.target]
  constructor
  · rintro ⟨observed, reached, different⟩
    refine ⟨fun equal => ?_, observed, reached⟩
    cases equal
    rw [Reaches, present] at reached
    cases reached
    exact absurd (same.symm.trans different) (by simp)
  · rintro ⟨apart, observed, reached⟩
    refine ⟨observed, reached, ?_⟩
    cases recorded : record.processIdentity with
    | none => rfl
    | some recorded' =>
        refine Bool.eq_false_iff.mpr fun matched => apart ?_
        rw [recorded] at known
        exact known.symm.trans ((matches_pid _ _ matched).trans (probe_present _ _ _ observed reached))

structure Signalled (machine : Machine) (record : ServiceRecord) (before after : World) : Prop where
  sent : ∃ more, after.signals = before.signals ++ more ∧ ∀ sent ∈ more, Verified machine record sent
  file : ∃ kept, after.file = some kept ∧ kept.pid = record.pid ∧ kept.processIdentity = record.processIdentity
  spawned : after.spawned = before.spawned
  handled : after.handled = before.handled

theorem Signalled.refl {machine : Machine} {record kept : ServiceRecord} {before after : World}
    (signals : after.signals = before.signals) (spawned : after.spawned = before.spawned)
    (handled : after.handled = before.handled) (file : after.file = some kept) (pid : kept.pid = record.pid)
    (identity : kept.processIdentity = record.processIdentity) : Signalled machine record before after :=
  ⟨⟨[], by rw [signals, List.append_nil], by simp⟩, ⟨kept, file, pid, identity⟩, spawned, handled⟩

theorem Signalled.trans {machine : Machine} {record : ServiceRecord} {first second third : World}
    (lower : Signalled machine record first second) (upper : Signalled machine record second third) :
    Signalled machine record first third := by
  obtain ⟨early, first, each⟩ := lower.sent
  obtain ⟨late, second, all⟩ := upper.sent
  refine ⟨⟨early ++ late, by rw [second, first, List.append_assoc], fun sent member => ?_⟩, upper.file,
    upper.spawned.trans lower.spawned, upper.handled.trans lower.handled⟩
  exact (List.mem_append.mp member).elim (each sent) (all sent)

theorem signal_signalled (world : World) (group : Int) (name : String)
    (file : world.file = some record) (target : record.pid = some group)
    (alive : ∃ identity, identityState machine.bootId machine.table world.now record.processIdentity = .ok identity ∧
      identity.state = .alive) : Signalled machine record world (signal world group name) := by
  refine ⟨⟨[⟨world.now, group, name⟩], rfl, fun sent member => ?_⟩, ⟨record, file, rfl, rfl⟩, rfl, rfl⟩
  rw [List.mem_singleton.mp member]
  exact ⟨target, alive⟩

theorem mark_signalled (before world : World) (reason : String)
    (signals : world.signals = before.signals) (spawned : world.spawned = before.spawned)
    (handled : world.handled = before.handled) :
    Signalled machine record before (markStopped world record reason).1 :=
  .refl signals spawned handled rfl rfl rfl

theorem recheck_signalled (reason : String) (world : World)
    (next : World → Outcome) (file : world.file = some record)
    (step : (∃ identity, identityState machine.bootId machine.table world.now record.processIdentity = .ok identity ∧
      identity.state = .alive) → Signalled machine record world (next world).1) :
    Signalled machine record world (recheck machine record reason world next).1 := by
  unfold recheck
  split
  · exact .refl rfl rfl rfl file rfl rfl
  · rename_i identity done
    split
    · exact .refl rfl rfl rfl file rfl rfl
    · exact mark_signalled machine record world world reason rfl rfl rfl
    · rename_i alive
      exact step ⟨identity, done, alive⟩

theorem await_signalled (group : Int) (target : record.pid = some group)
    (polls : Nat) (world : World) (file : world.file = some record) :
    Signalled machine record world (awaitTermination machine record group polls world).1 := by
  induction polls generalizing world with
  | zero =>
      rw [awaitTermination]
      refine recheck_signalled machine record _ world _ file fun alive => ?_
      exact (signal_signalled machine record world group "SIGKILL" file target alive).trans
        (mark_signalled machine record _ _ "killed" rfl rfl rfl)
  | succ polls ih =>
      rw [awaitTermination]
      refine recheck_signalled machine record _ world _ file fun _ => ?_
      have later : Signalled machine record world world.later := .refl rfl rfl rfl file rfl rfl
      exact later.trans (ih world.later file)

variable (polls : Nat)

theorem stop_signalled (world : World) (record : ServiceRecord)
    (file : world.file = some record) :
    Signalled machine record world (stopServiceUnlocked machine polls world).1 := by
  have still : ∀ other : World, other.signals = world.signals → other.spawned = world.spawned →
      other.handled = world.handled → other.file = some record → Signalled machine record world other :=
    fun other signals spawned handled same => .refl signals spawned handled same rfl rfl
  unfold stopServiceUnlocked
  rw [file]
  dsimp only
  split
  · exact still _ rfl rfl rfl file
  · split
    · exact still _ rfl rfl rfl file
    · exact mark_signalled machine record world _ _ rfl rfl rfl
    · split
      · exact still _ rfl rfl rfl file
      · split
        · exact mark_signalled machine record world _ _ rfl rfl rfl
        · split
          · exact still _ rfl rfl rfl file
          · split
            · exact still _ rfl rfl rfl file
            · rename_i group _
              split
              · exact still _ rfl rfl rfl file
              · rename_i target
                have pid : record.pid = some group := (not_not.mp target).symm
                refine (still world.later.later rfl rfl rfl file).trans
                  (recheck_signalled machine record _ _ _ file fun alive => ?_)
                have sent := signal_signalled machine record world.later.later group "SIGTERM" file pid alive
                have later : Signalled machine record (signal world.later.later group "SIGTERM")
                    (signal world.later.later group "SIGTERM").later := .refl rfl rfl rfl file rfl rfl
                exact (sent.trans later).trans (await_signalled machine record group pid polls _ file)

-- What goes through a handle goes to a child of the same call, whose identity could
-- not be read or whose record could not be written.
structure Owned (machine : Machine) (before after : World) : Prop where
  children : ∃ fresh more, after.spawned = before.spawned ++ fresh ∧ after.handled = before.handled ++ more ∧
    ∀ sent ∈ more, sent.group ∈ fresh ∧ (machine.identityReader sent.group = none ∨ machine.writable = false)

theorem Owned.refl {machine : Machine} {before after : World} (spawned : after.spawned = before.spawned)
    (handled : after.handled = before.handled) : Owned machine before after :=
  ⟨⟨[], [], by rw [spawned, List.append_nil], by rw [handled, List.append_nil], by simp⟩⟩

theorem Owned.trans {machine : Machine} {first second third : World} (lower : Owned machine first second)
    (upper : Owned machine second third) : Owned machine first third := by
  obtain ⟨early, sentEarly, spawned, handled, each⟩ := lower.children
  obtain ⟨late, sentLate, spawns, handles, all⟩ := upper.children
  refine ⟨⟨early ++ late, sentEarly ++ sentLate, by rw [spawns, spawned, List.append_assoc],
    by rw [handles, handled, List.append_assoc], fun sent member => ?_⟩⟩
  rcases List.mem_append.mp member with before | after
  · exact ⟨List.mem_append_left _ (each sent before).1, (each sent before).2⟩
  · exact ⟨List.mem_append_right _ (all sent after).1, (all sent after).2⟩

theorem Owned.of_later {machine : Machine} {before after : World} (owned : Owned machine before.later after) :
    Owned machine before after := ⟨owned.children⟩

structure Accounted (machine : Machine) (before after : World) : Prop where
  sent : ∃ more, after.signals = before.signals ++ more ∧
    ∀ sent ∈ more, ∃ record, before.file = some record ∧ Verified machine record sent

theorem Accounted.refl {machine : Machine} {before after : World} (signals : after.signals = before.signals) :
    Accounted machine before after :=
  ⟨[], by rw [signals, List.append_nil], by simp⟩

theorem stop_accounted (world : World) :
    Accounted machine world (stopServiceUnlocked machine polls world).1 := by
  cases file : world.file with
  | none =>
      unfold stopServiceUnlocked
      rw [file]
      exact .refl rfl
  | some record =>
      obtain ⟨more, signals, each⟩ := (stop_signalled machine polls world record file).sent
      exact ⟨more, signals, fun sent member => ⟨record, file, each sent member⟩⟩

theorem stop_owned (world : World) : Owned machine world (stopServiceUnlocked machine polls world).1 := by
  cases file : world.file with
  | none =>
      unfold stopServiceUnlocked
      rw [file]
      exact .refl rfl rfl
  | some record =>
      have signalled := stop_signalled machine polls world record file
      exact .refl signalled.spawned signalled.handled

variable (settings : Settings)

theorem terminated_signals (pid : Int) (world : World) :
    (terminateSpawnedProcess machine pid world).1.signals = world.signals ∧
      (terminateSpawnedProcess machine pid world).1.spawned = world.spawned ∧
      ∃ more, (terminateSpawnedProcess machine pid world).1.handled = world.handled ++ more ∧
        ∀ sent ∈ more, sent.group = pid := by
  unfold terminateSpawnedProcess
  cases machine.ending with
  | gone => exact ⟨rfl, rfl, [], (List.append_nil _).symm, by simp⟩
  | refuses => exact ⟨rfl, rfl, [], (List.append_nil _).symm, by simp⟩
  | terminates => exact ⟨rfl, rfl, _, rfl, by simp⟩
  | killed => exact ⟨rfl, rfl, _, List.append_assoc _ _ _, by simp⟩
  | remains => exact ⟨rfl, rfl, _, List.append_assoc _ _ _, by simp⟩

theorem launch_signals (world : World) :
    (launch machine settings world).1.signals = world.signals := by
  unfold launch
  split
  · rfl
  · rfl
  · rename_i pid _ _
    have ended := (terminated_signals machine pid { world with spawned := world.spawned ++ [pid] }).1
    dsimp only
    split
    · split <;> (rename_i done; rw [done] at ended; exact ended)
    · split
      · split <;> (rename_i done; rw [done] at ended; exact ended)
      · rfl

theorem launch_owned (world : World) : Owned machine world (launch machine settings world).1 := by
  unfold launch
  split
  · exact .refl rfl rfl
  · exact .refl rfl rfl
  · rename_i pid _ _
    obtain ⟨_, spawned, more, handled, own⟩ :=
      terminated_signals machine pid { world with spawned := world.spawned ++ [pid] }
    have owned : (machine.identityReader pid = none ∨ machine.writable = false) →
        Owned machine world (terminateSpawnedProcess machine pid { world with spawned := world.spawned ++
        [pid] }).1 := by
      intro failed
      refine ⟨⟨[pid], more, spawned, handled, fun sent member => ?_⟩⟩
      rw [own sent member]
      exact ⟨List.mem_singleton_self pid, failed⟩
    dsimp only
    split
    · rename_i unread
      split <;> (rename_i done; rw [done] at owned; exact owned (.inl unread))
    · split
      · rename_i unwritable
        split <;> (rename_i done; rw [done] at owned; exact owned (.inr unwritable))
      · exact ⟨⟨[pid], [], rfl, (List.append_nil _).symm, by simp⟩⟩

theorem start_accounted (settings : Settings) (replace : Bool) (world : World) :
    Accounted machine world (startServiceUnlocked machine polls settings replace world).1 := by
  unfold startServiceUnlocked
  split
  · exact .refl rfl
  · dsimp only
    split
    · exact .refl rfl
    · exact .refl (launch_signals machine settings world.later)
    · split
      · exact .refl rfl
      · have stopped := stop_accounted machine polls world.later
        generalize stopServiceUnlocked machine polls world.later = result at stopped ⊢
        obtain ⟨after, reply⟩ := result
        obtain ⟨more, signals, each⟩ := stopped.sent
        cases reply with
        | error failure => exact ⟨more, signals, each⟩
        | ok reply => exact ⟨more, (launch_signals machine settings after).trans signals, each⟩

theorem start_owned (settings : Settings) (replace : Bool) (world : World) :
    Owned machine world (startServiceUnlocked machine polls settings replace world).1 := by
  unfold startServiceUnlocked
  split
  · exact .refl rfl rfl
  · dsimp only
    split
    · exact .refl rfl rfl
    · exact (launch_owned machine settings world.later).of_later
    · split
      · exact .refl rfl rfl
      · have stopped := (stop_owned machine polls world.later).of_later
        generalize stopServiceUnlocked machine polls world.later = result at stopped ⊢
        obtain ⟨after, reply⟩ := result
        cases reply with
        | error failure => exact stopped
        | ok reply => exact stopped.trans (launch_owned machine settings after)

theorem start_spawns (world : World) :
    (startServiceUnlocked machine 0 settings false world).1.signals = world.signals := by
  unfold startServiceUnlocked
  split
  · rfl
  · dsimp only
    split
    · rfl
    · exact launch_signals machine settings world.later
    · rfl

variable (request : Request)

theorem ensure_quiet (world : World) :
    (ensureService machine request world).1.signals = world.signals ∧
      Owned machine world (ensureService machine request world).1 := by
  have still : ∀ after : World, after.signals = world.signals → after.spawned = world.spawned →
      after.handled = world.handled → after.signals = world.signals ∧ Owned machine world after :=
    fun after signals spawned handled => ⟨signals, .refl spawned handled⟩
  unfold ensureService
  split
  · exact still _ rfl rfl rfl
  · rename_i host _
    split
    · exact still _ rfl rfl rfl
    · exact still _ rfl rfl rfl
    · exact still _ rfl rfl rfl
    · split
      · exact still _ rfl rfl rfl
      · have quiet := start_spawns machine (ensuredSettings request host world.file) world.later
        have owned := (start_owned machine 0 (ensuredSettings request host world.file) false world.later).of_later
        generalize startServiceUnlocked machine 0 (ensuredSettings request host world.file) false world.later = result
          at quiet owned ⊢
        obtain ⟨after, reply⟩ := result
        cases reply with
        | ok reply => exact ⟨quiet, owned⟩
        | error failure =>
            cases failure with
            | watcher text =>
                dsimp only
                split <;> exact ⟨quiet, owned⟩
            | system => exact ⟨quiet, owned⟩
            | overflow => exact ⟨quiet, owned⟩
            | fault fault => exact ⟨quiet, owned⟩

theorem restart_owned (polls again : Nat) (request : Request) (world : World) :
    Owned machine world (restartService machine polls again request world).1 := by
  unfold restartService
  split
  · exact .refl rfl rfl
  · have stopped := stop_owned machine polls world
    generalize stopServiceUnlocked machine polls world = result at stopped ⊢
    obtain ⟨after, reply⟩ := result
    cases reply with
    | error failure => exact stopped
    | ok reply =>
        exact stopped.trans (start_owned machine again (restartedSettings request world.file) true after.later).of_later

theorem restart_accounted (polls again : Nat) (request : Request) (world : World) :
    Accounted machine world (restartService machine polls again request world).1 := by
  unfold restartService
  split
  · exact .refl rfl
  · cases file : world.file with
    | none =>
        have stopped : stopServiceUnlocked machine polls world = (world, .ok .notStarted) := by
          unfold stopServiceUnlocked
          rw [file]
        rw [stopped]
        obtain ⟨more, signals, each⟩ :=
          (start_accounted machine again (restartedSettings request none) true world.later).sent
        refine ⟨more, signals, fun sent member => ?_⟩
        obtain ⟨record, found, _⟩ := each sent member
        exact absurd (file.symm.trans found) (by simp)
    | some record =>
        have stopped := stop_signalled machine polls world record file
        generalize stopServiceUnlocked machine polls world = result at stopped ⊢
        obtain ⟨after, reply⟩ := result
        obtain ⟨early, signals, each⟩ := stopped.sent
        cases reply with
        | error failure => exact ⟨early, signals, fun sent member => ⟨record, file, each sent member⟩⟩
        | ok reply =>
            obtain ⟨late, later, all⟩ :=
              (start_accounted machine again (restartedSettings request (some record)) true after.later).sent
            obtain ⟨kept, stored, pid, identity⟩ := stopped.file
            refine ⟨early ++ late, ?_, fun sent member => ⟨record, file, ?_⟩⟩
            · rw [later, ← List.append_assoc]
              exact congrArg (fun front => front ++ late) signals
            · rcases List.mem_append.mp member with first | second
              · exact each sent first
              · obtain ⟨found, same, verified⟩ := all sent second
                have here : found = kept := Option.some.inj (same.symm.trans stored)
                subst here
                exact ⟨pid ▸ verified.target, identity ▸ verified.alive⟩

-- A request that can be resolved, on a machine where a spawn succeeds, about a
-- record that the calls accept.
structure Resolvable (machine : Machine) (request : Request) (world : World) (child : Int) : Prop where
  host : ∃ host, ensuredHost machine request = .ok host ∧ refusal machine
    (ensuredSettings request host world.file) = none
  spawns : machine.child = some child
  identified : (machine.identityReader child).isSome = true
  writable : machine.writable = true
  supported : unsupported machine "" world.file = none

def Down (machine : Machine) (world : World) : Prop :=
  ∃ status, serviceStatus machine world.now world.file = .ok status ∧ status ∈ [Status.notStarted, .stopped, .crashed]

def StartsOne (machine : Machine) (request : Request) (world : World) (child : Int) : Prop :=
  (ensureService machine request world).2 = .ok (.ensured true) ∧
    (ensureService machine request world).1.spawned = world.spawned ++ [child]

theorem launch_ok (world : World) (child : Int) (spawns : machine.child = some child)
    (identified : (machine.identityReader child).isSome = true) (writable : machine.writable = true)
    (seeds : machine.seeding = .ok ()) :
    (launch machine settings world).2 = .ok .started ∧
      (launch machine settings world).1.spawned = world.spawned ++ [child] := by
  obtain ⟨identity, read⟩ := Option.isSome_iff_exists.mp identified
  unfold launch
  simp only [seeds, spawns, read, writable, Bool.true_eq_false, if_false, and_self]

theorem launch_unseeded (world : World) (failure : ServiceError) (unseeded : machine.seeding = .error failure) :
    launch machine settings world = (world, .error failure) := by
  unfold launch
  simp only [unseeded]

theorem ensure_service_down (world : World) (host : Option String)
    (resolved : ensuredHost machine request = .ok host) (supported : unsupported machine "" world.file = none)
    (down : Down machine world) :
    ensureService machine request world =
      match startServiceUnlocked machine 0 (ensuredSettings request host world.file) false world.later with
      | (started, .ok _) => (started, .ok (.ensured true))
      | (raced, .error (.watcher text)) =>
          match serviceStatus machine raced.now raced.file with
          | .error failure => (raced, .error failure)
          | .ok .running => (raced, .ok (.ensured false))
          | .ok _ => raced.refused text
      | (failed, .error failure) => (failed, .error failure) := by
  obtain ⟨status, reported, listed⟩ := down
  rw [ensureService, resolved]
  simp only [reported, supported]
  cases status with
  | running => simp at listed
  | degraded => simp at listed
  | notStarted => rfl
  | stopped => rfl
  | crashed => rfl

theorem process_alive_error (moment : Nat) (pid : Option Int) (failure : ServiceError)
    (failed : processAlive machine moment pid = .error failure) : failure = .overflow := by
  unfold processAlive at failed
  split at failed
  · cases failed
  · split at failed
    · cases failed
    · split at failed <;> cases failed
      rfl

theorem ensure_down (world : World) (child : Int)
    (resolvable : Resolvable machine request world child) (down : Down machine world) :
    StartsOne machine request world child ↔
      processAlive machine (world.now + 2) (world.file.bind ServiceRecord.pid) = .ok false ∧
      machine.seeding = .ok () := by
  obtain ⟨host, resolved, accepted⟩ := resolvable.host
  rw [StartsOne, ensure_service_down machine request world host resolved resolvable.supported down]
  unfold startServiceUnlocked
  simp only [accepted, if_true]
  have moment : world.later.now = world.now + 2 := rfl
  have file : world.later.file = world.file := rfl
  rw [moment, file]
  cases looked : processAlive machine (world.now + 2) (world.file.bind ServiceRecord.pid) with
  | error failure =>
      obtain rfl := process_alive_error machine _ _ failure looked
      simp
  | ok occupied =>
      cases occupied with
      | false =>
          cases seeding : machine.seeding with
          | error failure =>
              rw [launch_unseeded machine (ensuredSettings request host world.file) world.later.later failure seeding]
              refine iff_of_false (fun started => ?_) fun ready => absurd ready.2 nofun
              have returned := started.1
              cases failure with
              | watcher text =>
                  unfold World.refused at returned
                  dsimp only at returned
                  split at returned <;> cases returned
              | system => cases returned
              | overflow => cases returned
              | fault fault => cases returned
          | ok done =>
              obtain ⟨done, spawned⟩ := launch_ok machine (ensuredSettings request host world.file)
                world.later.later child
                resolvable.spawns resolvable.identified resolvable.writable seeding
              generalize launch machine (ensuredSettings request host world.file) world.later.later
                = result at done spawned ⊢
              obtain ⟨after, reply⟩ := result
              simp only at done spawned
              subst done
              exact ⟨fun _ => ⟨rfl, rfl⟩, fun _ => ⟨rfl, spawned⟩⟩
      | true =>
          simp only [Except.ok.injEq, Bool.true_eq_false, false_and, iff_false, not_and]
          intro returned
          unfold World.refused at returned
          dsimp only at returned
          split at returned <;> cases returned

theorem process_alive_false (moment : Nat) (pid : Option Int) : processAlive machine moment pid = .ok false ↔
    ∀ recorded ∈ pid, 0 < recorded → recorded < 2 ^ 31 ∧ machine.table moment recorded = .missing := by
  unfold processAlive
  cases pid with
  | none => simp
  | some recorded =>
      simp only [Option.mem_def, Option.some.injEq, forall_eq']
      by_cases positive : recorded ≤ 0
      · rw [if_pos positive]
        exact ⟨fun _ low => absurd low (by omega), fun _ => rfl⟩
      · rw [if_neg positive]
        by_cases large : 2 ^ 31 ≤ recorded
        · rw [if_pos large]
          exact ⟨fun looked => absurd looked nofun, fun free => absurd (free (by omega)).1 (by omega)⟩
        · rw [if_neg large]
          simp only [Except.ok.injEq, decide_eq_false_iff_not, not_not]
          exact ⟨fun missing _ => ⟨by omega, missing⟩, fun free => (free (by omega)).2⟩

def rebooted : Machine where
  table := fun _ _ => .line (sampleLine []).raw
  healthy := fun _ _ => false
  child := some 5000
  identityReader := fun pid => some { source := some identitySource, pid := some pid, startTicks := some 1000000 }

def recorded : World where
  file := some {
    status := some "running"
    pid := some 4242
    processGroup := some (some 4242)
    processIdentity := some { source := some identitySource, pid := some 4242, startTicks := some 100 }
    action := some "notify"
    intervalSeconds := some 5 }

end OrchestratorEngine.Watcher.Services
