import OrchestratorEngine.Watcher.Channels

set_option autoImplicit false

namespace OrchestratorEngine.Watcher.Channels

open Foundation

-- What a step leaves of what was decided: both stores only run on, and no
-- completion and no receipt is taken back.
structure Onward (world next : World) : Prop where
  works : ∀ project, next.works project = world.works project ∨ ∃ surroundings call,
    next.works project = (Continuity.perform surroundings call (world.works project)).store
  streams : ∀ project workstreamId,
    Workstreams.Runs workstreamId (world.streams project workstreamId) (next.streams project workstreamId)
  completed : ∀ key ∈ world.completed, key ∈ next.completed
  receipts : ∀ receipt ∈ world.system.receipts, receipt ∈ next.system.receipts

structure Sound (world : World) : Prop where
  works : ∀ project, Continuity.Sound (world.works project)
  streams : ∀ project workstreamId, Workstreams.Held workstreamId (world.streams project workstreamId)

theorem Onward.sound {world next : World} (onward : Onward world next) (sound : Sound world) : Sound next := by
  refine ⟨fun project => ?_, fun project workstreamId =>
    (sound.streams project workstreamId).through (onward.streams project workstreamId)⟩
  rcases onward.works project with same | ⟨surroundings, call, same⟩
  · exact same ▸ sound.works project
  · exact same ▸ Continuity.performed_sound surroundings call _ (sound.works project)

variable {project : String}

theorem Onward.ended {world next : World} (onward : Onward world next) (sound : Sound world)
    {activationId : Nat} (ended : Continuity.Ended activationId (world.works project)) :
    Continuity.Ended activationId (next.works project) := by
  rcases onward.works project with same | ⟨surroundings, call, same⟩
  · exact same ▸ ended
  · exact same ▸ Continuity.performed_ended surroundings call _ (sound.works project) ended

theorem stream_runs (world : World) (project workstreamId : String) (after : Workstreams.World)
    (stepped : Workstreams.Stepped workstreamId (world.streams project workstreamId) after) (other otherId : String) :
    Workstreams.Runs otherId (world.streams other otherId) ((world.stream project workstreamId after).streams
    other otherId) := by
  by_cases own : other = project
  · subst own
    by_cases same : otherId = workstreamId
    · subst same
      simp only [World.stream, Function.update_self]
      exact .single stepped
    · simp only [World.stream, Function.update_self, Function.update_of_ne same]
      exact .refl
  · simp only [World.stream, Function.update_of_ne own]
    exact .refl

section Visits

variable {channel : Channel} {process : Nat} {key : SignalKey} {sight : Sight} {world next after : World}
  {authorized : Bool}

structure Asked (world after : World) : Prop where
  system : after.system = world.system
  completed : after.completed = world.completed
  works : after.works = world.works
  streams : ∀ project workstreamId,
    Workstreams.Runs workstreamId (world.streams project workstreamId) (after.streams project workstreamId)

theorem Asked.refl (world : World) : Asked world world := ⟨rfl, rfl, rfl, fun _ _ => .refl⟩

theorem guarded_asks {announcement : Announcement}
    (answered : guarded project sight world announcement = some (authorized, after)) : Asked world after := by
  cases announcement with
  | plain =>
      cases answered
      exact .refl world
  | activation _ =>
      cases answered
      exact .refl world
  | continuation signal source =>
      simp only [guarded] at answered
      split at answered
      · cases answered
        exact .refl world
      · cases answered
        exact .refl world
      · split at answered
        · rename_i current
          split at answered
          · cases answered
            exact ⟨rfl, rfl, rfl, stream_runs world project _ _
              (Workstreams.guard_steps _ signal sight.readings current)⟩
          · cases answered
        · cases answered

inductive Visited (channel : Channel) (process : Nat) (key : SignalKey) (sight : Sight)
    (world next : World) : Prop where
  | decided (scan : Scanning) (here : scanning process world = some scan)
      (consulted : consults world.system.receipts key (look channel key sight world) scan = true) (authorized : Bool)
      (after : World) (answered : guarded key.project sight world (channel.announces key) = some (authorized, after))
      (system : System)
      (acted : act (process, .visit key { look channel key sight world with authorized }) world.system = some system)
      (left : next = { after with
        system
        completed := if authorized = true ∧ sight.delivery = .done then add key world.completed else world.completed })
  | settled (scan : Scanning) (here : scanning process world = some scan)
      (unconsulted : consults world.system.receipts key (look channel key sight world) scan = false) (system : System)
      (acted : act (process, .visit key (look channel key sight world)) world.system = some system)
      (left : next = { world with system })

theorem visit_signal_visited (taken : visitSignal channel process key sight world = some next) :
    Visited channel process key sight world next := by
  obtain ⟨scan, here, taken⟩ := Option.bind_eq_some_iff.mp taken
  dsimp only at taken
  split at taken
  · rename_i consulted
    obtain ⟨⟨authorized, after⟩, answered, taken⟩ := Option.bind_eq_some_iff.mp taken
    obtain ⟨system, acted, taken⟩ := Option.bind_eq_some_iff.mp taken
    exact .decided scan here consulted authorized after answered system acted (Option.some.inj taken).symm
  · rename_i unconsulted
    obtain ⟨system, acted, taken⟩ := Option.bind_eq_some_iff.mp taken
    exact .settled scan here (by simpa using unconsulted) system acted (Option.some.inj taken).symm

theorem Visited.onward (visited : Visited channel process key sight world next) : Onward world next := by
  cases visited with
  | decided scan _ _ authorized after answered system acted left =>
      subst left
      have asked := guarded_asks answered
      refine ⟨fun project => .inl (congrFun asked.works project), asked.streams, fun other listed => ?_,
        act_receipts acted⟩
      dsimp only
      split
      · exact (mem_add _ _ _).mpr (.inr listed)
      · exact listed
  | settled scan _ _ system acted left =>
      subst left
      exact ⟨fun _ => .inl rfl, fun _ _ => .refl, fun _ listed => listed, act_receipts acted⟩

end Visits

variable {label : Label}

theorem step_onward {channel : Channel} {world next : World}
    (taken : step channel label world = some next) : Onward world next := by
  cases label with
  | process process action =>
      simp only [step] at taken
      split at taken
      · obtain ⟨system, acted, rfl⟩ := Option.map_eq_some_iff.mp taken
        exact ⟨fun _ => .inl rfl, fun _ _ => .refl, fun _ listed => listed, act_receipts acted⟩
      · cases taken
  | visit process key sight =>
      simp only [step] at taken
      split at taken
      · exact (visit_signal_visited taken).onward
      · cases taken
  | acknowledged receipt =>
      cases taken
      exact ⟨fun _ => .inl rfl, fun _ _ => .refl, fun _ listed => listed, fun _ listed =>
        (mem_add _ _ _).mpr (.inr listed)⟩
  | elsewhere legacy =>
      cases taken
      exact ⟨fun _ => .inl rfl, fun _ _ => .refl, fun _ listed => listed, fun _ listed => listed⟩
  | continuity project surroundings call =>
      cases taken
      refine ⟨fun other => ?_, fun _ _ => .refl, fun _ listed => listed, fun _ listed => listed⟩
      by_cases own : other = project
      · subst own
        exact .inr ⟨surroundings, call, Function.update_self _ _ _⟩
      · exact .inl (Function.update_of_ne own _ _)
  | workstream project workstreamId call readings left =>
      simp only [step] at taken
      split at taken
      · rename_i enabled
        cases taken
        exact ⟨fun _ => .inl rfl, stream_runs world project workstreamId _
          (.call _ call readings left enabled.1 enabled.2), fun _ listed => listed, fun _ listed => listed⟩
      · cases taken
  | wait project workstreamId instant =>
      simp only [step] at taken
      split at taken
      · rename_i forward
        cases taken
        exact ⟨fun _ => .inl rfl, stream_runs world project workstreamId _ (.wait _ instant forward),
          fun _ listed => listed, fun _ listed => listed⟩
      · cases taken

section Runs

variable {channel : Channel} {world next later : World} {schedule : List Label} {key : SignalKey}

theorem run_streams (reached : follow (step channel) schedule world = some later) (project workstreamId : String) :
    Workstreams.Runs workstreamId (world.streams project workstreamId) (later.streams project workstreamId) :=
  follow_kept
    (fun state => Workstreams.Runs workstreamId (world.streams project workstreamId)
    (state.streams project workstreamId))
    (fun _ _ _ before taken => before.trans ((step_onward taken).streams project workstreamId)) schedule
    world later .refl
    reached

theorem run_ended (sound : Sound world) {activationId : Nat}
    (ended : Continuity.Ended activationId (world.works project))
    (reached : follow (step channel) schedule world = some later) :
    Continuity.Ended activationId (later.works project) :=
  (follow_kept (fun state => Sound state ∧ Continuity.Ended activationId (state.works project))
    (fun _ _ _ before taken => ⟨(step_onward taken).sound before.1, (step_onward taken).ended before.1 before.2⟩)
    schedule world later ⟨sound, ended⟩ reached).2

theorem Closed.step (closed : Closed channel key world)
    (taken : Channels.step channel label world = some next) : Closed channel key next := by
  intro schedule later reached
  refine closed (label :: schedule) later ?_
  rw [follow, taken]
  exact reached

theorem Accounted.step (accounted : Accounted channel key world)
    (taken : Channels.step channel label world = some next) : Accounted channel key next := by
  have onward := step_onward taken
  rcases accounted with completed | ⟨host, served, received⟩ | closed
  · exact .inl (onward.completed key completed)
  · exact .inr (.inl ⟨host, served, onward.receipts _ received⟩)
  · exact .inr (.inr (closed.step taken))

theorem consumed_closed (sound : Sound world)
    (consumed : deliveryDisposition (world.works key.project) (channel.announces key) = some .consume) :
    Closed channel key world := by
  intro schedule later reached deliverable
  unfold Deliverable at deliverable
  cases announced : channel.announces key with
  | plain => simp [deliveryDisposition, announced] at consumed
  | continuation _ _ => simp [deliveryDisposition, announced] at consumed
  | activation activationId =>
      rw [announced] at deliverable consumed
      obtain ⟨activation, found, disposed⟩ := Option.map_eq_some_iff.mp consumed
      have inactive : activation.active = false := by
        cases status : activation.status <;> simp [status, Continuity.Activation.active] at disposed ⊢
      have ended := Continuity.settled_ended (sound.works key.project) found inactive
      exact Continuity.ended_unpublished (run_ended sound ended reached) deliverable

theorem refused_closed (sound : Sound world) {sight : Sight} {signal : Workstreams.Signal}
    {source : signal.workstreamSource = true} {after : World}
    (announced : channel.announces key = .continuation signal source)
    (answered : guarded key.project sight world (channel.announces key) = some (false, after))
    (legible : Legible key sight signal world) (streams : next.streams = after.streams) : Closed channel key next := by
  intro schedule later reached deliverable
  simp only [Deliverable, announced] at deliverable
  obtain ⟨workstreamId, checkpointId, identity, opens⟩ := deliverable
  have stored := legible.2 workstreamId checkpointId identity
  simp only [announced, guarded, legible.1, identity] at answered
  split at answered
  · rename_i current
    split at answered
    · rename_i delivery outcome
      simp only [Option.some.injEq, Prod.mk.injEq, decide_eq_false_iff_not] at answered
      obtain ⟨refused, rfl⟩ := answered
      have shut : ((Workstreams.continuationDeliveryGuard workstreamId signal sight.readings).run
          (world.streams key.project workstreamId).files).2 ≠ .ok (some .deliver) :=
        fun delivered => refused (Except.ok.inj (outcome.symm.trans delivered))
      have asked := @Workstreams.guard_steps workstreamId
        ⟨(world.streams key.project workstreamId).files, sight.readings.taken⟩ signal sight.readings (le_refl _)
      have onward := run_streams reached key.project workstreamId
      rw [streams] at onward
      simp only [World.stream, Function.update_self] at onward
      exact Workstreams.withheld_final (sound.streams key.project workstreamId) signal sight.readings
        current source identity
        stored shut (.head asked onward) opens
    · cases answered
  · cases answered

theorem guarded_refuses {sight : Sight} {after : World} {announcement : Announcement}
    (answered : guarded project sight world announcement = some (false, after)) :
    ∃ signal source, announcement = .continuation signal source := by
  cases announcement with
  | plain => simp [guarded] at answered
  | activation _ => simp [guarded] at answered
  | continuation signal source => exact ⟨signal, source, rfl⟩

theorem Visited.accounted {process : Nat} {sight : Sight} (visited : Visited channel process key sight world next)
    (taken : Channels.step channel (.visit process key sight) world = some next) (sound : Sound world)
    (decided : Decided channel (.visit process key sight) world)
    (served : sight.withheld = true ∨ channel.serves sight.host = true) :
    ∃ scan seen, scanning process world = some scan ∧
      act (process, .visit key seen) world.system = some next.system ∧
      (key ∈ (visit world.system.receipts key seen scan).seen → key ∈ scan.seen ∨ Accounted channel key next) := by
  -- Before the guard, continuity or a receipt decides.
  have early : ∀ seen : Look, seen.withheld = (look channel key sight world).withheld →
      seen.disposition = (look channel key sight world).disposition → seen.host = sight.host → seen.withheld = false →
      (seen.disposition = .consume ∨ ⟨seen.host, key⟩ ∈ world.system.receipts) → Accounted channel key next := by
    intro seen withheld disposition host offered settled
    rcases settled with consumed | received
    · refine .inr (.inr ((consumed_closed sound ?_).step taken))
      rw [disposition] at consumed
      simp only [look] at consumed
      cases disposed : deliveryDisposition (world.works key.project) (channel.announces key) with
      | none => simp [disposed] at consumed
      | some given => rw [disposed] at consumed; exact congrArg some consumed
    · rw [host] at received
      refine .inr (.inl ⟨sight.host, served.resolve_left fun wrong => ?_, (step_onward taken).receipts _ received⟩)
      simp [withheld, look, wrong] at offered
  cases visited with
  | decided scan here consulted authorized after answered system acted left =>
      refine ⟨scan, _, here, by rw [acted, left], fun consumed => ?_⟩
      rcases visit_consumes _ _ _ _ _ consumed with old | ⟨-, ⟨offered, settled⟩ | ⟨-, refused | ⟨allowed, done⟩⟩⟩
      · exact .inl old
      · exact .inr (early _ rfl rfl rfl offered settled)
      · dsimp only at refused
        subst refused
        obtain ⟨signal, source, announced⟩ := guarded_refuses answered
        refine .inr (.inr (.inr ?_))
        rcases decided scan here consulted signal source announced with legible | closed
        · exact refused_closed sound announced answered legible (by rw [left])
        · exact closed.step taken
      · refine .inr (.inl ?_)
        rw [left]
        dsimp only at allowed done ⊢
        rw [if_pos ⟨allowed, done⟩]
        exact (mem_add _ _ _).mpr (.inl rfl)
  | settled scan here unconsulted system acted left =>
      refine ⟨scan, _, here, by rw [acted, left], fun consumed => ?_⟩
      rcases visit_consumes _ _ _ _ _ consumed with old | ⟨-, ⟨offered, settled⟩ | ⟨consulted, -⟩⟩
      · exact .inl old
      · exact .inr (early _ rfl rfl rfl offered settled)
      · rw [unconsulted] at consulted
        cases consulted

theorem step_clean (sound : Sound world)
    (clean : Clean channel.serves (fun key => Accounted channel key world) world.system)
    (decided : Decided channel label world) (taken : Channels.step channel label world = some next) :
    Clean channel.serves (fun key => Accounted channel key next) next.system := by
  have still := clean.mono fun _ accounted => accounted.step taken
  have received : ∀ host key, channel.serves host = true → ⟨host, key⟩ ∈ next.system.receipts →
    Accounted channel key next :=
    fun host _ served listed => .inr (.inl ⟨host, served, listed⟩)
  have whole := taken
  cases label with
  | process process action =>
      simp only [Channels.step] at taken
      split at taken
      · rename_i admits
        obtain ⟨system, acted, left⟩ := Option.map_eq_some_iff.mp taken
        refine act_clean still (fun ack same => ?_) (fun old project member eventId listed => ?_) received
          (fun _ _ key seen _ same => ?_) (by rw [acted, ← left])
        · simpa [admitted, same] using admits
        · exact (decided old project member eventId listed).step whole
        · simp [admitted, same] at admits
      · cases taken
  | visit process key sight =>
      simp only [Channels.step] at taken
      split at taken
      · rename_i served
        obtain ⟨scan, seen, here, acted, accounted⟩ :=
          (visit_signal_visited taken).accounted whole sound decided served
        refine act_clean still (fun ack same => by cases same) (fun _ project member => ?_) received
          (fun projects other key' seen' phase same consumed => ?_) acted
        · unfold readFor at member
          split at member <;> first | exact absurd member List.not_mem_nil | cases ‹Action.visit key seen = _›
        · cases same
          simp only [scanning, phase, Option.some.injEq] at here
          subst here
          exact accounted consumed
      · cases taken
  | acknowledged receipt =>
      cases taken
      exact ⟨still.file, still.consumed, still.hosts⟩
  | elsewhere legacy =>
      cases taken
      exact ⟨still.file, still.consumed, still.hosts⟩
  | continuity project surroundings call =>
      cases taken
      exact still
  | workstream project workstreamId call readings left =>
      simp only [Channels.step] at taken
      split at taken <;> cases taken
      exact still
  | wait project workstreamId instant =>
      simp only [Channels.step] at taken
      split at taken <;> cases taken
      exact still

theorem Fresh.sound (fresh : Fresh world) : Sound world := by
  refine ⟨fun project => Continuity.reachable_sound (fresh.works project), fun project workstreamId => ?_⟩
  obtain ⟨origin, run⟩ := fresh.streams project workstreamId
  exact Workstreams.run_held run rfl

theorem signals_handled (channel : Channel) (schedule : List Label) (start final : World) (fresh : Fresh start)
    (met : Meets (Channels.step channel) (Decided channel) schedule start)
    (reached : follow (Channels.step channel) schedule start = some final) : Handled channel final := by
  have initial : Clean channel.serves (fun key => Accounted channel key start) start.system := by
    refine ⟨fun key listed => ?_, fun process phase here => ?_, fun process phase here => ?_⟩
    · rw [fresh.file] at listed
      exact absurd listed List.not_mem_nil
    · rw [fresh.idle process] at here
      cases here
    · rw [fresh.idle process] at here
      cases here
  have kept := follow_invariant (fun world => Sound world ∧
      Clean channel.serves (fun key => Accounted channel key world) world.system)
    (fun label state after held decided taken =>
      ⟨(step_onward taken).sound held.1, step_clean held.1 held.2 decided taken⟩)
    schedule start final ⟨fresh.sound, initial⟩ met reached
  exact kept.2.file

end Runs

def followUp : Workstreams.Signal where
  workstreamSource := true
  operationId := some (Workstreams.continuationOperationId "w" "c")
  eventId := some (Workstreams.followupEventId (Workstreams.continuationOperationId "w" "c"))
  resultIdentity := none

def claude : Channel := ⟨fun host => decide (host = "claude"), fun _ => .continuation followUp rfl⟩

-- Projects whose workstream has authorized a continuation, and the default
-- state file that another channel left.
def continuing (legacy : Option WatcherState) : World where
  system := { file := none, legacy }
  streams _ workstreamId := if workstreamId = "w" then ⟨Workstreams.continued, 5⟩ else ⟨{}, 0⟩

theorem continuing_fresh (legacy : Option WatcherState) : Fresh (continuing legacy) := by
  refine ⟨rfl, fun _ => rfl, rfl, fun _ => ⟨[], rfl⟩, fun _ workstreamId => ?_⟩
  by_cases named : workstreamId = "w"
  · subst named
    exact ⟨0, Workstreams.continued_runs⟩
  · refine ⟨0, ?_⟩
    simp only [continuing, if_neg named]
    exact .refl

theorem open_unhandled {final : World} (streams : final.streams = (continuing none).streams)
    (consumed : ⟨"lab", "e"⟩ ∈ seenKeys (loadState final.system.file)) (uncompleted : final.completed = [])
    (unreceived : final.system.receipts = []) : ¬ Handled claude final := by
  intro handled
  rcases handled _ consumed with completed | ⟨_, _, received⟩ | closed
  · simp [uncompleted] at completed
  · simp [unreceived] at received
  · refine closed [] final rfl ⟨"w", "c", by decide, Workstreams.readAt 9, ?_⟩
    rw [streams]
    exact ⟨by decide, by decide⟩

def scanned (reading : Reading) : List Label :=
  [.process 0 (.scanOnce ["lab"] 0), .process 0 .next,
   .visit 0 ⟨"lab", "e"⟩ { host := "claude", reading, readings := Workstreams.readAt 9 },
   .process 0 .next, .process 0 .next]

theorem legible_scan_handled : ∃ final, follow (step claude) (scanned .made) (continuing none) = some final ∧
    ⟨"lab", "e"⟩ ∈ seenKeys (loadState final.system.file) ∧ Handled claude final := by
  have unnamed (process : Nat) (action : Action) (world : World)
    (empty : (loadState world.system.file).seenEventIds = []) :
      Decided claude (.process process action) world := fun _ _ _ eventId listed => by
    rw [empty] at listed
    exact absurd listed List.not_mem_nil
  refine ⟨_, rfl, by decide, signals_handled claude (scanned .made) (continuing none) _ (continuing_fresh none) ?_ rfl⟩
  refine .cons (unnamed _ _ _ rfl) rfl (.cons (unnamed _ _ _ rfl) rfl (.cons ?_ rfl (.cons (unnamed _ _ _ rfl) rfl
    (.cons (unnamed _ _ _ rfl) rfl trivial))))
  intro scan _ _ signal source announced
  cases announced
  refine .inl ⟨rfl, fun workstreamId checkpointId identity => ?_⟩
  cases (show followUp.identity = some ("w", "c") by decide).symm.trans identity
  decide

theorem open_continuations_consumed :
    (∃ final, follow (step claude) (scanned .failed) (continuing none) = some final ∧ ¬ Handled claude final) ∧
    ∃ final, follow (step claude)
      [.process 0 (.scanOnce ["lab"] 0), .process 0 .next, .process 0 .next, .process 0 .next, .process 0 .next]
      (continuing (some { seenEventIds := ["e"] })) = some final ∧ ¬ Handled claude final :=
  ⟨⟨_, rfl, open_unhandled rfl (by decide) rfl rfl⟩, ⟨_, rfl, open_unhandled rfl (by decide) rfl rfl⟩⟩

end OrchestratorEngine.Watcher.Channels
