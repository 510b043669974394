import OrchestratorEngine.LocalChecks.Checks

set_option autoImplicit false

namespace OrchestratorEngine.LocalChecks

open Foundation

namespace Engine

@[simp] theorem phase_of_turn (engine : Engine) (pid other : Nat) (phase : Phase) :
    (engine.turn pid phase).phaseOf other = if other = pid then phase else engine.phaseOf other := by
  simp only [phaseOf, turn, Dict.get_set]
  split <;> rfl

@[simp] theorem phase_of_release (engine : Engine) (pid other : Nat) :
    (engine.release pid).phaseOf other = engine.phaseOf other := rfl

@[simp] theorem phase_of_acquire (engine : Engine) (pid other : Nat) :
    (engine.acquire pid).phaseOf other = engine.phaseOf other := rfl

@[simp] theorem phase_of_leave (engine : Engine) (pid other : Nat) :
    (engine.leave pid).phaseOf other = if other = pid then .idle else engine.phaseOf other := by
  simp only [leave, phase_of_turn, phase_of_release]

end Engine

inductive Loads : Phase → Descriptor → Phase → Prop where
  | started (identity : Option Identity) (current : Descriptor) :
      Loads (.spawned identity) current (.recording identity current)
  | supervised (descriptor : Descriptor) : Loads .idle descriptor (.claiming descriptor)
  | foreground (created descriptor : Descriptor) : Loads (.launching created) descriptor (.claiming descriptor)
  | command (descriptor : Descriptor) (change : CommandChange) (current : Descriptor) :
      Loads (.executing descriptor) current (.updating descriptor change current)
  | reaped (descriptor : Descriptor) : Loads .idle descriptor (.reaping descriptor)

def Phase.pending : Phase → Bool
  | .publishing false descriptor _ _ => decide (descriptor.status ≠ .running)
  | _ => false

def Phase.finishing : Phase → Bool
  | .owning _ | .executing _ | .updating _ _ _ | .publishing _ _ _ _ | .recovering _ _ _ => true
  | _ => false

def Replaceable (engine : Engine) : Prop := ∀ result, engine.result = some result → result.status = .errored

def Undisputed (pid : Nat) (engine : Engine) : Prop :=
  (∃ descriptor, engine.descriptor = some descriptor ∧ descriptor.status.terminal = false) ∧ Replaceable engine ∧
    ∀ other, other ≠ pid → (engine.phaseOf other).finishing = false

-- The descriptor that was loaded is still the one on disk, and no launch failure is
-- being finalized without the lock.
def Current (pid : Nat) (loaded : Descriptor) (engine : Engine) : Prop :=
  engine.descriptor = some loaded ∧ ∀ other, other ≠ pid → (engine.phaseOf other).pending = false

def Settling (pid : Nat) (loaded : Descriptor) (engine : Engine) : Prop :=
  Current pid loaded engine ∧ Replaceable engine

def CommandChange.writes (change : CommandChange) (current : Descriptor) : Bool :=
  match change with
  | .launching | .active _ => decide (current.status = .running)
  | .abandoned => true
  | .cleared identity => decide (current.activeCommand = some identity)

-- When a process that changes the check meets no other one that does so outside the lock.
def Orderly (label : Nat × Action) (engine : Engine) : Prop :=
  match label.2, engine.phaseOf label.1 with
  | .spawn (.error _), .launching _ => Undisputed label.1 engine
  | .record, .recording identity current =>
      current.status = .starting → engine.descriptor = some current ∧
        (identity = none → Settling label.1 current engine)
  | .claim (.ok ()) _ _, .claiming descriptor =>
      descriptor.status = .starting → Settling label.1 descriptor engine ∧ engine.result = none
  | .claim (.error _) _ _, .claiming descriptor => descriptor.status = .starting → Settling label.1 descriptor engine
  | .recordCommand, .updating _ change current => change.writes current = true → engine.descriptor = some current
  | .judge readable command, .reaping descriptor =>
      ∀ stopped, reapable engine.gone readable command descriptor = some stopped →
        Current label.1 descriptor engine ∧ (recoverable engine stopped = none → Replaceable engine)
  | _, _ => True

section Deciding

theorem others_quiet_iff (quiet : Phase → Bool) (pid : Nat) (engine : Engine) (idle : quiet .idle = false) :
    (∀ other, other ≠ pid → quiet (engine.phaseOf other) = false) ↔
      ∀ entry ∈ engine.phases.items, entry.1 ≠ pid → quiet entry.2 = false := by
  constructor
  · intro calm entry present different
    have stored := (Dict.mem_items engine.phases entry.1 entry.2).mp present
    have found := calm entry.1 different
    rw [Engine.phaseOf, stored] at found
    exact found
  · intro calm other different
    cases stored : engine.phases.get? other with
    | none =>
        rw [Engine.phaseOf, stored]
        exact idle
    | some phase =>
        rw [Engine.phaseOf, stored]
        exact calm (other, phase) ((Dict.mem_items engine.phases other phase).mpr stored) different

local instance heldDecidable {α : Type} (given : Option α) (holds : α → Prop) [∀ value, Decidable (holds value)] :
    Decidable (∀ value, given = some value → holds value) :=
  inferInstanceAs (Decidable (∀ value ∈ given, holds value))

instance (engine : Engine) : Decidable (Replaceable engine) :=
  inferInstanceAs (Decidable (∀ result, engine.result = some result → result.status = .errored))

instance (pid : Nat) (engine : Engine) : Decidable (Undisputed pid engine) :=
  decidable_of_iff ((∃ descriptor ∈ engine.descriptor, descriptor.status.terminal = false) ∧ Replaceable engine ∧
    ∀ entry ∈ engine.phases.items, entry.1 ≠ pid → entry.2.finishing = false)
    (and_congr_right fun _ => and_congr_right fun _ => (others_quiet_iff Phase.finishing pid engine rfl).symm)

instance (pid : Nat) (loaded : Descriptor) (engine : Engine) : Decidable (Current pid loaded engine) :=
  decidable_of_iff (engine.descriptor = some loaded ∧
    ∀ entry ∈ engine.phases.items, entry.1 ≠ pid → entry.2.pending = false)
    (and_congr_right fun _ => (others_quiet_iff Phase.pending pid engine rfl).symm)

instance (pid : Nat) (loaded : Descriptor) (engine : Engine) : Decidable (Settling pid loaded engine) :=
  inferInstanceAs (Decidable (Current pid loaded engine ∧ Replaceable engine))

instance (label : Nat × Action) (engine : Engine) : Decidable (Orderly label engine) := by
  unfold Orderly
  split <;> infer_instance

end Deciding

inductive Move (site : Site) (pid : Nat) (engine : Engine) : Prop → Engine → Prop where
  | left : Move site pid engine True (engine.leave pid)
  | exited : Move site pid engine True { engine.leave pid with gone := pid :: engine.gone }
  | created (descriptor : Descriptor) (absent : engine.descriptor = none) (starting : descriptor.status = .starting) :
      Move site pid engine True ({ engine with descriptor := some descriptor }.turn pid (.launching descriptor))
  | spawnFailed (descriptor : Descriptor) (error : String) (phase : engine.phaseOf pid = .launching descriptor) :
      Move site pid engine (Undisputed pid engine)
      (engine.turn pid (.publishing false descriptor (.launchFailure error) .summary))
  | spawned (descriptor : Descriptor) (identity : Option Identity)
    (phase : engine.phaseOf pid = .launching descriptor) :
      Move site pid engine True (engine.turn pid (.spawned identity))
  | loaded (current : Descriptor) (phase : Phase) (free : engine.lock = none)
    (stored : engine.descriptor = some current)
      (loads : Loads (engine.phaseOf pid) current phase) : Move site pid engine True
      ((engine.acquire pid).turn pid phase)
  | recorded (token : Identity) (identity : Option Identity) (current : Descriptor)
      (phase : engine.phaseOf pid = .recording identity current) (starting : current.status = .starting) :
      Move site pid engine (engine.descriptor = some current) ({ engine with
        descriptor := some { current with
          supervisorPid := some token, supervisorIdentity := some (some token) } }.leave pid)
  | lost (identity : Option Identity) (current : Descriptor) (error : String)
      (phase : engine.phaseOf pid = .recording identity current) (starting : current.status = .starting) :
      Move site pid engine (Settling pid current engine)
      ((engine.release pid).turn pid (.publishing false current (.launchFailure error) .summary))
  | claimed (descriptor : Descriptor) (readable : Bool) (now : String)
    (phase : engine.phaseOf pid = .claiming descriptor)
      (starting : descriptor.status = .starting) :
      Move site pid engine (Settling pid descriptor engine ∧ engine.result = none)
      (({ engine with descriptor := some { descriptor with
          status := .running
          supervisorPid := some pid
          supervisorIdentity := some (if readable then some pid else none)
          startedAt := some now } }.release pid).turn pid (.owning { descriptor with
          status := .running
          supervisorPid := some pid
          supervisorIdentity := some (if readable then some pid else none)
          startedAt := some now }))
  | unbound (descriptor : Descriptor) (error : String) (phase : engine.phaseOf pid = .claiming descriptor)
      (starting : descriptor.status = .starting) :
      Move site pid engine (Settling pid descriptor engine)
      ((engine.release pid).turn pid (.publishing false descriptor (.launchFailure error) .summary))
  | changed (descriptor : Descriptor) (error : String) (phase : engine.phaseOf pid = .owning descriptor) :
      Move site pid engine True (engine.turn pid (.publishing false descriptor (.launchFailure error) .summary))
  | began (descriptor : Descriptor) (phase : engine.phaseOf pid = .owning descriptor) :
      Move site pid engine True ({ engine with started := engine.started ++ [pid] }.turn pid (.executing descriptor))
  | noted (descriptor current changed : Descriptor) (change : CommandChange)
      (phase : engine.phaseOf pid = .updating descriptor change current) (status : changed.status = current.status)
      (identity : changed.supervisorIdentity = current.supervisorIdentity) :
      Move site pid engine (engine.descriptor = some current)
      (({ engine with descriptor := some changed }.release pid).turn pid (.executing descriptor))
  | skipped (descriptor current : Descriptor) (change : CommandChange)
      (phase : engine.phaseOf pid = .updating descriptor change current) :
      Move site pid engine True ((engine.release pid).turn pid (.executing descriptor))
  | concluded (descriptor : Descriptor) (commands : List CommandResult) (duration : Rat)
      (phase : engine.phaseOf pid = .executing descriptor) :
      Move site pid engine True (engine.turn pid (.publishing false descriptor (.concluded commands duration) .summary))
  | summarized (locked : Bool) (descriptor : Descriptor) (outcome : Outcome)
      (phase : engine.phaseOf pid = .publishing locked descriptor outcome .summary) :
      Move site pid engine True ({ engine with summary := true }.turn pid
      (.publishing locked descriptor outcome .result))
  | resulted (locked : Bool) (descriptor : Descriptor) (outcome : Outcome) (now : String)
      (phase : engine.phaseOf pid = .publishing locked descriptor outcome .result) :
      Move site pid engine True ({ engine with result := some (outcome.result descriptor now) }.turn pid
        (.publishing locked descriptor outcome (.evidence (outcome.result descriptor now))))
  | evidenced (locked : Bool) (descriptor : Descriptor) (outcome : Outcome) (result retained : Result) (now : String)
      (phase : engine.phaseOf pid = .publishing locked descriptor outcome (.evidence result))
      (stored : engine.result = some retained) :
      Move site pid engine True
      ({ engine with evidence := some (outcome.evidence site descriptor retained now) }.turn pid
        (.publishing locked descriptor outcome (.event result)))
  | published (locked : Bool) (descriptor : Descriptor) (outcome : Outcome) (result : Result) (event : Event)
      (phase : engine.phaseOf pid = .publishing locked descriptor outcome (.event result))
      (status : event.terminalStatus = eventStatus outcome.status)
      (same : ∀ retained, engine.event = some retained → event = retained) :
      Move site pid engine True ({ engine with event := some event }.turn pid
        (.publishing locked descriptor outcome (.descriptor result)))
  | finalized (locked : Bool) (descriptor : Descriptor) (outcome : Outcome) (result : Result)
      (phase : engine.phaseOf pid = .publishing locked descriptor outcome (.descriptor result)) :
      Move site pid engine True
      ({ engine with descriptor := some (outcome.descriptor site descriptor result) }.leave pid)
  | recovering (descriptor stopped : Descriptor) (readable : Bool) (command : CommandState) (result : Result)
      (phase : engine.phaseOf pid = .reaping descriptor)
      (proceeds : reapable engine.gone readable command descriptor = some stopped)
      (stored : engine.result = some result) (terminal : result.status.terminal = true) :
      Move site pid engine (Current pid descriptor engine) (engine.turn pid (.recovering stopped result false))
  | finalizing (descriptor stopped : Descriptor) (readable : Bool) (command : CommandState) (error : String)
      (phase : engine.phaseOf pid = .reaping descriptor)
      (proceeds : reapable engine.gone readable command descriptor = some stopped)
      (incomplete : recoverable engine stopped = none) :
      Move site pid engine (Settling pid descriptor engine)
      (engine.turn pid (.publishing true stopped (.launchFailure error) .summary))
  | recoveredEvent (descriptor : Descriptor) (result : Result) (event : Event)
      (phase : engine.phaseOf pid = .recovering descriptor result false)
      (status : event.terminalStatus = eventStatus result.status)
      (same : ∀ retained, engine.event = some retained → event = retained) :
      Move site pid engine True ({ engine with event := some event }.turn pid (.recovering descriptor result true))
  | recovered (descriptor : Descriptor) (result : Result) (now : String)
      (phase : engine.phaseOf pid = .recovering descriptor result true) :
      Move site pid engine True
      ({ engine with descriptor := some (recoveredDescriptor site descriptor result now) }.leave pid)

section Acts

variable {site : Site} {pid : Nat} {engine next : Engine}

theorem retained_event (existing : Option Event) (event kept : Event)
    (retained : retainEvent existing event = some kept) :
    kept.terminalStatus = event.terminalStatus ∧ ∀ stored, existing = some stored → kept = stored := by
  cases existing with
  | none =>
      cases retained
      exact ⟨rfl, nofun⟩
  | some stored =>
      simp only [retainEvent] at retained
      split at retained
      case isTrue same =>
        cases retained
        refine ⟨by rw [← same], fun other given => ?_⟩
        exact Option.some.inj given
      case isFalse => cases retained

theorem note_event_inv (dispatch : Dispatch) (status : Status) (now : String)
    (noted : noteEvent site dispatch status now engine = some next) :
    ∃ event, next = { engine with event := some event } ∧ event.terminalStatus = eventStatus status ∧
      ∀ retained, engine.event = some retained → event = retained := by
  simp only [noteEvent] at noted
  split at noted
  case h_1 result evidence _ _ =>
    obtain ⟨event, retained, rfl⟩ := Option.map_eq_some_iff.mp noted
    exact ⟨event, rfl, retained_event _ _ _ retained⟩
  case h_2 => cases noted

theorem recoverable_stored (descriptor : Descriptor) (result : Result)
    (found : recoverable engine descriptor = some result) :
    engine.result = some result ∧ result.status.terminal = true := by
  simp only [recoverable] at found
  split at found
  case h_1 stored evidence known _ =>
    split at found
    case isTrue matching =>
      cases found
      exact ⟨known, matching.2.2.1⟩
    case isFalse => cases found
  case h_2 => cases found

def Moves (site : Site) (label : Nat × Action) (engine next : Engine) : Prop :=
  ∃ demand, Move site label.1 engine demand next ∧ (Orderly label engine → demand)

theorem Moves.free {label : Nat × Action} (move : Move site label.1 engine True next) : Moves site label engine next :=
  ⟨True, move, fun _ => trivial⟩

theorem load_moves {phase : Descriptor → Phase} {action : Action}
    (loads : ∀ current, Loads (engine.phaseOf pid) current (phase current))
    (taken : (match engine.lock, engine.descriptor with
      | none, some current => some ((engine.acquire pid).turn pid (phase current))
      | _, _ => none) = some next) : Moves site (pid, action) engine next := by
  split at taken
  case h_1 current free stored =>
    cases taken
    exact .free (.loaded current (phase current) free stored (loads current))
  case h_2 => cases taken

theorem record_moves {identity : Option Identity} {current : Descriptor}
    (phase : engine.phaseOf pid = .recording identity current) :
    Moves site (pid, .record) engine (recordSupervisor pid identity current engine) := by
  simp only [recordSupervisor]
  split
  case isTrue starting =>
    cases identity with
    | none =>
        refine ⟨_, .lost none current _ phase starting, fun orderly => ?_⟩
        simp only [Orderly, phase] at orderly
        exact (orderly starting).2 trivial
    | some token =>
        refine ⟨_, .recorded token (some token) current phase starting, fun orderly => ?_⟩
        simp only [Orderly, phase] at orderly
        exact (orderly starting).1
  case isFalse => exact .free .left

variable {descriptor : Descriptor}

theorem claim_moves (valid : Except String Unit) (readable : Bool) (now : String)
    (phase : engine.phaseOf pid = .claiming descriptor) :
    Moves site (pid, .claim valid readable now) engine (claimCheck pid valid readable now descriptor engine) := by
  simp only [claimCheck]
  split
  · exact .free .left
  · split
    · exact .free .left
    · rename_i terminal running
      have starting : descriptor.status = .starting := by
        cases status : descriptor.status with
        | starting => rfl
        | running => exact absurd status running
        | passed => simp [status, Status.terminal] at terminal
        | failed => simp [status, Status.terminal] at terminal
        | errored => simp [status, Status.terminal] at terminal
        | cancelled => simp [status, Status.terminal] at terminal
      cases valid with
      | error error =>
          refine ⟨_, .unbound descriptor _ phase starting, fun orderly => ?_⟩
          simp only [Orderly, phase] at orderly
          exact orderly starting
      | ok done =>
          refine ⟨_, .claimed descriptor readable now phase starting, fun orderly => ?_⟩
          simp only [Orderly, phase] at orderly
          exact orderly starting

theorem suite_moves (suite : Option String) (phase : engine.phaseOf pid = .owning descriptor) :
    Moves site (pid, .readSuite suite) engine (readSuite pid suite descriptor engine) := by
  cases suite with
  | none => exact .free .left
  | some fingerprint =>
      simp only [readSuite]
      split
      · exact .free (.changed descriptor _ phase)
      · exact .free (.began descriptor phase)

theorem command_moves {descriptor current : Descriptor} {change : CommandChange}
    (phase : engine.phaseOf pid = .updating descriptor change current) :
    Moves site (pid, .recordCommand) engine (recordCommand pid descriptor change current engine) := by
  have noted : ∀ changed : Descriptor, change.writes current = true → changed.status = current.status →
      changed.supervisorIdentity = current.supervisorIdentity → Moves site (pid, .recordCommand) engine
        (({ engine with descriptor := some changed }.release pid).turn pid (.executing descriptor)) := by
    intro changed writes status identity
    refine ⟨_, .noted descriptor current changed change phase status identity, fun orderly => ?_⟩
    simp only [Orderly, phase] at orderly
    exact orderly writes
  cases change with
  | launching =>
      simp only [recordCommand]
      split
      · exact .free .left
      · rename_i running
        exact noted _ (decide_eq_true (not_not.mp running)) rfl rfl
  | abandoned => exact noted _ rfl rfl rfl
  | active identity =>
      simp only [recordCommand]
      split
      · exact .free (.skipped descriptor current _ phase)
      · rename_i running
        exact noted _ (decide_eq_true (not_not.mp running)) rfl rfl
  | cleared identity =>
      simp only [recordCommand]
      split
      · rename_i same
        exact noted _ (decide_eq_true same) rfl rfl
      · exact .free (.skipped descriptor current _ phase)

theorem publish_moves {locked : Bool} {outcome : Outcome} {stage : Stage} (now : String)
    (phase : engine.phaseOf pid = .publishing locked descriptor outcome stage) :
    Moves site (pid, .publish now) engine (publish site pid now locked descriptor outcome stage engine) := by
  cases stage with
  | summary => exact .free (.summarized locked descriptor outcome phase)
  | result => exact .free (.resulted locked descriptor outcome now phase)
  | evidence result =>
      simp only [publish]
      split
      case h_1 => exact .free .left
      case h_2 retained stored => exact .free (.evidenced locked descriptor outcome result retained now phase stored)
  | event result =>
      simp only [publish]
      split
      case h_1 => exact .free .left
      case h_2 written noted =>
        obtain ⟨event, rfl, status, same⟩ := note_event_inv _ _ _ noted
        exact .free (.published locked descriptor outcome result event phase status same)
  | descriptor result => exact .free (.finalized locked descriptor outcome result phase)

theorem judge_moves (readable : Bool) (command : CommandState)
    (phase : engine.phaseOf pid = .reaping descriptor) :
    Moves site (pid, .judge readable command) engine (judgeCheck pid readable command descriptor engine) := by
  simp only [judgeCheck]
  split
  case h_1 => exact .free .left
  case h_2 stopped proceeds =>
    split
    case h_1 result found =>
      obtain ⟨stored, terminal⟩ := recoverable_stored stopped result found
      refine ⟨_, .recovering descriptor stopped readable command result phase proceeds stored terminal,
        fun orderly => ?_⟩
      simp only [Orderly, phase] at orderly
      exact (orderly stopped proceeds).1
    case h_2 incomplete =>
      refine ⟨_, .finalizing descriptor stopped readable command _ phase proceeds incomplete, fun orderly => ?_⟩
      simp only [Orderly, phase] at orderly
      exact ⟨(orderly stopped proceeds).1, (orderly stopped proceeds).2 incomplete⟩

theorem recover_moves {result : Result} {noted : Bool} (now : String)
    (phase : engine.phaseOf pid = .recovering descriptor result noted) :
    Moves site (pid, .recover now) engine (recoverCheck site pid now descriptor result noted engine) := by
  cases noted with
  | true => exact .free (.recovered descriptor result now phase)
  | false =>
      simp only [recoverCheck, if_neg Bool.false_ne_true]
      split
      case h_1 => exact .free .left
      case h_2 written known =>
        obtain ⟨event, rfl, status, same⟩ := note_event_inv _ _ _ known
        exact .free (.recoveredEvent descriptor result event phase status same)

theorem act_moves (site : Site) (pid : Nat) (action : Action) (engine next : Engine)
    (taken : act site pid action engine = some next) : Moves site (pid, action) engine next := by
  unfold act at taken
  split at taken
  case h_1 dispatch idle =>
    simp only [createCheck] at taken
    split at taken
    case h_1 => cases taken
    case h_2 absent =>
      cases taken
      exact .free (.created { dispatch, status := .starting } absent rfl)
  case h_2 spawned descriptor phase =>
    split at taken
    case isFalse => cases taken
    case isTrue =>
      cases taken
      cases spawned with
      | error error =>
          refine ⟨_, .spawnFailed descriptor error phase, fun orderly => ?_⟩
          simp only [Orderly, phase] at orderly
          exact orderly
      | ok identity => exact .free (.spawned descriptor identity phase)
  case h_3 identity phase => exact load_moves (fun current => phase ▸ .started identity current) taken
  case h_4 identity current phase =>
    cases taken
    exact record_moves phase
  case h_5 phase => exact load_moves (fun current => phase ▸ .supervised current) taken
  case h_6 created phase =>
    split at taken
    · exact load_moves (fun current => phase ▸ .foreground created current) taken
    · cases taken
  case h_7 valid readable now descriptor phase =>
    cases taken
    exact claim_moves valid readable now phase
  case h_8 suite descriptor phase =>
    cases taken
    exact suite_moves suite phase
  case h_9 change descriptor phase =>
    simp only [loadCommand] at taken
    split at taken
    case h_1 current free stored =>
      split at taken
      · cases taken
        exact .free (.loaded current _ free stored (phase ▸ .command descriptor change current))
      · cases taken
    case h_2 => cases taken
  case h_10 descriptor change current phase =>
    cases taken
    exact command_moves phase
  case h_11 commands duration descriptor phase =>
    cases taken
    exact .free (.concluded descriptor commands duration phase)
  case h_12 now locked descriptor outcome stage phase =>
    cases taken
    exact publish_moves now phase
  case h_13 phase => exact load_moves (fun current => phase ▸ .reaped current) taken
  case h_14 readable command descriptor phase =>
    cases taken
    exact judge_moves readable command phase
  case h_15 now descriptor result noted phase =>
    cases taken
    exact recover_moves now phase
  case h_16 =>
    cases taken
    exact .free .left
  case h_17 =>
    cases taken
    exact .free .exited
  case h_18 => cases taken

end Acts

end OrchestratorEngine.LocalChecks
