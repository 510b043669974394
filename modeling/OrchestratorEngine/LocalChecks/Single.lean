import OrchestratorEngine.LocalChecks.Moves

set_option autoImplicit false

namespace OrchestratorEngine.LocalChecks

open Foundation

namespace Phase

def owns : Phase → Bool
  | owning _ | executing _ | updating _ _ _ => true
  | publishing false descriptor _ _ => decide (descriptor.status = .running)
  | _ => false

def enters : Phase → Bool
  | owning _ => true
  | _ => false

def locked : Phase → Bool
  | recording _ _ | claiming _ | updating _ _ _ | reaping _ | recovering _ _ _ => true
  | publishing held _ _ _ => held
  | _ => false

def copy : Phase → Option Descriptor
  | recording _ current => some current
  | claiming descriptor => some descriptor
  | updating _ _ current => some current
  | _ => none

def proper : Phase → Prop
  | launching descriptor => descriptor.status = .starting
  | owning descriptor | executing descriptor | updating descriptor _ _ => descriptor.status = .running
  | recovering _ result _ => result.status.terminal = true
  | _ => True

end Phase

theorem never {statement : Prop} (wrong : false = true) : statement := absurd wrong Bool.false_ne_true

theorem uncopied {statement : Descriptor → Prop} (copy : Descriptor) (wrong : none = some copy) : statement copy :=
  absurd wrong (Option.some_ne_none copy).symm

def Active (engine : Engine) (pid : Nat) : Prop := (engine.phaseOf pid).owns = true ∨ pid ∈ engine.started

structure Single (engine : Engine) : Prop where
  disciplined : ∀ pid, (engine.phaseOf pid).locked = true → engine.lock = some pid
  sole : ∀ first second, Active engine first → Active engine second → first = second
  past : ∀ pid, Active engine pid → (∃ descriptor, engine.descriptor = some descriptor ∧
    descriptor.status ≠ .starting) ∧
    ∀ other copy, (engine.phaseOf other).copy = some copy → copy.status ≠ .starting
  fresh : ∀ pid, (engine.phaseOf pid).enters = true → engine.started = []
  proper : ∀ pid, (engine.phaseOf pid).proper
  once : engine.started.length ≤ 1

structure Steady (pid : Nat) (engine next : Engine) : Prop where
  others : ∀ other, other ≠ pid → next.phaseOf other = engine.phaseOf other
  locks : ∀ other, other ≠ pid → engine.lock = some other → next.lock = some other
  own : (next.phaseOf pid).locked = true → next.lock = some pid
  started : next.started = engine.started
  owner : (next.phaseOf pid).owns = true → (engine.phaseOf pid).owns = true
  entry : (next.phaseOf pid).enters = false
  stored : ∀ other, Active engine other →
    ∃ descriptor, next.descriptor = some descriptor ∧ descriptor.status ≠ .starting
  copy : ∀ copy, (next.phaseOf pid).copy = some copy → ∀ other, Active engine other → copy.status ≠ .starting
  proper : (next.phaseOf pid).proper

theorem Steady.active {pid : Nat} {engine next : Engine} (steady : Steady pid engine next) (other : Nat)
    (active : Active next other) : Active engine other := by
  rcases active with owns | listed
  · by_cases same : other = pid
    · subst same
      exact .inl (steady.owner owns)
    · rw [steady.others other same] at owns
      exact .inl owns
  · rw [steady.started] at listed
    exact .inr listed

theorem Single.steady {pid : Nat} {engine next : Engine} (single : Single engine) (steady : Steady pid engine next) :
    Single next where
  disciplined := by
    intro other locked
    by_cases same : other = pid
    · subst same
      exact steady.own locked
    · rw [steady.others other same] at locked
      exact steady.locks other same (single.disciplined other locked)
  sole := fun first second one two => single.sole first second (steady.active first one) (steady.active second two)
  past := by
    intro other active
    have before := steady.active other active
    refine ⟨steady.stored other before, fun third copy held => ?_⟩
    by_cases same : third = pid
    · subst same
      exact steady.copy copy held other before
    · rw [steady.others third same] at held
      exact (single.past other before).2 third copy held
  fresh := by
    intro other entered
    rw [steady.started]
    by_cases same : other = pid
    · subst same
      exact never (steady.entry.symm.trans entered)
    · rw [steady.others other same] at entered
      exact single.fresh other entered
  proper := by
    intro other
    by_cases same : other = pid
    · subst same
      exact steady.proper
    · rw [steady.others other same]
      exact single.proper other
  once := steady.started ▸ single.once

section Locks

variable {pid : Nat} {engine : Engine}

theorem release_others (other : Nat) (different : other ≠ pid) (held : engine.lock = some other) :
    (engine.release pid).lock = some other := by
  simp [Engine.release, held, different]

theorem leave_lock (other : Nat) (different : other ≠ pid) (held : engine.lock = some other) :
    (engine.leave pid).lock = some other := release_others other different held

theorem steady_left (written : Engine) (phases : ∀ other, written.phaseOf other = engine.phaseOf other)
    (lock : written.lock = engine.lock) (started : written.started = engine.started)
    (stored : ∀ other, Active engine other →
      ∃ descriptor, written.descriptor = some descriptor ∧ descriptor.status ≠ .starting) :
    Steady pid engine (written.leave pid) where
  others := fun other different => by rw [Engine.phase_of_leave, if_neg different, phases]
  locks := fun other different held => leave_lock other different (lock.trans held)
  own := fun locked => by simp [Phase.locked] at locked
  started := started
  owner := fun owns => by simp [Phase.owns] at owns
  entry := by rw [Engine.phase_of_leave, if_pos rfl]; rfl
  stored := stored
  copy := fun copy held => by simp [Phase.copy] at held
  proper := by simp [Phase.proper]

theorem Single.turned (single : Single engine) (written : Engine) (phase : Phase)
    (phases : ∀ other, written.phaseOf other = engine.phaseOf other)
    (locks : ∀ other, other ≠ pid → engine.lock = some other → written.lock = some other)
    (own : phase.locked = true → written.lock = some pid) (started : written.started = engine.started)
    (owner : phase.owns = true → (engine.phaseOf pid).owns = true) (entry : phase.enters = false)
    (stored : ∀ other, Active engine other →
      ∃ descriptor, written.descriptor = some descriptor ∧ descriptor.status ≠ .starting)
    (copy : ∀ copy, phase.copy = some copy → ∀ other, Active engine other → copy.status ≠ .starting)
    (proper : phase.proper) : Single (written.turn pid phase) := by
  refine single.steady (show Steady pid engine (written.turn pid phase) from ⟨?_, locks, ?_, started, ?_,
    ?_, stored, ?_, ?_⟩)
  · exact fun other different => by rw [Engine.phase_of_turn, if_neg different, phases]
  all_goals rw [Engine.phase_of_turn, if_pos rfl]
  · exact own
  · exact owner
  · exact entry
  · exact copy
  · exact proper

end Locks

theorem Loads.kept {before phase : Phase} {current : Descriptor} (loads : Loads before current phase) :
    (phase.owns = true → before.owns = true) ∧ phase.enters = false ∧
      (∀ copy, phase.copy = some copy → copy = current) ∧ (before.proper → phase.proper) := by
  cases loads with
  | started identity current => exact ⟨never, rfl, fun copy same => (Option.some.inj same).symm, fun _ => trivial⟩
  | supervised descriptor => exact ⟨never, rfl, fun copy same => (Option.some.inj same).symm, fun _ => trivial⟩
  | foreground created descriptor => exact ⟨never, rfl, fun copy same => (Option.some.inj same).symm, fun _ => trivial⟩
  | command descriptor change current =>
      exact ⟨fun _ => rfl, rfl, fun copy same => (Option.some.inj same).symm, fun proper => proper⟩
  | reaped descriptor => exact ⟨never, rfl, uncopied, fun _ => trivial⟩

theorem overall_status_ended (commands : List CommandResult) : (overallStatus commands).terminal = true := by
  simp only [overallStatus]
  split
  · rfl
  · split <;> rfl

theorem Outcome.status_ended (outcome : Outcome) : outcome.status.terminal = true := by
  cases outcome with
  | concluded commands duration => exact overall_status_ended commands
  | launchFailure error => rfl

theorem Outcome.descriptor_status (outcome : Outcome) (site : Site) (descriptor : Descriptor) (result : Result) :
    (outcome.descriptor site descriptor result).status = outcome.status := by
  cases outcome <;> rfl

theorem terminal_not_starting {status : Status} (terminal : status.terminal = true) : status ≠ .starting := by
  rintro rfl
  cases terminal

section Moves

variable {site : Site} {pid : Nat} {engine next : Engine}

theorem Single.claimed (single : Single engine) (descriptor claimed : Descriptor)
    (phase : engine.phaseOf pid = .claiming descriptor) (starting : descriptor.status = .starting)
    (running : claimed.status = .running) :
    Single (({ engine with descriptor := some claimed }.release pid).turn pid (.owning claimed)) := by
  have held : engine.lock = some pid := single.disciplined pid (by rw [phase]; rfl)
  have nobody : ∀ other, ¬ Active engine other := fun other active =>
    (single.past other active).2 pid descriptor (by rw [phase]; rfl) starting
  have none : engine.started = [] :=
    List.eq_nil_iff_forall_not_mem.mpr fun other listed => nobody other (.inr listed)
  have only : ∀ other, Active (({ engine with descriptor := some claimed }.release pid).turn pid
    (.owning claimed)) other →
      other = pid := by
    rintro other (owns | listed)
    · by_contra different
      rw [Engine.phase_of_turn, if_neg different] at owns
      exact nobody other (.inl owns)
    · exact absurd (.inr listed) (nobody other)
  have phases : ∀ other, other ≠ pid →
      (({ engine with descriptor := some claimed }.release pid).turn pid (.owning claimed)).phaseOf other =
        engine.phaseOf other := fun other different => by
    rw [Engine.phase_of_turn, if_neg different]
    rfl
  have unlocked : ∀ other, other ≠ pid → (engine.phaseOf other).locked ≠ true := fun other different locked =>
    different (Option.some.inj ((single.disciplined other locked).symm.trans held))
  refine ⟨?_, fun first second one two => (only first one).trans (only second two).symm, ?_, fun _ _ => none, ?_, ?_⟩
  · intro other locked
    by_cases same : other = pid
    · subst same
      simp [Phase.locked] at locked
    · rw [phases other same] at locked
      exact absurd locked (unlocked other same)
  · intro other active
    refine ⟨⟨claimed, rfl, by rw [running]; decide⟩, fun third copy kept => ?_⟩
    by_cases same : third = pid
    · subst same
      simp [Phase.copy] at kept
    · rw [phases third same] at kept
      refine absurd ?_ (unlocked third same)
      revert kept
      cases engine.phaseOf third <;> simp [Phase.copy, Phase.locked]
  · intro other
    by_cases same : other = pid
    · subst same
      simpa [Phase.proper] using running
    · rw [phases other same]
      exact single.proper other
  · exact single.once

theorem Single.began (single : Single engine) (descriptor : Descriptor)
    (phase : engine.phaseOf pid = .owning descriptor) :
    Single ({ engine with started := engine.started ++ [pid] }.turn pid (.executing descriptor)) := by
  have none := single.fresh pid (by rw [phase]; rfl)
  have owner : Active engine pid := .inl (by rw [phase]; rfl)
  have running : descriptor.status = .running := by
    have proper := single.proper pid
    rwa [phase] at proper
  have phases : ∀ other, other ≠ pid →
      ({ engine with started := engine.started ++ [pid] }.turn pid (.executing descriptor)).phaseOf other =
        engine.phaseOf other := fun other different => by
    rw [Engine.phase_of_turn, if_neg different]
    rfl
  have before : ∀ other, Active ({ engine with started := engine.started ++ [pid] }.turn pid
    (.executing descriptor)) other →
      Active engine other := by
    intro other active
    by_cases same : other = pid
    · exact same ▸ owner
    · rcases active with owns | listed
      · rw [phases other same] at owns
        exact .inl owns
      · have listed : other ∈ engine.started ++ [pid] := listed
        rw [none, List.nil_append, List.mem_singleton] at listed
        exact absurd listed same
  refine ⟨?_, fun first second one two => single.sole first second (before first one) (before second two),
    ?_, ?_, ?_, ?_⟩
  · intro other locked
    by_cases same : other = pid
    · subst same
      simp [Phase.locked] at locked
    · rw [phases other same] at locked
      exact single.disciplined other locked
  · intro other active
    obtain ⟨stored, copies⟩ := single.past other (before other active)
    refine ⟨stored, fun third copy kept => ?_⟩
    by_cases same : third = pid
    · subst same
      simp [Phase.copy] at kept
    · rw [phases third same] at kept
      exact copies third copy kept
  · intro other given
    by_cases same : other = pid
    · rw [same, Engine.phase_of_turn, if_pos rfl] at given
      exact never given
    · rw [phases other same] at given
      refine absurd (single.sole other pid (.inl ?_) owner) same
      revert given
      cases engine.phaseOf other <;> simp [Phase.enters, Phase.owns]
  · intro other
    by_cases same : other = pid
    · subst same
      simpa [Phase.proper] using running
    · rw [phases other same]
      exact single.proper other
  · change (engine.started ++ [pid]).length ≤ 1
    rw [none]
    exact le_refl 1

theorem Single.move {demand : Prop} (single : Single engine) (move : Move site pid engine demand next) :
    Single next := by
  have stored : ∀ other, Active engine other →
      ∃ descriptor, engine.descriptor = some descriptor ∧ descriptor.status ≠ .starting :=
    fun other active => (single.past other active).1
  have proper := single.proper pid
  have locked := single.disciplined pid
  have keeps : ∀ other, other ≠ pid → engine.lock = some other → engine.lock = some other := fun _ _ held => held
  cases move with
  | left => exact single.steady (steady_left engine (fun _ => rfl) rfl rfl stored)
  | exited =>
      have ended : Steady pid engine (engine.leave pid) := steady_left engine (fun _ => rfl) rfl rfl stored
      exact single.steady (show Steady pid engine { engine.leave pid with gone := pid :: engine.gone } from
        ⟨ended.others, ended.locks, ended.own, ended.started, ended.owner, ended.entry, ended.stored, ended.copy,
          ended.proper⟩)
  | created descriptor absent starting =>
      refine single.turned { engine with descriptor := some descriptor } (.launching descriptor)
        (fun _ => rfl) keeps never
        rfl never rfl ?_ uncopied starting
      intro other active
      obtain ⟨kept, present, -⟩ := stored other active
      rw [absent] at present
      cases present
  | spawnFailed descriptor error phase =>
      rw [phase] at proper
      refine single.turned engine (.publishing false descriptor (.launchFailure error) .summary)
        (fun _ => rfl) keeps never
        rfl ?_ rfl stored uncopied trivial
      simp [Phase.owns, show descriptor.status = .starting from proper]
  | spawned descriptor identity phase =>
      exact single.turned engine (.spawned identity) (fun _ => rfl) keeps never rfl never rfl stored uncopied trivial
  | loaded current phase free present loads =>
      obtain ⟨owns, entry, copies, shaped⟩ := loads.kept
      refine single.turned (engine.acquire pid) phase (fun _ => rfl) ?_ (fun _ => rfl) rfl owns entry
        stored ?_ (shaped proper)
      · intro other different held
        rw [free] at held
        cases held
      · intro copy kept other active
        obtain ⟨descriptor, known, past⟩ := stored other active
        rw [present] at known
        cases known
        rw [copies copy kept]
        exact past
  | recorded token identity current phase starting =>
      refine single.steady (steady_left { engine with descriptor := some { current with
        supervisorPid := some token, supervisorIdentity := some (some token) } } (fun _ => rfl) rfl rfl ?_)
      exact fun other active => absurd starting ((single.past other active).2 pid current (by rw [phase]; rfl))
  | lost identity current error phase starting =>
      refine single.turned (engine.release pid) (.publishing false current (.launchFailure error) .summary)
        (fun _ => rfl)
        release_others never rfl ?_ rfl stored uncopied trivial
      simp [Phase.owns, starting]
  | claimed descriptor readable now phase starting => exact single.claimed descriptor _ phase starting rfl
  | unbound descriptor error phase starting =>
      refine single.turned (engine.release pid) (.publishing false descriptor (.launchFailure error) .summary)
        (fun _ => rfl)
        release_others never rfl ?_ rfl stored uncopied trivial
      simp [Phase.owns, starting]
  | changed descriptor error phase =>
      refine single.turned engine (.publishing false descriptor (.launchFailure error) .summary)
        (fun _ => rfl) keeps never
        rfl (fun _ => ?_) rfl stored uncopied trivial
      rw [phase]
      rfl
  | began descriptor phase => exact single.began descriptor phase
  | noted descriptor current changed change phase status identity =>
      rw [phase] at proper
      refine single.turned ({ engine with descriptor := some changed }.release pid)
        (.executing descriptor) (fun _ => rfl)
        release_others never rfl (fun _ => ?_) rfl ?_ uncopied proper
      · rw [phase]
        rfl
      · intro other active
        refine ⟨changed, rfl, ?_⟩
        rw [status]
        exact (single.past other active).2 pid current (by rw [phase]; rfl)
  | skipped descriptor current change phase =>
      rw [phase] at proper
      refine single.turned (engine.release pid) (.executing descriptor) (fun _ => rfl) release_others never
        rfl (fun _ => ?_)
        rfl stored uncopied proper
      rw [phase]
      rfl
  | concluded descriptor commands duration phase =>
      refine single.turned engine (.publishing false descriptor (.concluded commands duration) .summary)
        (fun _ => rfl) keeps
        never rfl (fun _ => ?_) rfl stored uncopied trivial
      rw [phase]
      rfl
  | summarized held descriptor outcome phase =>
      rw [phase] at locked
      refine single.turned { engine with summary := true } (.publishing held descriptor outcome .result)
        (fun _ => rfl) keeps
        locked rfl (fun owns => ?_) rfl stored uncopied trivial
      rw [phase]
      cases held <;> exact owns
  | resulted held descriptor outcome now phase =>
      rw [phase] at locked
      refine single.turned { engine with result := some (outcome.result descriptor now) }
        (.publishing held descriptor outcome
        (.evidence (outcome.result descriptor now))) (fun _ => rfl) keeps locked rfl (fun owns => ?_) rfl
        stored uncopied trivial
      rw [phase]
      cases held <;> exact owns
  | evidenced held descriptor outcome result retained now phase known =>
      rw [phase] at locked
      refine single.turned { engine with evidence := some (outcome.evidence site descriptor retained now) }
        (.publishing held descriptor outcome (.event result)) (fun _ => rfl) keeps locked rfl
        (fun owns => ?_) rfl stored
        uncopied trivial
      rw [phase]
      cases held <;> exact owns
  | published held descriptor outcome result event phase status same =>
      rw [phase] at locked
      refine single.turned { engine with event := some event }
        (.publishing held descriptor outcome (.descriptor result))
        (fun _ => rfl) keeps locked rfl (fun owns => ?_) rfl stored uncopied trivial
      rw [phase]
      cases held <;> exact owns
  | finalized held descriptor outcome result phase =>
      refine single.steady (steady_left { engine with descriptor := some (outcome.descriptor site descriptor result) }
        (fun _ => rfl) rfl rfl fun other active => ⟨_, rfl, ?_⟩)
      rw [Outcome.descriptor_status]
      exact terminal_not_starting outcome.status_ended
  | recovering descriptor stopped readable command result phase proceeds known terminal =>
      rw [phase] at locked
      exact single.turned engine (.recovering stopped result false) (fun _ => rfl) keeps
        (fun _ => locked rfl) rfl never rfl
        stored uncopied terminal
  | finalizing descriptor stopped readable command error phase proceeds incomplete =>
      rw [phase] at locked
      exact single.turned engine (.publishing true stopped (.launchFailure error) .summary) (fun _ => rfl) keeps
        (fun _ => locked rfl) rfl never rfl stored uncopied trivial
  | recoveredEvent descriptor result event phase status same =>
      rw [phase] at locked proper
      exact single.turned { engine with event := some event } (.recovering descriptor result true) (fun _ => rfl) keeps
        (fun _ => locked rfl) rfl never rfl stored uncopied proper
  | recovered descriptor result now phase =>
      rw [phase] at proper
      refine single.steady
        (steady_left { engine with descriptor := some (recoveredDescriptor site descriptor result now) }
        (fun _ => rfl) rfl rfl fun other active => ⟨_, rfl, ?_⟩)
      exact terminal_not_starting proper

end Moves

theorem step_single (site : Site) (label : Nat × Action) (engine next : Engine) (single : Single engine)
    (taken : step site label engine = some next) : Single next := by
  rw [step] at taken
  split at taken
  · cases taken
  · obtain ⟨demand, move, -⟩ := act_moves site label.1 label.2 engine next taken
    exact single.move move

end OrchestratorEngine.LocalChecks
