import OrchestratorEngine.Foundation.Interleaving
import OrchestratorEngine.LocalChecks.Single

set_option autoImplicit false

namespace OrchestratorEngine.LocalChecks

open Foundation

def Open (engine : Engine) : Prop := ∃ descriptor, engine.descriptor = some descriptor ∧
    descriptor.status.terminal = false

def Owned (engine : Engine) (pid : Nat) : Prop :=
  ∃ descriptor, engine.descriptor = some descriptor ∧ descriptor.status = .running ∧
    (descriptor.supervisorIdentity = some none ∨ descriptor.supervisorIdentity = some (some pid))

def Reported (engine : Engine) (status : Status) : Prop :=
  ∃ result, engine.result = some result ∧ result.status = status

def Announced (engine : Engine) (status : Status) : Prop :=
  ∃ event, engine.event = some event ∧ event.terminalStatus = eventStatus status

def StageFact (engine : Engine) (status : Status) : Stage → Prop
  | .summary | .result => ∀ result, engine.result = some result → result.status = status
  | .evidence _ | .event _ => Reported engine status
  | .descriptor _ => Reported engine status ∧ Announced engine status

def Fact (engine : Engine) (pid : Nat) : Phase → Prop
  | .owning _ | .executing _ | .updating _ _ _ => Owned engine pid ∧ engine.result = none
  | .publishing locked descriptor outcome stage =>
      Open engine ∧ (locked = false → descriptor.status = .running → Owned engine pid) ∧
        StageFact engine outcome.status stage
  | .recovering _ result noted =>
      Open engine ∧ Reported engine result.status ∧ (noted = true → Announced engine result.status)
  | _ => True

structure Coherent (engine : Engine) : Prop where
  single : Single engine
  alive : ∀ pid, (engine.phaseOf pid).finishing = true → pid ∉ engine.gone
  sole : ∀ first second, (engine.phaseOf first).finishing = true → (engine.phaseOf second).finishing
    = true → first = second
  facts : ∀ pid, Fact engine pid (engine.phaseOf pid)
  ended : ∀ descriptor, engine.descriptor = some descriptor → descriptor.status.terminal = true →
    Reported engine descriptor.status ∧ Announced engine descriptor.status
  noted : ∀ event, engine.event = some event →
    ∃ result, engine.result = some result ∧ event.terminalStatus = eventStatus result.status

section Facts

variable {engine next : Engine} {pid : Nat}

variable {phase : Phase}

theorem fact_idle (still : phase.finishing = false) : Fact engine pid phase := by
  cases phase <;> first | exact trivial | cases still

structure SameFiles (engine next : Engine) : Prop where
  descriptor : next.descriptor = engine.descriptor
  result : next.result = engine.result
  event : next.event = engine.event

theorem Fact.same (fact : Fact engine pid phase) (same : SameFiles engine next) : Fact next pid phase := by
  obtain ⟨descriptor, result, event⟩ := same
  cases phase with
  | publishing locked loaded outcome stage =>
      simp only [Fact, Open, Owned, descriptor] at fact ⊢
      refine ⟨fact.1, fact.2.1, ?_⟩
      have staged := fact.2.2
      cases stage <;> simpa only [StageFact, Reported, Announced, result, event] using staged
  | recovering loaded given noted => simpa only [Fact, Open, Reported, Announced, descriptor, result, event] using fact
  | owning loaded => simpa only [Fact, Owned, descriptor, result] using fact
  | executing loaded => simpa only [Fact, Owned, descriptor, result] using fact
  | updating loaded change current => simpa only [Fact, Owned, descriptor, result] using fact
  | _ => trivial

theorem Fact.rewritten (fact : Fact engine pid phase) (result : next.result = engine.result)
    (event : next.event = engine.event) (unended : Open next) (owned : Owned engine pid → Owned next pid) :
    Fact next pid phase := by
  cases phase with
  | publishing locked loaded outcome stage =>
      refine ⟨unended, fun unlocked running => owned (fact.2.1 unlocked running), ?_⟩
      have staged := fact.2.2
      cases stage <;> simpa only [StageFact, Reported, Announced, result, event] using staged
  | recovering loaded given noted =>
      refine ⟨unended, ?_⟩
      simpa only [Reported, Announced, result, event] using fact.2
  | owning loaded => exact ⟨owned fact.1, result.trans fact.2⟩
  | executing loaded => exact ⟨owned fact.1, result.trans fact.2⟩
  | updating loaded change current => exact ⟨owned fact.1, result.trans fact.2⟩
  | _ => trivial

theorem Owned.open (owned : Owned engine pid) : Open engine := by
  obtain ⟨descriptor, stored, running, -⟩ := owned
  exact ⟨descriptor, stored, by rw [running]; rfl⟩

theorem Fact.open (fact : Fact engine pid phase) (finishing : phase.finishing = true) : Open engine := by
  cases phase with
  | owning => exact fact.1.open
  | executing => exact fact.1.open
  | updating => exact fact.1.open
  | publishing => exact fact.1
  | recovering => exact fact.1
  | _ => cases finishing

theorem Loads.fact {before phase : Phase} {current : Descriptor} (loads : Loads before current phase)
    (fact : Fact engine pid before) : (phase.finishing = true → before.finishing = true) ∧ Fact engine pid phase := by
  cases loads with
  | started identity current => exact ⟨never, trivial⟩
  | supervised descriptor => exact ⟨never, trivial⟩
  | foreground created descriptor => exact ⟨never, trivial⟩
  | command descriptor change current => exact ⟨fun _ => rfl, fact⟩
  | reaped descriptor => exact ⟨never, trivial⟩

theorem Coherent.alone (coherent : Coherent engine) (finishing : (engine.phaseOf pid).finishing = true) :
    ∀ other, other ≠ pid → (engine.phaseOf other).finishing = false := by
  intro other different
  by_contra also
  exact different (coherent.sole other pid (by simpa using also) finishing)

theorem Coherent.locked_alone (coherent : Coherent engine) (held : engine.lock = some pid)
    (calm : ∀ other, other ≠ pid → (engine.phaseOf other).pending = false)
    (unowned : ∀ other, other ∉ engine.gone → ¬ Owned engine other) :
    ∀ other, other ≠ pid → (engine.phaseOf other).finishing = false := by
  intro other different
  by_contra also
  have finishing : (engine.phaseOf other).finishing = true := by simpa using also
  have free := unowned other (coherent.alive other finishing)
  have fact := coherent.facts other
  have peaceful := calm other different
  have locks : (engine.phaseOf other).locked ≠ true := fun locked =>
    different (Option.some.inj ((coherent.single.disciplined other locked).symm.trans held))
  revert finishing fact peaceful locks
  cases engine.phaseOf other with
  | owning => exact fun _ fact _ _ => free fact.1
  | executing => exact fun _ fact _ _ => free fact.1
  | updating => exact fun _ fact _ _ => free fact.1
  | publishing locked descriptor outcome stage =>
      intro _ fact peaceful locks
      cases locked with
      | true => exact locks rfl
      | false =>
          by_cases running : descriptor.status = .running
          · exact free (fact.2.1 rfl running)
          · simp [Phase.pending, running] at peaceful
  | recovering => exact fun _ _ _ locks => locks rfl
  | _ => exact fun finishing => by cases finishing

theorem unowned_starting {descriptor : Descriptor} (stored : engine.descriptor = some descriptor)
    (starting : descriptor.status = .starting) : ∀ other, other ∉ engine.gone → ¬ Owned engine other := by
  rintro other - ⟨kept, present, running, -⟩
  rw [stored] at present
  cases present
  rw [starting] at running
  cases running

theorem unowned_gone {descriptor stopped : Descriptor} {readable : Bool} {command : CommandState}
    (stored : engine.descriptor = some descriptor)
    (proceeds : reapable engine.gone readable command descriptor = some stopped) :
    ∀ other, other ∉ engine.gone → ¬ Owned engine other := by
  rintro other alive ⟨kept, present, -, named⟩
  rw [stored] at present
  cases present
  simp only [reapable] at proceeds
  split at proceeds
  case isTrue => cases proceeds
  case isFalse open_ =>
    rw [not_or, Bool.not_eq_false] at open_
    have gone := open_.2
    rcases named with null | token
    · simp [proven, null] at gone
    · simp only [proven, token, Bool.and_eq_true, decide_eq_true_eq] at gone
      exact alive gone.2

theorem reapable_open {descriptor stopped : Descriptor} {readable : Bool} {command : CommandState} {gone : List Nat}
    (proceeds : reapable gone readable command descriptor = some stopped) : descriptor.status.terminal = false := by
  simp only [reapable] at proceeds
  split at proceeds
  case isTrue => cases proceeds
  case isFalse open_ => simpa using (not_or.mp open_).1

end Facts

section Moved

variable {engine next : Engine} {pid : Nat}

theorem Coherent.moved (coherent : Coherent engine) (single : Single next) (phase : Phase)
    (phases : ∀ other, next.phaseOf other = if other = pid then phase else engine.phaseOf other)
    (gone : next.gone = engine.gone) (alive : pid ∉ engine.gone)
    (lone : phase.finishing = true → ∀ other, other ≠ pid → (engine.phaseOf other).finishing = false)
    (others : ∀ other, other ≠ pid → Fact next other (engine.phaseOf other)) (own : Fact next pid phase)
    (ended : ∀ descriptor, next.descriptor = some descriptor → descriptor.status.terminal = true →
      Reported next descriptor.status ∧ Announced next descriptor.status)
    (noted : ∀ event, next.event = some event →
      ∃ result, next.result = some result ∧ event.terminalStatus = eventStatus result.status) : Coherent next where
  single := single
  alive := by
    intro other finishing
    rw [gone]
    by_cases same : other = pid
    · exact same ▸ alive
    · rw [phases, if_neg same] at finishing
      exact coherent.alive other finishing
  sole := by
    intro first second one two
    rw [phases] at one two
    by_cases left : first = pid
    · by_cases right : second = pid
      · exact left.trans right.symm
      · rw [if_pos left] at one
        rw [if_neg right, lone one second right] at two
        cases two
    · rw [if_neg left] at one
      by_cases right : second = pid
      · rw [if_pos right] at two
        rw [lone two first left] at one
        cases one
      · rw [if_neg right] at two
        exact coherent.sole first second one two
  facts := by
    intro other
    rw [phases]
    split
    case isTrue same => exact same ▸ own
    case isFalse different => exact others other different
  ended := ended
  noted := noted

theorem Coherent.turned (coherent : Coherent engine) (single : Single next) (phase : Phase)
    (phases : ∀ other, next.phaseOf other = if other = pid then phase else engine.phaseOf other)
    (gone : next.gone = engine.gone) (alive : pid ∉ engine.gone) (same : SameFiles engine next)
    (lone : phase.finishing = true → ∀ other, other ≠ pid → (engine.phaseOf other).finishing = false)
    (own : Fact next pid phase) : Coherent next := by
  refine coherent.moved single phase phases gone alive lone (fun other _ => (coherent.facts other).same same) own ?_ ?_
  · simp only [Reported, Announced, same.descriptor, same.result, same.event]
    exact coherent.ended
  · simp only [same.result, same.event]
    exact coherent.noted

theorem Coherent.exited (coherent : Coherent engine)
    (single : Single { engine.leave pid with gone := pid :: engine.gone }) :
    Coherent { engine.leave pid with gone := pid :: engine.gone } := by
  have phases : ∀ other, ({ engine.leave pid with gone := pid :: engine.gone } : Engine).phaseOf other =
      if other = pid then .idle else engine.phaseOf other := Engine.phase_of_leave engine pid
  have busy : ∀ other, (({ engine.leave pid with gone := pid :: engine.gone } : Engine).phaseOf
    other).finishing = true →
      other ≠ pid ∧ (engine.phaseOf other).finishing = true := by
    intro other finishing
    rw [phases] at finishing
    split at finishing
    case isTrue => cases finishing
    case isFalse different => exact ⟨different, finishing⟩
  refine ⟨single, fun other finishing => ?_, fun first second one two => ?_, fun other => ?_,
    coherent.ended, coherent.noted⟩
  · obtain ⟨different, before⟩ := busy other finishing
    exact List.not_mem_cons_of_ne_of_not_mem different (coherent.alive other before)
  · exact coherent.sole first second (busy first one).2 (busy second two).2
  · rw [phases]
    split
    · exact trivial
    · exact (coherent.facts other).same ⟨rfl, rfl, rfl⟩

end Moved

section Moves

variable {site : Site} {pid : Nat} {engine next : Engine}

theorem Coherent.rewritten (coherent : Coherent engine) (single : Single next) (phase : Phase)
    (phases : ∀ other, next.phaseOf other = if other = pid then phase else engine.phaseOf other)
    (gone : next.gone = engine.gone) (alive : pid ∉ engine.gone)
    (lone : ∀ other, other ≠ pid → (engine.phaseOf other).finishing = false) (own : Fact next pid phase)
    (ended : ∀ descriptor, next.descriptor = some descriptor → descriptor.status.terminal = true →
      Reported next descriptor.status ∧ Announced next descriptor.status)
    (noted : ∀ event, next.event = some event →
      ∃ result, next.result = some result ∧ event.terminalStatus = eventStatus result.status) : Coherent next :=
  coherent.moved single phase phases gone alive (fun _ => lone) (fun other different =>
    fact_idle (lone other different)) own
    ended noted

theorem open_status {status : Status} {statement : Prop} (unended : status.terminal = false)
    (terminal : status.terminal = true) : statement := by
  rw [unended] at terminal
  cases terminal

theorem ended_open {descriptor : Descriptor} {statement : Prop} (unended : Open engine)
    (present : engine.descriptor = some descriptor) (terminal : descriptor.status.terminal = true) : statement := by
  obtain ⟨current, stored, status⟩ := unended
  rw [stored] at present
  cases present
  exact open_status status terminal

theorem unreported (fresh : engine.result = none) : Replaceable engine := by
  intro result stored
  rw [fresh] at stored
  cases stored

theorem Outcome.result_status (outcome : Outcome) (descriptor : Descriptor) (now : String) :
    (outcome.result descriptor now).status = outcome.status := by
  cases outcome <;> rfl

theorem Current.alone {loaded : Descriptor} (current : Current pid loaded engine) (coherent : Coherent engine)
    (held : (engine.phaseOf pid).locked = true) (starting : loaded.status = .starting) :
    ∀ other, other ≠ pid → (engine.phaseOf other).finishing = false :=
  coherent.locked_alone (coherent.single.disciplined pid held) current.2 (unowned_starting current.1 starting)

theorem Coherent.failed (coherent : Coherent engine) (written : Engine) (error : String) (locked : Bool)
    (descriptor : Descriptor)
    (single : Single (written.turn pid (.publishing locked descriptor (.launchFailure error) .summary)))
    (phases : ∀ other, written.phaseOf other = engine.phaseOf other) (gone : written.gone = engine.gone)
    (alive : pid ∉ engine.gone) (same : SameFiles engine written) (unended : Open engine)
    (replaceable : Replaceable engine) (unowned : locked = false → descriptor.status = .running → Owned engine pid)
    (lone : ∀ other, other ≠ pid → (engine.phaseOf other).finishing = false) :
    Coherent (written.turn pid (.publishing locked descriptor (.launchFailure error) .summary)) := by
  refine coherent.turned single (.publishing locked descriptor (.launchFailure error) .summary)
    (fun other => ?_) gone alive ⟨same.descriptor, same.result, same.event⟩ (fun _ => lone) ?_
  · rw [Engine.phase_of_turn, phases]
  · exact Fact.same (show Fact engine pid (.publishing locked descriptor (.launchFailure error) .summary) from
      ⟨unended, unowned, replaceable⟩) ⟨same.descriptor, same.result, same.event⟩

theorem Coherent.move {demand : Prop} (coherent : Coherent engine) (alive : pid ∉ engine.gone)
    (move : Move site pid engine demand next) (met : demand) : Coherent next := by
  have single : Single next := coherent.single.move move
  have own := coherent.facts pid
  have proper := coherent.single.proper pid
  cases move with
  | left =>
      exact coherent.turned single .idle (Engine.phase_of_leave engine pid) rfl alive ⟨rfl, rfl, rfl⟩ never trivial
  | exited => exact coherent.exited single
  | created descriptor absent starting =>
      have unopened : ¬ Open engine := by
        rintro ⟨kept, present, -⟩
        rw [absent] at present
        cases present
      have unended : descriptor.status.terminal = false := by rw [starting]; rfl
      refine coherent.rewritten single (.launching descriptor) (Engine.phase_of_turn _ pid · _) rfl alive
        (fun other _ => ?_) trivial ?_ coherent.noted
      · by_contra finishing
        exact unopened ((coherent.facts other).open (by simpa using finishing))
      · rintro kept ⟨⟩ terminal
        exact open_status unended terminal
  | spawnFailed descriptor error phase =>
      rw [phase] at proper
      obtain ⟨unended, replaceable, lone⟩ := met
      refine coherent.failed engine error false descriptor single (fun _ => rfl) rfl alive ⟨rfl, rfl, rfl⟩ unended
        replaceable (fun _ running => ?_) lone
      rw [show descriptor.status = .starting from proper] at running
      cases running
  | spawned descriptor identity phase =>
      exact coherent.turned single (.spawned identity) (Engine.phase_of_turn _ pid · _) rfl alive ⟨rfl, rfl, rfl⟩ never
        trivial
  | loaded current phase free stored loads =>
      obtain ⟨finishing, fact⟩ := loads.fact own
      exact coherent.turned single phase (Engine.phase_of_turn _ pid · _) rfl alive ⟨rfl, rfl, rfl⟩
        (fun ends => coherent.alone (finishing ends)) (fact.same ⟨rfl, rfl, rfl⟩)
  | recorded token identity current phase starting =>
      have unended : current.status.terminal = false := by rw [starting]; rfl
      refine coherent.moved single .idle (Engine.phase_of_leave _ pid) rfl alive never (fun other _ => ?_) trivial ?_
        coherent.noted
      · refine (coherent.facts other).rewritten rfl rfl ⟨_, rfl, unended⟩ ?_
        rintro ⟨kept, present, running, -⟩
        rw [met] at present
        cases present
        rw [starting] at running
        cases running
      · rintro kept ⟨⟩ terminal
        exact open_status unended terminal
  | lost identity current error phase starting =>
      refine coherent.failed (engine.release pid) error false current single (fun _ => rfl) rfl alive ⟨rfl, rfl, rfl⟩
        ⟨current, met.1.1, by rw [starting]; rfl⟩ met.2 (fun _ running => ?_)
        (met.1.alone coherent (by rw [phase]; rfl) starting)
      rw [starting] at running
      cases running
  | claimed descriptor readable now phase starting =>
      obtain ⟨⟨current, replaceable⟩, fresh⟩ := met
      refine coherent.rewritten single (.owning _) (Engine.phase_of_turn _ pid · _) rfl alive
        (current.alone coherent (by rw [phase]; rfl) starting) ⟨⟨_, rfl, rfl, ?_⟩, fresh⟩ ?_ coherent.noted
      · cases readable
        · exact .inl rfl
        · exact .inr rfl
      · rintro kept ⟨⟩ terminal
        cases terminal
  | unbound descriptor error phase starting =>
      refine coherent.failed (engine.release pid) error false descriptor single (fun _ => rfl) rfl alive ⟨rfl, rfl, rfl⟩
        ⟨descriptor, met.1.1, by rw [starting]; rfl⟩ met.2 (fun _ running => ?_)
        (met.1.alone coherent (by rw [phase]; rfl) starting)
      rw [starting] at running
      cases running
  | changed descriptor error phase =>
      rw [phase] at own
      exact coherent.failed engine error false descriptor single (fun _ => rfl) rfl alive ⟨rfl, rfl, rfl⟩ own.1.open
        (unreported own.2) (fun _ _ => own.1) (coherent.alone (by rw [phase]; rfl))
  | began descriptor phase =>
      rw [phase] at own
      exact coherent.turned single (.executing descriptor) (Engine.phase_of_turn _ pid · _) rfl alive ⟨rfl, rfl, rfl⟩
        (fun _ => coherent.alone (by rw [phase]; rfl)) own
  | noted descriptor current changed change phase status identity =>
      rw [phase] at own
      have owned : ∀ other, Owned engine other →
          Owned (({ engine with descriptor := some changed }.release pid).turn pid (.executing descriptor)) other := by
        rintro other ⟨kept, present, running, named⟩
        rw [met] at present
        cases present
        exact ⟨changed, rfl, status.trans running, by rw [identity]; exact named⟩
      have unended := (owned pid own.1).open
      refine coherent.moved single (.executing descriptor) (Engine.phase_of_turn _ pid · _) rfl alive
        (fun _ => coherent.alone (by rw [phase]; rfl))
        (fun other _ => (coherent.facts other).rewritten rfl rfl unended (owned other)) ⟨owned pid own.1, own.2⟩ ?_
        coherent.noted
      obtain ⟨kept, present, status⟩ := unended
      exact fun written given terminal => ended_open ⟨kept, present, status⟩ given terminal
  | skipped descriptor current change phase =>
      rw [phase] at own
      exact coherent.turned single (.executing descriptor) (Engine.phase_of_turn _ pid · _) rfl alive ⟨rfl, rfl, rfl⟩
        (fun _ => coherent.alone (by rw [phase]; rfl)) own
  | concluded descriptor commands duration phase =>
      rw [phase] at own
      exact coherent.turned single (.publishing false descriptor (.concluded commands duration) .summary)
        (Engine.phase_of_turn _ pid · _) rfl alive ⟨rfl, rfl, rfl⟩ (fun _ => coherent.alone (by rw [phase]; rfl))
        ⟨own.1.open, fun _ _ => own.1, fun result stored => by cases own.2.symm.trans stored⟩
  | summarized locked descriptor outcome phase =>
      rw [phase] at own
      exact coherent.turned single (.publishing locked descriptor outcome .result)
        (Engine.phase_of_turn _ pid · _) rfl alive
        ⟨rfl, rfl, rfl⟩ (fun _ => coherent.alone (by rw [phase]; rfl)) own
  | resulted locked descriptor outcome now phase =>
      rw [phase] at own
      refine coherent.rewritten single
        (.publishing locked descriptor outcome (.evidence (outcome.result descriptor now)))
        (Engine.phase_of_turn _ pid · _) rfl alive (coherent.alone (by rw [phase]; rfl))
        ⟨own.1, own.2.1, outcome.result descriptor now, rfl, outcome.result_status descriptor now⟩ ?_ ?_
      · exact fun kept present terminal => ended_open own.1 present terminal
      · intro event present
        obtain ⟨result, stored, agreed⟩ := coherent.noted event present
        exact ⟨_, rfl, by rw [agreed, own.2.2 result stored, outcome.result_status]⟩
  | evidenced locked descriptor outcome result retained now phase stored =>
      rw [phase] at own
      exact coherent.turned single (.publishing locked descriptor outcome (.event result))
        (Engine.phase_of_turn _ pid · _)
        rfl alive ⟨rfl, rfl, rfl⟩ (fun _ => coherent.alone (by rw [phase]; rfl)) own
  | published locked descriptor outcome result event phase status same =>
      rw [phase] at own
      obtain ⟨unended, owned, reported⟩ := own
      refine coherent.rewritten single (.publishing locked descriptor outcome (.descriptor result))
        (Engine.phase_of_turn _ pid · _) rfl alive (coherent.alone (by rw [phase]; rfl))
        ⟨unended, owned, reported, event, rfl, status⟩ ?_ ?_
      · exact fun kept present terminal => ended_open unended present terminal
      · rintro kept ⟨⟩
        obtain ⟨stored, known, agreed⟩ := reported
        exact ⟨stored, known, by rw [status, agreed]⟩
  | finalized locked descriptor outcome result phase =>
      rw [phase] at own
      obtain ⟨-, -, reported, announced⟩ := own
      refine coherent.rewritten single .idle (Engine.phase_of_leave _ pid) rfl alive
        (coherent.alone (by rw [phase]; rfl))
        trivial ?_ coherent.noted
      rintro kept ⟨⟩ terminal
      rw [Outcome.descriptor_status]
      exact ⟨reported, announced⟩
  | recovering descriptor stopped readable command result phase proceeds stored terminal =>
      refine coherent.turned single (.recovering stopped result false) (Engine.phase_of_turn _ pid · _) rfl alive
        ⟨rfl, rfl, rfl⟩ (fun _ => coherent.locked_alone (coherent.single.disciplined pid (by rw [phase]; rfl)) met.2
          (unowned_gone met.1 proceeds)) ?_
      exact ⟨⟨descriptor, met.1, reapable_open proceeds⟩, ⟨result, stored, rfl⟩, never⟩
  | finalizing descriptor stopped readable command error phase proceeds incomplete =>
      exact coherent.failed engine error true stopped single (fun _ => rfl) rfl alive ⟨rfl, rfl, rfl⟩
        ⟨descriptor, met.1.1, reapable_open proceeds⟩ met.2 (fun wrong => never wrong.symm)
        (coherent.locked_alone (coherent.single.disciplined pid (by rw [phase]; rfl)) met.1.2
          (unowned_gone met.1.1 proceeds))
  | recoveredEvent descriptor result event phase status same =>
      rw [phase] at own
      obtain ⟨unended, reported, -⟩ := own
      refine coherent.rewritten single (.recovering descriptor result true) (Engine.phase_of_turn _ pid · _) rfl alive
        (coherent.alone (by rw [phase]; rfl)) ⟨unended, reported, fun _ => ⟨event, rfl, status⟩⟩ ?_ ?_
      · exact fun kept present terminal => ended_open unended present terminal
      · rintro kept ⟨⟩
        obtain ⟨stored, known, agreed⟩ := reported
        exact ⟨stored, known, by rw [status, agreed]⟩
  | recovered descriptor result now phase =>
      rw [phase] at own
      obtain ⟨-, reported, announced⟩ := own
      refine coherent.rewritten single .idle (Engine.phase_of_leave _ pid) rfl alive
        (coherent.alone (by rw [phase]; rfl))
        trivial ?_ coherent.noted
      rintro kept ⟨⟩ terminal
      exact ⟨reported, announced rfl⟩

end Moves

end OrchestratorEngine.LocalChecks
