import OrchestratorEngine.LocalChecks.Coherence

set_option autoImplicit false

namespace OrchestratorEngine.LocalChecks

open Foundation

structure Kept (engine next : Engine) : Prop where
  result : ∀ result, engine.result = some result → ∃ later, next.result = some later ∧ later.status = result.status
  descriptor : ∀ descriptor, engine.descriptor = some descriptor → descriptor.status.terminal = true →
    next.descriptor = some descriptor
  event : ∀ event, engine.event = some event → next.event = some event

structure Agreement (engine : Engine) : Prop where
  ended : ∀ descriptor, engine.descriptor = some descriptor → descriptor.status.terminal = true →
    Reported engine descriptor.status ∧ Announced engine descriptor.status
  noted : ∀ event, engine.event = some event →
    ∃ result, engine.result = some result ∧ event.terminalStatus = eventStatus result.status

section Keeping

variable {site : Site} {pid : Nat} {engine middle next : Engine}

theorem Kept.trans (first : Kept engine middle) (second : Kept middle next) : Kept engine next where
  result := by
    intro result stored
    obtain ⟨later, visible, same⟩ := first.result result stored
    obtain ⟨last, present, equal⟩ := second.result later visible
    exact ⟨last, present, equal.trans same⟩
  descriptor := fun descriptor stored terminal =>
    second.descriptor descriptor (first.descriptor descriptor stored terminal) terminal
  event := fun event stored => second.event event (first.event event stored)

theorem SameFiles.kept (same : SameFiles engine next) : Kept engine next where
  result := fun result stored => ⟨result, same.result.trans stored, rfl⟩
  descriptor := fun _ stored _ => same.descriptor.trans stored
  event := fun _ stored => same.event.trans stored

theorem Open.kept (unended : Open engine) (result : next.result = engine.result) (event : next.event = engine.event) :
    Kept engine next where
  result := fun stored known => ⟨stored, result.trans known, rfl⟩
  descriptor := fun _ stored terminal => ended_open unended stored terminal
  event := fun _ stored => event.trans stored

theorem Coherent.kept {demand : Prop} (coherent : Coherent engine) (move : Move site pid engine demand next)
    (met : demand) :
    Kept engine next := by
  have own := coherent.facts pid
  have untouched : SameFiles engine next → Kept engine next := SameFiles.kept
  cases move with
  | created descriptor absent starting =>
      refine ⟨fun result stored => ⟨result, stored, rfl⟩, fun kept present _ => ?_, fun _ stored => stored⟩
      rw [absent] at present
      cases present
  | recorded token identity current phase starting =>
      exact Open.kept ⟨current, met, by rw [starting]; rfl⟩ rfl rfl
  | claimed descriptor readable now phase starting =>
      exact Open.kept ⟨descriptor, met.1.1.1, by rw [starting]; rfl⟩ rfl rfl
  | noted descriptor current changed change phase status identity =>
      rw [phase] at own
      exact own.1.open.kept rfl rfl
  | resulted locked descriptor outcome now phase =>
      rw [phase] at own
      refine ⟨fun result stored => ⟨_, rfl, ?_⟩, fun _ stored _ => stored, fun _ stored => stored⟩
      rw [outcome.result_status, own.2.2 result stored]
  | published locked descriptor outcome result event phase status same =>
      refine ⟨fun result stored => ⟨result, stored, rfl⟩, fun _ stored _ => stored, fun kept stored => ?_⟩
      exact congrArg some (same kept stored)
  | finalized locked descriptor outcome result phase =>
      rw [phase] at own
      exact own.1.kept rfl rfl
  | recoveredEvent descriptor result event phase status same =>
      refine ⟨fun result stored => ⟨result, stored, rfl⟩, fun _ stored _ => stored, fun kept stored => ?_⟩
      exact congrArg some (same kept stored)
  | recovered descriptor result now phase =>
      rw [phase] at own
      exact own.1.kept rfl rfl
  | _ => exact untouched ⟨rfl, rfl, rfl⟩

end Keeping

section Runs

variable (site : Site)

theorem fresh_phase (pid : Nat) : ({} : Engine).phaseOf pid = .idle := rfl

theorem fresh_single : Single {} := by
  have inactive : ∀ pid, ¬ Active {} pid := by
    rintro pid (owns | listed)
    · rw [fresh_phase] at owns
      exact never owns
    · exact List.not_mem_nil listed
  refine ⟨fun pid locked => ?_, fun first _ one => absurd one (inactive first), fun pid one =>
    absurd one (inactive pid),
    fun _ _ => rfl, fun pid => ?_, Nat.zero_le 1⟩
  · rw [fresh_phase] at locked
    exact never locked
  · rw [fresh_phase]
    exact trivial

theorem fresh_coherent : Coherent {} := by
  have calm : ∀ pid, (({} : Engine).phaseOf pid).finishing = false := fun pid => by rw [fresh_phase]; rfl
  refine ⟨fresh_single, fun pid finishing => ?_, fun first _ finishing => ?_, fun pid => ?_,
    fun descriptor stored => absurd stored (Option.some_ne_none descriptor).symm,
    fun event stored => absurd stored (Option.some_ne_none event).symm⟩
  · exact never ((calm pid).symm.trans finishing)
  · exact never ((calm first).symm.trans finishing)
  · rw [fresh_phase]
    exact trivial

theorem step_coherent (label : Nat × Action) (engine next : Engine) (coherent : Coherent engine)
    (orderly : Orderly label engine) (taken : step site label engine = some next) :
    Coherent next ∧ Kept engine next := by
  rw [step] at taken
  split at taken
  case isTrue => cases taken
  case isFalse alive =>
    obtain ⟨demand, move, meets⟩ := act_moves site label.1 label.2 engine next taken
    exact ⟨coherent.move alive move (meets orderly), coherent.kept move (meets orderly)⟩

theorem run_single (schedule : List (Nat × Action)) (engine : Engine)
    (reached : follow (step site) schedule {} = some engine) : engine.started.length ≤ 1 := by
  have single : Single engine := follow_invariant Single
    (fun label engine next single _ taken => step_single site label engine next single taken) schedule {} engine
    fresh_single (meets_of_forall (step site) (fun _ _ => True) (fun _ _ => trivial) schedule {}) reached
  exact single.once

theorem run_kept (schedule : List (Nat × Action)) (engine next : Engine) (coherent : Coherent engine)
    (orderly : Meets (step site) Orderly schedule engine) (reached : follow (step site) schedule engine = some next) :
    Coherent next ∧ Kept engine next := by
  refine follow_invariant (fun state => Coherent state ∧ Kept engine state) ?_ schedule engine next
    ⟨coherent, ?_⟩ orderly
    reached
  · rintro label before after ⟨holds, kept⟩ fine taken
    obtain ⟨later, stays⟩ := step_coherent site label before after holds fine taken
    exact ⟨later, kept.trans stays⟩
  · exact SameFiles.kept ⟨rfl, rfl, rfl⟩

theorem check_runs_once (schedule : List (Nat × Action)) (engine : Engine)
    (reached : follow (step site) schedule {} = some engine) :
    engine.started.length ≤ 1 ∧ (Meets (step site) Orderly schedule {} → Agreement engine ∧
      ∀ front back middle, schedule = front ++ back → follow (step site) front {} = some middle →
      Kept middle engine) := by
  refine ⟨run_single site schedule engine reached, fun orderly => ⟨?_, ?_⟩⟩
  · obtain ⟨coherent, -⟩ := run_kept site schedule {} engine fresh_coherent orderly reached
    exact ⟨coherent.ended, coherent.noted⟩
  · rintro front back middle rfl early
    obtain ⟨before, after⟩ := orderly.append_inv front back {} middle early
    have late : follow (step site) back middle = some engine := by
      rw [follow_append, early] at reached
      exact reached
    obtain ⟨coherent, -⟩ := run_kept site front {} middle fresh_coherent before early
    exact (run_kept site back middle engine coherent after late).2

end Runs

def plainSite : Site := ⟨"engine", fun checkId => checkId ++ "-terminal", fun _ => "r", fun _ => "e"⟩

def suiteDispatch (execution : Execution) : Dispatch where
  checkId := "check-1"
  suite := "unit"
  verification := "targeted"
  fingerprint := "suite-1"
  execution
  requestedExecution := "auto"
  wakePolicy := .always
  requestedWakePolicy := "auto"
  longThresholdSeconds := 60
  plan := "unit"
  createdAt := "t0"
  wakeTarget := none
  applicability := none

def foregroundRun : List (Nat × Action) :=
  [(1, .create (suiteDispatch .foreground)), (1, .supervise), (1, .claim (.ok ()) true "t1"),
  (1, .readSuite (some "suite-1")),
    (1, .conclude [⟨true, "passed"⟩] 3), (1, .publish "t2"), (1, .publish "t2"), (1, .publish "t2"), (1, .publish "t2"),
    (1, .publish "t2")]

def detachedRun : List (Nat × Action) :=
  [(1, .create (suiteDispatch .detached)), (1, .spawn (.ok (some 2))), (1, .loadStarted), (1, .record), (2, .supervise),
    (2, .claim (.ok ()) true "t1"), (2, .readSuite (some "suite-1")), (2, .conclude [⟨true, "passed"⟩] 3),
    (2, .publish "t2"),
    (2, .publish "t2")]

def evidencedAndReaped : List (Nat × Action) :=
  [(2, .publish "t2"), (2, .exit), (3, .reap), (3, .judge true .unknown), (3, .recover "t3"), (3, .recover "t3")]

theorem foreground_check_agrees :
    (∃ engine, follow (step plainSite) foregroundRun {} = some engine ∧
      engine.started.length ≤ 1 ∧ Agreement engine ∧ engine.descriptor.map Descriptor.status = some .passed) ∧
    ∃ middle engine, follow (step plainSite) detachedRun {} = some middle ∧
      follow (step plainSite) (detachedRun ++ evidencedAndReaped) {} = some engine ∧ engine.gone = [2] ∧
      Agreement engine ∧ Kept middle engine ∧ engine.descriptor.map Descriptor.status = some .passed := by
  constructor
  · obtain ⟨once, agreed⟩ := check_runs_once plainSite foregroundRun _ rfl
    exact ⟨_, rfl, once, (agreed (by decide +kernel)).1, rfl⟩
  · obtain ⟨-, agreed⟩ := check_runs_once plainSite (detachedRun ++ evidencedAndReaped) _ rfl
    obtain ⟨agreement, kept⟩ := agreed (by decide +kernel)
    exact ⟨_, _, rfl, rfl, rfl, agreement, kept detachedRun evidencedAndReaped _ rfl rfl, rfl⟩

def crashAndReap : List (Nat × Action) :=
  [(2, .exit), (3, .reap), (3, .judge true .unknown), (3, .publish "t3"), (3, .publish "t3"), (3, .publish "t3"),
  (3, .publish "t3"),
    (3, .publish "t3")]

theorem crash_rewrites_outcome : ∃ middle engine, follow (step plainSite) detachedRun {} = some middle ∧
    follow (step plainSite) crashAndReap middle = some engine ∧
    middle.result.map Result.status = some .passed ∧ engine.result.map Result.status = some .errored ∧
    engine.descriptor.map Descriptor.status = some .errored := ⟨_, _, rfl, rfl, rfl, rfl, rfl⟩

end OrchestratorEngine.LocalChecks
