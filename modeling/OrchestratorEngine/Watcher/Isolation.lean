import OrchestratorEngine.Watcher.Gating

set_option autoImplicit false

namespace OrchestratorEngine.Watcher.Faults

open Foundation
open ResourceAdapters (Json Text lit)

def Stage.shown (stage : Stage) : Bool := decide (stage ∉ [.workstream, .unnamed, .guard])

def Told (scan : Scan) : Prop := (∀ problem ∈ scan.errors, problem.stage.shown = true) ∧
  ∀ problem ∈ scan.met, problem.stage.shown = true → problem ∈ scan.errors

def Quiet (scan : Scan) : Prop := ∀ problem ∈ scan.met, problem.stage.shown = true

def Booked (scanning : Scanning) : Prop := ∀ key ∈ scanning.acted, key ∈ scanning.seen ∨ scanning.postponed key = true

-- What a step adds to the failures: nothing that is not told, and nothing
-- untold exactly under a condition.
structure Notes (before after : Scan) (quietly : Prop) : Prop where
  told : Told before → Told after
  quiet : Quiet after ↔ Quiet before ∧ quietly

section Reports

variable {scan : Scan} {problems : List Problem}

theorem Notes.trans {first second third : Scan} {early late : Prop} (lower : Notes first second early)
    (upper : Notes second third late) : Notes first third (early ∧ late) :=
  ⟨upper.told ∘ lower.told, by rw [upper.quiet, lower.quiet, and_assoc]⟩

theorem Notes.of_iff {before after : Scan} {first second : Prop} (notes : Notes before after first)
    (same : first ↔ second) :
    Notes before after second := ⟨notes.told, by rw [notes.quiet, same]⟩

theorem notes_report (shown : ∀ problem ∈ problems, problem.stage.shown = true) : Notes scan
    (scan.report problems) True := by
  refine ⟨fun told => ⟨fun problem listed => ?_, fun problem listed visible => ?_⟩, ?_⟩
  · exact (List.mem_append.mp listed).elim (told.1 problem) (shown problem)
  · exact List.mem_append.mpr ((List.mem_append.mp listed).imp (told.2 problem · visible) id)
  · rw [and_true]
    exact ⟨fun quiet problem listed => quiet problem (List.mem_append_left _ listed),
      fun quiet problem listed => (List.mem_append.mp listed).elim (quiet problem) (shown problem)⟩

theorem notes_swallow (hidden : ∀ problem ∈ problems, problem.stage.shown = false) :
    Notes scan (scan.swallow problems) (problems = []) := by
  refine ⟨fun told => ⟨told.1, fun problem listed visible => ?_⟩, fun quiet => ⟨fun problem listed => ?_, ?_⟩, ?_⟩
  · rcases List.mem_append.mp listed with before | new
    · exact told.2 problem before visible
    · rw [hidden problem new] at visible
      cases visible
  · exact quiet problem (List.mem_append_left _ listed)
  · rw [List.eq_nil_iff_forall_not_mem]
    intro problem listed
    have visible := quiet problem (List.mem_append_right _ listed)
    rw [hidden problem listed] at visible
    cases visible
  · rintro ⟨quiet, rfl⟩ problem listed
    exact quiet problem (by simpa [Scan.swallow] using listed)

theorem told_quiet (told : Told scan) : Quiet scan ↔ ∀ problem ∈ scan.met, problem ∈ scan.errors :=
  ⟨fun quiet problem listed => told.2 problem listed (quiet problem listed),
    fun reported problem listed => told.1 problem (reported problem listed)⟩

end Reports

section Scannings

variable {scanning : Scanning} {key other : SignalKey}

theorem postponed_consume (apart : other ≠ key) :
    (scanning.consume key).postponed other = scanning.postponed other := by
  have same : (scanning.consume key).deferred.get? other = scanning.deferred.get? other := by
    simp [Scanning.consume, apart]
  unfold Scanning.postponed
  rw [same]
  rfl

theorem postponed_act (delivery : Delivery) (apart : other ≠ key) :
    (Watcher.performAction key delivery scanning).postponed other = scanning.postponed other := by
  cases delivery with
  | done => exact postponed_consume apart
  | deferred code =>
      have same : (Watcher.performAction key (.deferred code) scanning).deferred.get? other =
        scanning.deferred.get? other := by
        simp [Watcher.performAction, apart]
      unfold Scanning.postponed
      rw [same]
      rfl

theorem built_later (code : ReasonCode) (previous : Option Deferred) (now : Int) :
    (buildDeferredRecord key code previous now).status = .manualRequired ∨
      ∃ later, (buildDeferredRecord key code previous now).retryAfterAt = some later ∧ now < later := by
  simp only [buildDeferredRecord]
  split
  · exact .inl rfl
  · refine .inr ⟨_, rfl, ?_⟩
    have power : (0 : Int) < 2 ^ ((previous.map Deferred.attempts).getD 0 + 1 - 1) := Int.pow_pos (by decide)
    simp only [deferBaseSeconds, deferMaxSeconds]
    generalize (2 : Int) ^ ((previous.map Deferred.attempts).getD 0 + 1 - 1) = factor at power ⊢
    omega

theorem deferred_postponed (code : ReasonCode) :
    (Watcher.performAction key (.deferred code) scanning).postponed key = true := by
  have made : (Watcher.performAction key (.deferred code) scanning).deferred.get? key =
      some (buildDeferredRecord key code (scanning.deferred.get? key) scanning.now) := by
    simp [Watcher.performAction]
  unfold Scanning.postponed
  rw [made]
  dsimp only
  rcases built_later code (scanning.deferred.get? key) scanning.now with manual | ⟨later, due, waits⟩
  · rw [manual]
    rfl
  · rw [due, Option.any_some]
    exact Bool.or_eq_true_iff.mpr (.inr (decide_eq_true waits))

theorem acted_seen (delivery : Delivery) : key ∈ (Watcher.performAction key delivery scanning).acted := by
  cases delivery <;> exact List.mem_append_right _ List.mem_cons_self

theorem booked_consume (booked : Booked scanning) : Booked (scanning.consume key) := by
  intro other acted
  by_cases same : other = key
  · subst same
    exact .inl ((mem_add _ _ _).mpr (.inl rfl))
  · rw [postponed_consume same]
    exact (booked other acted).imp_left fun seen => (mem_add _ _ _).mpr (.inr seen)

theorem booked_act (booked : Booked scanning) (delivery : Delivery) :
    Booked (Watcher.performAction key delivery scanning) := by
  intro other acted
  by_cases same : other = key
  · subst same
    cases delivery with
    | done => exact .inl ((mem_add _ _ _).mpr (.inl rfl))
    | deferred code => exact .inr (deferred_postponed code)
  · have before : other ∈ scanning.acted := by
      have listed : other ∈ scanning.acted ++ [key] := by
        cases delivery <;> exact acted
      exact (List.mem_append.mp listed).resolve_right fun new => same (List.mem_singleton.mp new)
    rw [postponed_act delivery same]
    refine (booked other before).imp_left fun seen => ?_
    cases delivery with
    | done => exact (mem_add _ _ _).mpr (.inr seen)
    | deferred code => exact seen

end Scannings

section Visits

variable {site : Site} {project : Project} {bound : Option Fields} {file : SignalFile} {signal : Fields}
    {scan next : Scan}
  {key : SignalKey}

inductive Course (site : Site) (project : Project) (bound : Option Fields) (file : SignalFile) (signal : Fields)
    (scanning : Scanning) : Scanning → Prop where
  | still : Course site project bound file signal scanning scanning
  | consumed (key : SignalKey) (named : eventKey project.root signal = some key) (fresh : key ∉ scanning.seen)
      (suppressed : Suppressed site bound file signal scanning key) :
      Course site project bound file signal scanning (scanning.consume key)
  | acted (key : SignalKey) (named : eventKey project.root signal = some key) (fresh : key ∉ scanning.seen)
      (eligible : Eligible site bound file signal scanning key) (delivery : Delivery) :
      Course site project bound file signal scanning (Watcher.performAction key delivery scanning)

-- A visit of a fresh signal raises nothing that its handlers let through.
structure Handles (site : Site) (project : Project) (bound : Option Fields) (file : SignalFile) (signal : Fields)
    (scanning : Scanning) (key : SignalKey) : Prop where
  observed : project.continuity.isSome = true → Confined Caught file.observed
  passable : Passable site bound file signal scanning key
  action : Eligible site bound file signal scanning key → Confined Caught (performAction site file signal)
  subject : Eligible site bound file signal scanning key → performAction site file signal ≠ .ok .done →
    ∃ subject, subjectFields signal = .ok subject

def Swallows (site : Site) (project : Project) (bound : Option Fields) (file : SignalFile) (signal : Fields)
    (scanning : Scanning) : Prop :=
  match eventKey project.root signal with
  | none => ¬ ∃ text, Json.item "event_id" signal = .str text
  | some key => key ∉ scanning.seen ∧ Due site bound file signal scanning key ∧ Unread file ∧
      continuationDeliveryGuard site file signal = .ok .unreadable

theorem finish_returns (delivery : Delivery) : (∃ next, finish key signal delivery scan = .ok next) ↔
    (delivery ≠ .done → ∃ subject, subjectFields signal = .ok subject) := by
  unfold finish
  cases delivery with
  | done => simp
  | deferred code => cases subjectFields signal <;> simp

theorem finish_ok {delivery : Delivery} (done : finish key signal delivery scan = .ok next) :
    next = { scan with scanning := Watcher.performAction key delivery scan.scanning } := by
  unfold finish at done
  cases delivery with
  | done =>
      cases done
      rfl
  | deferred code =>
      cases named : subjectFields signal with
      | error error => simp [named] at done
      | ok subject =>
          rw [named] at done
          cases done
          rfl

theorem act_returns (problem : Problem) : (∃ next, act site problem file signal key scan = .ok next) ↔
    Confined Caught (performAction site file signal) ∧
      (performAction site file signal ≠ .ok .done → ∃ subject, subjectFields signal = .ok subject) := by
  unfold act
  cases performed : performAction site file signal with
  | ok wakeup => cases wakeup <;> simp [finish_returns]
  | error error =>
      rw [confined_caught_error]
      by_cases caught : error.caught = true <;> simp [caught, finish_returns]

theorem act_ok {problem : Problem} (done : act site problem file signal key scan = .ok next) :
    ∃ delivery problems, (problems = [] ∨ problems = [problem]) ∧
      next = { scan.report problems with scanning := Watcher.performAction key delivery scan.scanning } := by
  have still : scan.report [] = scan := by simp [Scan.report]
  unfold act at done
  split at done
  · exact ⟨.done, [], .inl rfl, by rw [finish_ok done, still]⟩
  · exact ⟨_, [], .inl rfl, by rw [finish_ok done, still]⟩
  · split at done
    · exact ⟨_, [problem], .inr rfl, finish_ok done⟩
    · cases done

theorem observe_returns : (∃ problems, observeSignal project file = .ok problems) ↔
    (project.continuity.isSome = true → Confined Caught file.observed) := by
  unfold observeSignal
  split
  · rename_i present
    rw [noting_returns]
    simp [present]
  · rename_i absent
    simp [absent]

theorem judge_returns : (∃ verdict, judge site project bound file signal key scan.scanning = .ok verdict) ↔
    (key ∉ scan.scanning.seen → (project.continuity.isSome = true → Confined Caught file.observed) ∧
      Passable site bound file signal scan.scanning key) := by
  unfold judge
  by_cases seen : key ∈ scan.scanning.seen
  · simp [seen]
  · have passes : (∃ verdict, examine site bound file signal (scan.scanning.postponed key)
        (fun stage => ⟨project.root, some file.stem, stage⟩) scan.scanning.now = .ok verdict) ↔
        Passable site bound file signal scan.scanning key := examine_returns
    rw [← observe_returns, ← passes]
    simp only [seen, if_false, not_false_eq_true, true_imp_iff, bind_ok_iff, pure_ok, Except.ok.injEq]
    constructor
    · rintro ⟨_, observed, noted, verdict, done, _⟩
      exact ⟨⟨observed, noted⟩, verdict, done⟩
    · rintro ⟨⟨observed, noted⟩, verdict, done⟩
      exact ⟨_, observed, noted, verdict, done, rfl⟩

variable {verdict : Verdict}

theorem judge_cases (done : judge site project bound file signal key scan.scanning = .ok verdict) :
    key ∈ scan.scanning.seen ∧ verdict = {} ∨ key ∉ scan.scanning.seen ∧ ∃ examined observed,
      Examined site bound file signal scan.scanning key (fun stage => ⟨project.root, some file.stem, stage⟩) examined ∧
      examine site bound file signal (scan.scanning.postponed key)
        (fun stage => ⟨project.root, some file.stem, stage⟩) scan.scanning.now = .ok examined ∧
      (observed = [] ∨ observed = [⟨project.root, some file.stem, .observation⟩]) ∧
      verdict = { examined with reported := observed ++ examined.reported } := by
  unfold judge at done
  split at done
  · rename_i seen
    cases done
    exact .inl ⟨seen, rfl⟩
  · rename_i fresh
    obtain ⟨observed, noted, done⟩ := (bind_ok_iff _ _ _).mp done
    obtain ⟨examined, same, done⟩ := (bind_ok_iff _ _ _).mp done
    cases done
    refine .inr ⟨fresh, examined, observed, examine_examined same, same, ?_, rfl⟩
    unfold observeSignal at noted
    split at noted
    · exact noting_ok noted
    · cases noted
      exact .inl rfl

theorem Examined.stages {root : String} {stem : Option Text}
    (examined : Examined site bound file signal scan.scanning key (fun stage => ⟨root, stem, stage⟩) verdict) :
    (∀ problem ∈ verdict.reported, problem.stage.shown = true) ∧ ∀ problem ∈ verdict.swallowed,
    problem.stage.shown = false := by
  cases examined with
  | failed stage named =>
      refine ⟨fun problem listed => ?_, fun _ listed => absurd listed List.not_mem_nil⟩
      rw [List.mem_singleton.mp listed]
      simp only [List.mem_cons, List.not_mem_nil, or_false] at named
      rcases named with rfl | rfl | rfl <;> rfl
  | swallowed _ _ _ _ =>
      refine ⟨fun _ listed => absurd listed List.not_mem_nil, fun problem listed => ?_⟩
      rw [List.mem_singleton.mp listed]
      rfl
  | _ => exact ⟨fun _ listed => absurd listed List.not_mem_nil, fun _ listed => absurd listed List.not_mem_nil⟩

theorem Examined.swallows {problem : Stage → Problem}
    (done : examine site bound file signal (scan.scanning.postponed key) problem scan.scanning.now = .ok verdict)
    (examined : Examined site bound file signal scan.scanning key problem verdict) :
    verdict.swallowed = [] ↔ ¬ (Due site bound file signal scan.scanning key ∧ Unread file ∧
      continuationDeliveryGuard site file signal = .ok .unreadable) := by
  constructor
  · rintro nothing ⟨due, ⟨receipt, read, unread⟩, answer⟩
    rw [examine_due due] at done
    simp only [settleDelivery, read, bind_ok, unread, Bool.false_eq_true, if_false, answer, pure_ok,
      Except.ok.injEq] at done
    rw [← done] at nothing
    cases nothing
  · intro legible
    cases examined with
    | swallowed _ due unread answer => exact absurd ⟨due, unread, answer⟩ legible
    | _ => rfl

theorem visit_named (named : eventKey project.root signal = some key) :
    visitSignal site project bound file signal scan =
      judge site project bound file signal key scan.scanning >>= conclude site project file signal key scan := by
  simp only [visitSignal, named]

theorem visit_returns : (∃ next, visitSignal site project bound file signal scan = .ok next) ↔
    ∀ key, eventKey project.root signal = some key → key ∉ scan.scanning.seen →
      Handles site project bound file signal scan.scanning key := by
  cases named : eventKey project.root signal with
  | none =>
      simp only [visitSignal, named, reduceCtorEq, false_imp_iff, implies_true, iff_true]
      split <;> exact ⟨_, rfl⟩
  | some key =>
      rw [visit_named named]
      simp only [Option.some.injEq, forall_eq']
      constructor
      · rintro ⟨next, done⟩ fresh
        obtain ⟨verdict, judged, done⟩ := (bind_ok_iff _ _ _).mp done
        obtain ⟨observed, passable⟩ := judge_returns.mp ⟨verdict, judged⟩ fresh
        have acts : Eligible site bound file signal scan.scanning key → Confined Caught
          (performAction site file signal) ∧
            (performAction site file signal ≠ .ok .done → ∃ subject, subjectFields signal = .ok subject) := by
          intro eligible
          rcases judge_cases judged with ⟨seen, -⟩ | ⟨-, examined, noted, -, same, -, rfl⟩
          · exact absurd seen fresh
          · cases (examine_eligible eligible).symm.trans same
            exact (act_returns _).mp ⟨next, done⟩
        exact ⟨observed, passable, fun eligible => (acts eligible).1, fun eligible => (acts eligible).2⟩
      · intro handles
        have judges : ∃ verdict, judge site project bound file signal key scan.scanning = .ok verdict :=
          judge_returns.mpr fun fresh => ⟨(handles fresh).observed, (handles fresh).passable⟩
        obtain ⟨verdict, judged⟩ := judges
        rw [judged, bind_ok]
        rcases judge_cases judged with ⟨-, rfl⟩ | ⟨fresh, examined, noted, course, -, -, rfl⟩
        · exact ⟨_, rfl⟩
        · cases course with
          | acting eligible =>
              exact (act_returns _).mpr ⟨(handles fresh).action eligible, (handles fresh).subject eligible⟩
          | _ => exact ⟨_, rfl⟩

theorem visit_course (done : visitSignal site project bound file signal scan = .ok next) :
    Course site project bound file signal scan.scanning next.scanning := by
  cases named : eventKey project.root signal with
  | none =>
      simp only [visitSignal, named] at done
      split at done <;> cases done <;> exact .still
  | some key =>
      rw [visit_named named] at done
      obtain ⟨verdict, judged, done⟩ := (bind_ok_iff _ _ _).mp done
      rcases judge_cases judged with ⟨-, rfl⟩ | ⟨fresh, examined, noted, course, -, -, rfl⟩
      · cases done
        exact .still
      · cases course with
        | acting eligible =>
            obtain ⟨delivery, problems, -, rfl⟩ := act_ok done
            exact .acted key named fresh eligible delivery
        | consumed suppressed =>
            cases done
            exact .consumed key named fresh suppressed
        | swallowed suppressed _ _ _ =>
            cases done
            exact .consumed key named fresh suppressed
        | _ =>
            cases done
            exact .still

theorem visit_notes (done : visitSignal site project bound file signal scan = .ok next) :
    Notes scan next (¬ Swallows site project bound file signal scan.scanning) := by
  cases named : eventKey project.root signal with
  | none =>
      simp only [visitSignal, named] at done
      split at done
      · rename_i text id
        cases done
        refine (notes_report (fun problem listed => ?_)).of_iff ?_
        · rw [List.mem_singleton.mp listed]
          rfl
        · simp [Swallows, named, id]
      · rename_i other
        cases done
        refine (notes_swallow (fun problem listed => ?_)).of_iff ?_
        · rw [List.mem_singleton.mp listed]
          rfl
        · simp only [Swallows, named, List.cons_ne_nil, false_iff, not_not]
          exact fun ⟨text, id⟩ => other text id
  | some key =>
      rw [visit_named named] at done
      obtain ⟨verdict, judged, done⟩ := (bind_ok_iff _ _ _).mp done
      rcases judge_cases judged with ⟨seen, rfl⟩ | ⟨fresh, examined, observed, course, same, noted, rfl⟩
      · cases done
        refine ((notes_report (fun _ listed => absurd listed List.not_mem_nil)).trans
          (notes_swallow (fun _ listed => absurd listed List.not_mem_nil))).of_iff ?_
        simp [Swallows, named, seen]
      · have shown : ∀ problem ∈ observed ++ examined.reported, problem.stage.shown = true := by
          intro problem listed
          rcases List.mem_append.mp listed with early | late
          · rcases noted with rfl | rfl
            · cases early
            · rw [List.mem_singleton.mp early]
              rfl
          · exact course.stages.1 problem late
        have notes : Notes scan ((scan.report (observed ++ examined.reported)).swallow examined.swallowed)
            (¬ Swallows site project bound file signal scan.scanning) :=
          ((notes_report shown).trans (notes_swallow course.stages.2)).of_iff (by
            simp only [Swallows, named, true_and]
            rw [course.swallows same]
            simp [fresh])
        cases fate : examined.fate with
        | acting =>
            simp only [fate] at done
            obtain ⟨delivery, problems, listed, rfl⟩ := act_ok done
            have more : ∀ problem ∈ problems, problem.stage.shown = true := by
              intro problem member
              rcases listed with rfl | rfl
              · cases member
              · rw [List.mem_singleton.mp member]
                rfl
            have both := notes.trans (notes_report more)
            rw [and_true] at both
            exact ⟨both.told, both.quiet⟩
        | consumed =>
            simp only [fate] at done
            cases done
            exact ⟨notes.told, notes.quiet⟩
        | passed =>
            simp only [fate] at done
            cases done
            exact notes

theorem visit_eligible (done : visitSignal site project bound file signal scan = .ok next)
    (named : eventKey project.root signal = some key) (fresh : key ∉ scan.scanning.seen)
    (eligible : Eligible site bound file signal scan.scanning key) : key ∈ next.scanning.acted := by
  rw [visit_named named] at done
  obtain ⟨verdict, judged, done⟩ := (bind_ok_iff _ _ _).mp done
  rcases judge_cases judged with ⟨seen, -⟩ | ⟨-, examined, noted, -, same, -, rfl⟩
  · exact absurd seen fresh
  · cases (examine_eligible eligible).symm.trans same
    obtain ⟨delivery, problems, -, rfl⟩ := act_ok done
    exact acted_seen delivery

theorem visit_suppressed (done : visitSignal site project bound file signal scan = .ok next)
    (named : eventKey project.root signal = some key) (fresh : key ∉ scan.scanning.seen)
    (suppressed : Suppressed site bound file signal scan.scanning key) :
    key ∈ next.scanning.seen ∧ next.scanning.acted = scan.scanning.acted := by
  rw [visit_named named] at done
  obtain ⟨verdict, judged, done⟩ := (bind_ok_iff _ _ _).mp done
  rcases judge_cases judged with ⟨seen, -⟩ | ⟨-, examined, noted, -, same, -, rfl⟩
  · exact absurd seen fresh
  · have examines : ∃ verdict, examine site bound file signal (scan.scanning.postponed key)
        (fun stage => ⟨project.root, some file.stem, stage⟩) scan.scanning.now = .ok verdict ∧
        verdict.fate = .consumed :=
      examine_suppressed suppressed
    obtain ⟨verdict, other, fate⟩ := examines
    cases other.symm.trans same
    simp only [fate] at done
    cases done
    exact ⟨(mem_add _ _ _).mpr (.inl rfl), rfl⟩

end Visits

end OrchestratorEngine.Watcher.Faults
