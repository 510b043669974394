import OrchestratorEngine.ResourceQueue.Skips

set_option autoImplicit false

namespace OrchestratorEngine.ResourceQueue

open Foundation WorkerLease

def Request.Lists (request : Request) (id : Id) : Prop := ∃ subscriber ∈ request.subscribers, subscriber.id = id

structure Subscribed (ledger : Ledger) : Prop where
  known : ∀ row ∈ ledger.history, row.request ∈ ledger.requests.map Request.id
  single : ∀ request subscriber, (ledger.activeHistory request subscriber).length ≤ 1
  active : ∀ request ∈ ledger.requests, ∀ id, request.Lists id ↔ ledger.activeHistory request.id id ≠ []

-- The outbox never repeats an identifier, and a final notice tells the outcome
-- that the stages of its request have now.
structure Published (ledger : Ledger) : Prop where
  known : ∀ notice ∈ ledger.outbox, notice.request ∈ ledger.requests.map Request.id
  ids : (ledger.outbox.map Notice.id).Nodup
  named : ∀ notice ∈ ledger.outbox,
    notice.id = ⟨notice.request, notice.subscriber.id, notice.generation, notice.outcomeId⟩ ∧
      notice.status = notice.outcomeId.1
  settled : ∀ notice ∈ ledger.outbox, notice.status ≠ .actionRequired →
    (∀ stage ∈ ledger.stagesOf notice.request, stage.state ∈ terminalStates) ∧
      notice.outcomeId = outcomeId (ledger.stagesOf notice.request)

def Told (ledger : Ledger) (request : Request) : Prop :=
  (∀ stage ∈ ledger.stagesOf request.id, stage.state ∈ terminalStates) → ∀ subscriber ∈ request.subscribers,
    ∀ row ∈ ledger.activeHistory request.id subscriber.id, ∃ notice ∈ ledger.outbox,
      notice.id = ⟨request.id, subscriber.id, row.generation, outcomeId (ledger.stagesOf request.id)⟩

variable {before after : Ledger}

theorem stages_of_same (stages : after.stages = before.stages) (request : Id) :
    after.stagesOf request = before.stagesOf request := by
  rw [Ledger.stagesOf, stages, Ledger.stagesOf]

theorem active_same (history : after.history = before.history) (request subscriber : Id) :
    after.activeHistory request subscriber = before.activeHistory request subscriber := by
  rw [Ledger.activeHistory, history, Ledger.activeHistory]

variable (ledger : Ledger)

variable (notice : Notice)

theorem insert_notice_cases :
    (∃ old ∈ ledger.outbox, old.id = notice.id) ∧ ledger.insertNotice notice = ledger ∨
      notice.id ∉ ledger.outbox.map Notice.id ∧
        ledger.insertNotice notice = { ledger with outbox := ledger.outbox ++ [notice] } := by
  unfold Ledger.insertNotice
  by_cases present : ledger.outbox.any (fun old => decide (old.id = notice.id)) = true
  · rw [if_pos present]
    obtain ⟨old, stored, same⟩ := List.any_eq_true.mp present
    exact .inl ⟨⟨old, stored, of_decide_eq_true same⟩, rfl⟩
  · rw [if_neg present]
    refine .inr ⟨fun inside => present ?_, rfl⟩
    obtain ⟨old, stored, same⟩ := List.mem_map.mp inside
    exact List.any_eq_true.mpr ⟨old, stored, decide_eq_true same⟩

theorem insert_notice_history :
    (ledger.insertNotice notice).history = ledger.history := by
  unfold Ledger.insertNotice
  split <;> rfl

theorem insert_notice_told :
    ledger.outbox <+: (ledger.insertNotice notice).outbox ∧
      ∃ told ∈ (ledger.insertNotice notice).outbox, told.id = notice.id := by
  rcases insert_notice_cases ledger notice with ⟨⟨old, stored, same⟩, kept⟩ | ⟨_, added⟩
  · rw [kept]
    exact ⟨List.prefix_refl _, old, stored, same⟩
  · rw [added]
    exact ⟨List.prefix_append _ _, notice, by simp, rfl⟩

theorem insert_notice_published (published : Published ledger)
    (known : notice.request ∈ ledger.requests.map Request.id)
    (named : notice.id = ⟨notice.request, notice.subscriber.id, notice.generation, notice.outcomeId⟩)
    (status : notice.status = notice.outcomeId.1)
    (settled : notice.status ≠ .actionRequired →
      (∀ stage ∈ ledger.stagesOf notice.request, stage.state ∈ terminalStates) ∧
        notice.outcomeId = outcomeId (ledger.stagesOf notice.request)) : Published (ledger.insertNotice notice) := by
  rcases insert_notice_cases ledger notice with ⟨_, kept⟩ | ⟨fresh, added⟩
  · exact kept.symm ▸ published
  · rw [added]
    refine ⟨fun other inside => ?_, ?_, fun other inside => ?_, fun other inside final => ?_⟩
    · rcases List.mem_append.mp inside with old | new
      · exact published.known other old
      · exact List.mem_singleton.mp new ▸ known
    · rw [List.map_append]
      refine List.nodup_append.mpr ⟨published.ids, List.nodup_singleton _, ?_⟩
      intro id old other last same
      rw [List.map_singleton, List.mem_singleton] at last
      exact fresh (last ▸ same ▸ old)
    · rcases List.mem_append.mp inside with old | new
      · exact published.named other old
      · rw [List.mem_singleton.mp new]
        exact ⟨named, status⟩
    · rcases List.mem_append.mp inside with old | new
      · exact published.settled other old final
      · rw [List.mem_singleton.mp new] at final ⊢
        exact settled final

theorem newest_single (row : History) : Ledger.newestHistory [row] = some row := by
  simp [Ledger.newestHistory]

theorem single_active (request subscriber : Id)
    (single : (ledger.activeHistory request subscriber).length ≤ 1)
    (some_ : ledger.activeHistory request subscriber ≠ []) :
    ∃ row, ledger.activeHistory request subscriber = [row] := by
  match found : ledger.activeHistory request subscriber with
  | [] => exact absurd found some_
  | [row] => exact ⟨row, rfl⟩
  | _ :: _ :: _ => simp [found] at single

def noticeFor (request : Request) (stages : List Stage) (subscriber : Subscriber) (generation : Nat) : Notice where
  id := ⟨request.id, subscriber.id, generation, outcomeId stages⟩
  request := request.id
  project := request.project
  external := request.external
  status := outcomeStatus stages
  outcomeId := outcomeId stages
  subscriber := subscriber
  generation := generation
  stages := stages.map Stage.shown

variable (request : Request)

variable (stages : List Stage)

theorem notify_active (ledger : Ledger) (subscriber : Subscriber)
    (row : History) (found : ledger.activeHistory request.id subscriber.id = [row]) :
    Ledger.notify request stages ledger subscriber =
      ledger.insertNotice (noticeFor request stages subscriber row.generation) := by
  simp only [Ledger.notify, found, newest_single, reduceCtorEq, if_false]
  rfl

theorem final_status (report : reportable stages = true)
    (final : outcomeStatus stages ≠ .actionRequired) : ∀ stage ∈ stages, stage.state ∈ terminalStates := by
  have calm : stages.any (fun stage => decide (stage.state = .recoveryRequired)) = false := by
    rw [Bool.eq_false_iff]
    intro recovering
    exact final (if_pos recovering)
  rw [reportable, calm, Bool.false_or, List.all_eq_true] at report
  exact fun stage inside => of_decide_eq_true (report stage inside)

theorem notify_all (ledger : Ledger) (published : Published ledger)
    (known : request.id ∈ ledger.requests.map Request.id)
    (report : reportable (ledger.stagesOf request.id) = true) (subscribers : List Subscriber)
    (active : ∀ subscriber ∈ subscribers, ∃ row, ledger.activeHistory request.id subscriber.id = [row]) :
    Published (subscribers.foldl (Ledger.notify request (ledger.stagesOf request.id)) ledger) ∧
      (subscribers.foldl (Ledger.notify request (ledger.stagesOf request.id)) ledger).history = ledger.history ∧
      ledger.outbox <+: (subscribers.foldl (Ledger.notify request (ledger.stagesOf request.id)) ledger).outbox ∧
      ∀ subscriber ∈ subscribers, ∀ row ∈ ledger.activeHistory request.id subscriber.id,
        ∃ notice ∈ (subscribers.foldl (Ledger.notify request (ledger.stagesOf request.id)) ledger).outbox,
          notice.id = ⟨request.id, subscriber.id, row.generation, outcomeId (ledger.stagesOf request.id)⟩ := by
  generalize stages_ : ledger.stagesOf request.id = stages at report ⊢
  induction subscribers generalizing ledger with
  | nil => exact ⟨published, rfl, List.prefix_refl _, by simp⟩
  | cons subscriber rest ih =>
      obtain ⟨row, found⟩ := active subscriber (by simp)
      rw [List.foldl_cons, notify_active request stages ledger subscriber row found]
      have next : Published (ledger.insertNotice (noticeFor request stages subscriber row.generation)) := by
        refine insert_notice_published ledger _ published known rfl rfl fun final => ⟨?_, ?_⟩
        · change ∀ stage ∈ ledger.stagesOf request.id, stage.state ∈ terminalStates
          rw [stages_]
          exact final_status stages report final
        · change outcomeId stages = outcomeId (ledger.stagesOf request.id)
          rw [stages_]
      have history := insert_notice_history ledger (noticeFor request stages subscriber row.generation)
      have stands := insert_notice_stands ledger (noticeFor request stages subscriber row.generation)
      obtain ⟨grown, told, stored, same⟩ := insert_notice_told ledger
        (noticeFor request stages subscriber row.generation)
      generalize ledger.insertNotice (noticeFor request stages subscriber row.generation) = middle
        at next history stands grown stored ⊢
      have rows := active_same history
      have sameStages : middle.stagesOf request.id = stages := (stages_of_same stands.stages request.id).trans stages_
      obtain ⟨last, lastHistory, lastGrown, lastTold⟩ := ih middle next (stands.requests ▸ known)
        (fun other inside => by rw [rows]; exact active other (by simp [inside])) sameStages
      refine ⟨last, lastHistory.trans history, grown.trans lastGrown, fun other inside generation listed => ?_⟩
      rcases List.mem_cons.mp inside with rfl | later
      · rw [found, List.mem_singleton] at listed
        exact ⟨told, lastGrown.subset stored, listed ▸ same⟩
      · exact lastTold other later generation (rows _ _ ▸ listed)

-- The invariant of the notices. The told requests may leave out some that are
-- about to be reported.
structure Notified (except : List Id) (ledger : Ledger) : Prop where
  published : Published ledger
  subscribed : Subscribed ledger
  staffed : ∀ request ∈ ledger.requests, ledger.stagesOf request.id ≠ []
  told : ∀ request ∈ ledger.requests, request.id ∉ except → Told ledger request

theorem subscribed_same (history : after.history = before.history)
    (requests : after.requests = before.requests) (subscribed : Subscribed before) : Subscribed after := by
  have rows := active_same history
  refine ⟨?_, fun request subscriber => ?_, fun request listed id => ?_⟩
  · rw [history, requests]
    exact subscribed.known
  · rw [rows]
    exact subscribed.single request subscriber
  · rw [rows]
    exact subscribed.active request (requests ▸ listed) id

theorem told_grown (history : after.history = before.history)
    (stages : after.stages = before.stages) (grown : before.outbox <+: after.outbox) (request : Request)
    (told : Told before request) : Told after request := by
  intro final subscriber listed row active
  rw [stages_of_same stages] at final ⊢
  rw [active_same history] at active
  obtain ⟨notice, stored, same⟩ := told final subscriber listed row active
  exact ⟨notice, grown.subset stored, same⟩

theorem outcomes_of_notified (ledger after : Ledger) (id : Id) (rest : List Id)
    (notified : Notified (id :: rest) ledger)
    (unique : (ledger.requests.map Request.id).Nodup) (done : ledger.outcomesOf id = .ok after) :
    Notified rest after ∧ after.history = ledger.history ∧ ledger.outbox <+: after.outbox := by
  have stands := outcomes_of_stands ledger after id done
  have others : ∀ request ∈ ledger.requests, request.id ≠ id → request.id ∉ rest → Told ledger request :=
    fun request listed different outside => notified.told request listed (by simp [different, outside])
  unfold Ledger.outcomesOf at done
  by_cases report : reportable (ledger.stagesOf id) = true
  · rw [report] at done
    obtain ⟨request, found, done⟩ := (bind_ok_iff _ _ _).mp done
    obtain ⟨member, rfl⟩ := request_ok ledger id request found
    cases done
    obtain ⟨published, history, grown, told⟩ := notify_all request ledger notified.published
      (List.mem_map_of_mem member) report request.subscribers
      (fun subscriber inside => single_active ledger request.id subscriber.id
        (notified.subscribed.single request.id subscriber.id)
        ((notified.subscribed.active request member subscriber.id).mp ⟨subscriber, inside, rfl⟩))
    refine ⟨⟨published, subscribed_same history stands.requests notified.subscribed, fun other listed => ?_,
      fun other listed outside => ?_⟩, history, grown⟩
    · rw [stages_of_same stands.stages]
      exact notified.staffed other (stands.requests ▸ listed)
    rw [stands.requests] at listed
    by_cases same : other.id = request.id
    · cases row_unique Request.id ledger.requests unique other request listed member same
      intro _ subscriber inside row active
      rw [active_same history] at active
      rw [stages_of_same stands.stages]
      exact told subscriber inside row active
    · exact told_grown history stands.stages grown other (others other listed same outside)
  · rw [Bool.not_eq_true] at report
    rw [report] at done
    cases done
    refine ⟨⟨notified.published, notified.subscribed, notified.staffed, fun other listed outside => ?_⟩, rfl,
      List.prefix_refl _⟩
    by_cases same : other.id = id
    · intro final
      have all : (ledger.stagesOf id).all Stage.terminal = true :=
        List.all_eq_true.mpr fun stage inside => decide_eq_true (final stage (same.symm ▸ inside))
      simp [reportable, all] at report
    · exact others other listed same outside

theorem outcomes_notified (ids : List Id) (ledger after : Ledger) (notified : Notified ids ledger)
    (unique : (ledger.requests.map Request.id).Nodup) (done : ledger.outcomes ids = .ok after) :
    Notified [] after ∧ ledger.outbox <+: after.outbox := by
  induction ids generalizing ledger with
  | nil =>
      cases done
      exact ⟨notified, List.prefix_refl _⟩
  | cons id rest ih =>
      rw [Ledger.outcomes, List.foldlM_cons, bind_ok_iff] at done
      obtain ⟨middle, first, later⟩ := done
      obtain ⟨next, _, grown⟩ := outcomes_of_notified ledger middle id rest notified unique first
      obtain ⟨last, more⟩ := ih middle next
        (by rw [(outcomes_of_stands ledger middle id first).requests]; exact unique) later
      exact ⟨last, grown.trans more⟩

-- A call that moves stages and then reports: nothing else in the tables changed
-- before the report.
def Reports (before : Ledger) (ids : List Id) (after : Ledger) : Prop :=
  ∃ middle, Frame before middle ∧ middle.outcomes ids = .ok after

theorem final_unmoved (before after : Ledger) (call : Call)
    (moves : List.Forall₂ (Moves call) before.stages after.stages)
    (request : Id) (final : ∀ stage ∈ before.stagesOf request, stage.state ∈ terminalStates) :
    (∀ stage ∈ after.stagesOf request, stage.state ∈ terminalStates) ∧
      outcomeId (after.stagesOf request) = outcomeId (before.stagesOf request) := by
  have related : List.Forall₂ (fun old new => new.id = old.id ∧ new.core = old.core)
      (before.stagesOf request) (after.stagesOf request) := by
    unfold Ledger.stagesOf at final ⊢
    generalize before.stages = olds at moves final
    generalize after.stages = news at moves
    induction moves with
    | nil => exact .nil
    | cons head _ ih =>
        rename_i old new _ _ _
        have request' : new.request = old.request := congrArg Fixed.request head.1
        by_cases inside : old.request = request
        · have same := move_terminal old new call head (final old (by simp [inside]))
          simp only [List.filter_cons, request', inside, decide_true, if_true]
          exact .cons ⟨fixed_id _ _ head.1, same⟩ (ih fun stage listed => final stage (List.mem_filter.mpr
            ⟨List.mem_cons_of_mem _ (List.mem_filter.mp listed).1, (List.mem_filter.mp listed).2⟩))
        · simp only [List.filter_cons, request', inside, decide_false, Bool.false_eq_true, if_false]
          exact ih fun stage listed => final stage (List.mem_filter.mpr
            ⟨List.mem_cons_of_mem _ (List.mem_filter.mp listed).1, (List.mem_filter.mp listed).2⟩)
  have states : List.map Stage.state (after.stagesOf request) = List.map Stage.state (before.stagesOf request) :=
    forall₂_keys Stage.state _ _ _ (fun _ _ both => core_state _ _ both.2) related
  refine ⟨fun stage listed => ?_, ?_⟩
  · obtain ⟨old, stored, _, core⟩ := forall₂_mem_right _ _ _ related stage listed
    rw [core_state _ _ core]
    exact final old stored
  · generalize before.stagesOf request = olds at related states
    generalize after.stagesOf request = news at related states
    have status : outcomeStatus news = outcomeStatus olds := by
      have any : ∀ (test : State → Bool) (rows : List Stage), rows.any (fun stage => test stage.state) =
          (rows.map Stage.state).any test := fun test rows => by rw [List.any_map]; rfl
      have all : ∀ (test : State → Bool) (rows : List Stage), rows.all (fun stage => test stage.state) =
          (rows.map Stage.state).all test := fun test rows => by rw [List.all_map]; rfl
      unfold outcomeStatus
      rw [any (fun state => decide (state = .recoveryRequired)), any (fun state => decide (state = .recoveryRequired)),
        all (fun state => decide (state ∈ [State.cancelled, .skipped])),
        all (fun state => decide (state ∈ [State.cancelled, .skipped])),
        all (fun state => decide (state = .passed)), all (fun state => decide (state = .passed)), states]
    have incidents : (news.filter (fun stage => decide (stage.state = .recoveryRequired))).map
          (fun stage => (stage.id, stage.epoch)) =
        (olds.filter (fun stage => decide (stage.state = .recoveryRequired))).map
          (fun stage => (stage.id, stage.epoch)) := by
      clear status states
      induction related with
      | nil => rfl
      | cons head _ ih =>
          rename_i old new _ _ _
          have state := core_state _ _ head.2
          have epoch : new.epoch = old.epoch := congrArg Core.epoch head.2
          by_cases recovering : old.state = .recoveryRequired
          · simp [state, recovering, ih, head.1, epoch]
          · simp [state, recovering, ih]
    rw [outcomeId, outcomeId, status, incidents]

-- The requests that a call reports on include every request one of whose stages
-- it brings to an end.
def Due (before : Ledger) (call : Call) (ids : List Id) : Prop :=
  ∀ stage ∈ before.stages, ∀ row, Moves call stage row → stage.state ∉ terminalStates → row.state ∈ terminalStates →
    stage.request ∈ ids

theorem moved_notified (before after : Ledger) (call : Call) (ids : List Id)
    (unique : (before.requests.map Request.id).Nodup) (notified : Notified [] before)
    (reports : Reports before ids after)
    (moves : List.Forall₂ (Moves call) before.stages after.stages) (due : Due before call ids) :
    Notified [] after ∧ before.outbox <+: after.outbox := by
  obtain ⟨middle, frame, delivered⟩ := reports
  rw [(outcomes_stands middle after ids delivered).stages] at moves
  have unmoved := final_unmoved before middle call moves
  have start : Notified ids middle := by
    refine ⟨⟨?_, ?_, ?_, fun notice stored final => ?_⟩,
      subscribed_same frame.history frame.requests notified.subscribed, fun request inside => ?_,
      fun request inside outside final subscriber listed row active => ?_⟩
    · rw [frame.outbox, frame.requests]
      exact notified.published.known
    · rw [frame.outbox]
      exact notified.published.ids
    · rw [frame.outbox]
      exact notified.published.named
    · obtain ⟨ended, same⟩ := notified.published.settled notice (frame.outbox ▸ stored) final
      obtain ⟨still, unchanged⟩ := unmoved notice.request ended
      exact ⟨still, same.trans unchanged.symm⟩
    · obtain ⟨stage, kept⟩ := List.exists_mem_of_ne_nil _ (notified.staffed request (frame.requests ▸ inside))
      obtain ⟨stored, same⟩ := List.mem_filter.mp kept
      obtain ⟨row, present, move⟩ := forall₂_mem_left _ _ _ moves stage stored
      have request' : row.request = stage.request := congrArg Fixed.request move.1
      refine List.ne_nil_of_mem (List.mem_filter.mpr ⟨present, ?_⟩)
      rwa [request']
    · rw [frame.requests] at inside
      have ended : ∀ stage ∈ before.stagesOf request.id, stage.state ∈ terminalStates := by
        intro stage kept
        by_contra open_
        obtain ⟨stored, same⟩ := List.mem_filter.mp kept
        obtain ⟨new, present, move⟩ := forall₂_mem_left _ _ _ moves stage stored
        have request' : new.request = stage.request := congrArg Fixed.request move.1
        have done := final new (List.mem_filter.mpr ⟨present, by rwa [request']⟩)
        exact outside ((of_decide_eq_true same : stage.request = request.id) ▸ due stage stored new move open_ done)
      rw [active_same frame.history] at active
      rw [(unmoved request.id ended).2, frame.outbox]
      exact notified.told request inside (by simp) ended subscriber listed row active
  obtain ⟨last, grown⟩ := outcomes_notified ids middle after start (frame.requests ▸ unique) delivered
  exact ⟨last, frame.outbox ▸ grown⟩

theorem reports_nothing (frame : Frame before after) : Reports before [] after :=
  ⟨after, frame, rfl⟩

variable (host : Host)

variable (id : Id)

variable (epoch : Nat)

theorem attach_reports (identity : Option Identity) (before after : Ledger)
    (done : before.attach host id epoch identity = .ok after) : Reports before [] after := by
  simp only [Ledger.attach, bind_ok_iff, refuse_ok_iff, exists_const, pure_ok, Except.ok.injEq] at done
  obtain ⟨stage, _, _, rfl⟩ := done
  exact reports_nothing (save_saves host before _).frame

theorem annotate_reports (fields : Dict Name String) (before after : Ledger)
    (done : before.annotate host id epoch fields = .ok after) : Reports before [] after := by
  simp only [Ledger.annotate, bind_ok_iff, refuse_ok_iff, exists_const, pure_ok, Except.ok.injEq] at done
  obtain ⟨stage, _, _, _, rfl⟩ := done
  exact reports_nothing (save_saves host before _).frame

theorem admit_reports (token : Token) (before after : Ledger) (admitted : Stage)
    (done : before.admitStage host id token = .ok (after, admitted)) : Reports before [] after := by
  simp only [Ledger.admitStage, bind_ok_iff, refuse_ok_iff, exists_const, pure_ok, Except.ok.injEq] at done
  obtain ⟨stage, _, _, _, _, _, result⟩ := done
  have saves := (save_saves host (before.now host).1
    { stage with state := .running, startedAt := some (before.now host).2 }).after_now host
  rw [result] at saves
  exact reports_nothing saves.frame

theorem cancel_reports (before after : Ledger) (done : before.cancel host id = .ok after) :
    Reports before [id] after := by
  simp only [Ledger.cancel, bind_ok_iff] at done
  obtain ⟨_, _, delivered⟩ := done
  have frames : ∀ (stages : List Stage) (ledger : Ledger),
    Frame ledger (stages.foldl (Ledger.cancelStage host) ledger) := by
    intro stages
    induction stages with
    | nil => exact Frame.refl
    | cons stage rest ih =>
        intro ledger
        obtain ⟨_, _, saves, _, _⟩ := cancel_stage_saves host ledger stage
        exact saves.frame.trans (ih _)
  exact ⟨_, frames _ before, delivered⟩

theorem complete_reports (outcome : State) (released : List Name)
    (evidence : Evidence) (before after : Ledger)
    (done : before.complete host id epoch outcome released evidence = .ok after) :
    ∃ stage ∈ before.stages, stage.id = id ∧ Reports before [stage.request] after := by
  simp only [Ledger.complete, bind_ok_iff, refuse_ok_iff, exists_const] at done
  obtain ⟨stage, found, _, _, _, _, _, _, _, delivered⟩ := done
  obtain ⟨stored, same⟩ := stage_ok before id stage found
  have saves := (save_saves host (before.now host).1
    (stage.finish outcome released evidence (before.now host).2)).after_now host
  refine ⟨stage, stored, same, _, ?_, delivered⟩
  exact ⟨saves.frame.registry, saves.frame.requests, saves.frame.history, saves.frame.outbox, saves.frame.sequence,
    saves.frame.draws⟩

theorem abort_reports (token : Option Token) (identity : Option Identity)
    (before after : Ledger) (released : Bool)
    (done : before.abortUnadmitted host id epoch token identity = .ok (after, released)) :
    after = before ∨ ∃ stage ∈ before.stages, stage.id = id ∧ Reports before [stage.request] after := by
  obtain ⟨stage, _, rest⟩ := (bind_ok_iff _ _ _).mp done
  split at rest
  · cases rest
    exact .inl rfl
  · split at rest
    · split at rest
      · cases rest
        exact .inl rfl
      · obtain ⟨authentic, _, rest⟩ := (bind_ok_iff _ _ _).mp rest
        split at rest
        · cases rest
          exact .inl rfl
        · obtain ⟨next, completed, rest⟩ := (bind_ok_iff _ _ _).mp rest
          cases rest
          exact .inr (complete_reports host id epoch _ _ _ before _ completed)
    · split at rest
      · cases rest
        exact .inl rfl
      · obtain ⟨next, completed, rest⟩ := (bind_ok_iff _ _ _).mp rest
        cases rest
        exact .inr (complete_reports host id epoch _ _ _ before _ completed)

theorem due_nothing (before : Ledger) (call : Call)
    (other : ∀ stage row, Moves call stage row → stage.state ∉ terminalStates → row.state ∉ terminalStates) :
    Due before call [] :=
  fun stage _ row moves open_ ended => absurd ended (other stage row moves open_)

theorem due_completion (before : Ledger) (call : Call) (stage : Stage) (unique : (stageIds before).Nodup)
    (stored : stage ∈ before.stages) (own : ∀ other core, Move other call core → core = other.core ∨
    other.id = stage.id) :
    Due before call [stage.request] := by
  intro other listed row moves open_ ended
  rcases own other row.core moves.2 with same | match_
  · rw [core_state _ _ same] at ended
    exact absurd ended open_
  · rw [row_unique Stage.id before.stages unique other stage listed stored match_]
    exact List.mem_singleton_self _

theorem due_schedule (before : Ledger) (unavailable : List Name) :
    Due before (.schedule unavailable) ((before.activeStages.map (fun stage => stage.request)).dedup) := by
  intro stage listed row _ open_ _
  refine List.mem_dedup.mpr (List.mem_map.mpr ⟨stage, List.mem_filter.mpr ⟨listed, ?_⟩, rfl⟩)
  simpa [Stage.terminal] using open_

theorem due_cancel (before : Ledger) (request : Id) : Due before (.cancel request) [request] := by
  rintro stage _ row ⟨_, move⟩ open_ ended
  generalize same : row.core = core at move
  have state : row.state = core.state := congrArg Core.state same
  rw [state] at ended
  cases move with
  | stay => exact absurd ended open_
  | withdraw => exact List.mem_singleton_self _
  | revoke => exact List.mem_singleton_self _
  | complete _ _ _ _ completes => cases completes

theorem newest_some (rows : List History) (nonempty : rows ≠ []) : ∃ row, Ledger.newestHistory rows = some row := by
  have greatest : ∃ row ∈ rows, ∀ other ∈ rows, other.generation ≤ row.generation := by
    induction rows with
    | nil => exact absurd rfl nonempty
    | cons row rest ih =>
        by_cases last : rest = []
        · exact ⟨row, by simp, by simp [last]⟩
        · obtain ⟨best, inside, above⟩ := ih last
          by_cases less : row.generation ≤ best.generation
          · exact ⟨best, by simp [inside], by simpa [less] using above⟩
          · refine ⟨row, by simp, fun other listed => ?_⟩
            rcases List.mem_cons.mp listed with rfl | later
            · exact Nat.le_refl _
            · have bound := above other later
              omega
  obtain ⟨best, inside, above⟩ := greatest
  refine Option.isSome_iff_exists.mp (List.find?_isSome.mpr ⟨best, inside, ?_⟩)
  exact List.all_eq_true.mpr fun other listed => decide_eq_true (above other listed)

theorem adopt_idle (subscribed : Subscribed ledger) (request : Request)
    (stored : request ∈ ledger.requests) (subscriber : Id) (current : Option Subscriber)
    (lists : current.isSome = true → request.Lists subscriber) :
    (ledger.adopt request.id subscriber current).1 = ledger := by
  unfold Ledger.adopt
  split
  · rename_i newest
    have active := (subscribed.active request stored subscriber).mp (lists rfl)
    obtain ⟨row, kept⟩ := List.exists_mem_of_ne_nil _ active
    obtain ⟨inside, matches_⟩ := List.mem_filter.mp kept
    simp only [Bool.and_eq_true] at matches_
    obtain ⟨best, found⟩ := newest_some (ledger.historyOf request.id subscriber)
      (List.ne_nil_of_mem (List.mem_filter.mpr ⟨inside, by simpa using matches_.1⟩))
    cases newest.symm.trans found
  · rfl

theorem retire_active (request subscriber other id : Id) :
    (ledger.retire request subscriber).activeHistory other id =
      if other = request ∧ id = subscriber then [] else ledger.activeHistory other id := by
  unfold Ledger.retire Ledger.activeHistory
  induction ledger.history with
  | nil => simp
  | cons row rest ih =>
      by_cases same : other = request ∧ id = subscriber
      · obtain ⟨rfl, rfl⟩ := same
        simp only [and_self, if_true] at ih ⊢
        by_cases here : row.request = other ∧ row.subscriber = id
        · simp [here, ih]
        · have skipped : ¬ (decide (row.request = other) && decide (row.subscriber = id) && row.active) = true := by
            simp only [Bool.and_eq_true, decide_eq_true_eq]
            exact fun all => here all.1
          simp only [List.map_cons, here, if_false, List.filter_cons, skipped]
          exact ih
      · rw [if_neg same] at ih ⊢
        by_cases here : row.request = request ∧ row.subscriber = subscriber
        · have skipped : ¬ (decide (row.request = other) && decide (row.subscriber = id)) = true := by
            simp only [Bool.and_eq_true, decide_eq_true_eq]
            exact fun both => same ⟨both.1.symm.trans here.1, both.2.symm.trans here.2⟩
          simp only [Bool.not_eq_true] at skipped
          simp only [List.map_cons, here, and_self, if_true, List.filter_cons, Bool.and_false, Bool.false_eq_true,
            if_false]
          rw [← here.1, ← here.2] at ih ⊢
          simp only [skipped, Bool.false_and, Bool.false_eq_true, if_false]
          exact ih
        · simp only [List.map_cons, here, if_false, List.filter_cons]
          rw [ih]

-- What a change of subscription does before it reports: one request lists other
-- subscribers, and only the rows of the one subscriber changed.
structure Resubscribed (before : Ledger) (request : Request) (id : Id) (changed : Request) (after : Ledger) : Prop where
  stages : after.stages = before.stages
  outbox : after.outbox = before.outbox
  requests : after.requests = put Request.id changed before.requests
  key : changed.id = request.id
  known : ∀ row ∈ after.history, row.request ∈ before.requests.map Request.id
  others : ∀ other subscriber, ¬ (other = request.id ∧ subscriber = id) →
    after.activeHistory other subscriber = before.activeHistory other subscriber
  single : (after.activeHistory request.id id).length ≤ 1
  lists : ∀ subscriber, subscriber ≠ id → (changed.Lists subscriber ↔ request.Lists subscriber)
  active : changed.Lists id ↔ after.activeHistory request.id id ≠ []

theorem resubscribed_ids (before after : Ledger) (request changed : Request) (id : Id)
    (stored : request ∈ before.requests) (resubscribed : Resubscribed before request id changed after) :
    after.requests.map Request.id = before.requests.map Request.id := by
  rw [resubscribed.requests]
  exact put_keys Request.id changed before.requests (resubscribed.key ▸ List.mem_map_of_mem stored)

theorem resubscribed_notified (before after : Ledger) (request changed : Request) (id : Id)
    (stored : request ∈ before.requests) (notified : Notified [] before)
    (resubscribed : Resubscribed before request id changed after) : Notified [request.id] after := by
  have ids := resubscribed_ids before after request changed id stored resubscribed
  have cases_ : ∀ other ∈ after.requests, other = changed ∨ other ∈ before.requests ∧ other.id ≠ request.id := by
    intro other inside
    rw [resubscribed.requests, mem_put, resubscribed.key] at inside
    exact inside
  refine ⟨⟨?_, ?_, ?_, fun notice inside final => ?_⟩,
    ⟨?_, fun other subscriber => ?_, fun other inside subscriber => ?_⟩,
    fun other inside => ?_, fun other inside outside final subscriber listed row active => ?_⟩
  · rw [resubscribed.outbox, ids]
    exact notified.published.known
  · rw [resubscribed.outbox]
    exact notified.published.ids
  · rw [resubscribed.outbox]
    exact notified.published.named
  · rw [stages_of_same resubscribed.stages]
    exact notified.published.settled notice (resubscribed.outbox ▸ inside) final
  · rw [ids]
    exact resubscribed.known
  · by_cases here : other = request.id ∧ subscriber = id
    · rw [here.1, here.2]
      exact resubscribed.single
    · rw [resubscribed.others other subscriber here]
      exact notified.subscribed.single other subscriber
  · rcases cases_ other inside with rfl | ⟨old, different⟩
    · rw [resubscribed.key]
      by_cases here : subscriber = id
      · rw [here]
        exact resubscribed.active
      · rw [resubscribed.lists subscriber here, resubscribed.others request.id subscriber (fun both => here both.2)]
        exact notified.subscribed.active request stored subscriber
    · rw [resubscribed.others other.id subscriber (fun both => different both.1)]
      exact notified.subscribed.active other old subscriber
  · rw [stages_of_same resubscribed.stages]
    rcases cases_ other inside with rfl | ⟨old, _⟩
    · rw [resubscribed.key]
      exact notified.staffed request stored
    · exact notified.staffed other old
  · rcases cases_ other inside with rfl | ⟨old, different⟩
    · exact absurd (List.mem_singleton.mpr resubscribed.key) outside
    · rw [stages_of_same resubscribed.stages] at final ⊢
      rw [resubscribed.others other.id subscriber.id (fun both => different both.1)] at active
      rw [resubscribed.outbox]
      exact notified.told other old (by simp) final subscriber listed row active

theorem retire_known (request subscriber : Id) (subscribed : Subscribed ledger) :
    ∀ row ∈ (ledger.retire request subscriber).history, row.request ∈ ledger.requests.map Request.id := by
  intro row inside
  obtain ⟨old, stored, same⟩ := List.mem_map.mp inside
  have request' : row.request = old.request := by
    rw [← same]
    split <;> rfl
  rw [request']
  exact subscribed.known old stored

theorem append_active (row : History) (other id : Id) :
    ({ ledger with history := ledger.history ++ [row] } : Ledger).activeHistory other id =
      ledger.activeHistory other id ++
        if row.request = other ∧ row.subscriber = id ∧ row.active = true then [row] else [] := by
  unfold Ledger.activeHistory
  rw [List.filter_append]
  congr 1
  by_cases here : row.request = other ∧ row.subscriber = id ∧ row.active = true
  · simp [here]
  · rw [if_neg here]
    refine List.filter_eq_nil_iff.mpr fun only inside matches_ => here ?_
    rw [List.mem_singleton.mp inside] at matches_
    simpa [and_assoc] using matches_

theorem resubscribe_resubscribed (stored : request ∈ ledger.requests)
    (subscribed : Subscribed ledger) (subscriber : Subscriber) (remove : Bool) (history : Option History) :
    Resubscribed ledger request subscriber.id
      { request with subscribers := (ledger.resubscribe request subscriber remove
        (request.subscribers.find? fun other => decide (other.id = subscriber.id)) history).2 }
      ((ledger.resubscribe request subscriber remove
        (request.subscribers.find? fun other => decide (other.id = subscriber.id)) history).1.rewrite
          { request with subscribers := (ledger.resubscribe request subscriber remove
            (request.subscribers.find? fun other => decide (other.id = subscriber.id)) history).2 }) := by
  have retired := retire_active ledger request.id subscriber.id
  have retiredOther : ∀ other id, ¬ (other = request.id ∧ id = subscriber.id) →
      (ledger.retire request.id subscriber.id).activeHistory other id = ledger.activeHistory other id :=
      fun other id apart => by
    rw [retired, if_neg apart]
  have retiredHere : (ledger.retire request.id subscriber.id).activeHistory request.id subscriber.id = [] := by
    rw [retired, if_pos ⟨rfl, rfl⟩]
  unfold Ledger.resubscribe
  by_cases removed : remove = true
  · rw [if_pos removed]
    refine ⟨rfl, rfl, rfl, rfl, retire_known ledger _ _ subscribed, retiredOther, ?_, fun id different => ?_, ?_⟩
    · exact (congrArg List.length retiredHere).trans_le (Nat.zero_le 1)
    · constructor
      · rintro ⟨other, kept, same⟩
        exact ⟨other, (List.mem_filter.mp kept).1, same⟩
      · rintro ⟨other, kept, same⟩
        exact ⟨other, List.mem_filter.mpr ⟨kept, decide_eq_true (same ▸ different)⟩, same⟩
    · refine ⟨fun ⟨other, kept, same⟩ => ?_, fun active => absurd retiredHere active⟩
      exact absurd same (of_decide_eq_true (List.mem_filter.mp kept).2)
  · rw [if_neg removed]
    by_cases absent : (request.subscribers.find? fun other => decide (other.id = subscriber.id)) = none
    · rw [if_pos absent]
      refine ⟨rfl, rfl, rfl, rfl, fun row inside => ?_, fun other id apart => ?_, ?_, fun id different => ?_, ?_⟩
      · rcases List.mem_append.mp inside with old | new
        · exact retire_known ledger _ _ subscribed row old
        · rw [List.mem_singleton.mp new]
          exact List.mem_map_of_mem stored
      · refine (append_active (ledger.retire request.id subscriber.id) _ other id).trans ?_
        rw [if_neg (fun both => apart ⟨both.1.symm, both.2.1.symm⟩), List.append_nil]
        exact retiredOther other id apart
      · refine le_of_eq_of_le (congrArg List.length
          (append_active (ledger.retire request.id subscriber.id) _ request.id subscriber.id)) ?_
        rw [retiredHere]
        simp
      · constructor
        · rintro ⟨other, kept, same⟩
          rcases List.mem_append.mp kept with old | new
          · exact ⟨other, old, same⟩
          · exact absurd (same.symm.trans (congrArg Subscriber.id (List.mem_singleton.mp new))) different
        · rintro ⟨other, kept, same⟩
          exact ⟨other, List.mem_append_left _ kept, same⟩
      · refine ⟨fun _ => ?_, fun _ => ⟨subscriber, by simp, rfl⟩⟩
        intro empty
        have rows := (append_active (ledger.retire request.id subscriber.id) _ request.id
          subscriber.id).symm.trans empty
        simp at rows
    · rw [if_neg absent]
      exact ⟨rfl, rfl, rfl, rfl, subscribed.known, fun _ _ _ => rfl, subscribed.single _ _, fun _ _ => Iff.rfl,
        subscribed.active request stored subscriber.id⟩

theorem subscribe_notified (plan : Plan) (subscriber : Subscriber) (remove : Bool)
    (before after : Ledger) (unique : (before.requests.map Request.id).Nodup) (notified : Notified [] before)
    (done : before.subscribe host id plan subscriber remove = .ok after) :
    Notified [] after ∧ before.outbox <+: after.outbox := by
  simp only [Ledger.subscribe, bind_ok_iff, refuse_ok_iff, exists_const] at done
  obtain ⟨_, _, request, found, _, _, _, delivered⟩ := done
  obtain ⟨stored, rfl⟩ := request_ok before id request found
  have idle := adopt_idle before notified.subscribed request stored subscriber.id
    (request.subscribers.find? fun other => decide (other.id = subscriber.id)) (fun some_ => by
      obtain ⟨other, found⟩ := Option.isSome_iff_exists.mp some_
      have passed := List.find?_some found
      exact ⟨other, List.mem_of_find?_eq_some found, by simpa using passed⟩)
  rw [idle] at delivered
  generalize (before.adopt request.id subscriber.id
    (request.subscribers.find? fun other => decide (other.id = subscriber.id))).2 = history at delivered
  have changed := resubscribe_resubscribed before request stored notified.subscribed subscriber remove history
  have start := resubscribed_notified before _ request _ subscriber.id stored notified changed
  obtain ⟨last, grown⟩ := outcomes_notified [request.id] _ after start (by
    rw [resubscribed_ids before _ request _ subscriber.id stored changed]
    exact unique) delivered
  exact ⟨last, changed.outbox ▸ grown⟩

theorem inserted_notified (project external : Name) (plan : Plan) (subscriber : Option Subscriber)
    (before after : Ledger) (id : Id) (rows : List Stage) (consistent : Consistent host before)
    (nonempty : plan.stages ≠ [])
    (notified : Notified [] before) (inserted : Inserted host project external plan subscriber before after id rows) :
    Notified [] after := by
  obtain ⟨moment, requests⟩ := inserted.requests
  have fresh : id ∉ before.requests.map Request.id := by
    intro inside
    obtain ⟨request, stored, same⟩ := List.mem_map.mp inside
    obtain ⟨draw, early, drawn⟩ := consistent.requestDrawn request stored
    have clash := host.distinct (drawn.symm.trans (same.trans inserted.drawn))
    omega
  have born : ∀ row ∈ rows, row.request = id ∧ row.state = .waiting := fun row inside => by
    obtain ⟨definition, _, fresh⟩ := forall₂_mem_right _ _ _ inserted.rows row inside
    exact ⟨fresh.request, congrArg Core.state fresh.core⟩
  have oldStages : ∀ request, request ≠ id → after.stagesOf request = before.stagesOf request := fun request other => by
    have none_ : rows.filter (fun stage => decide (stage.request = request)) = [] :=
      List.filter_eq_nil_iff.mpr fun row inside same =>
        other ((of_decide_eq_true same).symm.trans (born row inside).1)
    rw [Ledger.stagesOf, inserted.stages, List.filter_append, none_, List.append_nil, Ledger.stagesOf]
  have newStages : after.stagesOf id = rows := by
    have none_ : before.stages.filter (fun stage => decide (stage.request = id)) = [] :=
      List.filter_eq_nil_iff.mpr fun stage inside same =>
        fresh ((of_decide_eq_true same : stage.request = id) ▸ consistent.requested stage inside)
    rw [Ledger.stagesOf, inserted.stages, List.filter_append, none_, List.nil_append]
    exact List.filter_eq_self.mpr fun row inside => decide_eq_true (born row inside).1
  have present : rows ≠ [] := by
    rintro rfl
    exact nonempty (List.forall₂_nil_right_iff.mp inserted.rows)
  have oldActive : ∀ request subscriber, request ≠ id →
      after.activeHistory request subscriber = before.activeHistory request subscriber :=
      fun request other different => by
    rw [Ledger.activeHistory, inserted.history, List.filter_append, Ledger.activeHistory]
    refine (congrArg _ (List.filter_eq_nil_iff.mpr fun row inside => ?_)).trans (List.append_nil _)
    obtain ⟨_, _, rfl⟩ := List.mem_map.mp inside
    simp [different.symm]
  have newActive : ∀ other, after.activeHistory id other =
      (subscriber.toList.filter (fun one => decide (one.id = other))).map (fun one => ⟨id, one.id, 1, one, true⟩) :=
      fun other => by
    have none_ : before.activeHistory id other = [] :=
      List.filter_eq_nil_iff.mpr fun row inside matches_ => by
        simp only [Bool.and_eq_true, decide_eq_true_eq] at matches_
        exact fresh (matches_.1.1 ▸ notified.subscribed.known row inside)
    rw [Ledger.activeHistory] at none_ ⊢
    rw [inserted.history, List.filter_append, none_, List.nil_append, List.filter_map]
    congr 1
    refine List.filter_congr fun one _ => ?_
    simp
  have ids : after.requests.map Request.id = before.requests.map Request.id ++ [id] := by
    rw [requests, List.map_append, List.map_singleton]
  have wider : ∀ request ∈ before.requests.map Request.id, request ∈ after.requests.map Request.id :=
    fun request inside => by
    rw [ids]
    exact List.mem_append_left _ inside
  have split : ∀ request ∈ after.requests, request ∈ before.requests ∧ request.id ≠ id ∨
      request = ⟨id, project, external, plan, subscriber.toList, moment⟩ := fun request inside => by
    rw [requests] at inside
    rcases List.mem_append.mp inside with old | new
    · exact .inl ⟨old, fun same => fresh (same ▸ List.mem_map_of_mem old)⟩
    · exact .inr (List.mem_singleton.mp new)
  refine ⟨⟨fun notice inside => ?_, ?_, ?_, fun notice inside final => ?_⟩,
    ⟨fun row inside => ?_, fun request other => ?_, fun request inside other => ?_⟩, fun request inside => ?_,
    fun request inside _ final listed member row active => ?_⟩
  · rw [inserted.outbox] at inside
    exact wider _ (notified.published.known notice inside)
  · rw [inserted.outbox]
    exact notified.published.ids
  · rw [inserted.outbox]
    exact notified.published.named
  · rw [inserted.outbox] at inside
    rw [oldStages notice.request fun same => fresh (same ▸ notified.published.known notice inside)]
    exact notified.published.settled notice inside final
  · rw [inserted.history] at inside
    rcases List.mem_append.mp inside with old | new
    · exact wider _ (notified.subscribed.known row old)
    · obtain ⟨_, _, rfl⟩ := List.mem_map.mp new
      rw [ids]
      exact List.mem_append_right _ (List.mem_singleton_self _)
  · by_cases here : request = id
    · rw [here, newActive, List.length_map]
      refine Nat.le_trans (List.length_filter_le _ _) ?_
      cases subscriber <;> simp
    · rw [oldActive request other here]
      exact notified.subscribed.single request other
  · rcases split request inside with ⟨old, different⟩ | rfl
    · rw [oldActive request.id other different]
      exact notified.subscribed.active request old other
    · rw [newActive]
      simp only [Request.Lists, ne_eq, List.map_eq_nil_iff, List.filter_eq_nil_iff, decide_eq_true_eq,
        not_forall, not_not,
        exists_prop]
  · rcases split request inside with ⟨old, different⟩ | rfl
    · rw [oldStages request.id different]
      exact notified.staffed request old
    · rw [newStages]
      exact present
  · rcases split request inside with ⟨old, different⟩ | rfl
    · rw [oldStages request.id different] at final ⊢
      rw [oldActive request.id _ different] at active
      rw [inserted.outbox]
      exact notified.told request old (by simp) final listed member row active
    · obtain ⟨stage, kept⟩ := List.exists_mem_of_ne_nil rows present
      have ended := final stage (newStages ▸ kept)
      rw [(born stage kept).2] at ended
      exact absurd ended (by decide)

theorem quiet_move (stage row : Stage) (call : Call) (moves : Moves call stage row)
    (open_ : stage.state ∉ terminalStates)
    (kind : (∃ id epoch identity, call = .attach id epoch identity) ∨
    (∃ id epoch fields, call = .annotate id epoch fields) ∨
      ∃ id token, call = .admitStage id token) : row.state ∉ terminalStates := by
  obtain ⟨_, move⟩ := moves
  generalize same : row.core = core at move
  have state : row.state = core.state := congrArg Core.state same
  rw [state]
  rcases kind with ⟨_, _, _, rfl⟩ | ⟨_, _, _, rfl⟩ | ⟨_, _, rfl⟩
  · cases move with
    | stay => exact open_
    | launch => simp [terminalStates]
    | complete _ _ _ _ completes => cases completes
  · cases move with
    | stay => exact open_
    | complete _ _ _ _ completes => cases completes
  · cases move with
    | stay => exact open_
    | admitStage => simp [terminalStates]
    | complete _ _ _ _ completes => cases completes

theorem completes_key (stage : Stage) (call : Call) (outcome : State) (released : List Name) (id : Id)
    (completes : Completes stage call outcome released)
    (kind : (∃ epoch outcome released evidence, call = .finish id epoch outcome released evidence) ∨
      (∃ epoch released evidence, call = .recover id epoch released evidence) ∨
        ∃ epoch token identity, call = .abortUnadmitted id epoch token identity) : stage.id = id := by
  cases completes with
  | finish =>
      rcases kind with ⟨_, _, _, _, same⟩ | ⟨_, _, _, same⟩ | ⟨_, _, _, same⟩
      · exact (Call.finish.inj same).1
      · cases same
      · cases same
  | recover =>
      rcases kind with ⟨_, _, _, _, same⟩ | ⟨_, _, _, same⟩ | ⟨_, _, _, same⟩
      · cases same
      · exact (Call.recover.inj same).1
      · cases same
  | abort =>
      rcases kind with ⟨_, _, _, _, same⟩ | ⟨_, _, _, same⟩ | ⟨_, _, _, same⟩
      · cases same
      · cases same
      · exact (Call.abortUnadmitted.inj same).1

theorem completion_move (stage : Stage) (call : Call) (other : Stage) (core : Core) (move : Move other call core)
    (kind : (∃ epoch outcome released evidence, call = .finish stage.id epoch outcome released evidence) ∨
      (∃ epoch released evidence, call = .recover stage.id epoch released evidence) ∨
        ∃ epoch token identity, call = .abortUnadmitted stage.id epoch token identity) :
    core = other.core ∨ other.id = stage.id := by
  cases move with
  | stay => exact .inl rfl
  | complete _ outcome released _ completes =>
      exact .inr (completes_key other call outcome released stage.id completes kind)
  | _ => simp at kind

theorem perform_notified (before after : Ledger) (call : Call) (answer : Answer)
    (consistent : Consistent host before) (notified : Notified [] before)
    (done : perform host before call = .ok (after, answer)) : Notified [] after ∧ before.outbox <+: after.outbox := by
  have moved := fun ids => moved_notified before after call ids consistent.requestIds notified
  cases call with
  | configure raw =>
      obtain ⟨next, configured, rest⟩ := (bind_ok_iff _ _ _).mp done
      cases rest
      obtain ⟨registry, _, configures⟩ := configure_configures raw before after configured
      rw [configures.result]
      exact ⟨⟨⟨notified.published.known, notified.published.ids, notified.published.named, notified.published.settled⟩,
        ⟨notified.subscribed.known, notified.subscribed.single, notified.subscribed.active⟩, notified.staffed,
        notified.told⟩, List.prefix_refl _⟩
  | submit project external plan subscriber =>
      obtain ⟨⟨next, id⟩, submitted, rest⟩ := (bind_ok_iff _ _ _).mp done
      cases rest
      have submits := submit_ok host project external plan subscriber before after id consistent.toNumbered submitted
      cases submits with
      | replayed => exact ⟨notified, List.prefix_refl _⟩
      | inserted _ _ rows _ nonempty _ _ inserted =>
          refine ⟨inserted_notified host project external plan subscriber before after id rows consistent
            nonempty notified
            inserted, ?_⟩
          exact ⟨[], by rw [inserted.outbox, List.append_nil]⟩
  | schedule unavailable =>
      obtain ⟨⟨next, granted⟩, scheduled, rest⟩ := (bind_ok_iff _ _ _).mp done
      cases rest
      obtain ⟨opened, placements, result⟩ := schedule_scheduled host unavailable before after granted
        consistent scheduled
      exact moved _ result.reported (scheduled_moves consistent.ids result) (due_schedule before unavailable)
  | attach id epoch identity =>
      obtain ⟨next, attached, rest⟩ := (bind_ok_iff _ _ _).mp done
      cases rest
      exact moved _ (attach_reports host id epoch identity before after attached)
        (attach_moves host id epoch identity before after consistent.ids attached).2
        (due_nothing before _ fun stage row moves open_ => quiet_move stage row _ moves open_
        (.inl ⟨id, epoch, identity, rfl⟩))
  | annotate id epoch fields =>
      obtain ⟨next, annotated, rest⟩ := (bind_ok_iff _ _ _).mp done
      cases rest
      exact moved _ (annotate_reports host id epoch fields before after annotated)
        (annotate_moves host id epoch fields before after consistent.ids annotated).2
        (due_nothing before _ fun stage row moves open_ =>
          quiet_move stage row _ moves open_ (.inr (.inl ⟨id, epoch, fields, rfl⟩)))
  | admitStage id token =>
      obtain ⟨⟨next, stage⟩, admitted, rest⟩ := (bind_ok_iff _ _ _).mp done
      cases rest
      exact moved _ (admit_reports host id token before after stage admitted)
        (admit_moves host id token before after stage consistent.ids admitted).2.1
        (due_nothing before _ fun stage row moves open_ =>
          quiet_move stage row _ moves open_ (.inr (.inr ⟨id, token, rfl⟩)))
  | cancel request =>
      obtain ⟨next, cancelled, rest⟩ := (bind_ok_iff _ _ _).mp done
      cases rest
      exact moved _ (cancel_reports host request before after cancelled)
        (cancel_moves host request before after consistent.ids cancelled).2 (due_cancel before request)
  | subscribe request plan subscriber remove =>
      obtain ⟨next, subscribed, rest⟩ := (bind_ok_iff _ _ _).mp done
      cases rest
      exact subscribe_notified host request plan subscriber remove before after consistent.requestIds
        notified subscribed
  | abortUnadmitted id epoch token identity =>
      obtain ⟨⟨next, released⟩, aborted, rest⟩ := (bind_ok_iff _ _ _).mp done
      cases rest
      rcases abort_unadmitted_moves host id epoch token identity before after released consistent.ids aborted with
        ⟨_, rfl⟩ | ⟨_, _, moves, _⟩
      · exact ⟨notified, List.prefix_refl _⟩
      · rcases abort_reports host id epoch token identity before after released aborted with rfl | ⟨stage,
          stored, rfl, reports⟩
        · exact ⟨notified, List.prefix_refl _⟩
        · exact moved _ reports moves (due_completion before _ stage consistent.ids stored fun other core move =>
            completion_move stage _ other core move (.inr (.inr ⟨epoch, token, identity, rfl⟩)))
  | finish id epoch outcome released evidence =>
      obtain ⟨next, finished, rest⟩ := (bind_ok_iff _ _ _).mp done
      cases rest
      have moves := (finish_moves host id epoch outcome released evidence before after consistent.ids finished).2
      simp only [Ledger.finish, bind_ok_iff, refuse_ok_iff, exists_const] at finished
      obtain ⟨stage, stored, rfl, reports⟩ := complete_reports host id epoch outcome released evidence
        before after finished.2
      exact moved _ reports moves (due_completion before _ stage consistent.ids stored fun other core move =>
        completion_move stage _ other core move (.inl ⟨epoch, outcome, released, evidence, rfl⟩))
  | recover id epoch released evidence =>
      obtain ⟨next, recovered, rest⟩ := (bind_ok_iff _ _ _).mp done
      cases rest
      have moves := (recover_moves host id epoch released evidence before after consistent.ids recovered).2
      simp only [Ledger.recover, Ledger.finish, bind_ok_iff, refuse_ok_iff, exists_const] at recovered
      obtain ⟨_, _, _, _, completed⟩ := recovered
      obtain ⟨stage, stored, rfl, reports⟩ := complete_reports host id epoch _ released evidence before after completed
      exact moved _ reports moves (due_completion before _ stage consistent.ids stored fun other core move =>
        completion_move stage _ other core move (.inr (.inl ⟨epoch, released, evidence, rfl⟩)))

theorem create_notified : Notified [] Ledger.create where
  published := ⟨fun notice stored => (by cases stored), List.nodup_nil, fun notice stored => (by cases stored),
    fun notice stored => (by cases stored)⟩
  subscribed := ⟨fun row stored => (by cases stored), fun _ _ => Nat.zero_le 1, fun request stored => (by cases stored)⟩
  staffed := fun request stored => (by cases stored)
  told := fun request stored => (by cases stored)

theorem run_notified (calls : List Call) : Notified [] (run host calls) :=
  (runs_keep host (Notified []) (fun before call after answer consistent notified _ done _ =>
    (perform_notified host before after call answer consistent notified done).1) calls Ledger.create
    (create_consistent host) create_notified).2

theorem run_outbox (early late : List Call) : (run host early).outbox <+: (run host (early ++ late)).outbox := by
  rw [run_append]
  exact (runs_keep host (fun ledger => Notified [] ledger ∧ (run host early).outbox <+: ledger.outbox)
    (fun before call after answer consistent kept _ done _ => by
      obtain ⟨notified, grown⟩ := perform_notified host before after call answer consistent kept.1 done
      exact ⟨notified, kept.2.trans grown⟩)
    late (run host early) (run_consistent host early) ⟨run_notified host early, List.prefix_refl _⟩).2.2

def finalNotices (ledger : Ledger) (request subscriber : Id) (generation : Nat) : List Notice :=
  ledger.outbox.filter fun notice => decide (notice.request = request ∧ notice.subscriber.id = subscriber ∧
    notice.generation = generation ∧ notice.status ≠ .actionRequired)

theorem final_notice (published : Published ledger) (request subscriber : Id) (generation : Nat)
    (notice : Notice) (kept : notice ∈ finalNotices ledger request subscriber generation) :
    notice.id = ⟨request, subscriber, generation, outcomeId (ledger.stagesOf request)⟩ ∧
      notice.status = outcomeStatus (ledger.stagesOf request) ∧
        ∀ stage ∈ ledger.stagesOf request, stage.state ∈ terminalStates := by
  obtain ⟨stored, matches_⟩ := List.mem_filter.mp kept
  obtain ⟨rfl, rfl, rfl, final⟩ := of_decide_eq_true matches_
  obtain ⟨named, status⟩ := published.named notice stored
  obtain ⟨ended, same⟩ := published.settled notice stored final
  exact ⟨by rw [named, same], by rw [status, same]; rfl, ended⟩

theorem ended_status (nonempty : stages ≠ [])
    (ended : ∀ stage ∈ stages, stage.state ∈ terminalStates) :
    outcomeStatus stages ≠ .actionRequired ∧
      (outcomeStatus stages = .passed ↔ ∀ stage ∈ stages, stage.state = .passed) ∧
      (outcomeStatus stages = .cancelled ↔ ∀ stage ∈ stages, stage.state = .cancelled ∨ stage.state = .skipped) ∧
      (outcomeStatus stages = .failed ↔ (¬ ∀ stage ∈ stages, stage.state = .passed) ∧
        ¬ ∀ stage ∈ stages, stage.state = .cancelled ∨ stage.state = .skipped) := by
  have calm : ¬ stages.any (fun stage => decide (stage.state = .recoveryRequired)) = true := by
    rw [List.any_eq_true]
    rintro ⟨stage, inside, recovering⟩
    have final := ended stage inside
    rw [of_decide_eq_true recovering] at final
    exact absurd final (by decide)
  have withdrawn : stages.all (fun stage => decide (stage.state ∈ [State.cancelled, .skipped])) = true ↔
      ∀ stage ∈ stages, stage.state = .cancelled ∨ stage.state = .skipped := by
    simp [List.all_eq_true]
  have success : stages.all (fun stage => decide (stage.state = .passed)) = true ↔
      ∀ stage ∈ stages, stage.state = .passed := by
    simp [List.all_eq_true]
  have apart : ¬ ((∀ stage ∈ stages, stage.state = .cancelled ∨ stage.state = .skipped) ∧
      ∀ stage ∈ stages, stage.state = .passed) := by
    rintro ⟨stopped, passed⟩
    obtain ⟨stage, inside⟩ := List.exists_mem_of_ne_nil stages nonempty
    have state := stopped stage inside
    rw [passed stage inside] at state
    rcases state with wrong | wrong <;> cases wrong
  rw [outcomeStatus, if_neg calm]
  by_cases stopped : ∀ stage ∈ stages, stage.state = .cancelled ∨ stage.state = .skipped
  · rw [if_pos (withdrawn.mpr stopped)]
    have notPassed := fun passed => apart ⟨stopped, passed⟩
    exact ⟨by simp, ⟨fun wrong => (by cases wrong), fun passed => absurd passed notPassed⟩,
      ⟨fun _ => stopped, fun _ => rfl⟩, ⟨fun wrong => (by cases wrong), fun both => absurd stopped both.2⟩⟩
  · rw [if_neg (mt withdrawn.mp stopped)]
    by_cases passed : ∀ stage ∈ stages, stage.state = .passed
    · rw [if_pos (success.mpr passed)]
      exact ⟨by simp, ⟨fun _ => passed, fun _ => rfl⟩,
        ⟨fun wrong => (by cases wrong), fun all => absurd all stopped⟩,
        ⟨fun wrong => (by cases wrong), fun both => absurd passed both.1⟩⟩
    · rw [if_neg (mt success.mp passed)]
      exact ⟨by simp, ⟨fun wrong => (by cases wrong), fun all => absurd all passed⟩,
        ⟨fun wrong => (by cases wrong), fun all => absurd all stopped⟩,
        ⟨fun _ => ⟨passed, stopped⟩, fun _ => rfl⟩⟩

theorem one_final_outcome (host : Host) (calls : List Call) :
    (∀ request ∈ (run host calls).requests, ∀ subscriber ∈ request.subscribers,
      ∀ row ∈ (run host calls).activeHistory request.id subscriber.id,
        (finalNotices (run host calls) request.id subscriber.id row.generation).length ≤ 1 ∧
        ((finalNotices (run host calls) request.id subscriber.id row.generation).length = 1 ↔
          ∀ stage ∈ (run host calls).stagesOf request.id, stage.state ∈ terminalStates) ∧
        ∀ notice ∈ finalNotices (run host calls) request.id subscriber.id row.generation,
          (notice.status = .passed ↔ ∀ stage ∈ (run host calls).stagesOf request.id, stage.state = .passed) ∧
          (notice.status = .cancelled ↔
            ∀ stage ∈ (run host calls).stagesOf request.id, stage.state = .cancelled ∨ stage.state = .skipped) ∧
          (notice.status = .failed ↔
            (¬ ∀ stage ∈ (run host calls).stagesOf request.id, stage.state = .passed) ∧
            ¬ ∀ stage ∈ (run host calls).stagesOf request.id, stage.state = .cancelled ∨ stage.state = .skipped)) ∧
    (∀ request ∈ (run host calls).requests, ∀ subscriber,
      ((run host calls).activeHistory request.id subscriber).length ≤ 1 ∧
        (request.Lists subscriber ↔ ((run host calls).activeHistory request.id subscriber).length = 1)) ∧
    ∀ late, (run host calls).outbox <+: (run host (calls ++ late)).outbox := by
  obtain ⟨published, subscribed, staffed, told⟩ := run_notified host calls
  refine ⟨fun request stored subscriber listed row active => ?_, fun request stored subscriber => ?_,
    run_outbox host calls⟩
  · have each := final_notice (run host calls) published request.id subscriber.id row.generation
    have single : (finalNotices (run host calls) request.id subscriber.id row.generation).length ≤ 1 :=
      single_of_same_key Notice.id _ (published.ids.sublist (List.filter_sublist.map _))
        fun first kept second also => (each first kept).1.trans (each second also).1.symm
    refine ⟨single, ⟨fun one => ?_, fun ended => ?_⟩, fun notice kept => ?_⟩
    · obtain ⟨notice, kept⟩ := List.exists_mem_of_length_pos (one ▸ Nat.one_pos)
      exact (each notice kept).2.2
    · obtain ⟨notice, present, same⟩ := told request stored (by simp) ended subscriber listed row active
      obtain ⟨named, status⟩ := published.named notice present
      rw [named, EventId.mk.injEq] at same
      obtain ⟨request', subscriber', generation, outcome⟩ := same
      have final : notice.status ≠ .actionRequired := by
        rw [status, outcome]
        exact (ended_status _ (staffed request stored) ended).1
      have kept : notice ∈ finalNotices (run host calls) request.id subscriber.id row.generation :=
        List.mem_filter.mpr ⟨present, decide_eq_true ⟨request', subscriber', generation, final⟩⟩
      exact Nat.le_antisymm single (List.length_pos_of_mem kept)
    · obtain ⟨_, status, ended⟩ := each notice kept
      rw [status]
      exact (ended_status _ (staffed request stored) ended).2
  · have single := subscribed.single request.id subscriber
    refine ⟨single, (subscribed.active request stored subscriber).trans ⟨fun some_ => ?_, fun one none => ?_⟩⟩
    · exact Nat.le_antisymm single (List.length_pos_iff.mpr some_)
    · rw [none] at one
      cases one

end OrchestratorEngine.ResourceQueue
