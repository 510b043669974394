import OrchestratorEngine.ResourceService.Outbox

set_option autoImplicit false

namespace OrchestratorEngine.ResourceService.Outbox

open Foundation ResourceQueue

theorem set_kept {κ α : Type} [DecidableEq κ] {dict : Dict κ α} {key other : κ} {value held : α}
    (fresh : dict.get? key = none) (found : dict.get? other = some held) :
    (dict.set key value).get? other = some held := by
  rw [Dict.get_set, if_neg]
  · exact found
  · rintro rfl
    rw [fresh] at found
    cases found

theorem map_error_ok {α : Type} {outcome : Except Error α} {value : α}
    (done : outcome.mapError Failure.caught = .ok value) : outcome = .ok value := by
  cases outcome <;> cases done
  rfl

structure Grown (before after : Files) : Prop where
  artifacts : ∀ place content, before.artifacts.get? place = some content → after.artifacts.get? place = some content
  events : ∀ key event, before.events.get? key = some event → after.events.get? key = some event
  signals : ∀ key signal, before.signals.get? key = some signal → after.signals.get? key = some signal
  delivered : ∀ id ∈ before.delivered, id ∈ after.delivered

theorem Grown.refl (files : Files) : Grown files files := ⟨fun _ _ => id, fun _ _ => id, fun _ _ => id, fun _ => id⟩

theorem Grown.trans {first second third : Files} (lower : Grown first second) (upper : Grown second third) :
    Grown first third where
  artifacts place content held := upper.artifacts place content (lower.artifacts place content held)
  events key event held := upper.events key event (lower.events key event held)
  signals key signal held := upper.signals key signal (lower.signals key signal held)
  delivered id held := upper.delivered id (lower.delivered id held)

def Tells (root : Path) (notice : Notice) (event : Event) : Prop :=
  event.terminalStatus = terminalStatus notice.status ∧
    (event.sourceKind = .resourceRecipe → event.resultPath = resultPlace root notice)

structure Written (root : Path) (event : Event) : Prop where
  schema : event.schemaVersion = schemaVersion
  kind : event.kind = "ORCHESTRATOR_TERMINAL"
  project : event.projectId = projectId root
  operation : event.operationId ≠ ""

structure Faithful (outbox : List Notice) (files : Files) : Prop where
  reports : ∀ root other content, files.artifacts.get? (resultPlace root other) = some content →
    ∃ notice ∈ outbox, resultPlace root notice = resultPlace root other ∧
      ∃ plan stages, content = .report (report notice plan stages)
  events : ∀ root id event, files.events.get? (root, id) = some event → event.eventId = id ∧
    files.artifacts.get? event.resultPath = some event.resultSha256 ∧
    event.evidencePath = event.resultPath ∧ event.evidenceSha256 = event.resultSha256 ∧ Written root event ∧
    ∃ notice ∈ outbox, notice.id = id ∧ Tells root notice event
  signals : ∀ root id signal, files.signals.get? (root, id) = some signal →
    ∃ event, files.events.get? (root, id) = some event ∧ signal = event.signal (root, id)

theorem Faithful.wider {outbox later : List Notice} {files : Files} (faithful : Faithful outbox files)
    (wider : outbox ⊆ later) : Faithful later files where
  reports root other content held := by
    obtain ⟨notice, listed, made⟩ := faithful.reports root other content held
    exact ⟨notice, wider listed, made⟩
  events root id event held := by
    obtain ⟨named, kept, same, digest, written, notice, listed, told⟩ := faithful.events root id event held
    exact ⟨named, kept, same, digest, written, notice, wider listed, told⟩
  signals := faithful.signals

theorem place_root {first second : Path} {one two : Notice} (same : resultPlace first one = resultPlace second two) :
    first = second := by
  unfold resultPlace at same
  split at same <;> split at same <;> simp at same <;> exact same.1

theorem named_real (names : EventNames) (id : EventId) : names.text id ≠ "" := by
  intro empty
  have valid := names.valid id
  rw [empty] at valid
  cases valid

theorem status_known (status : TerminalStatus) : status.text ∈ Watcher.Faults.followupStatuses := by
  cases status <;> decide

theorem artifact_ok {files : Files} {place : Place} {content : Content}
    (kept : files.artifacts.get? place = some content) : verifyArtifact files place content = .ok () := by
  rw [verifyArtifact, kept]
  exact (refuse_ok_iff _ _ _).mpr (not_not.mpr rfl)

theorem verify_iff (names : EventNames) {files : Files} {root : Path} {event : Event} (written : Written root event)
    (kept : files.artifacts.get? event.resultPath = some event.resultSha256)
    (path : event.evidencePath = event.resultPath) (digest : event.evidenceSha256 = event.resultSha256) :
    verifyTerminalEvent names files event = .ok () ↔ projectId root ≠ "" := by
  have source : event.sourceKind.text ≠ "" := by cases event.sourceKind <;> decide
  have schema : Watcher.Faults.isSupportedSchemaVersion (.int event.schemaVersion) ≠ false := by
    rw [written.schema]
    decide
  have kind : ¬ event.kind ∉ ["WORKER_TERMINAL", "ORCHESTRATOR_TERMINAL"] := by
    rw [written.kind]
    decide
  have valid : Watcher.Faults.validEventId ((names.text event.eventId).toList.map Char.toNat) ≠ false := by
    rw [names.valid]
    decide
  have status : ¬ event.terminalStatus.text ∉ Watcher.Faults.followupStatuses :=
    not_not.mpr (status_known event.terminalStatus)
  simp only [verifyTerminalEvent, verifyKey, bind_ok_iff, refuse_ok_iff, exists_const, path, digest, artifact_ok kept,
    written.project]
  exact ⟨fun checks => checks.2.2.2.1, fun project => ⟨schema, kind, named_real names _, project, source,
    written.operation, valid, status, trivial, trivial⟩⟩

def Superseded (ledger : Ledger) (notice : Notice) : Prop :=
  (∃ request, ledger.request notice.request = .ok request ∧ notice.subscriber ∉ request.subscribers) ∨
    notice.status = .actionRequired ∧ recovering ledger notice.request = false

def Told (files : Files) (root : Path) (notice : Notice) : Prop :=
  (∃ event, files.events.get? (root, notice.id) = some event) ∧
    (wakes notice = true → ∃ signal, files.signals.get? (root, notice.id) = some signal)

theorem Told.later {before after : Files} {root : Path} {notice : Notice} (told : Told before root notice)
    (grown : Grown before after) : Told after root notice := by
  obtain ⟨⟨event, held⟩, woken⟩ := told
  refine ⟨⟨event, grown.events _ event held⟩, fun wake => ?_⟩
  obtain ⟨signal, kept⟩ := woken wake
  exact ⟨signal, grown.signals _ signal kept⟩

section Delivery

variable {names : EventNames}

variable {outbox : List Notice} {start files : Files} {sight : Sight} {root : Path} {notice : Notice}

structure Under (outbox : List Notice) (start after : Files) : Prop where
  grown : Grown start after
  faithful : Faithful outbox after
  marked : after.delivered = start.delivered

abbrev Holds {α : Type} (outbox : List Notice) (start : Files) (post : α → Files → Prop) (body : Program α)
    (files : Files) :
    Prop :=
  Journal.Keeps (Under outbox start) (fun value after => Under outbox start after ∧ post value after) body files

theorem Under.artifact {place : Place} {content : Content} (under : Under outbox start files)
    (fresh : files.artifacts.get? place = none)
    (made : ∀ root other, place = resultPlace root other → ∃ notice ∈ outbox,
    resultPlace root notice = resultPlace root other ∧
      ∃ plan stages, content = .report (report notice plan stages)) :
    Under outbox start { files with artifacts := files.artifacts.set place content } := by
  have grown : Grown files { files with artifacts := files.artifacts.set place content } :=
    ⟨fun _ _ => set_kept fresh, fun _ _ => id, fun _ _ => id, fun _ => id⟩
  refine ⟨under.grown.trans grown, ⟨fun root other held found => ?_, fun root id event found => ?_,
    under.faithful.signals⟩,
    under.marked⟩
  · rw [Dict.get_set] at found
    split at found
    · rename_i same
      cases found
      exact made root other same.symm
    · exact under.faithful.reports root other held found
  · obtain ⟨named, kept, rest⟩ := under.faithful.events root id event found
    exact ⟨named, grown.artifacts _ _ kept, rest⟩

theorem Under.checks (under : Under outbox start files) (checks : Dict (Path × String) (Option Check)) :
    Under outbox start { files with checks := checks } :=
  ⟨⟨under.grown.artifacts, under.grown.events, under.grown.signals, under.grown.delivered⟩,
    ⟨under.faithful.reports, under.faithful.events, under.faithful.signals⟩, under.marked⟩

theorem Under.event (event : Event) (under : Under outbox start files)
    (fresh : files.events.get? (root, notice.id) = none)
    (listed : notice ∈ outbox) (named : event.eventId = notice.id)
    (kept : files.artifacts.get? event.resultPath = some event.resultSha256)
    (path : event.evidencePath = event.resultPath) (digest : event.evidenceSha256 = event.resultSha256)
    (written : Written root event) (tells : Tells root notice event) :
    Under outbox start { files with events := files.events.set (root, notice.id) event } := by
  refine ⟨under.grown.trans ⟨fun _ _ => id, fun _ _ => set_kept fresh, fun _ _ => id, fun _ => id⟩,
    ⟨under.faithful.reports, fun place id held found => ?_, fun place id signal found => ?_⟩, under.marked⟩
  · rw [Dict.get_set] at found
    split at found
    · rename_i same
      cases found
      cases same
      exact ⟨named, kept, path, digest, written, notice, listed, rfl, tells⟩
    · exact under.faithful.events place id held found
  · obtain ⟨held, recorded, same⟩ := under.faithful.signals place id signal found
    exact ⟨held, set_kept fresh recorded, same⟩

theorem retain_holds {place : Place} {content : Content} (under : Under outbox start files)
    (made : ∀ root other, place = resultPlace root other → ∃ notice ∈ outbox,
    resultPlace root notice = resultPlace root other ∧
      ∃ plan stages, content = .report (report notice plan stages)) :
    Holds outbox start (fun _ after => ∃ held, after.artifacts.get? place = some held)
    (retain sight place content) files := by
  simp only [Holds, retain, Sight.writing, Journal.keeps_bind, Journal.keeps_ask]
  cases held : files.artifacts.get? place with
  | some content => simpa using ⟨under, content, held⟩
  | none =>
      simp only [Option.isSome_none, Bool.false_eq_true, if_false, Journal.keeps_bind, Journal.keeps_require,
        Journal.keeps_write]
      exact fun _ => ⟨under.artifact held made, under.artifact held made, content, by simp⟩

theorem put_signal_holds (event : Event) (under : Under outbox start files)
    (recorded : files.events.get? (root, notice.id) = some event)
    (fresh : files.signals.get? (root, notice.id) = none) :
    Holds outbox start (fun _ after => Told after root notice)
    (putSignal sight root (event.signal (root, notice.id))) files := by
  have named : event.eventId = notice.id := (under.faithful.events root notice.id event recorded).1
  have next : Under outbox start
      { files with signals := files.signals.set (root, notice.id) (event.signal (root, notice.id)) } := by
    refine ⟨under.grown.trans ⟨fun _ _ => id, fun _ _ => id, fun _ _ => set_kept fresh, fun _ => id⟩,
      ⟨under.faithful.reports, under.faithful.events, fun place id signal found => ?_⟩, under.marked⟩
    rw [Dict.get_set] at found
    split at found
    · rename_i same
      cases found
      cases same
      exact ⟨event, recorded, rfl⟩
    · exact under.faithful.signals place id signal found
  simp only [Holds, putSignal, Sight.writing, Journal.keeps_bind, Journal.keeps_require, Journal.keeps_write]
  have key : (event.signal (root, notice.id)).eventId = notice.id := named
  rw [key]
  exact fun _ => ⟨next, next, ⟨event, recorded⟩, fun _ => ⟨event.signal (root, notice.id), by simp⟩⟩

theorem announce_holds {sourceKind : SourceKind} {operationId : Name} {result : Place}
    (under : Under outbox start files)
    (listed : notice ∈ outbox) (place : sourceKind = .resourceRecipe → result = resultPlace root notice) :
    Holds outbox start (fun _ after => Told after root notice)
      (announce names sight root notice sourceKind operationId result) files := by
  simp only [Holds, announce, Journal.keeps_bind, Journal.keeps_ask]
  cases recorded : files.events.get? (root, notice.id) with
  | some event =>
      simp only [Journal.keeps_bind, Journal.keeps_ask]
      cases missing : wakes notice && (files.signals.get? (root, notice.id)).isNone with
      | false =>
          simp only [Bool.false_eq_true, if_false, Journal.keeps_pure]
          refine ⟨under, ⟨event, recorded⟩, fun wake => ?_⟩
          rw [wake, Bool.true_and] at missing
          exact Option.isSome_iff_exists.mp (by simpa using missing)
      | true =>
          simp only [if_true, Journal.keeps_bind, Journal.keeps_ask, Journal.keeps_lift]
          intro _ _
          have fresh : files.signals.get? (root, notice.id) = none := by
            simpa using (Bool.and_eq_true_iff.mp missing).2
          exact put_signal_holds event under recorded fresh
  | none =>
      have fresh : files.signals.get? (root, notice.id) = none := by
        cases found : files.signals.get? (root, notice.id) with
        | none => rfl
        | some signal =>
            obtain ⟨event, held, _⟩ := under.faithful.signals root notice.id signal found
            rw [recorded] at held
            cases held
      simp only [writeFollowupEvent, ensureFile, Sight.writing, Journal.keeps_bind, Journal.keeps_ask,
        Journal.keeps_require]
      intro operation
      cases held : files.artifacts.get? result with
      | none => simp
      | some content =>
          simp only [Journal.keeps_pure, Journal.keeps_write]
          intro _
          let event : Event := {
            schemaVersion := schemaVersion, kind := "ORCHESTRATOR_TERMINAL"
            eventId := notice.id, projectId := projectId root, sourceKind := sourceKind, operationId := operationId
            terminalStatus := terminalStatus notice.status, resultPath := result, resultSha256 := content
            evidencePath := result, evidenceSha256 := content, createdAt := sight.now
            wakeTarget := notice.subscriber.wakeTarget }
          have next : Under outbox start { files with events := files.events.set (root, notice.id) event } :=
            under.event event recorded listed rfl held rfl rfl ⟨rfl, rfl, rfl, operation⟩ ⟨rfl, place⟩
          refine ⟨next, ?_⟩
          split
          · exact put_signal_holds event next (by simp [event]) fresh
          · rename_i asleep
            exact (Journal.keeps_pure _).mpr ⟨next, ⟨event, by simp [event]⟩, fun wake => absurd wake asleep⟩

theorem project_holds {check : String} {request : Request} {stages : List Stage} (under : Under outbox start files) :
    Holds outbox start (fun _ _ => True) (projectResult sight root check request notice stages) files := by
  have foreign : ∀ place content, (∀ root other, place ≠ resultPlace root other) →
      Holds outbox start (fun _ _ => True) (retain sight place content) files := fun place content apart =>
    (retain_holds under fun root other same => absurd same (apart root other)).mono (fun _ kept => kept)
      fun _ _ kept => ⟨kept.1, trivial⟩
  simp only [Holds, projectResult, Journal.keeps_bind, Journal.keeps_ask]
  rcases files.checks.get? (root, check) with _ | _ | descriptor
  · simp
  · simp
  · simp only [Journal.keeps_bind, Journal.keeps_require]
    intro _ _ _
    split
    · rw [Journal.keeps_bind]
      refine (foreign _ _ fun root other => ?_).mono (fun _ kept => kept) fun _ after kept =>
        (Journal.keeps_pure _).mpr kept
      unfold resultPlace
      split <;> simp
    · rw [Journal.keeps_bind]
      refine (foreign _ _ fun root other => ?_).mono (fun _ kept => kept) fun _ after kept => ?_
      · unfold resultPlace
        split <;> simp
      · simp only [Sight.writing, Journal.keeps_bind, Journal.keeps_require, Journal.keeps_write, Journal.keeps_pure]
        exact fun _ => ⟨kept.1.checks _, kept.1.checks _, trivial⟩

structure Between (config : Configuration) (ledger : Ledger) (notice : Notice) (before after : Files) : Prop where
  grown : Grown before after
  faithful : Faithful ledger.outbox after
  marked : ∀ id ∈ after.delivered, id ∈ before.delivered ∨ id = notice.id ∧
    (Superseded ledger notice ∨ ∃ root, projectRoot config notice.project = .ok root ∧ Told after root notice)

variable {config : Configuration} {ledger : Ledger}

theorem Under.between (under : Under ledger.outbox start files) : Between config ledger notice start files :=
  ⟨under.grown, under.faithful, fun _ marked => .inl (under.marked ▸ marked)⟩

theorem settle_between (under : Under ledger.outbox start files)
    (due : Superseded ledger notice ∨ ∃ root, projectRoot config notice.project = .ok root ∧ Told files root notice) :
    Between config ledger notice start { files with delivered := notice.id :: files.delivered } where
  grown := under.grown.trans ⟨fun _ _ => id, fun _ _ => id, fun _ _ => id, fun _ => List.mem_cons_of_mem _⟩
  faithful := ⟨under.faithful.reports, under.faithful.events, under.faithful.signals⟩
  marked id member := by
    rcases List.mem_cons.mp member with rfl | earlier
    · exact .inr ⟨rfl, due⟩
    · exact .inl (under.marked ▸ earlier)

theorem publish_keeps {request : Request} (faithful : Faithful ledger.outbox start) (listed : notice ∈ ledger.outbox)
    (placed : projectRoot config notice.project = .ok root) :
    Journal.Keeps (Between config ledger notice start) (fun _ _ => True)
    (publish names sight root request notice) start := by
  have under : Under ledger.outbox start start := ⟨Grown.refl start, faithful, rfl⟩
  have settles : ∀ files, Under ledger.outbox start files → Told files root notice →
      Journal.Keeps (Between config ledger notice start) (fun _ _ => True) (settle notice.id) files := by
    intro files under told
    rw [settle, Journal.keeps_write]
    exact ⟨settle_between under (.inr ⟨root, placed, told⟩), trivial⟩
  simp only [publish, Sight.writing, Journal.keeps_bind, Journal.keeps_lift, Journal.keeps_require]
  intro _ _ _
  refine (retain_holds under fun other another same => ?_).mono (fun _ kept => kept.between) fun _ files kept => ?_
  · obtain rfl := place_root same
    exact ⟨notice, listed, same, request.plan, _, rfl⟩
  split
  · rw [Journal.keeps_bind]
    refine (project_holds kept.1).mono (fun _ kept => kept.between) fun result files kept => ?_
    rw [Journal.keeps_bind]
    exact (announce_holds kept.1 listed (by rintro ⟨⟩)).mono (fun _ kept => kept.between) fun _ after kept =>
      settles after kept.1 kept.2
  · rw [Journal.keeps_bind]
    exact (announce_holds kept.1 listed fun _ => rfl).mono (fun _ kept => kept.between) fun _ after kept =>
      settles after kept.1 kept.2

theorem deliver_keeps (faithful : Faithful ledger.outbox start) (listed : notice ∈ ledger.outbox) :
    Journal.Keeps (Between config ledger notice start) (fun _ _ => True)
    (deliverRow names config ledger sight notice) start := by
  have under : Under ledger.outbox start start := ⟨Grown.refl start, faithful, rfl⟩
  simp only [deliverRow, Journal.keeps_bind, Journal.keeps_lift]
  intro request found
  split
  · rename_i absent
    rw [settle, Journal.keeps_write]
    exact ⟨settle_between under (.inl (.inl ⟨request, map_error_ok found, absent⟩)), trivial⟩
  · split
    · rename_i recovered
      rw [settle, Journal.keeps_write]
      exact ⟨settle_between under (.inl (.inr recovered)), trivial⟩
    · simp only [Journal.keeps_bind, Journal.keeps_lift, Journal.keeps_attempt]
      intro root placed
      have keeps : Journal.Keeps (Between config ledger notice start) (fun _ _ => True)
        (publish names sight root request notice) start := publish_keeps faithful listed (map_error_ok placed)
      refine ⟨keeps.1, ?_⟩
      have last : Between config ledger notice start ((publish names sight root request notice).final start) := by
        rcases List.mem_cons.mp (Journal.final_mem_states (publish names sight root request notice)
          start) with same | visited
        · rw [same]
          exact under.between
        · exact keeps.1 _ visited
      split
      · exact (Journal.keeps_pure _).mpr trivial
      · rw [postpone, Journal.keeps_write]
        exact ⟨⟨⟨last.grown.artifacts, last.grown.events, last.grown.signals, last.grown.delivered⟩,
          ⟨last.faithful.reports, last.faithful.events, last.faithful.signals⟩, last.marked⟩, trivial⟩
      · exact (Journal.keeps_raise _).mpr trivial

end Delivery

section Runs

variable (names : EventNames) (host : Host) (config : Configuration)

def calls : List Move → List Call
  | [] => []
  | .call operation :: rest => operation :: calls rest
  | _ :: rest => calls rest

variable (moves : List Move)

theorem replay_ledger : (replay names host config moves).ledger = run host (calls moves) := by
  suffices folded : ∀ system : System, (moves.foldl (Move.apply names host config) system).ledger =
      (calls moves).foldl (commit host) system.ledger from folded {}
  induction moves with
  | nil => exact fun _ => rfl
  | cons move rest ih =>
      intro system
      rw [List.foldl_cons, ih]
      cases move with
      | call operation => rfl
      | deliver notice sight stop =>
          rw [Move.apply]
          split <;> rfl
      | describe root check descriptor => rfl

variable (early late : List Move)

theorem replay_append :
    replay names host config (early ++ late) = late.foldl (Move.apply names host config)
    (replay names host config early) :=
  List.foldl_append

theorem calls_append : calls (early ++ late) = calls early ++ calls late := by
  induction early with
  | nil => rfl
  | cons move rest ih => cases move <;> simp [calls, ih]

theorem replay_outbox :
    (replay names host config early).ledger.outbox ⊆ (replay names host config (early ++ late)).ledger.outbox := by
  rw [replay_ledger, replay_ledger, calls_append]
  exact (run_outbox host (calls early) (calls late)).subset

structure Moved (move : Move) (before after : System) : Prop where
  grown : Grown before.files after.files
  faithful : Faithful after.ledger.outbox after.files
  marked : ∀ id ∈ after.files.delivered, id ∈ before.files.delivered ∨ ∃ notice ∈ before.ledger.outbox, notice.id = id ∧
    (Superseded before.ledger notice ∨
      ∃ root, projectRoot config notice.project = .ok root ∧ Told after.files root notice)

theorem move_moved (past : List Move) (move : Move)
    (faithful : Faithful (replay names host config past).ledger.outbox (replay names host config past).files) :
    Moved config move (replay names host config past) (replay names host config (past ++ [move])) := by
  have wider := replay_outbox names host config past [move]
  have step : replay names host config (past ++ [move]) = move.apply names host config
    (replay names host config past) := by
    rw [replay_append]
    rfl
  rw [step] at wider ⊢
  generalize replay names host config past = system at *
  cases move with
  | call operation => exact ⟨Grown.refl _, faithful.wider wider, fun _ member => .inl member⟩
  | describe root check descriptor =>
      exact ⟨⟨fun _ _ => id, fun _ _ => id, fun _ _ => id, fun _ => id⟩,
        ⟨faithful.reports, faithful.events, faithful.signals⟩, fun _ member => .inl member⟩
  | deliver notice sight stop =>
      rw [Move.apply]
      split
      · rename_i taken
        have keeps : Journal.Keeps (Between config system.ledger notice system.files) (fun _ _ => True)
            (deliverRow names config system.ledger sight notice) system.files := deliver_keeps faithful taken.1
        have between : Between config system.ledger notice system.files
            ((((deliverRow names config system.ledger sight notice).run system.files).1.take stop).getLastD
            system.files) := by
          rcases List.mem_cons.mp List.getLastD_mem_cons with same | visited
          · rw [same]
            exact Under.between ⟨Grown.refl _, faithful, rfl⟩
          · exact keeps.1 _ (List.mem_of_mem_take visited)
        exact ⟨between.grown, between.faithful, fun id member =>
          (between.marked id member).imp_right fun ⟨same, told⟩ => ⟨notice, taken.1, same.symm, told⟩⟩
      · exact ⟨Grown.refl _, faithful, fun _ member => .inl member⟩

theorem replay_faithful :
    Faithful (replay names host config moves).ledger.outbox (replay names host config moves).files := by
  induction moves using List.reverseRecOn with
  | nil =>
      exact ⟨fun root other content held => (by cases held), fun root id event held => (by cases held),
        fun root id signal held => (by cases held)⟩
  | append_singleton past move ih => exact (move_moved names host config past move ih).faithful

theorem replay_grown :
    Grown (replay names host config early).files (replay names host config (early ++ late)).files := by
  induction late using List.reverseRecOn with
  | nil => exact (List.append_nil early).symm ▸ Grown.refl _
  | append_singleton past move ih =>
      rw [← List.append_assoc]
      exact ih.trans (move_moved names host config (early ++ past) move (replay_faithful names host config _)).grown

theorem published_events_verify :
    (∀ root id event, (replay names host config moves).files.events.get? (root, id) = some event →
      event.eventId = id ∧
        (verifyTerminalEvent names (replay names host config moves).files event = .ok () ↔ projectId root ≠ "")) ∧
    (∀ root id signal, (replay names host config moves).files.signals.get? (root, id) = some signal →
      ∃ event, (replay names host config moves).files.events.get? (root, id) = some event ∧
        signal = event.signal (root, id)) ∧
    ∀ later, Grown (replay names host config moves).files (replay names host config (moves ++ later)).files := by
  have faithful := replay_faithful names host config moves
  refine ⟨fun root id event held => ?_, faithful.signals, replay_grown names host config moves⟩
  obtain ⟨named, kept, path, digest, written, _⟩ := faithful.events root id event held
  exact ⟨named, verify_iff names written kept path digest⟩

def cancelled : List Move :=
  let plan : Plan := { stages := [{ id := "train", needs := some [{ resource := some "gpu" }] }] }
  let calls : List Call := [.configure (Dict.single "gpu" { release := some .process }),
    .submit "lab" "first" plan (some { id := "chat", wake := some true })]
  let ended := calls ++ (run countingHost calls).requests.map fun request => .cancel request.id
  ended.map .call ++ (run countingHost ended).outbox.map fun notice => .deliver notice { now := 9 } 9

-- uuid5(NAMESPACE_URL, ...) of the one notice below.
def eventNames : EventNames := ⟨fun _ => "ac06c313-3108-5f0e-ac5c-cade7b41319c", fun _ => by decide⟩

def lab : Configuration := { projects := Dict.single "lab" ⟨"/lab", Dict.empty, none⟩, resources := Dict.empty }

theorem place_kind {root : Path} {one two : Notice} (same : resultPlace root one = resultPlace root two) :
    one.request = two.request ∧ (one.status = .actionRequired ↔ two.status = .actionRequired) := by
  unfold resultPlace at same
  split at same <;> split at same <;> simp_all

theorem outcomes_agree (root : Path) (id : EventId) (event : Event)
    (held : (replay names host config moves).files.events.get? (root, id) = some event)
    (recipe : event.sourceKind = .resourceRecipe) :
    ∃ notice ∈ (replay names host config moves).ledger.outbox, notice.id = id ∧
      event.terminalStatus = terminalStatus notice.status ∧
      (∃ told plan stages, event.resultSha256 = .report (report told plan stages) ∧ told.request = notice.request ∧
        told.status = notice.status) ∧
      (notice.status ≠ .actionRequired →
        notice.status = outcomeStatus ((replay names host config moves).ledger.stagesOf notice.request)) := by
  have faithful := replay_faithful names host config moves
  obtain ⟨_, kept, _, _, _, notice, listed, same, status, place⟩ := faithful.events root id event held
  rw [place recipe] at kept
  obtain ⟨told, reported, alike, plan, stages, made⟩ := faithful.reports root notice _ kept
  obtain ⟨request, kind⟩ := place_kind alike
  have published : Published (replay names host config moves).ledger := by
    rw [replay_ledger]
    exact (run_notified host (calls moves)).published
  have outcome : ∀ other ∈ (replay names host config moves).ledger.outbox, other.status ≠ .actionRequired →
      other.status = outcomeStatus ((replay names host config moves).ledger.stagesOf other.request) := by
    intro other stored final
    rw [(published.named other stored).2, (published.settled other stored final).2]
    rfl
  refine ⟨notice, listed, same, status, ⟨told, plan, stages, made, request, ?_⟩, outcome notice listed⟩
  by_cases final : notice.status = .actionRequired
  · rw [final, kind.mpr final]
  · rw [outcome notice listed final, outcome told reported (fun wrong => final (kind.mp wrong)), request]

theorem outcomes_agree_cancelled :
    ∃ notice ∈ (replay eventNames countingHost lab cancelled).ledger.outbox, notice.status = .cancelled ∧
      outcomeStatus ((replay eventNames countingHost lab cancelled).ledger.stagesOf notice.request) = .cancelled := by
  have found : ((replay eventNames countingHost lab cancelled).ledger.outbox.any fun notice =>
      ((replay eventNames countingHost lab cancelled).files.events.get? ("/lab", notice.id)).any fun event =>
        decide (event.sourceKind = .resourceRecipe ∧ event.terminalStatus = .cancelled)) = true := by decide +kernel
  obtain ⟨named, _, found⟩ := List.any_eq_true.mp found
  obtain ⟨event, held, told⟩ := (Option.any_eq_true _ _).mp found
  obtain ⟨recipe, ended⟩ := of_decide_eq_true told
  obtain ⟨notice, listed, _, status, _, agrees⟩ :=
    outcomes_agree eventNames countingHost lab cancelled "/lab" named.id event held recipe
  have cancelled : notice.status = .cancelled := by
    rw [ended] at status
    generalize notice.status = known at status ⊢
    revert status
    cases known <;> decide
  exact ⟨notice, listed, cancelled, (agrees (by simp [cancelled])).symm.trans cancelled⟩

end Runs

end OrchestratorEngine.ResourceService.Outbox
