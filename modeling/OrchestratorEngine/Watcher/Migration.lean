import OrchestratorEngine.Watcher.LostUpdates

set_option autoImplicit false

namespace OrchestratorEngine.Watcher

open Foundation

inductive Call where
  | scanOnce (projects : List String) (now : Int) (looks : List (SignalKey × Look))
  | acknowledgeSignal (ack : Acknowledging)
  | retryDeferredEvent (key : SignalKey)

structure Files where
  file : Option WatcherState
  legacy : Option WatcherState := none
  receipts : List Receipt := []
  acted : List SignalKey := []

def Call.projects : Call → List String
  | .scanOnce projects _ _ => projects
  | .acknowledgeSignal ack => [ack.key.project]
  | .retryDeferredEvent key => [key.project]

def Call.looks : Call → List (SignalKey × Look)
  | .scanOnce projects _ looks => looks.filter fun item => decide (item.1.project ∈ projects)
  | _ => []

def seedStateFromLegacy (files : Files) : Option WatcherState :=
  match files.file, files.legacy with
  | none, some legacy => some (seeded legacy)
  | file, _ => file

def perform (call : Call) (files : Files) : Files :=
  match call with
  | .scanOnce projects now looks =>
      let file := seedStateFromLegacy files
      let scan := visitAll files.receipts (looks.filter fun item => decide (item.1.project ∈ projects))
        (openScan projects now file)
      { files with file := some (mergeScan projects scan (loadState file)), acted := files.acted ++ scan.acted }
  | .acknowledgeSignal ack =>
      let state := ensureProjectScopedState [ack.key.project] (loadState files.file)
      if acknowledgeable ack files.receipts state then
        { files with file := some (acknowledge ack state), receipts := add ⟨ack.host, ack.key⟩ files.receipts }
      else files
  | .retryDeferredEvent key =>
      match retryDeferred key (ensureProjectScopedState [key.project] (loadState files.file)) with
      | some after => { files with file := some after }
      | none => files

def performAll (calls : List Call) (files : Files) : Files := calls.foldl (fun files call => perform call files) files

def writes (call : Call) (files : Files) : Bool :=
  match call with
  | .scanOnce _ _ _ => true
  | .acknowledgeSignal ack =>
      acknowledgeable ack files.receipts (ensureProjectScopedState [ack.key.project] (loadState files.file))
  | .retryDeferredEvent key =>
      ((deferredOf (ensureProjectScopedState [key.project] (loadState files.file))).get? key).isSome

-- The projects in which a scan looks at an event that the old file lists as seen.
def watched (old : WatcherState) (calls : List Call) : List String :=
  (calls.flatMap Call.looks).filterMap fun item =>
    if item.1.eventId ∈ old.seenEventIds then some item.1.project else none

def migratesAll (watched : List String) (call : Call) (files : Files) : Bool :=
  (loadState files.file).seenSignalKeys.isSome || !writes call files ||
    decide (∀ project ∈ watched, project ∈ call.projects)

def remembers (old : WatcherState) (call : Call) (files : Files) : Bool :=
  call.looks.all fun item => decide (item.1.eventId ∈ old.acknowledgedEvents.keys →
    item.1.eventId ∈ old.seenEventIds ∨ item.1 ∈ seenKeys (loadState files.file) ∨
      ⟨item.2.host, item.1⟩ ∈ files.receipts)

def Inherits (old : WatcherState) (watched : List String) (state : WatcherState) : Prop :=
  ∀ project ∈ watched, ∀ eventId ∈ old.seenEventIds, ⟨project, eventId⟩ ∈ seenKeys state

theorem Inherits.within {old before after : WatcherState} {watched : List String}
    (inherits : Inherits old watched before)
    (kept : Within before after) : Inherits old watched after :=
  fun project listed eventId was => kept.seen _ (inherits project listed eventId was)

theorem migration_inherits {old : WatcherState} (format : old.seenSignalKeys = none) (projects : List String) :
    Inherits old projects (ensureProjectScopedState projects old) := by
  intro project listed eventId was
  simp only [seenKeys, ensureProjectScopedState, format, Option.getD_none, Option.getD_some]
  exact List.mem_flatMap.mpr ⟨project, listed, List.mem_map.mpr ⟨eventId, was, rfl⟩⟩

theorem ensured_inherits {old state : WatcherState} (format : old.seenSignalKeys = none)
    {projects watched : List String}
    (history : state = old ∨ Inherits old watched state) {covered : List String}
    (within : ∀ project ∈ covered, project ∈ watched) (named : state = old → ∀ project ∈ covered, project ∈ projects) :
    Inherits old covered (ensureProjectScopedState projects state) := by
  rcases history with rfl | inherits
  · exact fun project listed eventId was =>
      migration_inherits format projects project (named rfl project listed) eventId was
  · exact fun project listed eventId was =>
      (inherits.within (ensured_within projects state)) project (within project listed) eventId was

theorem written_scoped {call : Call} {files : Files} {state : WatcherState} (present : files.file = some state)
    (written : writes call files = true) :
    ∃ after, (perform call files).file = some after ∧ after.seenSignalKeys.isSome = true ∧
      Within (ensureProjectScopedState call.projects state) after := by
  cases call with
  | scanOnce projects now looks =>
      refine ⟨_, rfl, rfl, ?_⟩
      simp only [seedStateFromLegacy, present, loadState, Option.getD_some]
      exact ⟨fun key listed => List.mem_union_iff.mpr (.inr listed), fun key listed => listed⟩
  | acknowledgeSignal ack =>
      simp only [writes, present, loadState, Option.getD_some] at written
      refine ⟨_, by simp only [perform, present, loadState, Option.getD_some, written, if_true]; rfl, rfl, ?_⟩
      exact acknowledged_within ack _
  | retryDeferredEvent key =>
      simp only [writes, present, loadState, Option.getD_some] at written
      obtain ⟨previous, found⟩ := Option.isSome_iff_exists.mp written
      cases retried : retryDeferred key (ensureProjectScopedState [key.project] state) with
      | none => simp [retryDeferred, found] at retried
      | some after =>
          have kept := retried_within retried
          refine ⟨after, by simp only [perform, present, loadState, Option.getD_some, retried], ?_, kept⟩
          obtain ⟨_, _, rfl⟩ := Option.map_eq_some_iff.mp retried
          rfl

theorem unwritten_same {call : Call} {files : Files} (unwritten : writes call files = false) :
    perform call files = files := by
  cases call with
  | scanOnce projects now looks => cases unwritten
  | acknowledgeSignal ack =>
      have refused : acknowledgeable ack files.receipts _ = false := unwritten
      simp [perform, refused]
  | retryDeferredEvent key =>
      have missing := Option.isNone_iff_eq_none.mp (Option.not_isSome _ ▸ congrArg not unwritten)
      simp [perform, retryDeferred, missing]

structure Migrated (old : WatcherState) (watched : List String) (files : Files) : Prop where
  history : ∃ state, files.file = some state ∧
    (state = old ∨ state.seenSignalKeys.isSome = true ∧ Inherits old watched state)
  quiet : ∀ key ∈ files.acted, key.eventId ∉ old.seenEventIds ∧ key.eventId ∉ old.acknowledgedEvents.keys

theorem scan_quiet {old state : WatcherState} {watched projects : List String} {now : Int}
    {looks : List (SignalKey × Look)} {files : Files} (format : old.seenSignalKeys = none)
    (present : files.file = some state) (history : state = old ∨ Inherits old watched state)
    (among : ∀ item ∈ (Call.scanOnce projects now looks).looks, item.1.eventId ∈ old.seenEventIds →
      item.1.project ∈ watched)
    (remembered : remembers old (.scanOnce projects now looks) files = true) (key : SignalKey)
    (acted : key ∈ (visitAll files.receipts (looks.filter fun item => decide (item.1.project ∈ projects))
      (openScan projects now (some state))).acted) :
    key.eventId ∉ old.seenEventIds ∧ key.eventId ∉ old.acknowledgedEvents.keys := by
  rcases visited_acted _ _ _ key acted with before | ⟨look, listed, unseen, unreceived⟩
  · cases before
  · have unopened : key ∉ seenKeys (ensureProjectScopedState projects state) := unseen
    have project : key.project ∈ projects := by simpa using (List.mem_filter.mp listed).2
    have unlisted : key.eventId ∉ old.seenEventIds := by
      intro was
      have covered : ∀ other ∈ [key.project], other ∈ watched := by
        simpa using among (key, look) listed was
      have inherits : Inherits old [key.project] (ensureProjectScopedState projects state) :=
        ensured_inherits format history covered fun _ => by simpa using project
      exact unopened (inherits key.project List.mem_cons_self key.eventId was)
    refine ⟨unlisted, fun acknowledged => ?_⟩
    have known := of_decide_eq_true (List.all_eq_true.mp remembered (key, look) listed) acknowledged
    simp only [present, loadState, Option.getD_some] at known
    rcases known with was | seen | received
    · exact unlisted was
    · exact unopened ((ensured_within projects state).seen key seen)
    · exact unreceived received

theorem perform_migrated {old : WatcherState} {watched : List String} (format : old.seenSignalKeys = none)
    (call : Call) (files : Files) (migrated : Migrated old watched files)
    (among : ∀ item ∈ call.looks, item.1.eventId ∈ old.seenEventIds → item.1.project ∈ watched)
    (fine : migratesAll watched call files = true) (remembered : remembers old call files = true) :
    Migrated old watched (perform call files) := by
  obtain ⟨state, present, history⟩ := migrated.history
  have told : state = old ∨ Inherits old watched state := history.imp_right fun later => later.2
  constructor
  · cases written : writes call files with
    | false =>
        rw [unwritten_same written]
        exact ⟨state, present, history⟩
    | true =>
        obtain ⟨after, now, bound, kept⟩ := written_scoped present written
        have inherits : Inherits old watched (ensureProjectScopedState call.projects state) := by
          apply ensured_inherits format told fun _ listed => listed
          intro same
          subst same
          simpa [migratesAll, present, loadState, format, written] using fine
        exact ⟨after, now, .inr ⟨bound, inherits.within kept⟩⟩
  · cases call with
    | scanOnce projects now looks =>
        intro key acted
        rcases List.mem_append.mp acted with earlier | fresh
        · exact migrated.quiet key earlier
        · have opened : seedStateFromLegacy files = some state := by simp only [seedStateFromLegacy, present]
          rw [opened] at fresh
          exact scan_quiet format present told among remembered key fresh
    | acknowledgeSignal ack =>
        simp only [perform]
        split <;> exact migrated.quiet
    | retryDeferredEvent key =>
        simp only [perform]
        split <;> exact migrated.quiet

theorem watched_among {old : WatcherState} {calls : List Call} {call : Call} (listed : call ∈ calls)
    (item : SignalKey × Look) (looked : item ∈ call.looks) (was : item.1.eventId ∈ old.seenEventIds) :
    item.1.project ∈ watched old calls :=
  List.mem_filterMap.mpr ⟨item, List.mem_flatMap.mpr ⟨call, listed, looked⟩, if_pos was⟩

theorem migration_keeps_history (old : WatcherState) (format : old.seenSignalKeys = none) (received : List Receipt)
    (legacy : Option WatcherState) (calls : List Call)
    (met : Meets (fun call files => some (perform call files))
      (fun call files => migratesAll (watched old calls) call files = true ∧ remembers old call files = true) calls
        { file := some old, legacy, receipts := received }) :
    ∀ key ∈ (performAll calls { file := some old, legacy, receipts := received }).acted,
      key.eventId ∉ old.seenEventIds ∧ key.eventId ∉ old.acknowledgedEvents.keys := by
  have reached : ∀ (calls : List Call) (files : Files),
      follow (fun call files => some (perform call files)) calls files = some (performAll calls files) := by
    intro calls
    induction calls with
    | nil => exact fun _ => rfl
    | cons call rest ih => exact fun files => ih (perform call files)
  have initial : Migrated old (watched old calls) { file := some old, legacy, receipts := received } :=
    ⟨⟨old, rfl, .inl rfl⟩, fun _ acted => absurd acted List.not_mem_nil⟩
  have among := met.listed (fun call => ∀ item ∈ call.looks, item.1.eventId ∈ old.seenEventIds →
    item.1.project ∈ watched old calls) _ _ fun call listed => watched_among listed
  refine (follow_invariant (Migrated old (watched old calls)) ?_ calls _ _ initial among (reached _ _)).quiet
  intro call files next migrated fine taken
  cases taken
  exact perform_migrated format call files migrated fine.1 fine.2.1 fine.2.2

def seenLongAgo : WatcherState := { seenEventIds := ["old"] }

def receivedLongAgo : WatcherState :=
  { seenEventIds := ["old"], acknowledgedEvents := Dict.single "told" ⟨"told", "codex"⟩ }

theorem first_project_forgets_other :
    (⟨"second", "old"⟩ : SignalKey) ∈ (performAll
      [.acknowledgeSignal ⟨⟨"first", "old"⟩, "codex", true⟩, .scanOnce ["first", "second"] 0 [(⟨"second", "old"⟩, {})]]
      { file := some seenLongAgo }).acted := by
  decide

def jointCalls : List Call :=
  [.scanOnce ["first", "second"] 0 [(⟨"second", "old"⟩, {}), (⟨"second", "told"⟩, { host := "codex" }),
      (⟨"first", "new"⟩, {})],
    .acknowledgeSignal ⟨⟨"first", "old"⟩, "codex", true⟩,
    .scanOnce ["second"] 0 [(⟨"second", "old"⟩, {}), (⟨"second", "told"⟩, { host := "claude" })]]

def toldBefore : Files := { file := some receivedLongAgo, receipts := [⟨"codex", "second", "told"⟩] }

theorem joint_scan_remembers :
    (performAll jointCalls toldBefore).acted = [⟨"first", "new"⟩] ∧
      "new" ∉ receivedLongAgo.seenEventIds ∧ "new" ∉ receivedLongAgo.acknowledgedEvents.keys :=
  ⟨by decide, migration_keeps_history receivedLongAgo rfl [⟨"codex", "second", "told"⟩] none jointCalls (by decide)
    ⟨"first", "new"⟩ (by decide)⟩

end OrchestratorEngine.Watcher
