import OrchestratorEngine.Watcher.Processes

set_option autoImplicit false

namespace OrchestratorEngine.Watcher

open Foundation

structure Within (before after : WatcherState) : Prop where
  seen : ∀ key ∈ seenKeys before, key ∈ seenKeys after
  acknowledged : ∀ key ∈ (acknowledgedOf before).keys, key ∈ (acknowledgedOf after).keys

theorem Within.refl (state : WatcherState) : Within state state := ⟨fun _ listed => listed, fun _ listed => listed⟩

theorem Within.trans {first second third : WatcherState} (lower : Within first second) (upper : Within second third) :
    Within first third :=
  ⟨fun key listed => upper.seen key (lower.seen key listed),
    fun key listed => upper.acknowledged key (lower.acknowledged key listed)⟩

variable (projects : List String)

theorem ensured_within (state : WatcherState) :
    Within state (ensureProjectScopedState projects state) := by
  constructor
  · intro key listed
    cases present : state.seenSignalKeys with
    | none => simp [seenKeys, present] at listed
    | some keys => simpa [seenKeys, ensureProjectScopedState, present] using listed
  · intro key listed
    cases present : state.acknowledgedSignals with
    | none => simp [acknowledgedOf, present] at listed
    | some records => simpa [acknowledgedOf, ensureProjectScopedState, present] using listed

theorem merged_within (scan : Scanning) (latest : WatcherState) :
    Within latest (mergeScan projects scan latest) := by
  refine (ensured_within projects latest).trans ⟨fun key listed => ?_, fun key listed => listed⟩
  exact List.mem_union_iff.mpr (.inr listed)

theorem merged_seen (scan : Scanning) (latest : WatcherState) (key : SignalKey)
    (listed : key ∈ scan.seen) : key ∈ seenKeys (mergeScan projects scan latest) :=
  List.mem_union_iff.mpr (.inl listed)

theorem set_keys {κ α : Type} [DecidableEq κ] (dict : Dict κ α) (key : κ) (value : α) (other : κ) :
    other ∈ (dict.set key value).keys ↔ other = key ∨ other ∈ dict.keys :=
  Dict.mem_set_items_keys key value dict.items other

theorem acknowledged_within (ack : Acknowledging) (state : WatcherState) : Within state (acknowledge ack state) := by
  constructor
  · intro key listed
    exact (mem_add _ _ _).mpr (.inr listed)
  · intro key listed
    exact (set_keys _ _ _ _).mpr (.inr listed)

theorem retried_within {key : SignalKey} {state after : WatcherState} (retried : retryDeferred key state = some after) :
    Within state after := by
  obtain ⟨previous, _, rfl⟩ := Option.map_eq_some_iff.mp retried
  exact ⟨fun _ listed => listed, fun _ listed => listed⟩

structure Covers (state : WatcherState) (seen acknowledged : List SignalKey) : Prop where
  seen : ∀ key ∈ seen, key ∈ seenKeys state
  acknowledged : ∀ key ∈ acknowledged, key ∈ (acknowledgedOf state).keys

theorem covers_nothing (state : WatcherState) : Covers state [] [] :=
  ⟨fun _ listed => absurd listed List.not_mem_nil, fun _ listed => absurd listed List.not_mem_nil⟩

theorem Covers.within {before after : WatcherState} {seen acknowledged : List SignalKey}
    (covers : Covers before seen acknowledged) (kept : Within before after) : Covers after seen acknowledged :=
  ⟨fun key listed => kept.seen key (covers.seen key listed),
    fun key listed => kept.acknowledged key (covers.acknowledged key listed)⟩

def Kept (system : System) : Prop :=
  ∀ process seen acknowledged, system.phase process = some (.finished seen acknowledged) →
    Covers (loadState system.file) seen acknowledged

def Phase.snapshot : Phase → Option WatcherState
  | .merging _ _ latest => some latest
  | .receipting _ state => some state
  | .acknowledged _ state => some state
  | _ => none

structure Safe (system : System) : Prop where
  kept : Kept system
  locked : ∀ process phase latest, system.phase process = some phase → phase.snapshot = some latest →
    system.lock = some process ∧ ∀ other seen acknowledged,
      system.phase other = some (.finished seen acknowledged) → Covers latest seen acknowledged

-- A write outside the lock writes over what the file had when it was read: it
-- must still be all there.
def undisturbed (label : Nat × Action) (system : System) : Bool :=
  let current := loadState system.file
  let within (state : WatcherState) : Bool :=
    decide ((∀ key ∈ seenKeys current, key ∈ seenKeys state) ∧
      ∀ key ∈ (acknowledgedOf current).keys, key ∈ (acknowledgedOf state).keys)
  match system.phase label.1, label.2 with
  | some (.retrying _ state), .next => within state
  | some (.seeding _ _ legacy), .next => within (seeded legacy)
  | _, _ => true

variable {system : System}

theorem Safe.moved (safe : Safe system) (process : Nat) (phase : Phase)
    (plain : phase.snapshot = none)
    (empty : ∀ seen acknowledged, phase = .finished seen acknowledged → seen = [] ∧ acknowledged = [])
    (file : Option WatcherState) (kept : Within (loadState system.file) (loadState file)) :
    Safe { system.move process phase with file } := by
  have finished : ∀ other seen acknowledged, (system.move process phase).phase other =
    some (.finished seen acknowledged) →
      (seen = [] ∧ acknowledged = []) ∨ system.phase other = some (.finished seen acknowledged) := by
    intro other seen acknowledged done
    by_cases own : other = process
    · subst own
      simp only [System.move, Function.update_self, Option.some.injEq] at done
      exact .inl (empty seen acknowledged done)
    · simp only [System.move, Function.update_of_ne own] at done
      exact .inr done
  constructor
  · intro other seen acknowledged done
    rcases finished other seen acknowledged done with ⟨rfl, rfl⟩ | before
    · exact covers_nothing _
    · exact (safe.kept other seen acknowledged before).within kept
  · intro holder held latest current reads
    by_cases own : holder = process
    · subst own
      simp only [System.move, Function.update_self, Option.some.injEq] at current
      rw [← current, plain] at reads
      cases reads
    · simp only [System.move, Function.update_of_ne own] at current
      obtain ⟨lock, covered⟩ := safe.locked holder held latest current reads
      refine ⟨lock, fun other seen acknowledged done => ?_⟩
      rcases finished other seen acknowledged done with ⟨rfl, rfl⟩ | before
      · exact covers_nothing _
      · exact covered other seen acknowledged before

theorem Safe.holding (safe : Safe system) (process : Nat) (phase : Phase) (latest : WatcherState)
    (reads : phase.snapshot = some latest) (receipts : List Receipt)
    (free : system.lock = none ∨ system.lock = some process)
    (covered : ∀ other seen acknowledged, system.phase other = some (.finished seen acknowledged) →
      Covers latest seen acknowledged) :
    Safe { system.move process phase with lock := some process, receipts } := by
  have unfinished : ∀ other seen acknowledged,
      (system.move process phase).phase other = some (.finished seen acknowledged) →
        system.phase other = some (.finished seen acknowledged) := by
    intro other seen acknowledged done
    by_cases own : other = process
    · subst own
      simp only [System.move, Function.update_self, Option.some.injEq] at done
      rw [done] at reads
      cases reads
    · simpa only [System.move, Function.update_of_ne own] using done
  constructor
  · intro other seen acknowledged done
    exact safe.kept other seen acknowledged (unfinished other seen acknowledged done)
  · intro holder held snapshot current same
    by_cases own : holder = process
    · subst own
      simp only [System.move, Function.update_self, Option.some.injEq] at current
      rw [← current, reads] at same
      cases same
      exact ⟨rfl, fun other seen acknowledged done => covered other seen acknowledged
        (unfinished other seen acknowledged done)⟩
    · simp only [System.move, Function.update_of_ne own] at current
      obtain ⟨lock, _⟩ := safe.locked holder held snapshot current same
      rcases free with idle | mine
      · rw [idle] at lock
        cases lock
      · rw [mine] at lock
        exact absurd (Option.some.inj lock).symm own

theorem Safe.released (safe : Safe system) (process : Nat) (phase : Phase) (latest : WatcherState)
    (holds : system.phase process = some phase) (reads : phase.snapshot = some latest) (after : WatcherState)
    (kept : Within latest after) (seen acknowledged : List SignalKey) (covers : Covers after seen acknowledged) :
    Safe { system.move process (.finished seen acknowledged) with file := some after, lock := none } := by
  obtain ⟨lock, covered⟩ := safe.locked process phase latest holds reads
  constructor
  · intro other keys acks done
    by_cases own : other = process
    · subst own
      simp only [System.move, Function.update_self, Option.some.injEq, Phase.finished.injEq] at done
      obtain ⟨rfl, rfl⟩ := done
      exact covers
    · simp only [System.move, Function.update_of_ne own] at done
      exact (covered other keys acks done).within kept
  · intro holder held snapshot current same
    by_cases own : holder = process
    · subst own
      simp only [System.move, Function.update_self, Option.some.injEq] at current
      subst current
      cases same
    · simp only [System.move, Function.update_of_ne own] at current
      obtain ⟨other, _⟩ := safe.locked holder held snapshot current same
      rw [lock] at other
      exact absurd (Option.some.inj other).symm own

theorem Safe.stopped (safe : Safe system) (process : Nat) :
    Safe ((system.move process .failed).release process) := by
  have moved : Safe { system.move process .failed with file := system.file } :=
    safe.moved process .failed rfl (fun _ _ same => by cases same) system.file (.refl _)
  unfold System.release
  split
  · rename_i mine
    refine ⟨moved.kept, fun holder held latest current reads => ?_⟩
    obtain ⟨lock, _⟩ := moved.locked holder held latest current reads
    have own : holder = process := Option.some.inj (lock.symm.trans mine)
    subst own
    simp only [System.move, Function.update_self, Option.some.injEq] at current
    subst current
    cases reads
  · exact moved

theorem start_safe {process : Nat} {system next : System} {action : Action} (safe : Safe system)
    (taken : start process system action = some next) : Safe next := by
  have plainly : ∀ phase : Phase, phase.snapshot = none → (∀ seen acknowledged, phase ≠ .finished seen acknowledged) →
      Safe (system.move process phase) := fun phase plain unfinished =>
    safe.moved process phase plain (fun seen acknowledged same => absurd same (unfinished seen acknowledged))
      system.file
      (.refl _)
  cases action with
  | scanOnce projects now =>
      simp only [start] at taken
      split at taken <;> cases taken <;> exact plainly _ rfl fun _ _ same => by cases same
  | acknowledgeSignal ack =>
      cases taken
      exact plainly _ rfl fun _ _ same => by cases same
  | retryDeferredEvent key =>
      simp only [start] at taken
      split at taken <;> cases taken <;> exact plainly _ rfl fun _ _ same => by cases same
  | visit _ _ => cases taken
  | next => cases taken
  | stop => cases taken

theorem advance_safe {process : Nat} {system next : System} {phase : Phase} (safe : Safe system)
    (here : system.phase process = some phase) (fine : undisturbed (process, .next) system = true)
    (taken : advance process system phase = some next) : Safe next := by
  cases phase with
  | seeding projects now legacy =>
      cases taken
      simp only [undisturbed, here, decide_eq_true_eq] at fine
      exact safe.moved process _ rfl (fun _ _ same => by cases same) (some (seeded legacy)) ⟨fine.1, fine.2⟩
  | opening projects now =>
      cases taken
      exact safe.moved process _ rfl (fun _ _ same => by cases same) system.file (.refl _)
  | visiting projects scan =>
      simp only [advance] at taken
      split at taken
      · rename_i idle
        cases taken
        exact safe.holding process _ (loadState system.file) rfl system.receipts (.inl idle) safe.kept
      · cases taken
  | merging projects scan latest =>
      cases taken
      exact safe.released process _ latest here rfl (mergeScan projects scan latest)
        (merged_within projects scan latest)
        scan.seen [] ⟨merged_seen projects scan latest, fun _ listed => absurd listed List.not_mem_nil⟩
  | acknowledging ack =>
      simp only [advance] at taken
      split at taken
      · rename_i idle
        split at taken
        · cases taken
          exact safe.holding process _ _ rfl system.receipts (.inl idle) fun other seen acknowledged done =>
            (safe.kept other seen acknowledged done).within (ensured_within _ _)
        · cases taken
          exact safe.moved process _ rfl (fun _ _ same => by cases same) system.file (.refl _)
      · cases taken
  | receipting ack state =>
      cases taken
      obtain ⟨lock, covered⟩ := safe.locked process _ state here rfl
      have held := safe.holding process (.acknowledged ack state) state rfl (add ⟨ack.host, ack.key⟩ system.receipts)
        (.inr lock) covered
      rw [← lock] at held
      exact held
  | acknowledged ack state =>
      cases taken
      refine safe.released process _ state here rfl (acknowledge ack state) (acknowledged_within ack state)
        [ack.key] [ack.key] ⟨fun key listed => ?_, fun key listed => ?_⟩
      · exact (mem_add _ _ _).mpr (.inl (List.mem_singleton.mp listed))
      · exact (set_keys _ _ _ _).mpr (.inl (List.mem_singleton.mp listed))
  | retrying key state =>
      simp only [advance] at taken
      split at taken
      · cases taken
        exact safe.moved process _ rfl (fun _ _ same => by cases same) system.file (.refl _)
      · rename_i after retried
        cases taken
        simp only [undisturbed, here, decide_eq_true_eq] at fine
        have current : Within (loadState system.file) state := ⟨fine.1, fine.2⟩
        exact safe.moved process _ rfl (fun _ _ same => by cases same; exact ⟨rfl, rfl⟩) (some after)
          (current.trans (retried_within retried))
  | finished _ _ => cases taken
  | failed => cases taken

theorem act_safe (label : Nat × Action) (system next : System) (safe : Safe system)
    (fine : undisturbed label system = true) (taken : act label system = some next) : Safe next := by
  obtain ⟨process, action⟩ := label
  cases here : system.phase process with
  | none =>
      simp only [act, here] at taken
      exact start_safe safe taken
  | some phase =>
      cases action with
      | next => exact advance_safe safe here fine (act_next here taken)
      | stop => exact act_stop here taken ▸ safe.stopped process
      | visit key look =>
          cases phase with
          | visiting projects scan =>
              simp only [act, here] at taken
              split at taken
              · cases taken
                exact safe.moved process _ rfl (fun _ _ same => by cases same) system.file (.refl _)
              · cases taken
          | _ => simp [act, here] at taken
      | _ => cases phase <;> simp [act, here] at taken

theorem undisturbed_updates_kept (file legacy : Option WatcherState) (receipts : List Receipt)
    (schedule : List (Nat × Action)) (final : System)
    (met : Meets act (fun label system => undisturbed label system = true) schedule { file, legacy, receipts })
    (reached : follow act schedule { file, legacy, receipts } = some final) (process : Nat)
    (seen acknowledged : List SignalKey) (done : final.phase process = some (.finished seen acknowledged)) :
    Covers (loadState final.file) seen acknowledged ∧
      ∀ key ∈ seen, ∀ projects now looks,
        key ∉ (visitAll final.receipts looks (openScan projects now final.file)).acted := by
  have initial : Safe { file, legacy, receipts } := by
    constructor
    · intro _ _ _ found
      cases found
    · intro _ _ _ found
      cases found
  have safe := follow_invariant Safe act_safe schedule _ final initial met reached
  have covers := safe.kept process seen acknowledged done
  refine ⟨covers, fun key listed projects now looks acted => ?_⟩
  have opened : key ∈ (openScan projects now final.file).seen :=
    (ensured_within projects (loadState final.file)).seen key (covers.seen key listed)
  rcases visited_acted final.receipts looks _ key acted with before | ⟨_, _, unseen, _⟩
  · cases before
  · exact unseen opened

def deferredAlone : WatcherState :=
  { seenSignalKeys := some []
    deferredSignals := some (Dict.single ⟨"lab", "late"⟩ { eventId := "late", status := .manualRequired })
    acknowledgedSignals := some Dict.empty }

def readBeforeOthers : List (Nat × Action) :=
  [(0, .retryDeferredEvent ⟨"lab", "late"⟩),
   (1, .acknowledgeSignal ⟨⟨"lab", "read"⟩, "codex", true⟩), (1, .next), (1, .next), (1, .next),
   (2, .scanOnce ["lab"] 0), (2, .next), (2, .visit ⟨"lab", "done"⟩ {}), (2, .next), (2, .next),
   (0, .next)]

theorem overtaken_retry_loses_updates :
    ∃ final, follow act readBeforeOthers { file := some deferredAlone } = some final ∧
      final.phase 0 = some (.finished [] []) ∧
      final.phase 1 = some (.finished [⟨"lab", "read"⟩] [⟨"lab", "read"⟩]) ∧
      final.phase 2 = some (.finished [⟨"lab", "read"⟩, ⟨"lab", "done"⟩] []) ∧
      (⟨"lab", "read"⟩ : SignalKey) ∉ (acknowledgedOf (loadState final.file)).keys ∧
      (⟨"lab", "done"⟩ : SignalKey) ∉ seenKeys (loadState final.file) ∧
      (⟨"lab", "done"⟩ : SignalKey) ∈
        (visit final.receipts ⟨"lab", "done"⟩ {} (openScan ["lab"] 0 final.file)).acted := by
  refine ⟨_, rfl, rfl, rfl, rfl, ?_, ?_, ?_⟩ <;> decide

def separately : List (Nat × Action) :=
  [(1, .acknowledgeSignal ⟨⟨"lab", "read"⟩, "codex", true⟩), (1, .next), (1, .next), (1, .next),
   (0, .retryDeferredEvent ⟨"lab", "late"⟩), (0, .next)]

theorem separate_calls_kept :
    ∃ final, follow act separately { file := some deferredAlone } = some final ∧
      Covers (loadState final.file) [⟨"lab", "read"⟩] [⟨"lab", "read"⟩] :=
  ⟨_, rfl, (undisturbed_updates_kept (some deferredAlone) none [] separately _ (by decide) rfl 1 _ _ rfl).1⟩

end OrchestratorEngine.Watcher
