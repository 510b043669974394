import OrchestratorEngine.Watcher.Processes

set_option autoImplicit false

namespace OrchestratorEngine.Watcher

open Foundation

def consults (receipts : List Receipt) (key : SignalKey) (look : Look) (scan : Scanning) : Bool :=
  decide (key ∉ scan.seen ∧ look.withheld = false ∧ look.disposition = .deliver ∧ scan.postponed key = false ∧
    ⟨look.host, key⟩ ∉ receipts)

def readFor (process : Nat) (action : Action) (system : System) : List String :=
  match system.phase process, action with
  | none, .retryDeferredEvent key => [key.project]
  | some (.opening projects _), .next => projects
  | some (.visiting projects _), .next => projects
  | some (.acknowledging ack), .next => [ack.key.project]
  | _, _ => []

def Phase.consumed : Phase → List SignalKey
  | .visiting _ scan => scan.seen
  | .merging projects scan latest => scan.seen ++ seenKeys (ensureProjectScopedState projects latest)
  | .receipting _ state => seenKeys state
  | .acknowledged ack state => ack.key :: seenKeys state
  | .retrying _ state => seenKeys state
  | _ => []

def Phase.host? : Phase → Option String
  | .acknowledging ack => some ack.host
  | .receipting ack _ => some ack.host
  | .acknowledged ack _ => some ack.host
  | _ => none

structure Clean (serves : String → Bool) (good : SignalKey → Prop) (system : System) : Prop where
  file : ∀ key ∈ seenKeys (loadState system.file), good key
  consumed : ∀ process phase, system.phase process = some phase → ∀ key ∈ phase.consumed, good key
  hosts : ∀ process phase, system.phase process = some phase → ∀ host ∈ phase.host?, serves host = true

theorem Clean.mono {serves : String → Bool} {good better : SignalKey → Prop} {system : System}
    (clean : Clean serves good system) (implies : ∀ key, good key → better key) : Clean serves better system :=
  ⟨fun key listed => implies key (clean.file key listed),
    fun process phase here key listed => implies key (clean.consumed process phase here key listed), clean.hosts⟩

theorem ensured_good {good : SignalKey → Prop} {state : WatcherState} (projects : List String)
    (seen : ∀ key ∈ seenKeys state, good key)
    (carried : state.seenSignalKeys = none → ∀ project ∈ projects, ∀ eventId ∈ state.seenEventIds,
    good ⟨project, eventId⟩) :
    ∀ key ∈ seenKeys (ensureProjectScopedState projects state), good key := by
  intro key listed
  cases present : state.seenSignalKeys with
  | none =>
      simp only [seenKeys, ensureProjectScopedState, present, Option.getD_none, Option.getD_some, List.mem_flatMap,
        List.mem_map] at listed
      obtain ⟨project, member, eventId, old, rfl⟩ := listed
      exact carried present project member eventId old
  | some keys =>
      refine seen key ?_
      simpa [seenKeys, ensureProjectScopedState, present] using listed

section Steps

variable {serves : String → Bool} {good : SignalKey → Prop} {system next : System} {process : Nat}

theorem Clean.moved (clean : Clean serves good system) (process : Nat) (phase : Phase)
    (consumed : ∀ key ∈ phase.consumed, good key) (hosts : ∀ host ∈ phase.host?, serves host = true)
    (file : Option WatcherState) (kept : ∀ key ∈ seenKeys (loadState file), good key) (legacy : Option WatcherState)
    (receipts : List Receipt) (lock : Option Nat) :
    Clean serves good { file, legacy, receipts, lock, phase := (system.move process phase).phase } := by
  refine ⟨kept, fun other held here => ?_, fun other held here => ?_⟩
  · by_cases own : other = process
    · subst own
      simp only [System.move, Function.update_self, Option.some.injEq] at here
      exact here ▸ consumed
    · simp only [System.move, Function.update_of_ne own] at here
      exact clean.consumed other held here
  · by_cases own : other = process
    · subst own
      simp only [System.move, Function.update_self, Option.some.injEq] at here
      exact here ▸ hosts
    · simp only [System.move, Function.update_of_ne own] at here
      exact clean.hosts other held here

variable {action : Action}

theorem start_clean (clean : Clean serves good system) (idle : system.phase process = none)
    (served : ∀ ack, action = .acknowledgeSignal ack → serves ack.host = true)
    (carried : (loadState system.file).seenSignalKeys = none → ∀ project ∈ readFor process action system,
      ∀ eventId ∈ (loadState system.file).seenEventIds, good ⟨project, eventId⟩)
    (taken : start process system action = some next) : Clean serves good next := by
  have plainly : ∀ phase : Phase, (∀ key ∈ phase.consumed, good key) → (∀ host ∈ phase.host?, serves host = true) →
      Clean serves good (system.move process phase) := fun phase consumed hosts =>
    clean.moved process phase consumed hosts system.file clean.file system.legacy system.receipts system.lock
  have nothing : ∀ key ∈ ([] : List SignalKey), good key := fun key listed => absurd listed List.not_mem_nil
  have nobody : ∀ host ∈ (none : Option String), serves host = true := fun host listed => absurd listed (by simp)
  cases action with
  | scanOnce projects now =>
      simp only [start] at taken
      split at taken <;> cases taken <;> exact plainly _ nothing nobody
  | acknowledgeSignal ack =>
      cases taken
      refine plainly _ nothing fun host named => ?_
      cases Option.mem_some.mp named
      exact served ack rfl
  | retryDeferredEvent key =>
      simp only [readFor, idle] at carried
      simp only [start] at taken
      split at taken <;> cases taken
      · exact plainly _ nothing nobody
      · exact plainly _ (ensured_good [key.project] clean.file carried) nobody
  | visit _ _ => cases taken
  | next => cases taken
  | stop => cases taken

theorem retried_seen {key : SignalKey} {state after : WatcherState} (retried : retryDeferred key state = some after) :
    seenKeys after = seenKeys state := by
  obtain ⟨previous, _, rfl⟩ := Option.map_eq_some_iff.mp retried
  rfl

theorem advance_clean {phase : Phase} (clean : Clean serves good system) (here : system.phase process = some phase)
    (carried : (loadState system.file).seenSignalKeys = none → ∀ project ∈ readFor process .next system,
      ∀ eventId ∈ (loadState system.file).seenEventIds, good ⟨project, eventId⟩)
    (received : ∀ host key, serves host = true → ⟨host, key⟩ ∈ next.receipts → good key)
    (taken : advance process system phase = some next) : Clean serves good next := by
  have consumed := clean.consumed process phase here
  have hosts := clean.hosts process phase here
  have nothing : ∀ key ∈ ([] : List SignalKey), good key := fun key listed => absurd listed List.not_mem_nil
  have nobody : ∀ host ∈ (none : Option String), serves host = true := fun host listed => absurd listed (by simp)
  simp only [readFor, here] at carried
  cases phase with
  | seeding projects now legacy =>
      cases taken
      exact clean.moved process (.opening projects now) nothing nobody (some (seeded legacy)) nothing _ _ _
  | opening projects now =>
      cases taken
      exact clean.moved process (.visiting projects (openScan projects now system.file))
        (ensured_good projects clean.file carried) nobody _ clean.file _ _ _
  | visiting projects scan =>
      simp only [advance] at taken
      split at taken
      · cases taken
        refine clean.moved process (.merging projects scan (loadState system.file)) (fun key listed => ?_) nobody _
          clean.file _ _ _
        rcases List.mem_append.mp listed with scanned | read
        · exact consumed key scanned
        · exact ensured_good projects clean.file carried key read
      · cases taken
  | merging projects scan latest =>
      cases taken
      refine clean.moved process (.finished scan.seen []) nothing nobody _ (fun key listed => consumed key ?_) _ _ _
      exact List.mem_append.mpr (List.mem_union_iff.mp listed)
  | acknowledging ack =>
      simp only [advance] at taken
      split at taken
      · split at taken
        · cases taken
          exact clean.moved process
            (.receipting ack (ensureProjectScopedState [ack.key.project] (loadState system.file)))
            (ensured_good [ack.key.project] clean.file carried) hosts _ clean.file _ _ _
        · cases taken
          exact clean.moved process .failed nothing nobody _ clean.file _ _ _
      · cases taken
  | receipting ack state =>
      cases taken
      refine clean.moved process (.acknowledged ack state) (fun key listed => ?_) hosts _ clean.file _ _ _
      rcases List.mem_cons.mp listed with rfl | read
      · exact received ack.host ack.key (hosts ack.host rfl) ((mem_add _ _ _).mpr (.inl rfl))
      · exact consumed key read
  | acknowledged ack state =>
      cases taken
      refine clean.moved process (.finished [ack.key] [ack.key]) nothing nobody _ (fun key listed => consumed key ?_)
        _ _ _
      exact List.mem_cons.mpr ((mem_add _ _ _).mp listed)
  | retrying key state =>
      simp only [advance] at taken
      split at taken
      · cases taken
        exact clean.moved process .failed nothing nobody _ clean.file _ _ _
      · rename_i after retried
        cases taken
        refine clean.moved process (.finished [] []) nothing nobody _ (fun other listed => consumed other ?_) _ _ _
        have kept : other ∈ seenKeys after := listed
        rwa [retried_seen retried] at kept
  | finished _ _ => cases taken
  | failed => cases taken

theorem visit_consumes (receipts : List Receipt) (key : SignalKey) (look : Look) (scan : Scanning) (other : SignalKey)
    (listed : other ∈ (visit receipts key look scan).seen) : other ∈ scan.seen ∨ other = key ∧
      (look.withheld = false ∧ (look.disposition = .consume ∨ ⟨look.host, key⟩ ∈ receipts) ∨
        consults receipts key look scan = true ∧
          (look.authorized = false ∨ look.authorized = true ∧ look.delivery = .done)) := by
  have consumed : other ∈ (scan.consume key).seen → other ∈ scan.seen ∨ other = key := fun listed =>
    ((mem_add _ _ _).mp listed).symm
  unfold visit at listed
  split at listed
  · exact .inl listed
  · rename_i fresh
    split at listed
    · exact .inl listed
    · rename_i offered
      rw [Bool.not_eq_true] at offered
      cases disposed : look.disposition with
      | hold => exact .inl (by simpa only [disposed] using listed)
      | consume =>
          rw [disposed] at listed
          exact (consumed listed).imp_right fun same => ⟨same, .inl ⟨offered, .inl rfl⟩⟩
      | deliver =>
          simp only [disposed] at listed
          split at listed
          · exact .inl listed
          · rename_i due
            split at listed
            · rename_i received
              exact (consumed listed).imp_right fun same => ⟨same, .inl ⟨offered, .inr received⟩⟩
            · rename_i unreceived
              have consulted : consults receipts key look scan = true := by
                simp [consults, fresh, offered, disposed, due, unreceived]
              split at listed
              · rename_i refused
                rw [Bool.not_eq_true'] at refused
                exact (consumed listed).imp_right fun same => ⟨same, .inr ⟨consulted, .inl refused⟩⟩
              · rename_i allowed
                rw [Bool.not_eq_true', Bool.not_eq_false] at allowed
                cases delivered : look.delivery with
                | done =>
                    rw [delivered] at listed
                    exact (consumed listed).imp_right fun same => ⟨same, .inr ⟨consulted, .inr ⟨allowed, rfl⟩⟩⟩
                | deferred code =>
                    rw [delivered] at listed
                    exact .inl listed

theorem act_clean (clean : Clean serves good system)
    (served : ∀ ack, action = .acknowledgeSignal ack → serves ack.host = true)
    (carried : (loadState system.file).seenSignalKeys = none → ∀ project ∈ readFor process action system,
      ∀ eventId ∈ (loadState system.file).seenEventIds, good ⟨project, eventId⟩)
    (received : ∀ host key, serves host = true → ⟨host, key⟩ ∈ next.receipts → good key)
    (visited : ∀ projects scan key look, system.phase process = some (.visiting projects scan) →
      action = .visit key look → key ∈ (visit system.receipts key look scan).seen → key ∈ scan.seen ∨ good key)
    (taken : act (process, action) system = some next) : Clean serves good next := by
  cases here : system.phase process with
  | none =>
      simp only [act, here] at taken
      exact start_clean clean here served carried taken
  | some phase =>
      cases action with
      | next => exact advance_clean clean here carried received (act_next here taken)
      | stop =>
          rw [act_stop here taken]
          unfold System.release
          split <;> exact clean.moved process .failed (fun _ listed => absurd listed List.not_mem_nil)
            (fun _ named => absurd named (by simp [Phase.host?])) _ clean.file _ _ _
      | visit key look =>
          cases phase with
          | visiting projects scan =>
              simp only [act, here] at taken
              split at taken
              · cases taken
                have before := clean.consumed process _ here
                refine clean.moved process (.visiting projects (visit system.receipts key look scan))
                  (fun other listed => ?_)
                  (fun _ named => absurd named (by simp [Phase.host?])) _ clean.file _ _ _
                rcases visit_consumes system.receipts key look scan other listed with old | ⟨rfl, -⟩
                · exact before other old
                · exact (visited projects scan other look here rfl listed).elim (before other) id
              · cases taken
          | _ => simp [act, here] at taken
      | _ => cases phase <;> simp [act, here] at taken

theorem act_receipts (taken : act (process, action) system = some next) :
    ∀ receipt ∈ system.receipts, receipt ∈ next.receipts := by
  cases here : system.phase process with
  | none =>
      simp only [act, here] at taken
      cases action <;> simp only [start] at taken <;> (try split at taken) <;> cases taken <;> exact fun _
        listed => listed
  | some phase =>
      cases action with
      | next =>
          have onward := act_next here taken
          cases phase with
          | receipting ack state =>
              cases onward
              exact fun receipt listed => (mem_add _ _ _).mpr (.inr listed)
          | acknowledging ack =>
              simp only [advance] at onward
              split at onward
              · split at onward <;> cases onward <;> exact fun _ listed => listed
              · cases onward
          | _ =>
              simp only [advance] at onward
              (try split at onward) <;> cases onward <;> exact fun _ listed => listed
      | stop =>
          rw [act_stop here taken]
          unfold System.release
          split <;> exact fun _ listed => listed
      | visit key look =>
          cases phase with
          | visiting projects scan =>
              simp only [act, here] at taken
              split at taken <;> cases taken
              exact fun _ listed => listed
          | _ => simp [act, here] at taken
      | _ => cases phase <;> simp [act, here] at taken

end Steps

end OrchestratorEngine.Watcher
