import OrchestratorEngine.Watcher.LostUpdates
import OrchestratorEngine.Watcher.Projects

set_option autoImplicit false

namespace OrchestratorEngine.Watcher.Faults

open Foundation
open ResourceAdapters (Json Text lit)

section Recording

variable {site : Site} {key : SignalKey}

def Processed (scanning : Scanning) : Prop := ∀ other ∈ scanning.acted, other ∈ scanning.processed

variable {scanning : Scanning}

theorem processed_act (processed : Processed scanning) (delivery : Delivery) :
    Processed (Watcher.performAction key delivery scanning) := by
  intro other listed
  have appended : other ∈ scanning.acted ++ [key] := by
    cases delivery <;> exact listed
  have kept : other ∈ add key scanning.processed := by
    rcases List.mem_append.mp appended with before | new
    · exact (mem_add _ _ _).mpr (.inr (processed other before))
    · exact (mem_add _ _ _).mpr (.inl (List.mem_singleton.mp new))
  cases delivery <;> exact kept

variable {project : Project}

theorem Course.processed {bound : Option Fields} {file : SignalFile} {signal : Fields}
    {before after : Scanning} (course : Course site project bound file signal before after)
    (processed : Processed before) : Processed after := by
  cases course with
  | still => exact processed
  | consumed key _ _ _ => exact fun other listed => (mem_add _ _ _).mpr (.inr (processed other listed))
  | acted key _ _ _ delivery => exact processed_act processed delivery

theorem visits_processed {bound : Option Fields} (items : List (SignalFile × Fields)) (scan final : Scan)
    (done : items.foldlM (visitEach site project bound) scan = .ok final) (processed : Processed scan.scanning) :
    Processed final.scanning := by
  refine fold_keeps (fun scan => Processed scan.scanning) ?_ items scan final done processed
  intro before item after taken
  exact (visit_course taken).processed

theorem turn_processed {scan next : Scan} (done : scanProject site scan project = .ok next)
    (processed : Processed scan.scanning) : Processed next.scanning := by
  obtain ⟨prepared, legible⟩ := turn_ready done
  obtain ⟨opened, same, -, turn⟩ := turn_opens prepared legible
  rw [turn] at done
  exact visits_processed _ opened next done (same ▸ processed)

theorem turns_processed (projects : List Project) (scan final : Scan)
    (done : projects.foldlM (scanProject site) scan = .ok final) (processed : Processed scan.scanning) :
    Processed final.scanning := by
  refine fold_keeps (fun scan => Processed scan.scanning) ?_ projects scan final done processed
  intro before project after taken
  exact turn_processed taken

theorem foldl_reaches {ι σ : Type} (step : σ → ι → σ) (good : σ → Prop) (target : ι)
    (sets : ∀ state, good (step state target))
    (keeps : ∀ state other, other ≠ target → good state → good (step state other)) (items : List ι) (state : σ)
    (reached : target ∈ items ∨ good state) : good (items.foldl step state) := by
  induction items generalizing state with
  | nil => exact reached.resolve_left List.not_mem_nil
  | cons other rest ih =>
      rw [List.foldl_cons]
      apply ih
      by_cases same : other = target
      · subst same
        exact .inr (sets state)
      · exact reached.imp (fun listed => (List.mem_cons.mp listed).resolve_left (Ne.symm same)) (keeps state other same)

theorem merge_deferred_kept {seen : List SignalKey} {record : Deferred} (latest : Dict SignalKey Deferred)
    (unseen : key ∉ seen) (held : scanning.deferred.get? key = some record) (processed : key ∈ scanning.processed) :
    (mergeDeferred seen scanning latest).get? key = some record := by
  refine foldl_reaches _ (fun merged => Dict.get? merged key = some record) key ?_ ?_ scanning.processed
    latest (.inl processed)
  · intro merged
    simp [unseen, held]
  · intro merged other apart kept
    split
    · simp [Ne.symm apart, kept]
    · split <;> simp [Ne.symm apart, kept]

def Recorded (roots : List String) (scanning : Scanning) (state : WatcherState) : Prop :=
  ∀ other ∈ scanning.acted, other ∈ seenKeys state ∨ (openScan roots scanning.now (some state)).postponed other = true

theorem merge_records (roots : List String) (latest : WatcherState) (booked : Booked scanning)
    (processed : Processed scanning) : Recorded roots scanning (mergeScan roots scanning latest) := by
  intro other acted
  rcases booked other acted with seen | waiting
  · exact .inl (merged_seen roots scanning latest other seen)
  · by_cases seen : other ∈ seenKeys (mergeScan roots scanning latest)
    · exact .inl seen
    · right
      cases held : scanning.deferred.get? other with
      | none =>
          rw [Scanning.postponed, held] at waiting
          cases waiting
      | some record =>
          have kept : (openScan roots scanning.now (some (mergeScan roots scanning latest))).deferred.get?
            other = some record :=
            merge_deferred_kept _ seen held (processed other acted)
          rw [Scanning.postponed, held] at waiting
          rw [Scanning.postponed, kept]
          exact waiting

end Recording

-- A scan isolates its faults: it returns, every problem is an action error,
-- every signal that awaits its action is acted on, and what was acted on is
-- in the state file.
def Isolates (site : Site) (projects : List Project) (now : Int) (file : Option WatcherState)
    (latest : WatcherState) : Prop :=
  ∃ final state, scanOnce site projects now file latest = .ok (final, state) ∧
    (∀ problem ∈ final.met, problem ∈ final.errors) ∧
    Served site projects { scanning := openScan (projects.map Project.root) now file } final ∧
    Recorded (projects.map Project.root) final.scanning state

theorem faults_isolated (site : Site) (projects : List Project) (now : Int) (file : Option WatcherState)
    (latest : WatcherState) : Isolates site projects now file latest ↔
      Along (scanProject site) (Ready site) projects { scanning := openScan (projects.map Project.root) now file } := by
  have booked : Booked (openScan (projects.map Project.root) now file) := fun _ acted => absurd acted List.not_mem_nil
  have processed : Processed (openScan (projects.map Project.root) now file) := fun _ acted =>
    absurd acted List.not_mem_nil
  have told : Told { scanning := openScan (projects.map Project.root) now file } :=
    ⟨fun _ listed => absurd listed List.not_mem_nil, fun _ listed => absurd listed List.not_mem_nil⟩
  rw [← projects_isolated projects _ booked fun _ listed => absurd listed List.not_mem_nil]
  unfold Isolates scanOnce
  simp only [bind_ok_iff, pure_ok, Except.ok.injEq, Prod.mk.injEq]
  constructor
  · rintro ⟨final, _, ⟨_, done, rfl, -⟩, reported, served, -⟩
    exact ⟨_, done, (told_quiet ((turns_moved projects _ _ done).told told)).mpr reported, served⟩
  · rintro ⟨final, done, quiet, served⟩
    have moved := turns_moved projects _ final done
    refine ⟨final, _, ⟨final, done, rfl, rfl⟩, (told_quiet (moved.told told)).mp quiet, served, ?_⟩
    exact merge_records _ latest (moved.grown.booked booked) (turns_processed projects _ final done processed)

section Poisoned

def plainSite (action : WatcherAction) : Site :=
  { action, adapters := [lit "codex"], calendar := ⟨fun _ => none⟩, print := fun _ => [] }

def goodFile : SignalFile where
  stem := lit "a"
  content := .value (.obj [(lit "event_id", .str (lit "a")), (lit "task_id", .str (lit "t")),
    (lit "terminal_status", .str (lit "completed"))])

-- A signal file that is no UTF-8, beside a good one.
def spoiled : Project := { root := "p", files := [goodFile, { stem := lit "b", content := .undecodable }] }

def misbound : Project where
  root := "p"
  files := [goodFile]
  binding := .value (.obj [(lit "schema_version", .int 1), (lit "kind", .str (lit "ORCHESTRATOR_BINDING")),
    (lit "host", .arr [])])

theorem poisoned_scans : (scanOnce (plainSite .notify) [spoiled] 0 none {} = .error .valueError ∧
      ¬ Isolates (plainSite .notify) [spoiled] 0 none {}) ∧
    (scanOnce (plainSite .callback) [misbound] 0 none {} = .error .typeError ∧ Raised.typeError.caught = false ∧
      ¬ Isolates (plainSite .callback) [misbound] 0 none {}) ∧
    (scanOnce (plainSite .notify) [{ root := "p", files := [goodFile] }] 0 none {}).map
    (fun done => done.1.scanning.acted) =
      .ok [⟨"p", "a"⟩] := by
  have undecodable : scanOnce (plainSite .notify) [spoiled] 0 none {} = .error .valueError := by rfl
  have unhashable : scanOnce (plainSite .callback) [misbound] 0 none {} = .error .typeError := by rfl
  refine ⟨⟨undecodable, ?_⟩, ⟨unhashable, rfl, ?_⟩, ?_⟩
  · rintro ⟨final, state, done, -⟩
    cases undecodable.symm.trans done
  · rintro ⟨final, state, done, -⟩
    cases unhashable.symm.trans done
  · rfl

end Poisoned

end OrchestratorEngine.Watcher.Faults
