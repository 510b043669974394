import OrchestratorEngine.Watcher.Isolated

set_option autoImplicit false

namespace OrchestratorEngine.Watcher.Faults

open Foundation
open ResourceAdapters (Json Text lit)

abbrev Listed (error : Raised) : Prop := error.listed = true

def signalOf (root : String) (seen : List SignalKey) (file : SignalFile) : Option (SignalFile × Fields) :=
  if fileKey root file ∈ seen then none else (loadObject file.content).toOption.map fun signal => (file, signal)

def signalsOf (project : Project) (seen : List SignalKey) : List (SignalFile × Fields) :=
  project.files.filterMap (signalOf project.root seen)

section Inboxes

variable {root : String} {seen : List SignalKey}

theorem signal_of_iff {read file : SignalFile} {signal : Fields} : signalOf root seen read = some (file, signal) ↔
    read = file ∧ fileKey root file ∉ seen ∧ loadObject file.content = .ok signal := by
  unfold signalOf
  split
  · rename_i known
    constructor
    · nofun
    · rintro ⟨rfl, fresh, -⟩
      exact absurd known fresh
  · rename_i fresh
    cases loaded : loadObject read.content with
    | error error =>
        simp only [Except.toOption, Option.map_none, reduceCtorEq, false_iff]
        rintro ⟨rfl, -, other⟩
        cases loaded.symm.trans other
    | ok fields =>
        simp only [Except.toOption, Option.map_some, Option.some.injEq, Prod.mk.injEq]
        constructor
        · rintro ⟨rfl, rfl⟩
          exact ⟨rfl, fresh, loaded⟩
        · rintro ⟨rfl, -, other⟩
          cases loaded.symm.trans other
          exact ⟨rfl, rfl⟩

theorem signals_of_iff {project : Project} {file : SignalFile} {signal : Fields} :
    (file, signal) ∈ signalsOf project seen ↔
      file ∈ project.files ∧ fileKey project.root file ∉ seen ∧ loadObject file.content = .ok signal := by
  unfold signalsOf
  rw [List.mem_filterMap]
  constructor
  · rintro ⟨read, listed, found⟩
    obtain ⟨rfl, fresh, loaded⟩ := signal_of_iff.mp found
    exact ⟨listed, fresh, loaded⟩
  · rintro ⟨listed, fresh, loaded⟩
    exact ⟨file, listed, signal_of_iff.mpr ⟨rfl, fresh, loaded⟩⟩

def Legible (root : String) (seen : List SignalKey) (files : List SignalFile) : Prop :=
  ∀ file ∈ files, fileKey root file ∉ seen → Confined Listed (loadObject file.content)

theorem inbox_ok (files : List SignalFile) (found : List (SignalFile × Fields) × List Problem)
    (done : inbox root seen files = .ok found) :
    found.1 = files.filterMap (signalOf root seen) ∧ ∀ problem ∈ found.2, problem.stage.shown = true := by
  induction files generalizing found with
  | nil =>
      cases done
      simp
  | cons file rest ih =>
      unfold inbox at done
      by_cases known : fileKey root file ∈ seen
      · rw [if_pos known] at done
        rw [List.filterMap_cons_none (by rw [signalOf, if_pos known])]
        exact ih found done
      · rw [if_neg known] at done
        cases loaded : loadObject file.content with
        | ok signal =>
            simp only [loaded] at done
            obtain ⟨later, onward, done⟩ := (bind_ok_iff _ _ _).mp done
            cases done
            obtain ⟨signals, shown⟩ := ih later onward
            rw [List.filterMap_cons_some (signal_of_iff.mpr ⟨rfl, known, loaded⟩), signals]
            exact ⟨rfl, shown⟩
        | error error =>
            simp only [loaded] at done
            split at done
            · obtain ⟨later, onward, done⟩ := (bind_ok_iff _ _ _).mp done
              cases done
              obtain ⟨signals, shown⟩ := ih later onward
              rw [List.filterMap_cons_none (by rw [signalOf, if_neg known, loaded]; rfl), signals]
              exact ⟨rfl, List.forall_mem_cons.mpr ⟨rfl, shown⟩⟩
            · cases done

theorem inbox_returns (files : List SignalFile) :
    (∃ found, inbox root seen files = .ok found) ↔ Legible root seen files := by
  induction files with
  | nil => simp [inbox, Legible]
  | cons file rest ih =>
      unfold Legible at ih ⊢
      unfold inbox
      rw [List.forall_mem_cons, ← ih]
      by_cases known : fileKey root file ∈ seen
      · rw [if_pos known]
        simp [known]
      · rw [if_neg known]
        simp only [known, not_false_eq_true, true_imp_iff]
        cases loaded : loadObject file.content with
        | ok signal =>
            simp only [bind_ok_iff, pure_ok, Except.ok.injEq, confined_ok, true_and]
            constructor
            · rintro ⟨_, later, onward, _⟩
              exact ⟨later, onward⟩
            · rintro ⟨later, onward⟩
              exact ⟨_, later, onward, rfl⟩
        | error error =>
            rw [confined_error]
            by_cases listed : error.listed = true
            · simp [Listed, listed, bind_ok_iff]
            · simp [Listed, listed]

end Inboxes

section Preparations

variable {site : Site} {project : Project}

variable {problem : Problem}

theorem ask_optional_returns {answer : Option (Except Raised Unit)} :
    (∃ problems, askOptional answer problem = .ok problems) ↔ ∀ given, answer = some given → Confined Caught given := by
  cases answer with
  | none => simp [askOptional]
  | some given =>
      unfold askOptional
      rw [Option.elim_some, noting_returns]
      simp

theorem read_binding_returns : (∃ problems, readBinding site project = .ok problems) ↔
    (site.binds = true → Confined Caught (loadBinding project.binding)) := by
  unfold readBinding
  split
  · rename_i binds
    rw [noting_returns]
    simp [binds]
  · rename_i free
    simp [free]

structure Prepared (site : Site) (project : Project) : Prop where
  binding : site.binds = true → Confined Caught (loadBinding project.binding)
  workstreams : Confined Caught project.reconciled
  continuity : ∀ given, project.continuity = some given → Confined Caught given
  queue : ∀ given, project.queue = some given → Confined Caught given

theorem prepare_returns {scan : Scan} : (∃ next, prepare site project scan = .ok next) ↔ Prepared site project := by
  unfold prepare
  simp only [bind_ok_iff, pure_ok, Except.ok.injEq]
  constructor
  · rintro ⟨_, binding, bound, workstreams, reconciled, continuity, asked, queue, ticked, -⟩
    exact ⟨read_binding_returns.mp ⟨binding, bound⟩, noting_returns.mp ⟨workstreams, reconciled⟩,
      ask_optional_returns.mp ⟨continuity, asked⟩, ask_optional_returns.mp ⟨queue, ticked⟩⟩
  · intro prepared
    obtain ⟨binding, bound⟩ := read_binding_returns.mpr prepared.binding
    obtain ⟨workstreams, reconciled⟩ := noting_returns.mpr prepared.workstreams
    obtain ⟨continuity, asked⟩ := ask_optional_returns.mpr prepared.continuity
    obtain ⟨queue, ticked⟩ := ask_optional_returns.mpr prepared.queue
    exact ⟨_, binding, bound, workstreams, reconciled, continuity, asked, queue, ticked, rfl⟩

variable {problems : List Problem}

theorem ask_optional_ok {answer : Option (Except Raised Unit)}
    (done : askOptional answer problem = .ok problems) : problems = [] ∨ problems = [problem] := by
  cases answer with
  | none =>
      cases done
      exact .inl rfl
  | some given => exact noting_ok done

theorem read_binding_ok (done : readBinding site project = .ok problems) :
    problems = [] ∨ problems = [⟨project.root, none, .binding⟩] := by
  unfold readBinding at done
  split at done
  · exact noting_ok done
  · cases done
    exact .inl rfl

theorem shown_single (visible : problem.stage.shown = true)
    (single : problems = [] ∨ problems = [problem]) : ∀ other ∈ problems, other.stage.shown = true := by
  intro other listed
  rcases single with rfl | rfl
  · cases listed
  · rwa [List.mem_singleton.mp listed]

theorem prepare_ok {scan next : Scan} (done : prepare site project scan = .ok next) :
    next.scanning = scan.scanning ∧ Notes scan next (failedWorkstreams project = []) := by
  unfold prepare at done
  simp only [bind_ok_iff, pure_ok, Except.ok.injEq] at done
  obtain ⟨binding, bound, workstreams, reconciled, continuity, asked, queue, ticked, rfl⟩ := done
  refine ⟨rfl, ?_⟩
  have shown : ∀ problem ∈ binding ++ workstreams ++ continuity ++ queue, problem.stage.shown = true := by
    intro problem listed
    rcases List.mem_append.mp listed with before | listed
    · rcases List.mem_append.mp before with before | listed
      · rcases List.mem_append.mp before with listed | listed
        · exact shown_single rfl (read_binding_ok bound) problem listed
        · exact shown_single rfl (noting_ok reconciled) problem listed
      · exact shown_single rfl (ask_optional_ok asked) problem listed
    · exact shown_single rfl (ask_optional_ok ticked) problem listed
  have hidden : ∀ problem ∈ failedWorkstreams project, problem.stage.shown = false := by
    intro problem listed
    unfold failedWorkstreams at listed
    split at listed
    · split at listed
      · rw [List.mem_singleton.mp listed]
        rfl
      · cases listed
    · cases listed
  exact ((notes_report shown).trans (notes_swallow hidden)).of_iff (by rw [true_and])

end Preparations

section Projects

variable {site : Site}

def Awaiting (site : Site) (project : Project) (scanning : Scanning) (key : SignalKey) : Prop :=
  ∃ file signal, file ∈ project.files ∧ fileKey project.root file ∉ scanning.seen ∧
    loadObject file.content = .ok signal ∧ eventKey project.root signal = some key ∧ key ∉ scanning.seen ∧
    Eligible site (site.bound project) file signal scanning key

structure Ready (site : Site) (scan : Scan) (project : Project) (_later : List Project) : Prop where
  prepared : Prepared site project
  running : failedWorkstreams project = []
  legible : Legible project.root scan.scanning.seen project.files
  signals : Along (visitEach site project (site.bound project)) (Harmless site project (site.bound project))
    (signalsOf project scan.scanning.seen) scan

theorem awaiting_iff {project : Project} {scanning : Scanning} {key : SignalKey} : Awaiting site project scanning key ↔
    ∃ item ∈ signalsOf project scanning.seen, eventKey project.root item.2 = some key ∧ key ∉ scanning.seen ∧
      Eligible site (site.bound project) item.1 item.2 scanning key := by
  constructor
  · rintro ⟨file, signal, listed, fresh, loaded, rest⟩
    exact ⟨(file, signal), signals_of_iff.mpr ⟨listed, fresh, loaded⟩, rest⟩
  · rintro ⟨⟨file, signal⟩, member, rest⟩
    obtain ⟨listed, fresh, loaded⟩ := signals_of_iff.mp member
    exact ⟨file, signal, listed, fresh, loaded, rest⟩

theorem turn_opens {project : Project} {scan : Scan} (prepared : Prepared site project)
    (legible : Legible project.root scan.scanning.seen project.files) : ∃ opened : Scan,
      opened.scanning = scan.scanning ∧ Notes scan opened (failedWorkstreams project = []) ∧
      scanProject site scan project =
        (signalsOf project scan.scanning.seen).foldlM (visitEach site project (site.bound project)) opened := by
  have prepares : ∃ next, prepare site project scan = .ok next := prepare_returns.mpr prepared
  obtain ⟨next, done⟩ := prepares
  obtain ⟨same, notes⟩ := prepare_ok done
  obtain ⟨⟨signals, invalid⟩, found⟩ := (inbox_returns project.files).mpr legible
  obtain ⟨rfl, shown⟩ := inbox_ok project.files _ found
  refine ⟨next.report invalid, same, (notes.trans (notes_report shown)).of_iff (by rw [and_true]), ?_⟩
  unfold scanProject
  rw [done, bind_ok, same, found, bind_ok]
  rfl

theorem turn_ready {project : Project} {scan final : Scan} (done : scanProject site scan project = .ok final) :
    Prepared site project ∧ Legible project.root scan.scanning.seen project.files := by
  unfold scanProject at done
  obtain ⟨next, prepared, done⟩ := (bind_ok_iff _ _ _).mp done
  obtain ⟨found, listed, -⟩ := (bind_ok_iff _ _ _).mp done
  rw [(prepare_ok prepared).1] at listed
  exact ⟨prepare_returns.mp ⟨next, prepared⟩, (inbox_returns _).mp ⟨found, listed⟩⟩

theorem turn_moved {project : Project} {scan final : Scan} (done : scanProject site scan project = .ok final) :
    Moved scan final := by
  obtain ⟨prepared, legible⟩ := turn_ready done
  obtain ⟨opened, same, notes, turn⟩ := turn_opens prepared legible
  rw [turn] at done
  have moved := visits_moved _ opened final done
  exact ⟨same ▸ moved.grown, moved.told ∘ notes.told, fun quiet => (notes.quiet.mp (moved.quiet quiet)).1⟩

theorem turns_moved (projects : List Project) (scan final : Scan)
    (done : projects.foldlM (scanProject site) scan = .ok final) :
    Moved scan final :=
  fold_kept Moved .refl .trans (fun _ _ _ taken => turn_moved taken) projects scan final done

def Served (site : Site) (projects : List Project) (scan final : Scan) : Prop :=
  Along (scanProject site) (fun before project _ => ∀ key, Awaiting site project before.scanning key →
    key ∈ final.scanning.acted) projects scan

theorem harmless_alike {project : Project} {bound : Option Fields} {first second : Scan} {item : SignalFile × Fields}
    {rest : List (SignalFile × Fields)} (same : first.scanning = second.scanning)
    (harmless : Harmless site project bound first item rest) : Harmless site project bound second item rest :=
  ⟨same ▸ harmless.handles, same ▸ harmless.shown, same ▸ harmless.alone⟩

theorem along_alike {project : Project} {bound : Option Fields} {first second : Scan}
    (items : List (SignalFile × Fields))
    (same : first.scanning = second.scanning)
    (along : Along (visitEach site project bound) (Harmless site project bound) items first) :
    Along (visitEach site project bound) (Harmless site project bound) items second :=
  along.alike (fun before after => before.scanning = after.scanning) harmless_alike visit_alike items same

theorem delivers_iff {project : Project} {scan opened final : Scan} (same : opened.scanning = scan.scanning) :
    Delivers site project (site.bound project) (signalsOf project scan.scanning.seen) opened final ↔
      ∀ key, Awaiting site project scan.scanning key → key ∈ final.scanning.acted := by
  unfold Delivers
  rw [same]
  constructor
  · intro delivers key awaiting
    obtain ⟨item, listed, named, fresh, eligible⟩ := awaiting_iff.mp awaiting
    exact delivers item listed key named fresh eligible
  · intro served item listed key named fresh eligible
    exact served key (awaiting_iff.mpr ⟨item, listed, named, fresh, eligible⟩)

theorem turn_isolated {project : Project} {rest : List Project} {scan : Scan} (booked : Booked scan.scanning)
    (quiet : Quiet scan) : (∃ next, scanProject site scan project = .ok next ∧ Quiet next ∧
      ∀ key, Awaiting site project scan.scanning key → key ∈ next.scanning.acted) ↔ Ready site scan project rest := by
  constructor
  · rintro ⟨next, done, quietly, served⟩
    obtain ⟨prepared, legible⟩ := turn_ready done
    obtain ⟨opened, same, notes, turn⟩ := turn_opens prepared legible
    rw [turn] at done
    have opening := (visits_moved _ opened next done).quiet quietly
    refine ⟨prepared, (notes.quiet.mp opening).2, legible, along_alike _ same ?_⟩
    exact (signals_isolated _ opened (same ▸ booked) opening).mp ⟨next, done, quietly, (delivers_iff same).mpr served⟩
  · intro ready
    obtain ⟨opened, same, notes, turn⟩ := turn_opens ready.prepared ready.legible
    obtain ⟨next, done, quietly, delivers⟩ := (signals_isolated _ opened (same ▸ booked)
      (notes.quiet.mpr ⟨quiet, ready.running⟩)).mpr (along_alike _ same.symm ready.signals)
    exact ⟨next, turn.trans done, quietly, (delivers_iff same).mp delivers⟩

theorem turn_settles {project : Project} {scan next : Scan} (done : scanProject site scan project = .ok next)
    {key : SignalKey} (awaiting : Awaiting site project scan.scanning key) :
    key ∈ next.scanning.acted ∨ key ∈ next.scanning.seen := by
  obtain ⟨prepared, legible⟩ := turn_ready done
  obtain ⟨opened, same, -, turn⟩ := turn_opens prepared legible
  rw [turn] at done
  obtain ⟨item, listed, named, fresh, eligible⟩ := awaiting_iff.mp awaiting
  rw [← same] at fresh eligible
  exact visits_settle _ opened next done item listed key named fresh eligible

theorem projects_isolated (projects : List Project) (scan : Scan) (booked : Booked scan.scanning) (quiet : Quiet scan) :
    (∃ final, projects.foldlM (scanProject site) scan = .ok final ∧ Quiet final ∧ Served site projects scan final) ↔
      Along (scanProject site) (Ready site) projects scan := by
  induction projects generalizing scan with
  | nil => simp [Along, Served, quiet]
  | cons project rest ih =>
      constructor
      · rintro ⟨final, done, quietly, served, later⟩
        obtain ⟨next, turned, onward⟩ := (fold_cons_ok project rest scan final).mp done
        have moved := turns_moved rest next final onward
        refine ⟨(turn_isolated booked quiet).mp ⟨next, turned, moved.quiet quietly, fun key awaiting => ?_⟩, ?_⟩
        · rcases turn_settles turned awaiting with acted | seen
          · exact acted
          · exact (moved.grown.fresh key (served key awaiting)).resolve_right fun unseen => unseen seen
        · intro other taken
          cases turned.symm.trans taken
          exact (ih next ((turn_moved turned).grown.booked booked) (moved.quiet quietly)).mp
            ⟨final, onward, quietly, later next turned⟩
      · rintro ⟨ready, along⟩
        obtain ⟨next, turned, quietly, served⟩ := (turn_isolated booked quiet).mpr ready
        obtain ⟨final, onward, quietFinal, later⟩ :=
          (ih next ((turn_moved turned).grown.booked booked) quietly).mpr (along next turned)
        refine ⟨final, (fold_cons_ok project rest scan final).mpr ⟨next, turned, onward⟩, quietFinal, ?_, ?_⟩
        · exact fun key awaiting => (turns_moved rest next final onward).grown.acted key (served key awaiting)
        · intro other taken
          cases turned.symm.trans taken
          exact later

end Projects

end OrchestratorEngine.Watcher.Faults
