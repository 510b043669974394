import OrchestratorEngine.Monitors.Recoverable

set_option autoImplicit false

namespace OrchestratorEngine.Monitors.Recovery

open Foundation

variable {ο τ : Type} {reporting : Reporting ο τ} {site : Site ο} {target : Option String} {files : Files ο τ}
  {report : Report ο τ}

theorem Filed.launched (filed : Filed reporting site target files) (launch : Bool) :
    Filed reporting site target { files with launch } :=
  ⟨filed.complete, filed.matched, filed.announced⟩

theorem Progress.launched {remaining : List Stage} (progress : Progress reporting site target files report remaining)
    (launch : Bool) : Progress reporting site target { files with launch } report remaining := by
  cases progress with
  | owner filed quiet => exact .owner (filed.launched launch) quiet
  | summary filed quiet => exact .summary (filed.launched launch) quiet
  | result filed quiet summary => exact .result (filed.launched launch) quiet summary
  | evidence quiet summary written => exact .evidence quiet summary written
  | event filed tells => exact .event (filed.launched launch) tells
  | signal filed tells emitted => exact .signal (filed.launched launch) tells emitted
  | descriptor filed tells emitted => exact .descriptor (filed.launched launch) tells emitted

theorem blank_filed (blank : Blank files) : Filed reporting site target files := by
  refine ⟨?_, ?_, ?_⟩
  · intro present
    rw [blank.evidence] at present
    cases present
  · intro result evidence stored
    cases blank.result.symm.trans stored
  · intro event emitted
    cases blank.event.symm.trans emitted

theorem blank_progress (blank : Blank files) : Progress reporting site target files report finalization :=
  .owner (blank_filed blank) blank.event

theorem published (remaining rest : List Stage) (next : Files ο τ) (owned : files.owner = .whole ())
    (aimed : report.descriptor.wakeTarget = target)
    (progress : Progress reporting site target files report remaining)
    (taken : publish reporting site report remaining files = some (next, rest)) :
    next.owner = .whole () ∧ next.launch = files.launch ∧
      (rest ≠ [] → next.descriptor = files.descriptor ∧ Progress reporting site target next report rest) ∧
      (rest = [] → Agreed reporting site next) ∧
      ((.evidence ∈ remaining → files.evidence = none) → .evidence ∈ rest → next.evidence = none) := by
  cases remaining with
  | nil => cases taken
  | cons stage others =>
      obtain ⟨after, done, owner, launch, onward, last⟩ := progress_step stage others owned aimed progress
      simp only [publish, done, Option.some.injEq, Prod.mk.injEq] at taken
      obtain ⟨rfl, rfl⟩ := taken
      refine ⟨owner, launch, onward, fun ended => (last ended).2, ?_⟩
      intro unwritten later
      have before := unwritten (List.mem_cons_of_mem stage later)
      cases progress with
      | owner filed quiet =>
          simp only [perform, claimOwner, owned, Except.ok.injEq] at done
          exact done ▸ before
      | summary | result =>
          cases done
          exact before
      | evidence | event | signal | descriptor => simp at later

theorem found_kept (next : Files ο τ) (launch : next.launch = files.launch)
    (same : next.descriptor = files.descriptor) :
    next.found = files.found := by
  unfold Files.found
  rw [launch, same]

variable (gone : Bool)

theorem doomed_whole (descriptor : Descriptor τ) (doom : doomed files gone = some descriptor) :
    files.descriptor = .whole descriptor ∧ descriptor.status.ended = false ∧ files.found = true ∧ gone = true := by
  unfold doomed at doom
  split at doom
  · rename_i stored
    split at doom
    · rename_i proved
      cases doom
      obtain ⟨active, known, gone⟩ := proved
      refine ⟨stored, active, ?_, gone⟩
      unfold Files.found
      rw [stored, Bool.or_eq_true]
      exact known.symm
    · cases doom
  · cases doom

theorem doomed_none_torn (unwritten : files.descriptor = .absent ∨ files.descriptor = .torn) :
    doomed files gone = none := by
  unfold doomed
  cases unwritten with
  | inl absent => rw [absent]
  | inr torn => rw [torn]

theorem doomed_alive : doomed files false = none := by
  unfold doomed
  split
  · exact if_neg fun proved => Bool.false_ne_true proved.2.2
  · rfl

theorem doomed_agreed (agreed : Agreed reporting site files) : doomed files gone = none := by
  obtain ⟨descriptor, _, _, _, stored, _, _, _, status, _⟩ := agreed
  unfold doomed
  rw [stored]
  refine if_neg fun proved => ?_
  rw [status] at proved
  exact Bool.false_ne_true proved.1.symm

section Stages

variable {next : Monitor ο τ} {label : Step ο} {launcher : Launcher ο τ} {descriptor : Descriptor τ}

theorem unborn_step (early : launcher = .waiting ∨ launcher = .owning ∨ launcher = .owned)
    (absent : files.descriptor = .absent) (blank : Blank files) (unlaunched : files.launch = false)
    (owned : launcher = .owned → files.owner = .whole ())
    (taken : step reporting site label ⟨files, launcher, .unspawned, .idle⟩ = some next) :
    Life reporting site next := by
  have unborn : Life reporting site ⟨files, launcher, .unspawned, .idle⟩ :=
    .unborn files launcher early absent blank unlaunched owned
  cases label with
  | own =>
      simp only [step] at taken
      split at taken
      · cases taken
        exact .unborn _ _ (Or.inr (Or.inl rfl)) absent ⟨blank.result, blank.evidence, blank.event⟩ unlaunched nofun
      · rename_i whole
        cases taken
        exact .unborn _ _ (Or.inr (Or.inr rfl)) absent blank unlaunched fun _ => whole
      · cases taken
  | fillOwner =>
      simp only [step] at taken
      split at taken
      · cases taken
        exact .unborn _ _ (Or.inr (Or.inr rfl)) absent ⟨blank.result, blank.evidence, blank.event⟩
          unlaunched fun _ => rfl
      · cases taken
  | create =>
      simp only [step] at taken
      split at taken
      · cases taken
        exact .creating _ rfl (owned rfl) ⟨blank.result, blank.evidence, blank.event⟩ unlaunched
      · cases taken
  | launcherEnds =>
      simp only [step, absent] at taken
      cases taken
      exact .unborn _ _ (Or.inl rfl) absent blank unlaunched nofun
  | reaperEnds =>
      cases taken
      exact unborn
  | reap now =>
      simp only [step, doomed_none_torn _ (Or.inl absent)] at taken
      split at taken
      · rename_i doom
        cases doom
      · cases taken
  | fill dispatch now | spawn | spawnFails error now | record | launcherPublishes =>
      simp only [step] at taken
      rcases early with rfl | rfl | rfl <;> cases taken
  | claim | observe | supervisorPublishes | raises | supervisorEnds | reaperPublishes => cases taken

theorem creating_step (torn : files.descriptor = .torn) (owned : files.owner = .whole ()) (blank : Blank files)
    (unlaunched : files.launch = false) (met : timely label ⟨files, .creating, .unspawned, .idle⟩ = true)
    (taken : step reporting site label ⟨files, .creating, .unspawned, .idle⟩ = some next) :
    Life reporting site next := by
  cases label with
  | fill dispatch now =>
      cases taken
      exact .launching _ _ rfl rfl (by simp [Files.found, unlaunched]) owned ⟨blank.result, blank.evidence, blank.event⟩
  | launcherEnds => cases met
  | reaperEnds =>
      cases taken
      exact .creating files torn owned blank unlaunched
  | _ => cases taken

theorem unknown_doomed (unknown : files.found = false) : doomed files gone = none := by
  cases doom : doomed files gone with
  | none => rfl
  | some descriptor =>
      obtain ⟨_, _, found, _⟩ := doomed_whole gone descriptor doom
      cases unknown.symm.trans found

theorem launching_step (stored : files.descriptor = .whole descriptor) (starting : descriptor.status = .starting)
    (unknown : files.found = false) (owned : files.owner = .whole ()) (blank : Blank files)
    (met : timely label ⟨files, .launching, .unspawned, .idle⟩ = true)
    (taken : step reporting site label ⟨files, .launching, .unspawned, .idle⟩ = some next) :
    Life reporting site next := by
  cases label with
  | spawn =>
      cases taken
      exact .waiting files descriptor _ (Or.inl rfl) stored starting owned blank
  | spawnFails error now =>
      simp only [step, stored] at taken
      cases taken
      exact .failing files descriptor _ _ stored starting unknown owned rfl (blank_progress blank)
  | launcherEnds => cases met
  | reaperEnds =>
      cases taken
      exact .launching files descriptor stored starting unknown owned blank
  | reap now =>
      simp only [step, Launcher.locked, unknown_doomed _ unknown] at taken
      cases taken
  | _ => cases taken

variable (remaining : List Stage)

theorem failing_step (stored : files.descriptor = .whole descriptor)
    (starting : descriptor.status = .starting) (unknown : files.found = false) (owned : files.owner = .whole ())
    (aimed : report.descriptor.wakeTarget = descriptor.wakeTarget)
    (progress : Progress reporting site descriptor.wakeTarget files report remaining)
    (met : timely label ⟨files, .failing report remaining, .unspawned, .idle⟩ = true)
    (taken : step reporting site label ⟨files, .failing report remaining, .unspawned, .idle⟩ = some next) :
    Life reporting site next := by
  cases label with
  | launcherPublishes =>
      simp only [step] at taken
      obtain ⟨⟨after, rest⟩, done, rfl⟩ := Option.map_eq_some_iff.mp taken
      obtain ⟨owner, launch, onward, last, _⟩ := published remaining rest after owned aimed progress done
      by_cases ended : rest = []
      · rw [if_pos ended]
        exact .finished after _ _ (Or.inr rfl) (Or.inl rfl) (last ended)
      · rw [if_neg ended]
        obtain ⟨same, further⟩ := onward ended
        exact .failing after descriptor _ _ (same.trans stored) starting
          ((found_kept after launch same).trans unknown) owner
          aimed further
  | launcherEnds => cases met
  | reaperEnds =>
      cases taken
      exact .failing files descriptor _ _ stored starting unknown owned aimed progress
  | reap now =>
      simp only [step, Launcher.locked, unknown_doomed _ unknown] at taken
      cases taken
  | _ => cases taken

theorem launcher_step (done : launcher.done) (supervisor : Supervisor ο τ) (reaper : Reaper ο τ)
    (stored : ∃ descriptor, files.descriptor = .whole descriptor)
    (labels : label = .record ∨ label = .launcherEnds)
    (taken : step reporting site label ⟨files, launcher, supervisor, reaper⟩ = some next) :
    next = ⟨{ files with launch := true }, .ended, supervisor, reaper⟩ ∨
      (label = .launcherEnds ∧ next = ⟨files, .ended, supervisor, reaper⟩) := by
  obtain ⟨descriptor, stored⟩ := stored
  rcases labels with rfl | rfl
  · rcases done with rfl | rfl
    · cases taken
      exact Or.inl rfl
    · cases taken
  · simp only [step, stored] at taken
    cases taken
    exact Or.inr ⟨rfl, rfl⟩

theorem done_unlocked (done : launcher.done) : launcher.locked = false := by
  rcases done with rfl | rfl <;> rfl

theorem waiting_step (done : launcher.done) (stored : files.descriptor = .whole descriptor)
    (starting : descriptor.status = .starting) (owned : files.owner = .whole ()) (blank : Blank files)
    (met : timely label ⟨files, launcher, .waiting, .idle⟩ = true)
    (taken : step reporting site label ⟨files, launcher, .waiting, .idle⟩ = some next) : Life reporting site next := by
  have active : descriptor.status.ended = false := by
    rw [starting]
    rfl
  cases label with
  | record =>
      rcases launcher_step done .waiting .idle ⟨descriptor, stored⟩ (Or.inl rfl) taken with rfl | ⟨wrong, _⟩
      · exact .waiting _ descriptor _ (Or.inr rfl) stored starting owned ⟨blank.result, blank.evidence, blank.event⟩
      · cases wrong
  | launcherEnds =>
      rcases launcher_step done .waiting .idle ⟨descriptor, stored⟩ (Or.inr rfl) taken with rfl | ⟨_, rfl⟩
      · exact .waiting _ descriptor _ (Or.inr rfl) stored starting owned ⟨blank.result, blank.evidence, blank.event⟩
      · exact .waiting files descriptor _ (Or.inr rfl) stored starting owned blank
  | claim now =>
      simp only [step, done_unlocked done, stored, starting] at taken
      cases taken
      exact .running _ _ _ _ done rfl rfl rfl owned ⟨blank.result, blank.evidence, blank.event⟩ rfl
  | supervisorEnds =>
      cases taken
      refine .stranded files descriptor launcher done stored active ?_ owned (blank_filed blank)
      simp only [timely, Bool.or_eq_true] at met
      refine met.imp_right ?_
      intro spawned
      rcases done with rfl | rfl
      · rfl
      · cases spawned
  | reap now =>
      simp only [step, Supervisor.gone, doomed_alive] at taken
      split at taken
      · rename_i doom
        cases doom
      · cases taken
  | reaperEnds =>
      cases taken
      exact .waiting files descriptor _ done stored starting owned blank
  | own | fillOwner | create | fill | spawn | spawnFails | launcherPublishes =>
      rcases done with rfl | rfl <;> cases taken
  | observe | supervisorPublishes | raises | reaperPublishes => cases taken

theorem running_step (copy : Descriptor τ) (done : launcher.done) (stored : files.descriptor = .whole descriptor)
    (active : descriptor.status.ended = false) (identified : descriptor.identified = true)
    (owned : files.owner = .whole ()) (blank : Blank files) (aimed : copy.wakeTarget = descriptor.wakeTarget)
    (taken : step reporting site label ⟨files, launcher, .running copy, .idle⟩ = some next) :
    Life reporting site next := by
  cases label with
  | record =>
      rcases launcher_step done (.running copy) .idle ⟨descriptor, stored⟩ (Or.inl rfl) taken with rfl | ⟨wrong, _⟩
      · exact .running _ descriptor copy _ (Or.inr rfl) stored active identified owned
          ⟨blank.result, blank.evidence, blank.event⟩ aimed
      · cases wrong
  | launcherEnds =>
      rcases launcher_step done (.running copy) .idle ⟨descriptor, stored⟩ (Or.inr rfl) taken with rfl | ⟨_, rfl⟩
      · exact .running _ descriptor copy _ (Or.inr rfl) stored active identified owned
          ⟨blank.result, blank.evidence, blank.event⟩ aimed
      · exact .running files descriptor copy _ (Or.inr rfl) stored active identified owned blank aimed
  | observe observation now =>
      cases taken
      exact .finalizing files descriptor launcher _ _ _ done stored active identified owned aimed (blank_progress blank)
  | supervisorEnds =>
      cases taken
      exact .stranded files descriptor launcher done stored active
        (Or.inl (by simp [Files.found, stored, identified])) owned
        (blank_filed blank)
  | reap now =>
      simp only [step, Supervisor.gone, doomed_alive] at taken
      split at taken
      · rename_i doom
        cases doom
      · cases taken
  | reaperEnds =>
      cases taken
      exact .running files descriptor copy _ done stored active identified owned blank aimed
  | own | fillOwner | create | fill | spawn | spawnFails | launcherPublishes =>
      rcases done with rfl | rfl <;> cases taken
  | claim | supervisorPublishes | raises | reaperPublishes => cases taken

theorem finalizing_step (handled : Bool) (remaining : List Stage) (done : launcher.done)
    (stored : files.descriptor = .whole descriptor) (active : descriptor.status.ended = false)
    (identified : descriptor.identified = true) (owned : files.owner = .whole ())
    (aimed : report.descriptor.wakeTarget = descriptor.wakeTarget)
    (progress : Progress reporting site descriptor.wakeTarget files report remaining)
    (met : timely label ⟨files, launcher, .finalizing handled report remaining, .idle⟩ = true)
    (taken : step reporting site label ⟨files, launcher, .finalizing handled report remaining, .idle⟩ = some next) :
    Life reporting site next := by
  have found : files.found = true := by simp [Files.found, stored, identified]
  cases label with
  | record =>
      rcases launcher_step done _ .idle ⟨descriptor, stored⟩ (Or.inl rfl) taken with rfl | ⟨wrong, _⟩
      · exact .finalizing _ descriptor _ _ _ _ (Or.inr rfl) stored active identified owned aimed
          (progress.launched true)
      · cases wrong
  | launcherEnds =>
      rcases launcher_step done _ .idle ⟨descriptor, stored⟩ (Or.inr rfl) taken with rfl | ⟨_, rfl⟩
      · exact .finalizing _ descriptor _ _ _ _ (Or.inr rfl) stored active identified owned aimed
          (progress.launched true)
      · exact .finalizing files descriptor _ _ _ _ (Or.inr rfl) stored active identified owned aimed progress
  | supervisorPublishes =>
      simp only [step] at taken
      obtain ⟨⟨after, rest⟩, written, rfl⟩ := Option.map_eq_some_iff.mp taken
      obtain ⟨owner, launch, onward, last, _⟩ := published remaining rest after owned aimed progress written
      by_cases ended : rest = []
      · rw [if_pos ended]
        exact .finished after _ _ done (Or.inr rfl) (last ended)
      · rw [if_neg ended]
        obtain ⟨same, further⟩ := onward ended
        exact .finalizing after descriptor _ _ _ _ done (same.trans stored) active identified owner aimed further
  | raises error now =>
      simp only [timely, Bool.and_eq_true, Bool.or_eq_true, Bool.not_eq_true'] at met
      obtain ⟨cut, quiet⟩ := met
      have filed := progress_filed remaining cut progress
      cases handled with
      | true =>
          cases taken
          have unannounced : files.event = none := Option.isNone_iff_eq_none.mp (quiet.resolve_left (by decide))
          exact .finalizing files descriptor launcher _ _ _ done stored active identified owned aimed
            (.owner filed unannounced)
      | false =>
          cases taken
          exact .stranded files descriptor launcher done stored active (Or.inl found) owned filed
  | supervisorEnds =>
      cases taken
      exact .stranded files descriptor launcher done stored active (Or.inl found) owned
        (progress_filed remaining met progress)
  | reap now =>
      simp only [step, Supervisor.gone, doomed_alive] at taken
      split at taken
      · rename_i doom
        cases doom
      · cases taken
  | reaperEnds =>
      cases taken
      exact .finalizing files descriptor launcher handled report remaining done stored active identified
        owned aimed progress
  | own | fillOwner | create | fill | spawn | spawnFails | launcherPublishes =>
      rcases done with rfl | rfl <;> cases taken
  | claim | observe | reaperPublishes => cases taken

theorem stranded_step (intact : Intact site files) (done : launcher.done)
    (stored : files.descriptor = .whole descriptor)
    (active : descriptor.status.ended = false) (found : files.found = true ∨ launcher = .spawned)
    (owned : files.owner = .whole ()) (filed : Filed reporting site descriptor.wakeTarget files)
    (met : timely label ⟨files, launcher, .ended, .idle⟩ = true)
    (taken : step reporting site label ⟨files, launcher, .ended, .idle⟩ = some next) : Life reporting site next := by
  cases label with
  | record =>
      rcases launcher_step done _ .idle ⟨descriptor, stored⟩ (Or.inl rfl) taken with rfl | ⟨wrong, _⟩
      · exact .stranded _ descriptor _ (Or.inr rfl) stored active (Or.inl rfl) owned (filed.launched true)
      · cases wrong
  | launcherEnds =>
      rcases launcher_step done _ .idle ⟨descriptor, stored⟩ (Or.inr rfl) taken with rfl | ⟨_, rfl⟩
      · exact .stranded _ descriptor _ (Or.inr rfl) stored active (Or.inl rfl) owned (filed.launched true)
      · refine .stranded files descriptor _ (Or.inr rfl) stored active (Or.inl ?_) owned filed
        cases found with
        | inl known => exact known
        | inr spawned =>
            subst spawned
            simpa [timely, Supervisor.gone] using met
  | supervisorEnds =>
      cases taken
      exact .stranded files descriptor launcher done stored active found owned filed
  | reap now =>
      simp only [step, Supervisor.gone, done_unlocked done] at taken
      split at taken
      · rename_i doom
        cases taken
        obtain ⟨whole, _, known, _⟩ := doomed_whole true _ doom
        cases stored.symm.trans whole
        obtain ⟨more, same, progress⟩ := burial_progress filed intact descriptor stored now
        refine .burying files descriptor launcher _ _ done stored active known owned (by rw [same]) ?_ progress
        intro later
        by_contra present
        cases recorded : files.evidence with
        | none => exact present recorded
        | some evidence =>
            obtain ⟨has, summary⟩ := filed.complete (by rw [recorded]; rfl)
            obtain ⟨result, kept⟩ := Option.isSome_iff_exists.mp has
            simp [burial, kept, recorded, summary, intact.admits stored kept recorded, recovery] at later
      · cases taken
  | reaperEnds =>
      cases taken
      exact .stranded files descriptor launcher done stored active found owned filed
  | own | fillOwner | create | fill | spawn | spawnFails | launcherPublishes =>
      rcases done with rfl | rfl <;> cases taken
  | claim | observe | supervisorPublishes | raises | reaperPublishes => cases taken

theorem cut_unwritten (unwritten : .evidence ∈ remaining → files.evidence = none) :
    interruptible files remaining = true := by
  cases remaining with
  | nil => rfl
  | cons stage rest =>
      cases stage with
      | evidence => exact Option.isNone_iff_eq_none.mpr (unwritten List.mem_cons_self)
      | owner | summary | result | event | signal | descriptor => rfl

theorem burying_step (done : launcher.done) (stored : files.descriptor = .whole descriptor)
    (active : descriptor.status.ended = false) (found : files.found = true) (owned : files.owner = .whole ())
    (aimed : report.descriptor.wakeTarget = descriptor.wakeTarget)
    (unwritten : .evidence ∈ remaining → files.evidence = none)
    (progress : Progress reporting site descriptor.wakeTarget files report remaining)
    (taken : step reporting site label ⟨files, launcher, .ended, .burying report remaining⟩ = some next) :
    Life reporting site next := by
  cases label with
  | record =>
      rcases launcher_step done _ _ ⟨descriptor, stored⟩ (Or.inl rfl) taken with rfl | ⟨wrong, _⟩
      · exact .burying _ descriptor _ _ _ (Or.inr rfl) stored active rfl owned aimed unwritten (progress.launched true)
      · cases wrong
  | launcherEnds =>
      rcases launcher_step done _ _ ⟨descriptor, stored⟩ (Or.inr rfl) taken with rfl | ⟨_, rfl⟩
      · exact .burying _ descriptor _ _ _ (Or.inr rfl) stored active rfl owned aimed unwritten (progress.launched true)
      · exact .burying files descriptor _ _ _ (Or.inr rfl) stored active found owned aimed unwritten progress
  | supervisorEnds =>
      cases taken
      exact .burying files descriptor launcher report remaining done stored active found owned aimed unwritten progress
  | reaperPublishes =>
      simp only [step] at taken
      obtain ⟨⟨after, rest⟩, written, rfl⟩ := Option.map_eq_some_iff.mp taken
      obtain ⟨owner, launch, onward, last, later⟩ := published remaining rest after owned aimed progress written
      by_cases ended : rest = []
      · rw [if_pos ended]
        exact .finished after _ _ done (Or.inr rfl) (last ended)
      · rw [if_neg ended]
        obtain ⟨same, further⟩ := onward ended
        exact .burying after descriptor _ _ _ done (same.trans stored) active
          ((found_kept after launch same).trans found)
          owner aimed (later unwritten) further
  | reaperEnds =>
      cases taken
      exact .stranded files descriptor launcher done stored active (Or.inl found) owned
        (progress_filed remaining (cut_unwritten remaining unwritten) progress)
  | own | fillOwner | create | fill | spawn | spawnFails | launcherPublishes =>
      rcases done with rfl | rfl <;> cases taken
  | claim | observe | supervisorPublishes | raises | reap => cases taken

theorem over_step (supervisor : Supervisor ο τ) (done : launcher.done)
    (quiet : supervisor = .unspawned ∨ supervisor = .ended)
    (agreed : Agreed reporting site files)
    (taken : step reporting site label ⟨files, launcher, supervisor, .idle⟩ = some next) :
    Life reporting site next := by
  have stored : ∃ descriptor, files.descriptor = .whole descriptor := by
    obtain ⟨descriptor, _, _, _, stored, _⟩ := agreed
    exact ⟨descriptor, stored⟩
  cases label with
  | record =>
      rcases launcher_step done supervisor .idle stored (Or.inl rfl) taken with rfl | ⟨wrong, _⟩
      · exact .finished _ _ _ (Or.inr rfl) quiet agreed
      · cases wrong
  | launcherEnds =>
      rcases launcher_step done supervisor .idle stored (Or.inr rfl) taken with rfl | ⟨_, rfl⟩
      · exact .finished _ _ _ (Or.inr rfl) quiet agreed
      · exact .finished files _ _ (Or.inr rfl) quiet agreed
  | supervisorEnds =>
      simp only [step] at taken
      split at taken
      · cases taken
      · cases taken
        exact .finished files _ _ done (Or.inr rfl) agreed
  | reap now =>
      simp only [step, doomed_agreed _ agreed] at taken
      split at taken
      · rename_i doom
        cases doom
      · cases taken
  | reaperEnds =>
      cases taken
      exact .finished files launcher supervisor done quiet agreed
  | own | fillOwner | create | fill | spawn | spawnFails | launcherPublishes =>
      rcases done with rfl | rfl <;> cases taken
  | claim | observe | supervisorPublishes | raises => rcases quiet with rfl | rfl <;> cases taken
  | reaperPublishes => cases taken

end Stages

theorem step_life (label : Step ο) (monitor next : Monitor ο τ) (life : Life reporting site monitor)
    (intact : Intact site monitor.files) (met : timely label monitor = true)
    (taken : step reporting site label monitor = some next) :
    Life reporting site next := by
  cases life with
  | unborn files launcher early absent blank unlaunched owned =>
      exact unborn_step early absent blank unlaunched owned taken
  | creating files torn owned blank unlaunched => exact creating_step torn owned blank unlaunched met taken
  | launching files descriptor stored starting unknown owned blank =>
      exact launching_step stored starting unknown owned blank met taken
  | failing files descriptor report remaining stored starting unknown owned aimed progress =>
      exact failing_step remaining stored starting unknown owned aimed progress met taken
  | waiting files descriptor launcher done stored starting owned blank =>
      exact waiting_step done stored starting owned blank met taken
  | running files descriptor copy launcher done stored active identified owned blank aimed =>
      exact running_step copy done stored active identified owned blank aimed taken
  | finalizing files descriptor launcher handled report remaining done stored active identified owned aimed progress =>
      exact finalizing_step handled remaining done stored active identified owned aimed progress met taken
  | stranded files descriptor launcher done stored active found owned filed =>
      exact stranded_step intact done stored active found owned filed met taken
  | burying files descriptor launcher report remaining done stored active found owned aimed unwritten progress =>
      exact burying_step remaining done stored active found owned aimed unwritten progress taken
  | finished files launcher supervisor done quiet agreed => exact over_step supervisor done quiet agreed taken

section Copies

def Launcher.copies : Launcher ο τ → List (Descriptor τ)
  | .failing report _ => [report.descriptor]
  | _ => []

def Supervisor.copies : Supervisor ο τ → List (Descriptor τ)
  | .running descriptor => [descriptor]
  | .finalizing _ report _ => [report.descriptor]
  | _ => []

def Reaper.copies : Reaper ο τ → List (Descriptor τ)
  | .burying report _ => [report.descriptor]
  | _ => []

-- Every copy of the descriptor, on disk or in a process, names the directory it is in.
structure Placed (site : Site ο) (monitor : Monitor ο τ) : Prop where
  intact : Intact site monitor.files
  launcher : ∀ descriptor ∈ monitor.launcher.copies, descriptor.monitorDir = site.monitorDir
  supervisor : ∀ descriptor ∈ monitor.supervisor.copies, descriptor.monitorDir = site.monitorDir
  reaper : ∀ descriptor ∈ monitor.reaper.copies, descriptor.monitorDir = site.monitorDir

theorem perform_intact (stage : Stage) (next : Files ο τ) (intact : Intact site files)
    (placed : report.descriptor.monitorDir = site.monitorDir)
    (done : perform reporting site report stage files = .ok next) : Intact site next := by
  cases stage with
  | owner =>
      simp only [perform, claimOwner] at done
      split at done
      · cases done
        exact intact
      · cases done
      · split at done <;> cases done
        exact ⟨intact.result, intact.evidence, intact.placed⟩
  | summary | signal =>
      cases done
      exact ⟨intact.result, intact.evidence, intact.placed⟩
  | result =>
      cases done
      exact ⟨fun result stored => Option.some.inj stored ▸ rfl, intact.evidence, intact.placed⟩
  | evidence =>
      cases done
      exact ⟨intact.result, fun evidence stored => Option.some.inj stored ▸ rfl, intact.placed⟩
  | event =>
      simp only [perform, writeEvent] at done
      split at done
      · split at done <;> cases done
        exact ⟨intact.result, intact.evidence, intact.placed⟩
      · cases done
  | descriptor =>
      cases done
      refine ⟨intact.result, intact.evidence, fun descriptor stored => ?_⟩
      cases stored
      exact placed

theorem publish_intact (remaining rest : List Stage) (next : Files ο τ) (intact : Intact site files)
    (placed : report.descriptor.monitorDir = site.monitorDir)
    (taken : publish reporting site report remaining files = some (next, rest)) : Intact site next := by
  unfold publish at taken
  split at taken
  · cases taken
  · split at taken
    · rename_i done
      cases taken
      exact perform_intact _ _ intact placed done
    · cases taken

theorem burial_descriptor (descriptor : Descriptor τ) (now : String) :
    (burial reporting site files descriptor now).1.descriptor = descriptor := by
  unfold burial
  split
  · split <;> rfl
  · rfl

section Placing

variable {label : Step ο} {monitor next : Monitor ο τ} (placed : Placed site monitor)
  (taken : step reporting site label monitor = some next)

include placed

theorem published_placed {report : Report ο τ} {remaining rest : List Stage} {after : Files ο τ}
    (own : report.descriptor.monitorDir = site.monitorDir)
    (written : publish reporting site report remaining monitor.files = some (after, rest)) :
    Placed site { monitor with files := after } :=
  ⟨publish_intact remaining rest after placed.intact own written, placed.launcher, placed.supervisor, placed.reaper⟩

theorem Placed.hired (hired : Launcher ο τ)
    (own : ∀ descriptor ∈ hired.copies, descriptor.monitorDir = site.monitorDir) :
    Placed site { monitor with launcher := hired } :=
  ⟨placed.intact, own, placed.supervisor, placed.reaper⟩

theorem Placed.supervised (turned : Supervisor ο τ)
    (own : ∀ descriptor ∈ turned.copies, descriptor.monitorDir = site.monitorDir) :
    Placed site { monitor with supervisor := turned } :=
  ⟨placed.intact, placed.launcher, own, placed.reaper⟩

theorem Placed.reaped (turned : Reaper ο τ)
    (own : ∀ descriptor ∈ turned.copies, descriptor.monitorDir = site.monitorDir) :
    Placed site { monitor with reaper := turned } :=
  ⟨placed.intact, placed.launcher, placed.supervisor, own⟩

theorem Placed.described (stored : File (Descriptor τ))
    (own : ∀ descriptor, stored = .whole descriptor → descriptor.monitorDir = site.monitorDir) :
    Placed site { monitor with files.descriptor := stored } :=
  ⟨⟨placed.intact.result, placed.intact.evidence, own⟩, placed.launcher, placed.supervisor, placed.reaper⟩

include taken

theorem launcher_placed (hires : label = .own ∨ label = .fillOwner ∨ label = .create ∨ label = .spawn ∨
    label = .record ∨
    label = .launcherEnds) : Placed site next := by
  have owned : ∀ owner : File Unit, Placed site { monitor with files.owner := owner } := fun _ =>
    ⟨⟨placed.intact.result, placed.intact.evidence, placed.intact.placed⟩, placed.launcher,
      placed.supervisor, placed.reaper⟩
  rcases hires with rfl | rfl | rfl | rfl | rfl | rfl
  · simp only [step] at taken
    split at taken <;> cases taken
    · exact (owned .torn).hired .owning (List.forall_mem_nil _)
    · exact placed.hired .owned (List.forall_mem_nil _)
  · simp only [step] at taken
    split at taken <;> cases taken
    exact (owned (.whole ())).hired .owned (List.forall_mem_nil _)
  · simp only [step] at taken
    split at taken <;> cases taken
    exact (placed.described .torn nofun).hired .creating (List.forall_mem_nil _)
  · simp only [step] at taken
    split at taken <;> cases taken
    exact (placed.hired .spawned (List.forall_mem_nil _)).supervised .waiting (List.forall_mem_nil _)
  · simp only [step] at taken
    split at taken <;> cases taken
    have launched : Placed site { monitor with files.launch := true } :=
      ⟨⟨placed.intact.result, placed.intact.evidence, placed.intact.placed⟩, placed.launcher, placed.supervisor,
        placed.reaper⟩
    exact launched.hired .ended (List.forall_mem_nil _)
  · simp only [step] at taken
    split at taken <;> cases taken
    · exact placed.hired .waiting (List.forall_mem_nil _)
    · exact placed.hired .ended (List.forall_mem_nil _)

theorem launching_placed
    (launches : (∃ dispatch now, label = .fill dispatch now) ∨ (∃ error now, label = .spawnFails error now) ∨
      label = .launcherPublishes) : Placed site next := by
  rcases launches with ⟨dispatch, now, rfl⟩ | ⟨error, now, rfl⟩ | rfl
  · simp only [step] at taken
    split at taken <;> cases taken
    refine (placed.described _ fun descriptor whole => ?_).hired .launching (List.forall_mem_nil _)
    cases whole
    rfl
  · simp only [step] at taken
    split at taken <;> cases taken
    rename_i descriptor _ whole
    exact placed.hired _ (List.forall_mem_singleton.mpr (placed.intact.placed descriptor whole))
  · simp only [step] at taken
    split at taken
    · rename_i report remaining phase
      obtain ⟨⟨after, rest⟩, written, rfl⟩ := Option.map_eq_some_iff.mp taken
      have own := placed.launcher report.descriptor (by rw [phase]; exact List.mem_singleton_self _)
      refine (published_placed placed own written).hired _ ?_
      split
      · exact List.forall_mem_nil _
      · exact List.forall_mem_singleton.mpr own
    · cases taken

theorem supervisor_placed
    (supervises : (∃ now, label = .claim now) ∨ (∃ observation now, label = .observe observation now) ∨
      label = .supervisorPublishes ∨ (∃ error now, label = .raises error now) ∨ label = .supervisorEnds) :
    Placed site next := by
  rcases supervises with ⟨now, rfl⟩ | ⟨observation, now, rfl⟩ | rfl | ⟨error, now, rfl⟩ | rfl
  · simp only [step] at taken
    split at taken
    · rename_i descriptor _ _ whole
      split at taken <;> cases taken
      have own := placed.intact.placed descriptor whole
      refine (placed.described _ fun copy claimed => ?_).supervised _ (List.forall_mem_singleton.mpr own)
      cases claimed
      exact own
    · cases taken
  · simp only [step] at taken
    split at taken <;> cases taken
    rename_i descriptor phase
    have own := placed.supervisor descriptor (by rw [phase]; exact List.mem_singleton_self _)
    exact placed.supervised _ (List.forall_mem_singleton.mpr own)
  · simp only [step] at taken
    split at taken
    · rename_i handled report remaining phase
      obtain ⟨⟨after, rest⟩, written, rfl⟩ := Option.map_eq_some_iff.mp taken
      have own := placed.supervisor report.descriptor (by rw [phase]; exact List.mem_singleton_self _)
      refine (published_placed placed own written).supervised _ ?_
      split
      · exact List.forall_mem_nil _
      · exact List.forall_mem_singleton.mpr own
    · cases taken
  · simp only [step] at taken
    split at taken <;> cases taken
    · rename_i report remaining phase
      have own := placed.supervisor report.descriptor (by rw [phase]; exact List.mem_singleton_self _)
      exact placed.supervised _ (List.forall_mem_singleton.mpr own)
    · exact placed.supervised .ended (List.forall_mem_nil _)
  · simp only [step] at taken
    split at taken <;> cases taken
    exact placed.supervised .ended (List.forall_mem_nil _)

theorem reaper_placed (reaps : (∃ now, label = .reap now) ∨ label = .reaperPublishes ∨ label = .reaperEnds) :
    Placed site next := by
  rcases reaps with ⟨now, rfl⟩ | rfl | rfl
  · simp only [step] at taken
    split at taken <;> cases taken
    rename_i descriptor _ _ doom
    refine placed.reaped _ (List.forall_mem_singleton.mpr ?_)
    rw [burial_descriptor]
    exact placed.intact.placed descriptor (doomed_whole _ descriptor doom).1
  · simp only [step] at taken
    split at taken
    · rename_i report remaining phase
      obtain ⟨⟨after, rest⟩, written, rfl⟩ := Option.map_eq_some_iff.mp taken
      have own := placed.reaper report.descriptor (by rw [phase]; exact List.mem_singleton_self _)
      refine (published_placed placed own written).reaped _ ?_
      split
      · exact List.forall_mem_nil _
      · exact List.forall_mem_singleton.mpr own
    · cases taken
  · cases taken
    exact placed.reaped .idle (List.forall_mem_nil _)

theorem step_placed : Placed site next := by
  cases label with
  | own | fillOwner | create | spawn | record | launcherEnds => exact launcher_placed placed taken (by simp)
  | fill | spawnFails | launcherPublishes => exact launching_placed placed taken (by simp)
  | claim | observe | supervisorPublishes | raises | supervisorEnds => exact supervisor_placed placed taken (by simp)
  | reap | reaperPublishes | reaperEnds => exact reaper_placed placed taken (by simp)

end Placing

end Copies

theorem start_placed : Placed site (Monitor.start : Monitor ο τ) :=
  ⟨⟨nofun, nofun, nofun⟩, List.forall_mem_nil _, List.forall_mem_nil _, List.forall_mem_nil _⟩

theorem start_life : Life reporting site (Monitor.start : Monitor ο τ) :=
  .unborn _ _ (Or.inl rfl) rfl ⟨rfl, rfl, rfl⟩ rfl nofun

theorem run_life (schedule : List (Step ο)) (final : Monitor ο τ)
    (met : Meets (step reporting site) (fun label monitor => timely label monitor = true) schedule Monitor.start)
    (reached : follow (step reporting site) schedule Monitor.start = some final) :
    Life reporting site final ∧ Placed site final := by
  refine follow_invariant (fun monitor => Life reporting site monitor ∧ Placed site monitor) ?_ schedule
    Monitor.start final
    ⟨start_life, start_placed⟩ met reached
  rintro label monitor next ⟨life, placed⟩ fine taken
  exact ⟨step_life label monitor next life placed.intact fine taken, step_placed placed taken⟩

end OrchestratorEngine.Monitors.Recovery
