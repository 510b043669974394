import OrchestratorEngine.Foundation.Interleaving
import OrchestratorEngine.Monitors.Lifecycle

set_option autoImplicit false

namespace OrchestratorEngine.Monitors.Recovery

open Foundation

variable {ο τ : Type} (reporting : Reporting ο τ) (site : Site ο)

def Matched (result : Result ο) (evidence : Evidence ο) : Prop :=
  result.observation = evidence.observation ∧ result.status = reporting.verificationStatus evidence.observation

def Announces (result : Result ο) (evidence : Evidence ο) (event : Event) : Prop :=
  event.terminalStatus = reporting.eventStatus evidence.observation ∧
    event.resultSha256 = site.resultSha256 result ∧ event.evidenceSha256 = site.evidenceSha256 evidence

def Agreed (files : Files ο τ) : Prop :=
  ∃ descriptor result evidence event, files.descriptor = .whole descriptor ∧ files.result = some result ∧
    files.evidence = some evidence ∧ files.event = some event ∧
    descriptor.status = .terminal (reporting.monitorStatus evidence.observation) ∧ Matched reporting result evidence ∧
    Announces reporting site result evidence event

structure Filed (target : Option String) (files : Files ο τ) : Prop where
  complete : files.evidence.isSome → files.result.isSome ∧ files.summary = true
  matched : ∀ result evidence, files.result = some result → files.evidence = some evidence →
    Matched reporting result evidence
  announced : ∀ event, files.event = some event → event.wakeTarget = target ∧
    ∃ result evidence, files.result = some result ∧ files.evidence = some evidence ∧
      Announces reporting site result evidence event

def Tells (report : Report ο τ) (files : Files ο τ) : Prop :=
  files.summary = true ∧ ∃ result evidence, files.result = some result ∧ files.evidence = some evidence ∧
    reporting.monitorStatus report.observation = reporting.monitorStatus evidence.observation ∧
    reporting.eventStatus report.observation = reporting.eventStatus evidence.observation

inductive Progress (target : Option String) (files : Files ο τ) (report : Report ο τ) : List Stage → Prop where
  | owner (filed : Filed reporting site target files) (quiet : files.event = none) :
      Progress target files report [.owner, .summary, .result, .evidence, .event, .signal, .descriptor]
  | summary (filed : Filed reporting site target files) (quiet : files.event = none) :
      Progress target files report [.summary, .result, .evidence, .event, .signal, .descriptor]
  | result (filed : Filed reporting site target files) (quiet : files.event = none) (summary : files.summary = true) :
      Progress target files report [.result, .evidence, .event, .signal, .descriptor]
  | evidence (quiet : files.event = none) (summary : files.summary = true)
      (written : files.result = some (report.result reporting)) :
      Progress target files report [.evidence, .event, .signal, .descriptor]
  | event (filed : Filed reporting site target files) (tells : Tells reporting report files) :
      Progress target files report [.event, .signal, .descriptor]
  | signal (filed : Filed reporting site target files) (tells : Tells reporting report files)
      (emitted : files.event.isSome = true) : Progress target files report [.signal, .descriptor]
  | descriptor (filed : Filed reporting site target files) (tells : Tells reporting report files)
      (emitted : files.event.isSome = true) : Progress target files report [.descriptor]

section Progressing

variable {reporting site} {target : Option String} {files : Files ο τ} {report : Report ο τ}

theorem Filed.quiet_summary (filed : Filed reporting site target files) :
    Filed reporting site target { files with summary := true } :=
  ⟨fun present => ⟨(filed.complete present).1, rfl⟩, filed.matched, filed.announced⟩

theorem event_written (filed : Filed reporting site target files) (tells : Tells reporting report files)
    (aimed : report.descriptor.wakeTarget = target) :
    ∃ next, perform reporting site report .event files = .ok next ∧ next.descriptor = files.descriptor ∧
      next.launch = files.launch ∧ next.owner = files.owner ∧ Filed reporting site target next ∧
      Tells reporting report next ∧ next.event.isSome = true := by
  obtain ⟨summary, result, evidence, stored, recorded, status, told⟩ := tells
  have again : Tells reporting report files := ⟨summary, result, evidence, stored, recorded, status, told⟩
  have done (event : Event)
    (retained : retainEvent files.event (report.event reporting site result evidence) = .ok event) :
      perform reporting site report .event files = .ok { files with event := some event } := by
    simp only [perform, writeEvent, stored, recorded, retained]
  cases present : files.event with
  | none =>
      rw [present] at done
      refine ⟨_, done _ rfl, rfl, rfl, rfl, ⟨filed.complete, filed.matched, ?_⟩, again, rfl⟩
      intro event same
      cases same
      exact ⟨aimed, result, evidence, stored, recorded, told, rfl, rfl⟩
  | some event =>
      obtain ⟨sent, announced⟩ := filed.announced event present
      obtain ⟨result', evidence', stored', recorded', terminal, resultSha, evidenceSha⟩ := announced
      cases stored.symm.trans stored'
      cases recorded.symm.trans recorded'
      have same : ({ event with createdAt := report.finishedAt } : Event) = report.event reporting site
        result evidence := by
        rw [Report.event, told, ← terminal, ← resultSha, ← evidenceSha, aimed, ← sent]
      refine ⟨_, done event (by rw [present]; exact if_pos same), rfl, rfl, rfl,
        ⟨filed.complete, filed.matched, ?_⟩, again, rfl⟩
      intro other kept
      cases kept
      exact ⟨sent, result, evidence, stored, recorded, terminal, resultSha, evidenceSha⟩

theorem progress_step (stage : Stage) (rest : List Stage) (owned : files.owner = .whole ())
    (aimed : report.descriptor.wakeTarget = target)
    (progress : Progress reporting site target files report (stage :: rest)) :
    ∃ next, perform reporting site report stage files = .ok next ∧ next.owner = .whole () ∧ next.launch = files.launch ∧
      (rest ≠ [] → next.descriptor = files.descriptor ∧ Progress reporting site target next report rest) ∧
      (rest = [] → next.descriptor = .whole (report.final reporting) ∧ Agreed reporting site next) := by
  cases progress with
  | owner filed quiet =>
      exact ⟨files, by simp only [perform, claimOwner, owned], owned, rfl, fun _ => ⟨rfl, .summary filed quiet⟩, nofun⟩
  | summary filed quiet =>
      exact ⟨_, rfl, owned, rfl, fun _ => ⟨rfl, .result filed.quiet_summary quiet rfl⟩, nofun⟩
  | result filed quiet summary => exact ⟨_, rfl, owned, rfl, fun _ => ⟨rfl, .evidence quiet summary rfl⟩, nofun⟩
  | evidence quiet summary written =>
      refine ⟨_, rfl, owned, rfl, fun _ => ⟨rfl, .event ⟨?_, ?_, ?_⟩ ?_⟩, nofun⟩
      · intro _
        exact ⟨by rw [written]; rfl, summary⟩
      · intro result evidence stored recorded
        cases written.symm.trans stored
        cases recorded
        exact ⟨rfl, rfl⟩
      · intro event emitted
        cases quiet.symm.trans emitted
      · exact ⟨summary, _, _, written, rfl, rfl, rfl⟩
  | event filed tells =>
      obtain ⟨next, done, same, launch, owner, kept, again, emitted⟩ := event_written filed tells aimed
      exact ⟨next, done, owner.trans owned, launch, fun _ => ⟨same, .signal kept again emitted⟩, nofun⟩
  | signal filed tells emitted =>
      obtain ⟨summary, told⟩ := tells
      exact ⟨_, rfl, owned, rfl,
        fun _ => ⟨rfl, .descriptor ⟨filed.complete, filed.matched, filed.announced⟩ ⟨summary, told⟩ emitted⟩, nofun⟩
  | descriptor filed tells emitted =>
      obtain ⟨event, present⟩ := Option.isSome_iff_exists.mp emitted
      obtain ⟨_, result, evidence, stored, recorded, status, _⟩ := tells
      obtain ⟨_, result', evidence', stored', recorded', announced⟩ := filed.announced event present
      cases stored.symm.trans stored'
      cases recorded.symm.trans recorded'
      refine ⟨_, rfl, owned, rfl, fun more => absurd rfl more, fun _ => ⟨rfl, ?_⟩⟩
      exact ⟨_, result, evidence, event, rfl, stored, recorded, present, congrArg Status.terminal status,
        filed.matched result evidence stored recorded, announced⟩

theorem finalize_agreed (remaining : List Stage) (more : remaining ≠ []) (files : Files ο τ)
    (owned : files.owner = .whole ())
    (aimed : report.descriptor.wakeTarget = target) (progress : Progress reporting site target files report remaining) :
    ∃ final, finalize reporting site report remaining files = .ok final ∧ Agreed reporting site final := by
  induction remaining generalizing files with
  | nil => exact absurd rfl more
  | cons stage rest ih =>
      obtain ⟨next, done, owner, _, onward, last⟩ := progress_step stage rest owned aimed progress
      rw [finalize, done]
      by_cases ended : rest = []
      · subst ended
        exact ⟨next, rfl, (last rfl).2⟩
      · exact ih ended next owner (onward ended).2

-- A finalization that is cut off leaves what it has published, unless it has replaced
-- the result of earlier evidence.
def interruptible (files : Files ο τ) (remaining : List Stage) : Bool :=
  match remaining with
  | .evidence :: _ => files.evidence.isNone
  | _ => true

theorem progress_filed (remaining : List Stage) (cut : interruptible files remaining = true)
    (progress : Progress reporting site target files report remaining) : Filed reporting site target files := by
  cases progress with
  | owner filed | summary filed | result filed | event filed | signal filed | descriptor filed => exact filed
  | evidence quiet summary written =>
      have absent : files.evidence = none := Option.isNone_iff_eq_none.mp cut
      refine ⟨?_, ?_, ?_⟩
      · intro present
        rw [absent] at present
        cases present
      · intro result evidence _ recorded
        cases absent.symm.trans recorded
      · intro event emitted
        cases quiet.symm.trans emitted

-- What the strict reaper looks at besides, as every writer leaves it.
structure Intact (site : Site ο) (files : Files ο τ) : Prop where
  result : ∀ result, files.result = some result → result.schemaVersion = schemaVersion
  evidence : ∀ evidence, files.evidence = some evidence → evidence.schemaVersion = schemaVersion
  placed : ∀ descriptor, files.descriptor = .whole descriptor → descriptor.monitorDir = site.monitorDir

theorem Intact.admits {descriptor : Descriptor τ} {result : Result ο} {evidence : Evidence ο}
    (intact : Intact site files)
    (whole : files.descriptor = .whole descriptor) (stored : files.result = some result)
    (recorded : files.evidence = some evidence) : admits reporting site descriptor result evidence = true := by
  unfold Recovery.admits isSupportedSchemaVersion
  rw [intact.placed descriptor whole, intact.result result stored, intact.evidence evidence recorded]
  simp

theorem burial_progress (filed : Filed reporting site target files) (intact : Intact site files)
    (descriptor : Descriptor τ) (whole : files.descriptor = .whole descriptor) (now : String) :
    (burial reporting site files descriptor now).2 ≠ [] ∧
      (burial reporting site files descriptor now).1.descriptor = descriptor ∧
      Progress reporting site target files (burial reporting site files descriptor now).1
        (burial reporting site files descriptor now).2 := by
  have unannounced (incomplete : files.result = none ∨ files.evidence = none) : files.event = none := by
    cases present : files.event with
    | none => rfl
    | some event =>
        obtain ⟨_, result, evidence, stored, recorded, _⟩ := filed.announced event present
        cases incomplete with
        | inl absent => cases absent.symm.trans stored
        | inr absent => cases absent.symm.trans recorded
  unfold burial
  split
  · rename_i result evidence stored recorded
    have summary := (filed.complete (by rw [recorded]; rfl)).2
    rw [if_pos ⟨summary, intact.admits whole stored recorded⟩]
    exact ⟨nofun, rfl, .event filed ⟨summary, result, evidence, stored, recorded, reporting.recovered_monitor _,
      reporting.recovered_event _⟩⟩
  · rename_i incomplete
    refine ⟨nofun, rfl, .owner filed (unannounced ?_)⟩
    cases stored : files.result with
    | none => exact Or.inl rfl
    | some result =>
        cases recorded : files.evidence with
        | none => exact Or.inr rfl
        | some evidence => exact absurd recorded (incomplete result evidence stored)

end Progressing

def Files.found (files : Files ο τ) : Bool :=
  files.launch ||
    match files.descriptor with
    | .whole descriptor => descriptor.identified
    | _ => false

-- No process ends where the files that it leaves are lost: while the descriptor is being
-- created, before the supervisor is known, or between a second result and its evidence.
def timely : Step ο → Monitor ο τ → Bool
  | .launcherEnds, monitor =>
      match monitor.launcher with
      | .creating | .launching | .failing _ _ => false
      | .spawned => !monitor.supervisor.gone || monitor.files.found
      | _ => true
  | .supervisorEnds, monitor =>
      match monitor.supervisor with
      | .waiting => monitor.files.found || (match monitor.launcher with | .spawned => true | _ => false)
      | .finalizing _ _ remaining => interruptible monitor.files remaining
      | _ => true
  | .raises _ _, monitor =>
      match monitor.supervisor with
      | .finalizing handled _ remaining =>
          interruptible monitor.files remaining && (!handled || monitor.files.event.isNone)
      | _ => true
  | _, _ => true

structure Blank (files : Files ο τ) : Prop where
  result : files.result = none
  evidence : files.evidence = none
  event : files.event = none

def Launcher.done (launcher : Launcher ο τ) : Prop := launcher = .spawned ∨ launcher = .ended

inductive Life : Monitor ο τ → Prop where
  | unborn (files : Files ο τ) (launcher : Launcher ο τ)
      (early : launcher = .waiting ∨ launcher = .owning ∨ launcher = .owned) (absent : files.descriptor = .absent)
      (blank : Blank files) (unlaunched : files.launch = false) (owned : launcher = .owned → files.owner = .whole ()) :
      Life ⟨files, launcher, .unspawned, .idle⟩
  | creating (files : Files ο τ) (torn : files.descriptor = .torn) (owned : files.owner = .whole ())
    (blank : Blank files)
      (unlaunched : files.launch = false) : Life ⟨files, .creating, .unspawned, .idle⟩
  | launching (files : Files ο τ) (descriptor : Descriptor τ) (stored : files.descriptor = .whole descriptor)
      (starting : descriptor.status = .starting) (unknown : files.found = false) (owned : files.owner = .whole ())
      (blank : Blank files) : Life ⟨files, .launching, .unspawned, .idle⟩
  | failing (files : Files ο τ) (descriptor : Descriptor τ) (report : Report ο τ) (remaining : List Stage)
      (stored : files.descriptor = .whole descriptor) (starting : descriptor.status = .starting)
      (unknown : files.found = false) (owned : files.owner = .whole ())
      (aimed : report.descriptor.wakeTarget = descriptor.wakeTarget)
      (progress : Progress reporting site descriptor.wakeTarget files report remaining) :
      Life ⟨files, .failing report remaining, .unspawned, .idle⟩
  | waiting (files : Files ο τ) (descriptor : Descriptor τ) (launcher : Launcher ο τ) (done : launcher.done)
      (stored : files.descriptor = .whole descriptor) (starting : descriptor.status = .starting)
      (owned : files.owner = .whole ()) (blank : Blank files) : Life ⟨files, launcher, .waiting, .idle⟩
  | running (files : Files ο τ) (descriptor copy : Descriptor τ) (launcher : Launcher ο τ) (done : launcher.done)
      (stored : files.descriptor = .whole descriptor) (active : descriptor.status.ended = false)
      (identified : descriptor.identified = true) (owned : files.owner = .whole ()) (blank : Blank files)
      (aimed : copy.wakeTarget = descriptor.wakeTarget) : Life ⟨files, launcher, .running copy, .idle⟩
  | finalizing (files : Files ο τ) (descriptor : Descriptor τ) (launcher : Launcher ο τ) (handled : Bool)
      (report : Report ο τ) (remaining : List Stage) (done : launcher.done)
      (stored : files.descriptor = .whole descriptor) (active : descriptor.status.ended = false)
      (identified : descriptor.identified = true) (owned : files.owner = .whole ())
      (aimed : report.descriptor.wakeTarget = descriptor.wakeTarget)
      (progress : Progress reporting site descriptor.wakeTarget files report remaining) :
      Life ⟨files, launcher, .finalizing handled report remaining, .idle⟩
  | stranded (files : Files ο τ) (descriptor : Descriptor τ) (launcher : Launcher ο τ) (done : launcher.done)
      (stored : files.descriptor = .whole descriptor) (active : descriptor.status.ended = false)
      (found : files.found = true ∨ launcher = .spawned) (owned : files.owner = .whole ())
      (filed : Filed reporting site descriptor.wakeTarget files) : Life ⟨files, launcher, .ended, .idle⟩
  | burying (files : Files ο τ) (descriptor : Descriptor τ) (launcher : Launcher ο τ) (report : Report ο τ)
      (remaining : List Stage) (done : launcher.done) (stored : files.descriptor = .whole descriptor)
      (active : descriptor.status.ended = false) (found : files.found = true) (owned : files.owner = .whole ())
      (aimed : report.descriptor.wakeTarget = descriptor.wakeTarget)
      (unwritten : .evidence ∈ remaining → files.evidence = none)
      (progress : Progress reporting site descriptor.wakeTarget files report remaining) :
      Life ⟨files, launcher, .ended, .burying report remaining⟩
  | finished (files : Files ο τ) (launcher : Launcher ο τ) (supervisor : Supervisor ο τ) (done : launcher.done)
      (quiet : supervisor = .unspawned ∨ supervisor = .ended) (agreed : Agreed reporting site files) :
      Life ⟨files, launcher, supervisor, .idle⟩

end OrchestratorEngine.Monitors.Recovery
