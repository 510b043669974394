import OrchestratorEngine.Monitors.Transitions

set_option autoImplicit false

namespace OrchestratorEngine.Monitors

open Foundation

variable {ρ σ τ κ : Type}

def claiming (world : World ρ σ τ κ) (id : String) : Bool :=
  match world.holder with
  | some pid =>
      match world.phase pid with
      | .taking other _ => decide (other = id)
      | _ => false
  | none => false

-- A launcher that could not spawn its supervisor finalizes a monitor that nobody has
-- taken since, nor is about to.
def timely [DecidableEq σ] [DecidableEq τ] : Step ρ τ κ → World ρ σ τ κ → Bool
  | .giveUp pid _, world =>
      match world.phase pid with
      | .failing id descriptor =>
          decide (world.monitors.get? id = some (.whole descriptor)) && !claiming world id
      | _ => true
  | _, _ => true

def Supervised (world : World ρ σ τ κ) : Prop :=
  ∀ first second id, (world.phase first).claim = some (id, .supervisor) →
    (world.phase second).claim = some (id, .supervisor) → first = second

def Lasting (world next : World ρ σ τ κ) : Prop :=
  ∀ id descriptor status, world.monitors.get? id = some (.whole descriptor) → descriptor.status = .terminal status →
    ∃ later, next.monitors.get? id = some (.whole later) ∧ later.status = .terminal status

theorem enter_files {world next : World ρ σ τ κ} {pid : Nat} {target : Phase ρ σ τ κ}
    (taken : enter world pid target = some next) : next.monitors = world.monitors := by
  unfold enter at taken
  split at taken
  · cases taken
    rfl
  · cases taken

section Lasting

variable {world next : World ρ σ τ κ} {pid : Nat} {id : String} {kind : Kind} {stored : Stored σ τ}

theorem lasting_same (files : next.monitors = world.monitors) : Lasting world next := by
  intro id descriptor status found ended
  exact ⟨descriptor, by rw [files, found], ended⟩

theorem lasting_wrote (files : next.monitors = world.monitors.set id stored)
    (active : ∀ descriptor, world.monitors.get? id = some (.whole descriptor) → descriptor.status.ended = false) :
    Lasting world next := by
  intro path descriptor status found ended
  by_cases same : path = id
  · subst same
    have wrong := active descriptor found
    rw [ended] at wrong
    cases wrong
  · exact ⟨descriptor, by rw [files, Dict.get_set, if_neg same, found], ended⟩

theorem holds_active (holds : kind.Holds world pid id) (descriptor : Descriptor σ τ)
    (found : world.monitors.get? id = some (.whole descriptor)) : descriptor.status.ended = false := by
  cases kind with
  | creator => cases found.symm.trans holds
  | claimant =>
      obtain ⟨other, stored, starting⟩ := holds
      cases found.symm.trans stored
      rw [starting]
      rfl
  | supervisor =>
      obtain ⟨other, stored, running, _⟩ := holds
      cases found.symm.trans stored
      rw [running]
      rfl
  | reaper =>
      obtain ⟨other, _, stored, active, _⟩ := holds
      cases found.symm.trans stored
      exact active

end Lasting

variable {family : Family ρ σ κ} {world next : World ρ σ τ κ}

namespace Owned

variable {pid : Nat} {id : String} {descriptor current : Descriptor σ τ} {run : κ}

theorem agreed (owned : Owned family world) (claims : (world.phase pid).claim = some (id, .supervisor))
    (loaded : world.load id = some current) : Agrees world pid id current := by
  obtain ⟨stored, found, running, supervisor⟩ := owned.claims pid id _ claims
  cases found.symm.trans (load_stored world id current loaded)
  exact ⟨running, supervisor, current, found, rfl⟩

theorem scanned (owned : Owned family world) (request : ρ) (phase : world.phase pid = .admitting id request)
    (admitted : admission family id (family.subject request) world.monitors.items = .admitted) :
    Owned family (world.goto pid (.creating id ⟨family.subject request, .starting, none⟩)) := by
  have locked : (world.phase pid).locked = true := by
    rw [phase]
    rfl
  refine owned.turned rfl rfl rfl (fun _ _ held => held) ?_ (fun _ => owned.disciplined pid locked) nofun
    ⟨⟨rfl, rfl⟩, admitted_clear family id request _ admitted⟩ nofun
  intro gone
  rw [phase] at gone
  cases gone

theorem created (owned : Owned family world) (phase : world.phase pid = .creating id descriptor)
    (absent : world.monitors.get? id = none) :
    Owned family ((world.put id .torn).goto pid (.filling id descriptor)) := by
  have locked : (world.phase pid).locked = true := by
    rw [phase]
    rfl
  have copied := owned.copies pid
  rw [phase] at copied
  obtain ⟨fresh, clear⟩ := copied
  have files : ((world.put id .torn).goto pid (.filling id descriptor)).monitors = world.monitors.set id .torn := rfl
  have quiet : Quiet world id .torn := nofun
  have unrecorded : world.launches.get? id = none := by
    by_contra recorded
    exact owned.recorded id recorded absent
  refine owned.wrote files rfl rfl (fun _ _ held => held) ?_ (fun _ => owned.disciplined pid locked) ?_ ?_ ?_ ?_
    (Or.inl locked) (quiet.exclusive files owned.exclusive)
  · intro gone
    rw [phase] at gone
    cases gone
  · exact fun other kind _ claims => holds_present (owned.claims other id kind claims) absent
  · intro path kind claims
    cases claims
    exact (congrArg (Dict.get? · id) files).trans (by rw [Dict.get_set, if_pos rfl])
  · refine ⟨fresh, quiet.clear files id _ clear, unrecorded, ?_⟩
    rw [files, Dict.get_set, if_pos rfl]
    exact nofun
  · intro path launching
    cases launching
    refine Or.inr fun other _ launching => ?_
    have copied := owned.copies other
    cases theirs : world.phase other with
    | filling _ _ =>
        rw [theirs] at copied launching
        cases launching
        exact copied.2.2.2 absent
    | launching _ _ | failing _ _ =>
        rw [theirs] at copied launching
        cases launching
        exact copied.2.2 absent
    | launched _ _ =>
        rw [theirs] at copied launching
        cases launching
        exact copied.2 absent
    | _ =>
        rw [theirs] at launching
        cases launching

theorem filled (owned : Owned family world) (phase : world.phase pid = .filling id descriptor) :
    Owned family ((world.put id (.whole descriptor)).leave pid (.launching id descriptor)) := by
  have locked : (world.phase pid).locked = true := by
    rw [phase]
    rfl
  have copied := owned.copies pid
  rw [phase] at copied
  obtain ⟨fresh, clear, unrecorded, _⟩ := copied
  have files : ((world.put id (.whole descriptor)).leave pid (.launching id descriptor)).monitors =
      world.monitors.set id (.whole descriptor) := rfl
  have claims : (world.phase pid).claim = some (id, .creator) := by rw [phase]; rfl
  refine owned.wrote files rfl rfl (released _ pid (.launching id descriptor)) ?_ nofun (owned.rightful claims) nofun
    ⟨fresh, unrecorded, ?_⟩ ?_ (Or.inl locked)
    (admitted_exclusive files clear owned.exclusive)
  · intro gone
    rw [phase] at gone
    cases gone
  · rw [files, Dict.get_set, if_pos rfl]
    exact nofun
  · intro path launching
    cases launching
    exact Or.inl (by rw [phase]; rfl)

theorem recordedLaunch (owned : Owned family world) (supervisor : Nat)
    (phase : world.phase pid = .launched id supervisor) :
    Owned family ({ world with launches := world.launches.set id supervisor }.goto pid .idle) := by
  have copied := owned.copies pid
  rw [phase] at copied
  obtain ⟨unrecorded, present⟩ := copied
  have frame : Frame family pid world ({ world with launches := world.launches.set id supervisor }.goto pid .idle) := by
    refine ⟨?_, fun _ _ held => held, fun _ => Or.inl rfl, fun _ found => found, ?_, ?_, Or.inr fun _ _ clear => clear⟩
    · exact fun other apart => Function.update_of_ne apart _ _
    · intro path
      by_cases same : path = id
      · exact Or.inr (same ▸ ⟨by rw [phase]; rfl, unrecorded⟩)
      · exact Or.inl ((Dict.get_set world.launches id path supervisor).trans (if_neg same))
    · intro gone
      rw [phase] at gone
      cases gone
  have idle : (({ world with launches := world.launches.set id supervisor } : World ρ σ τ κ).goto pid .idle).phase pid =
      .idle := Function.update_self _ _ _
  refine frame.owned owned ?_ ?_ ?_ ?_ ?_ owned.exclusive
  · rw [idle]
    exact nofun
  · rw [idle]
    exact nofun
  · rw [idle]
    trivial
  · rw [idle]
    exact nofun
  · intro path recorded
    by_cases same : path = id
    · exact same ▸ present
    · refine owned.recorded path ?_
      rwa [show (({ world with launches := world.launches.set id supervisor } : World ρ σ τ κ).goto pid
        .idle).launches.get? path =
        world.launches.get? path from (Dict.get_set world.launches id path supervisor).trans (if_neg same)] at recorded

theorem ended (owned : Owned family world) (status : τ)
    (files : next.monitors = world.monitors.set id (.whole (descriptor.end status)))
    (launches : next.launches = world.launches) (phases : next.phase = Function.update world.phase pid .idle)
    (holds : ∀ other, other ≠ pid → world.holder = some other → next.holder = some other)
    (alive : world.phase pid ≠ .gone)
    (right : ∀ other kind, other ≠ pid → (world.phase other).claim ≠ some (id, kind)) : Owned family next :=
  owned.wrote files launches phases holds (fun gone => absurd gone alive) nofun right nofun trivial nofun
    (Or.inr (quiet_ended world id descriptor status))
    ((quiet_ended world id descriptor status).exclusive files owned.exclusive)

theorem unclaimed (owned : Owned family world) (phase : world.phase pid = .failing id descriptor)
    (stands : world.monitors.get? id = some (.whole descriptor)) (free : claiming world id = false) (other : Nat)
    (kind : Kind) : (world.phase other).claim ≠ some (id, kind) := by
  intro claims
  have copied := owned.copies pid
  rw [phase] at copied
  obtain ⟨⟨starting, unsupervised⟩, unrecorded, _⟩ := copied
  have holds := owned.claims other id kind claims
  cases kind with
  | creator => cases stands.symm.trans holds
  | claimant =>
      cases theirs : world.phase other with
      | taking path copy =>
          have held := owned.disciplined other (by rw [theirs]; rfl)
          rw [theirs] at claims
          cases claims
          simp [claiming, held, theirs] at free
      | _ =>
          rw [theirs] at claims
          cases claims
  | supervisor =>
      obtain ⟨stored, found, running, _⟩ := holds
      cases stands.symm.trans found
      cases starting.symm.trans running
  | reaper =>
      obtain ⟨stored, gone, found, _, supervised, _⟩ := holds
      cases stands.symm.trans found
      rw [World.supervisor, unsupervised] at supervised
      cases unrecorded.symm.trans supervised

theorem held (owned : Owned family world) (phase : world.phase pid = .taking id descriptor) :
    Owned family ((world.put id (.whole (descriptor.held pid))).leave pid
      (.supervising id (descriptor.held pid))) := by
  have stored := owned.copies pid
  rw [phase] at stored
  have claims : (world.phase pid).claim = some (id, .claimant) := by
    rw [phase]
    rfl
  have active := holds_active (owned.claims pid id _ claims) descriptor stored
  have locked : (world.phase pid).locked = true := by
    rw [phase]
    rfl
  have files : ((world.put id (.whole (descriptor.held pid))).leave pid
      (.supervising id (descriptor.held pid))).monitors =
      world.monitors.set id (.whole (descriptor.held pid)) := rfl
  have found := (congrArg (Dict.get? · id) files).trans (by rw [Dict.get_set, if_pos rfl])
  have quiet : Quiet world id (.whole (descriptor.held pid)) := by
    intro existing same _
    cases same
    exact ⟨descriptor, stored, active, rfl⟩
  refine owned.wrote files rfl rfl (released _ pid (.supervising id (descriptor.held pid))) ?_ nofun
    (owned.rightful claims) ?_ ⟨rfl, rfl, _, found, rfl⟩ nofun
    (Or.inl locked) (quiet.exclusive files owned.exclusive)
  · intro gone
    rw [phase] at gone
    cases gone
  · intro path kind claimed
    cases claimed
    exact ⟨_, found, rfl, rfl⟩

theorem beaten (owned : Owned family world) (phase : world.phase pid = .beating id descriptor current) :
    Owned family ((world.put id (.whole current)).goto pid (.supervising id descriptor)) := by
  have claims : (world.phase pid).claim = some (id, .supervisor) := by
    rw [phase]
    rfl
  have copied := owned.copies pid
  rw [phase] at copied
  obtain ⟨⟨running, supervisor, stored, found, subject⟩, ⟨beating, mine, same, also, told⟩⟩ := copied
  cases found.symm.trans also
  have files : ((world.put id (.whole current)).goto pid (.supervising id descriptor)).monitors =
      world.monitors.set id (.whole current) := rfl
  have written := (congrArg (Dict.get? · id) files).trans (by rw [Dict.get_set, if_pos rfl])
  have quiet : Quiet world id (.whole current) := by
    intro existing same _
    cases same
    exact ⟨stored, found, holds_active (owned.claims pid id _ claims) stored found, told⟩
  refine owned.wrote files rfl rfl (fun _ _ held => held) ?_ nofun (owned.rightful claims) ?_
    ⟨running, supervisor, current, written, told.symm.trans subject⟩ nofun (Or.inr quiet)
    (quiet.exclusive files owned.exclusive)
  · intro gone
    rw [phase] at gone
    cases gone
  · intro path kind claimed
    cases claimed
    exact ⟨current, written, beating, mine⟩

theorem resolved (owned : Owned family world) (phase : world.phase pid = .resolving id descriptor current run) :
    Owned family ((world.put id (.whole (current.about (family.resolve current.subject run)))).leave pid
      (.supervising id (current.about (family.resolve current.subject run)))) := by
  have claims : (world.phase pid).claim = some (id, .supervisor) := by
    rw [phase]
    rfl
  have locked : (world.phase pid).locked = true := by
    rw [phase]
    rfl
  have copied := owned.copies pid
  rw [phase] at copied
  obtain ⟨_, ⟨running, supervisor, _⟩, clear⟩ := copied
  have files : ((world.put id (.whole (current.about (family.resolve current.subject run)))).leave pid
      (.supervising id (current.about (family.resolve current.subject run)))).monitors =
      world.monitors.set id (.whole (current.about (family.resolve current.subject run))) := rfl
  have found := (congrArg (Dict.get? · id) files).trans (by rw [Dict.get_set, if_pos rfl])
  refine owned.wrote files rfl rfl (released _ pid
    (.supervising id (current.about (family.resolve current.subject run)))) ?_ nofun (owned.rightful claims) ?_
    ⟨running, supervisor, _, found, rfl⟩ nofun (Or.inl locked) (admitted_exclusive files clear owned.exclusive)
  · intro gone
    rw [phase] at gone
    cases gone
  · intro path kind claimed
    cases claimed
    exact ⟨_, found, running, supervisor⟩

end Owned

theorem alive_of {pid : Nat} {phase : Phase ρ σ τ κ} (stands : world.phase pid = phase) (alive : phase ≠ .gone) :
    world.phase pid ≠ .gone := by
  rw [stands]
  exact alive

theorem Owned.supervising {pid : Nat} {id : String} {target : Phase ρ σ τ κ} (owned : Owned family world)
    (claims : (world.phase pid).claim = some (id, .supervisor)) (files : next.monitors = world.monitors)
    (launches : next.launches = world.launches) (phases : next.phase = Function.update world.phase pid target)
    (holds : ∀ other, other ≠ pid → world.holder = some other → next.holder = some other)
    (disciplined : target.locked = true → next.holder = some pid) (goes : target.claim = some (id, .supervisor))
    (copies : target.Copied family next pid) (unlaunched : target.launches = none) : Owned family next := by
  refine owned.turned files launches phases holds ?_ disciplined ?_ copies ?_
  · intro gone
    rw [gone] at claims
    cases claims
  · intro path kind claimed
    cases goes.symm.trans claimed
    obtain ⟨descriptor, found, rest⟩ := owned.claims pid id _ claims
    exact ⟨descriptor, by rw [files, found], rest⟩
  · intro path launching
    cases unlaunched.symm.trans launching

theorem Owned.lasting {pid : Nat} {id : String} {kind : Kind} {stored : Stored σ τ} (owned : Owned family world)
    (claims : (world.phase pid).claim = some (id, kind)) (files : next.monitors = world.monitors.set id stored) :
    Lasting world next :=
  lasting_wrote files (holds_active (owned.claims pid id kind claims))

variable [DecidableEq σ] [DecidableEq τ]

theorem step_owned (label : Step ρ τ κ) (world next : World ρ σ τ κ) (owned : Owned family world)
    (met : timely label world = true) (taken : step family label world = some next) :
    Owned family next ∧ Lasting world next := by
  cases label with
  | start pid id request =>
      exact ⟨owned.entered pid (.admitting id request) rfl trivial rfl taken, lasting_same (enter_files taken)⟩
  | supervise pid id => exact ⟨owned.entered pid (.entering id) rfl trivial rfl taken, lasting_same (enter_files taken)⟩
  | reap pid id => exact ⟨owned.entered pid (.reaping id) rfl trivial rfl taken, lasting_same (enter_files taken)⟩
  | scan pid =>
      simp only [step] at taken
      split at taken
      · rename_i id request phase
        split at taken
        · rename_i admitted
          cases taken
          exact ⟨owned.scanned request phase admitted, lasting_same rfl⟩
        · cases taken
          exact ⟨owned.failed pid (alive_of phase (by rintro ⟨⟩)), lasting_same rfl⟩
      · cases taken
  | create pid =>
      simp only [step] at taken
      split at taken
      · rename_i id descriptor phase
        split at taken
        · rename_i absent
          cases taken
          refine ⟨owned.created phase absent, lasting_wrote rfl ?_⟩
          intro stored found
          cases absent.symm.trans found
        · cases taken
          exact ⟨owned.failed pid (alive_of phase (by rintro ⟨⟩)), lasting_same rfl⟩
      · cases taken
  | fill pid =>
      simp only [step] at taken
      split at taken
      · rename_i id descriptor phase
        cases taken
        have claims : (world.phase pid).claim = some (id, .creator) := by rw [phase]; rfl
        exact ⟨owned.filled phase, owned.lasting claims rfl⟩
      · cases taken
  | spawn pid supervisor =>
      simp only [step] at taken
      split at taken
      · rename_i id descriptor phase
        cases taken
        have copied := owned.copies pid
        rw [phase] at copied
        refine ⟨owned.turned rfl rfl rfl (fun _ _ held => held) ?_ (by rintro ⟨⟩) (by rintro _ _ ⟨⟩) copied.2 ?_,
          lasting_same rfl⟩
        · exact fun gone => absurd gone (alive_of phase (by rintro ⟨⟩))
        · intro path launching
          cases launching
          rw [phase]
          rfl
      · cases taken
  | spawnFails pid =>
      simp only [step] at taken
      split at taken
      · rename_i id descriptor phase
        cases taken
        have copied := owned.copies pid
        rw [phase] at copied
        refine ⟨owned.turned rfl rfl rfl (fun _ _ held => held) ?_ (by rintro ⟨⟩) (by rintro _ _ ⟨⟩) copied ?_,
          lasting_same rfl⟩
        · exact fun gone => absurd gone (alive_of phase (by rintro ⟨⟩))
        · intro path launching
          cases launching
          rw [phase]
          rfl
      · cases taken
  | record pid =>
      simp only [step] at taken
      split at taken
      · rename_i id supervisor phase
        cases taken
        exact ⟨owned.recordedLaunch supervisor phase, lasting_same rfl⟩
      · cases taken
  | giveUp pid status =>
      simp only [step] at taken
      split at taken
      · rename_i id descriptor phase
        cases taken
        simp only [timely, phase, Bool.and_eq_true, decide_eq_true_eq, Bool.not_eq_true'] at met
        obtain ⟨stands, free⟩ := met
        have fresh := owned.copies pid
        rw [phase] at fresh
        refine ⟨owned.ended status rfl rfl rfl (fun _ _ held => held) (alive_of phase (by rintro ⟨⟩))
          (fun other kind _ => owned.unclaimed phase stands free other kind), lasting_wrote rfl ?_⟩
        intro stored found
        cases stands.symm.trans found
        rw [fresh.1.1]
        rfl
      · cases taken
  | take pid =>
      simp only [step] at taken
      split at taken
      · rename_i id phase
        have locked : (world.phase pid).locked = true := by
          rw [phase]
          rfl
        split at taken
        · rename_i descriptor loaded
          split at taken
          · rename_i starting
            cases taken
            have stored := load_stored world id descriptor loaded
            refine ⟨owned.turned rfl rfl rfl (fun _ _ held => held) ?_ (fun _ => owned.disciplined pid locked) ?_ stored
              (by rintro _ ⟨⟩), lasting_same rfl⟩
            · exact fun gone => absurd gone (alive_of phase (by rintro ⟨⟩))
            · intro path kind claims
              cases claims
              exact ⟨descriptor, stored, starting⟩
          · cases taken
            exact ⟨owned.failed pid (alive_of phase (by rintro ⟨⟩)), lasting_same rfl⟩
        · cases taken
          exact ⟨owned.failed pid (alive_of phase (by rintro ⟨⟩)), lasting_same rfl⟩
      · cases taken
  | hold pid =>
      simp only [step] at taken
      split at taken
      · rename_i id descriptor phase
        cases taken
        have claims : (world.phase pid).claim = some (id, .claimant) := by rw [phase]; rfl
        exact ⟨owned.held phase, owned.lasting claims rfl⟩
      · cases taken
  | load pid =>
      simp only [step] at taken
      split at taken
      · rename_i id descriptor phase
        have claims : (world.phase pid).claim = some (id, .supervisor) := by
          rw [phase]
          rfl
        have agrees := owned.copies pid
        rw [phase] at agrees
        split at taken
        · obtain ⟨current, loaded, rfl⟩ := Option.map_eq_some_iff.mp taken
          exact ⟨owned.supervising claims rfl rfl rfl (fun _ _ held => held) (by rintro ⟨⟩) rfl
            ⟨agrees, owned.agreed claims loaded⟩ rfl, lasting_same rfl⟩
        · cases taken
          exact ⟨owned.supervising claims rfl rfl rfl (fun _ _ held => held) (by rintro ⟨⟩) rfl ⟨agrees, agrees⟩ rfl,
            lasting_same rfl⟩
      · cases taken
  | beat pid =>
      simp only [step] at taken
      split at taken
      · rename_i id descriptor current phase
        cases taken
        have claims : (world.phase pid).claim = some (id, .supervisor) := by rw [phase]; rfl
        exact ⟨owned.beaten phase, owned.lasting claims rfl⟩
      · cases taken
  | discover pid run =>
      simp only [step] at taken
      split at taken
      · rename_i id descriptor phase free
        cases taken
        have agrees := owned.copies pid
        rw [phase] at agrees
        refine ⟨owned.supervising (by rw [phase]; rfl) rfl rfl rfl ?_ (fun _ => rfl) rfl agrees rfl, lasting_same rfl⟩
        intro other apart held
        rw [free] at held
        cases held
      · cases taken
  | inspect pid =>
      simp only [step] at taken
      split at taken
      · rename_i id descriptor run phase
        have claims : (world.phase pid).claim = some (id, .supervisor) := by
          rw [phase]
          rfl
        have agrees := owned.copies pid
        rw [phase] at agrees
        split at taken
        · cases taken
          exact ⟨owned.supervising claims rfl rfl rfl (Owned.released world pid (.finalizing id descriptor))
            (by rintro ⟨⟩) rfl agrees
            rfl, lasting_same rfl⟩
        · rename_i current loaded
          have read := owned.agreed claims loaded
          split at taken
          · cases taken
            exact ⟨owned.supervising claims rfl rfl rfl (Owned.released world pid (.finalizing id descriptor))
              (by rintro ⟨⟩) rfl
              agrees rfl, lasting_same rfl⟩
          · cases taken
            exact ⟨owned.supervising claims rfl rfl rfl (Owned.released world pid (.finalizing id current))
              (by rintro ⟨⟩) rfl read
              rfl, lasting_same rfl⟩
          · rename_i free
            cases taken
            have locked : (world.phase pid).locked = true := by
              rw [phase]
              rfl
            obtain ⟨descriptor', found, running, _⟩ := owned.claims pid id _ claims
            have alone := owned.exclusive id descriptor' found (by rw [running]; rfl)
            cases found.symm.trans (load_stored world id current loaded)
            exact ⟨owned.supervising claims rfl rfl rfl (fun _ _ held => held)
              (fun _ => owned.disciplined pid locked) rfl
              ⟨agrees, read, discovered_clear family id current.subject run _ free alone⟩ rfl, lasting_same rfl⟩
      · cases taken
  | resolve pid =>
      simp only [step] at taken
      split at taken
      · rename_i id descriptor current run phase
        cases taken
        have claims : (world.phase pid).claim = some (id, .supervisor) := by rw [phase]; rfl
        exact ⟨owned.resolved phase, owned.lasting claims rfl⟩
      · cases taken
  | conclude pid =>
      simp only [step] at taken
      split at taken
      · rename_i id descriptor phase
        cases taken
        have agrees := owned.copies pid
        rw [phase] at agrees
        exact ⟨owned.supervising (by rw [phase]; rfl) rfl rfl rfl
          (Owned.released world pid (.finalizing id descriptor)) (by rintro ⟨⟩)
          rfl agrees rfl, lasting_same rfl⟩
      · rename_i id descriptor current phase
        cases taken
        have agrees := owned.copies pid
        rw [phase] at agrees
        exact ⟨owned.supervising (by rw [phase]; rfl) rfl rfl rfl
          (Owned.released world pid (.finalizing id descriptor)) (by rintro ⟨⟩)
          rfl agrees.1 rfl, lasting_same rfl⟩
      · rename_i id descriptor run phase
        cases taken
        have agrees := owned.copies pid
        rw [phase] at agrees
        exact ⟨owned.supervising (by rw [phase]; rfl) rfl rfl rfl
          (Owned.released world pid (.finalizing id descriptor)) (by rintro ⟨⟩)
          rfl agrees rfl, lasting_same rfl⟩
      · rename_i id descriptor current run phase
        cases taken
        have agrees := owned.copies pid
        rw [phase] at agrees
        exact ⟨owned.supervising (by rw [phase]; rfl) rfl rfl rfl
          (Owned.released world pid (.finalizing id descriptor)) (by rintro ⟨⟩)
          rfl agrees.1 rfl, lasting_same rfl⟩
      · cases taken
  | finish pid status =>
      simp only [step] at taken
      split at taken
      · rename_i id descriptor phase
        cases taken
        have claims : (world.phase pid).claim = some (id, .supervisor) := by
          rw [phase]
          rfl
        exact ⟨owned.ended status rfl rfl rfl (fun _ _ held => held) (alive_of phase (by rintro ⟨⟩))
          (owned.rightful claims),
          owned.lasting claims rfl⟩
      · cases taken
  | judge pid =>
      simp only [step] at taken
      split at taken
      · rename_i id phase
        have locked : (world.phase pid).locked = true := by
          rw [phase]
          rfl
        split at taken
        · rename_i descriptor loaded
          split at taken
          · rename_i doomed
            cases taken
            obtain ⟨active, gone⟩ := doomed
            obtain ⟨supervisor, supervised, stopped⟩ := (Option.any_eq_true _ _).mp gone
            have stored := load_stored world id descriptor loaded
            refine ⟨owned.turned rfl rfl rfl (fun _ _ held => held) ?_ (fun _ => owned.disciplined pid locked) ?_ stored
              (by rintro _ ⟨⟩), lasting_same rfl⟩
            · exact fun gone => absurd gone (alive_of phase (by rintro ⟨⟩))
            · intro path kind claims
              cases claims
              have stopped := (gone_iff world supervisor).mp stopped
              refine ⟨descriptor, supervisor, stored, active, supervised, ?_⟩
              refine (Function.update_of_ne ?_ _ _).trans stopped
              exact fun same => alive_of phase (by rintro ⟨⟩) (same ▸ stopped)
          · cases taken
            exact ⟨owned.failed pid (alive_of phase (by rintro ⟨⟩)), lasting_same rfl⟩
        · cases taken
          exact ⟨owned.failed pid (alive_of phase (by rintro ⟨⟩)), lasting_same rfl⟩
      · cases taken
  | bury pid status =>
      simp only [step] at taken
      split at taken
      · rename_i id descriptor phase
        cases taken
        have claims : (world.phase pid).claim = some (id, .reaper) := by
          rw [phase]
          rfl
        exact ⟨owned.ended status rfl rfl rfl (Owned.released _ pid .idle) (alive_of phase (by rintro ⟨⟩))
          (owned.rightful claims),
          owned.lasting claims rfl⟩
      · cases taken
  | fail pid =>
      simp only [step] at taken
      split at taken
      · cases taken
      · rename_i alive
        cases taken
        refine ⟨owned.failed pid ?_, lasting_same rfl⟩
        intro gone
        simp [World.isGone, gone] at alive
  | exit pid =>
      cases taken
      exact ⟨owned.left pid, lasting_same rfl⟩

omit [DecidableEq σ] [DecidableEq τ] in
theorem start_owned : Owned family (World.start : World ρ σ τ κ) := by
  refine ⟨nofun, nofun, fun _ => trivial, nofun, fun _ recorded => absurd rfl recorded, ?_⟩
  intro id descriptor found
  cases found

-- What a step of the monitors leaves: no two active monitors of one subject, no monitor
-- with two supervisors, and every terminal status as it was.
def Orderly (family : Family ρ σ κ) (label : Step ρ τ κ) (world : World ρ σ τ κ) : Prop :=
  ∀ next, step family label world = some next → Exclusive family next ∧ Supervised next ∧ Lasting world next

theorem run_orderly (schedule : List (Step ρ τ κ))
    (met : Meets (step family) (fun label world => timely label world = true) schedule World.start) :
    Meets (step family) (Orderly family) schedule World.start := by
  refine Meets.guided (Owned family) ?_ ?_ schedule World.start start_owned met
  · intro label world next owned fine taken
    exact (step_owned label world next owned fine taken).1
  · intro label world owned fine next taken
    obtain ⟨after, lasting⟩ := step_owned label world next owned fine taken
    exact ⟨after.exclusive, fun first second id one other => after.apart first second id _ _ one other, lasting⟩

end OrchestratorEngine.Monitors
