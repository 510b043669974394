import OrchestratorEngine.Foundation.Interleaving
import OrchestratorEngine.Monitors.Moves

set_option autoImplicit false

namespace OrchestratorEngine.Monitors

open Foundation

variable {ρ σ τ κ : Type}

inductive Kind where
  | creator
  | claimant
  | supervisor
  | reaper
deriving DecidableEq, Repr

namespace Phase

def locked : Phase ρ σ τ κ → Bool
  | admitting _ _ | creating _ _ | filling _ _ | entering _ | taking _ _ | discovering _ _ _ | resolving _ _ _ _
  | reaping _ | burying _ _ => true
  | _ => false

def claim : Phase ρ σ τ κ → Option (String × Kind)
  | filling id _ => some (id, .creator)
  | taking id _ => some (id, .claimant)
  | supervising id _ | beating id _ _ | discovering id _ _ | resolving id _ _ _ | finalizing id _ =>
      some (id, .supervisor)
  | burying id _ => some (id, .reaper)
  | _ => none

def launches : Phase ρ σ τ κ → Option String
  | filling id _ | launching id _ | launched id _ | failing id _ => some id
  | _ => none

end Phase

def Kind.Holds (world : World ρ σ τ κ) (pid : Nat) (id : String) : Kind → Prop
  | .creator => world.monitors.get? id = some .torn
  | .claimant => ∃ descriptor, world.monitors.get? id = some (.whole descriptor) ∧ descriptor.status = .starting
  | .supervisor => ∃ descriptor, world.monitors.get? id = some (.whole descriptor) ∧ descriptor.status = .running ∧
      descriptor.supervisor = some pid
  | .reaper => ∃ descriptor gone, world.monitors.get? id = some (.whole descriptor) ∧ descriptor.status.ended = false ∧
      world.supervisor id descriptor = some gone ∧ world.phase gone = .gone

def Agrees (world : World ρ σ τ κ) (pid : Nat) (id : String) (copy : Descriptor σ τ) : Prop :=
  copy.status = .running ∧ copy.supervisor = some pid ∧
    ∃ descriptor, world.monitors.get? id = some (.whole descriptor) ∧ descriptor.subject = copy.subject

def Fresh (descriptor : Descriptor σ τ) : Prop := descriptor.status = .starting ∧ descriptor.supervisor = none

variable (family : Family ρ σ κ)

def Clear (world : World ρ σ τ κ) (id : String) (subject : σ) : Prop :=
  ¬ Contested family world.monitors.items id subject

def Phase.Copied (world : World ρ σ τ κ) (pid : Nat) : Phase ρ σ τ κ → Prop
  | creating id descriptor => Fresh descriptor ∧ Clear family world id descriptor.subject
  | filling id descriptor =>
      Fresh descriptor ∧ Clear family world id descriptor.subject ∧ world.launches.get? id = none ∧
        world.monitors.get? id ≠ none
  | launching id descriptor | failing id descriptor =>
      Fresh descriptor ∧ world.launches.get? id = none ∧ world.monitors.get? id ≠ none
  | launched id _ => world.launches.get? id = none ∧ world.monitors.get? id ≠ none
  | taking id descriptor | burying id descriptor => world.monitors.get? id = some (.whole descriptor)
  | supervising id descriptor | discovering id descriptor _ | finalizing id descriptor => Agrees world pid id descriptor
  | beating id descriptor current => Agrees world pid id descriptor ∧ Agrees world pid id current
  | resolving id descriptor current run =>
      Agrees world pid id descriptor ∧ Agrees world pid id current ∧
        Clear family world id (family.resolve current.subject run)
  | _ => True

def Exclusive (world : World ρ σ τ κ) : Prop :=
  ∀ id descriptor, world.monitors.get? id = some (.whole descriptor) → descriptor.status.ended = false →
    Clear family world id descriptor.subject

structure Owned (world : World ρ σ τ κ) : Prop where
  disciplined : ∀ pid, (world.phase pid).locked = true → world.holder = some pid
  claims : ∀ pid id kind, (world.phase pid).claim = some (id, kind) → kind.Holds world pid id
  copies : ∀ pid, (world.phase pid).Copied family world pid
  sole : ∀ first second id, (world.phase first).launches = some id → (world.phase second).launches = some id →
    first = second
  recorded : ∀ id, world.launches.get? id ≠ none → world.monitors.get? id ≠ none
  exclusive : Exclusive family world

namespace Owned

variable {family} {world next : World ρ σ τ κ} {pid : Nat} {target : Phase ρ σ τ κ}

theorem locked_sole (owned : Owned family world) (first second : Nat) (locks : (world.phase first).locked = true)
    (also : (world.phase second).locked = true) : first = second := by
  have mine := owned.disciplined first locks
  rw [owned.disciplined second also] at mine
  exact (Option.some.inj mine).symm

theorem claim_locked (phase : Phase ρ σ τ κ) (id : String) (kind : Kind) (claims : phase.claim = some (id, kind)) :
    kind = .supervisor ∨ phase.locked = true := by
  cases phase with
  | filling | taking | burying | discovering | resolving => exact Or.inr rfl
  | supervising | beating | finalizing =>
      cases claims
      exact Or.inl rfl
  | idle | gone | admitting | creating | launching | launched | failing | entering | reaping => cases claims

theorem supervisor_alone (owned : Owned family world) (first second : Nat) (id : String) (kind : Kind)
    (supervises : (world.phase first).claim = some (id, .supervisor))
    (claims : (world.phase second).claim = some (id, kind)) : first = second := by
  obtain ⟨descriptor, stored, running, mine⟩ := owned.claims first id _ supervises
  have theirs := owned.claims second id kind claims
  cases kind with
  | creator => cases stored.symm.trans theirs
  | claimant =>
      obtain ⟨other, also, starting⟩ := theirs
      cases stored.symm.trans also
      cases running.symm.trans starting
  | supervisor =>
      obtain ⟨other, also, _, supervisor⟩ := theirs
      cases stored.symm.trans also
      exact Option.some.inj (mine.symm.trans supervisor)
  | reaper =>
      obtain ⟨other, gone, also, _, supervisor, absent⟩ := theirs
      cases stored.symm.trans also
      rw [World.supervisor, mine] at supervisor
      cases supervisor
      rw [absent] at supervises
      cases supervises

theorem apart (owned : Owned family world) (first second : Nat) (id : String) (kind also : Kind)
    (claims : (world.phase first).claim = some (id, kind)) (others : (world.phase second).claim = some (id, also)) :
    first = second := by
  cases claim_locked _ id kind claims with
  | inl supervises => exact owned.supervisor_alone first second id also (supervises ▸ claims) others
  | inr locked =>
      cases claim_locked _ id also others with
      | inl supervises => exact (owned.supervisor_alone second first id kind (supervises ▸ others) claims).symm
      | inr locks => exact owned.locked_sole first second locked locks

end Owned

structure Frame (pid : Nat) (world next : World ρ σ τ κ) : Prop where
  phases : ∀ other, other ≠ pid → next.phase other = world.phase other
  holds : ∀ other, other ≠ pid → world.holder = some other → next.holder = some other
  files : ∀ id, next.monitors.get? id = world.monitors.get? id ∨
    ∀ other kind, other ≠ pid → (world.phase other).claim ≠ some (id, kind)
  present : ∀ id, world.monitors.get? id ≠ none → next.monitors.get? id ≠ none
  launches : ∀ id, next.launches.get? id = world.launches.get? id ∨
    ((world.phase pid).launches = some id ∧ world.launches.get? id = none)
  gone : world.phase pid = .gone → next.phase pid = .gone
  clear : (world.phase pid).locked = true ∨
    ∀ id subject, Clear family world id subject → Clear family next id subject

namespace Frame

variable {family} {world next : World ρ σ τ κ} {pid other : Nat} {id : String} {kind : Kind}

theorem kept_file (frame : Frame family pid world next) (apart : other ≠ pid)
    (claims : (world.phase other).claim = some (id, kind)) : next.monitors.get? id = world.monitors.get? id :=
  (frame.files id).resolve_right fun free => free other kind apart claims

theorem kept_gone (frame : Frame family pid world next) (stopped : Nat) (gone : world.phase stopped = .gone) :
    next.phase stopped = .gone := by
  by_cases same : stopped = pid
  · subst same
    exact frame.gone gone
  · rw [frame.phases stopped same, gone]

theorem kept_supervisor (frame : Frame family pid world next) (descriptor : Descriptor σ τ) (supervisor : Nat)
    (supervised : world.supervisor id descriptor = some supervisor) :
    next.supervisor id descriptor = some supervisor := by
  unfold World.supervisor at supervised ⊢
  cases named : descriptor.supervisor with
  | some recorded =>
      rw [named] at supervised
      exact supervised
  | none =>
      rw [named] at supervised
      change world.launches.get? id = some supervisor at supervised
      change next.launches.get? id = some supervisor
      cases frame.launches id with
      | inl same => rw [same, supervised]
      | inr fresh => cases supervised.symm.trans fresh.2

theorem kept_claim (frame : Frame family pid world next) (apart : other ≠ pid)
    (claims : (world.phase other).claim = some (id, kind)) (holds : kind.Holds world other id) :
    kind.Holds next other id := by
  have same := frame.kept_file apart claims
  cases kind with
  | creator => exact same.trans holds
  | claimant | supervisor =>
      obtain ⟨descriptor, stored, rest⟩ := holds
      exact ⟨descriptor, same.trans stored, rest⟩
  | reaper =>
      obtain ⟨descriptor, gone, stored, active, supervised, stopped⟩ := holds
      exact ⟨descriptor, gone, same.trans stored, active, frame.kept_supervisor descriptor gone supervised,
        frame.kept_gone gone stopped⟩

theorem kept_agrees (copy : Descriptor σ τ) (same : next.monitors.get? id = world.monitors.get? id)
    (agrees : Agrees world other id copy) : Agrees next other id copy := by
  obtain ⟨running, supervisor, descriptor, stored, subject⟩ := agrees
  exact ⟨running, supervisor, descriptor, same.trans stored, subject⟩

theorem kept_launch (frame : Frame family pid world next) (owned : Owned family world) (apart : other ≠ pid)
    (launching : (world.phase other).launches = some id) (unrecorded : world.launches.get? id = none) :
    next.launches.get? id = none := by
  cases frame.launches id with
  | inl same => exact same.trans unrecorded
  | inr mine => exact absurd (owned.sole other pid id launching mine.1) apart

theorem kept_clear (frame : Frame family pid world next) (owned : Owned family world) (apart : other ≠ pid)
    (locked : (world.phase other).locked = true) (id : String) (subject : σ) (clear : Clear family world id subject) :
    Clear family next id subject := by
  cases frame.clear with
  | inl locks => exact absurd (owned.locked_sole other pid locked locks) apart
  | inr kept => exact kept id subject clear

theorem kept_copies (frame : Frame family pid world next) (owned : Owned family world) (apart : other ≠ pid) :
    (world.phase other).Copied family next other := by
  have copied := owned.copies other
  cases phase : world.phase other with
  | idle | gone | admitting | entering | reaping => trivial
  | creating id descriptor =>
      rw [phase] at copied
      exact ⟨copied.1, frame.kept_clear owned apart (by rw [phase]; rfl) _ _ copied.2⟩
  | filling id descriptor =>
      rw [phase] at copied
      obtain ⟨fresh, clear, unrecorded, present⟩ := copied
      exact ⟨fresh, frame.kept_clear owned apart (by rw [phase]; rfl) _ _ clear,
        frame.kept_launch owned apart (by rw [phase]; rfl) unrecorded, frame.present id present⟩
  | launching id descriptor | failing id descriptor =>
      rw [phase] at copied
      obtain ⟨fresh, unrecorded, present⟩ := copied
      exact ⟨fresh, frame.kept_launch owned apart (by rw [phase]; rfl) unrecorded, frame.present id present⟩
  | launched id supervisor =>
      rw [phase] at copied
      exact ⟨frame.kept_launch owned apart (by rw [phase]; rfl) copied.1, frame.present id copied.2⟩
  | taking id descriptor | burying id descriptor =>
      rw [phase] at copied
      exact (frame.kept_file apart (by rw [phase]; rfl)).trans copied
  | supervising id descriptor | discovering id descriptor run | finalizing id descriptor =>
      rw [phase] at copied
      exact kept_agrees descriptor (frame.kept_file apart (by rw [phase]; rfl)) copied
  | beating id descriptor current =>
      rw [phase] at copied
      have same := frame.kept_file apart (by rw [phase]; rfl)
      exact ⟨kept_agrees descriptor same copied.1, kept_agrees current same copied.2⟩
  | resolving id descriptor current run =>
      rw [phase] at copied
      obtain ⟨agrees, also, clear⟩ := copied
      have same := frame.kept_file apart (by rw [phase]; rfl)
      exact ⟨kept_agrees descriptor same agrees, kept_agrees current same also,
        frame.kept_clear owned apart (by rw [phase]; rfl) _ _ clear⟩

theorem owned (frame : Frame family pid world next) (before : Owned family world)
    (disciplined : (next.phase pid).locked = true → next.holder = some pid)
    (claims : ∀ id kind, (next.phase pid).claim = some (id, kind) → kind.Holds next pid id)
    (copies : (next.phase pid).Copied family next pid)
    (launches : ∀ id, (next.phase pid).launches = some id →
      (world.phase pid).launches = some id ∨ ∀ other, other ≠ pid → (world.phase other).launches ≠ some id)
    (recorded : ∀ id, next.launches.get? id ≠ none → next.monitors.get? id ≠ none)
    (exclusive : Exclusive family next) : Owned family next := by
  have unlaunched (other : Nat) (id : String) (apart : other ≠ pid) (mine : (next.phase pid).launches = some id) :
      (next.phase other).launches ≠ some id := by
    rw [frame.phases other apart]
    intro launching
    cases launches id mine with
    | inl before' => exact apart (before.sole other pid id launching before')
    | inr free => exact free other apart launching
  refine ⟨?_, ?_, ?_, ?_, recorded, exclusive⟩
  · intro other locked
    by_cases same : other = pid
    · exact same ▸ disciplined (same ▸ locked)
    · rw [frame.phases other same] at locked
      exact frame.holds other same (before.disciplined other locked)
  · intro other id kind claimed
    by_cases same : other = pid
    · exact same ▸ claims id kind (same ▸ claimed)
    · rw [frame.phases other same] at claimed
      exact frame.kept_claim same claimed (before.claims other id kind claimed)
  · intro other
    by_cases same : other = pid
    · exact same ▸ copies
    · rw [frame.phases other same]
      exact frame.kept_copies before same
  · intro first second id launching also
    by_cases mine : first = pid
    · by_cases yours : second = pid
      · exact mine.trans yours.symm
      · exact absurd also (unlaunched second id yours (mine ▸ launching))
    · by_cases yours : second = pid
      · exact absurd launching (unlaunched first id mine (yours ▸ also))
      · rw [frame.phases first mine] at launching
        rw [frame.phases second yours] at also
        exact before.sole first second id launching also

end Frame

end OrchestratorEngine.Monitors
