import OrchestratorEngine.Monitors.Ownership

set_option autoImplicit false

namespace OrchestratorEngine.Monitors

open Foundation

variable {ρ σ τ κ : Type} {family : Family ρ σ κ}

theorem clear_iff (world : World ρ σ τ κ) (id : String) (subject : σ) :
    Clear family world id subject ↔ ∀ other existing, other ≠ id →
      world.monitors.get? other = some (.whole existing) → existing.status.ended = false →
        ¬ family.Rival existing.subject subject := by
  constructor
  · intro clear other existing apart stored active rival
    exact clear ⟨other, existing, (Dict.mem_items _ _ _).mpr stored, apart, active, rival⟩
  · intro every contested
    obtain ⟨other, existing, listed, apart, active, rival⟩ := contested
    exact every other existing apart ((Dict.mem_items _ _ _).mp listed) active rival

def Quiet (world : World ρ σ τ κ) (id : String) (stored : Stored σ τ) : Prop :=
  ∀ existing, stored = .whole existing → existing.status.ended = false →
    ∃ before, world.monitors.get? id = some (.whole before) ∧ before.status.ended = false ∧
      before.subject = existing.subject

theorem quiet_ended (world : World ρ σ τ κ) (id : String) (descriptor : Descriptor σ τ) (status : τ) :
    Quiet world id (.whole (descriptor.end status)) := by
  intro existing same active
  cases same
  cases active

theorem Quiet.clear {world next : World ρ σ τ κ} {id : String} {stored : Stored σ τ} (quiet : Quiet world id stored)
    (files : next.monitors = world.monitors.set id stored) (other : String) (subject : σ)
    (clear : Clear family world other subject) : Clear family next other subject := by
  rw [clear_iff] at clear ⊢
  intro path existing apart found active
  rw [files, Dict.get_set] at found
  split at found
  · rename_i same
    subst same
    cases found
    obtain ⟨before, present, wasActive, subject⟩ := quiet existing rfl active
    exact subject ▸ clear path before apart present wasActive
  · exact clear path existing apart found active

theorem Quiet.exclusive {world next : World ρ σ τ κ} {id : String} {stored : Stored σ τ} (quiet : Quiet world id stored)
    (files : next.monitors = world.monitors.set id stored) (exclusive : Exclusive family world) :
    Exclusive family next := by
  intro path descriptor found active
  rw [files, Dict.get_set] at found
  split at found
  · rename_i same
    subst same
    cases found
    obtain ⟨before, present, wasActive, subject⟩ := quiet descriptor rfl active
    exact quiet.clear files path descriptor.subject (subject ▸ exclusive path before present wasActive)
  · exact quiet.clear files path descriptor.subject (exclusive path descriptor found active)

theorem admitted_exclusive {world next : World ρ σ τ κ} {id : String} {descriptor : Descriptor σ τ}
    (files : next.monitors = world.monitors.set id (.whole descriptor))
    (clear : Clear family world id descriptor.subject)
    (exclusive : Exclusive family world) : Exclusive family next := by
  rw [clear_iff] at clear
  intro path existing found active
  rw [clear_iff]
  intro other rival apart present alive
  rw [files, Dict.get_set] at found present
  by_cases mine : path = id
  · rw [if_pos mine] at found
    rw [if_neg (mine ▸ apart)] at present
    cases found
    exact clear other rival (mine ▸ apart) present alive
  · rw [if_neg mine] at found
    by_cases theirs : other = id
    · rw [if_pos theirs] at present
      cases present
      exact fun conflict => clear path existing mine found active (family.symmetric _ _ conflict)
    · rw [if_neg theirs] at present
      exact (clear_iff world path existing.subject).mp (exclusive path existing found active) other rival
        apart present alive

theorem load_stored (world : World ρ σ τ κ) (id : String) (descriptor : Descriptor σ τ)
    (loaded : world.load id = some descriptor) : world.monitors.get? id = some (.whole descriptor) := by
  unfold World.load at loaded
  split at loaded
  · rename_i stored
    cases loaded
    exact stored
  · cases loaded

theorem holds_present {world : World ρ σ τ κ} {pid : Nat} {id : String} {kind : Kind}
    (holds : kind.Holds world pid id) :
    world.monitors.get? id ≠ none := by
  intro absent
  cases kind with
  | creator => cases absent.symm.trans holds
  | claimant | supervisor =>
      obtain ⟨descriptor, stored, _⟩ := holds
      cases absent.symm.trans stored
  | reaper =>
      obtain ⟨descriptor, _, stored, _⟩ := holds
      cases absent.symm.trans stored

theorem gone_iff (world : World ρ σ τ κ) (pid : Nat) : world.isGone pid = true ↔ world.phase pid = .gone := by
  unfold World.isGone
  constructor
  · intro gone
    split at gone
    · assumption
    · cases gone
  · intro gone
    rw [gone]

namespace Owned

variable {world next : World ρ σ τ κ} {pid : Nat} {target : Phase ρ σ τ κ} {id : String} {stored : Stored σ τ}

theorem turned (owned : Owned family world) (files : next.monitors = world.monitors)
    (launches : next.launches = world.launches) (phases : next.phase = Function.update world.phase pid target)
    (holds : ∀ other, other ≠ pid → world.holder = some other → next.holder = some other)
    (gone : world.phase pid = .gone → target = .gone) (disciplined : target.locked = true → next.holder = some pid)
    (claims : ∀ id kind, target.claim = some (id, kind) → kind.Holds next pid id)
    (copies : target.Copied family next pid)
    (launching : ∀ id, target.launches = some id → (world.phase pid).launches = some id) : Owned family next := by
  have mine : next.phase pid = target := by rw [phases, Function.update_self]
  have frame : Frame family pid world next := by
    refine ⟨?_, holds, ?_, ?_, ?_, ?_, Or.inr ?_⟩
    · intro other apart
      rw [phases, Function.update_of_ne apart]
    · exact fun id => Or.inl (by rw [files])
    · intro id present
      rw [files]
      exact present
    · exact fun id => Or.inl (by rw [launches])
    · exact fun stopped => mine.trans (gone stopped)
    · intro id subject clear
      unfold Clear at clear ⊢
      rw [files]
      exact clear
  refine frame.owned owned (mine ▸ disciplined) (mine ▸ claims) (mine ▸ copies) ?_ ?_ ?_
  · exact fun id launched => Or.inl (launching id (mine ▸ launched))
  · intro id recorded
    rw [launches] at recorded
    rw [files]
    exact owned.recorded id recorded
  · intro id descriptor found active
    rw [files] at found
    unfold Clear
    rw [files]
    exact owned.exclusive id descriptor found active

theorem wrote (owned : Owned family world) (files : next.monitors = world.monitors.set id stored)
    (launches : next.launches = world.launches) (phases : next.phase = Function.update world.phase pid target)
    (holds : ∀ other, other ≠ pid → world.holder = some other → next.holder = some other)
    (gone : world.phase pid = .gone → target = .gone) (disciplined : target.locked = true → next.holder = some pid)
    (right : ∀ other kind, other ≠ pid → (world.phase other).claim ≠ some (id, kind))
    (claims : ∀ id kind, target.claim = some (id, kind) → kind.Holds next pid id)
    (copies : target.Copied family next pid)
    (launching : ∀ id, target.launches = some id →
      (world.phase pid).launches = some id ∨ ∀ other, other ≠ pid → (world.phase other).launches ≠ some id)
    (clear : (world.phase pid).locked = true ∨ Quiet world id stored) (exclusive : Exclusive family next) :
    Owned family next := by
  have mine : next.phase pid = target := by rw [phases, Function.update_self]
  have present (other : String) (found : world.monitors.get? other ≠ none) : next.monitors.get? other ≠ none := by
    rw [files, Dict.get_set]
    split
    · exact Option.some_ne_none _
    · exact found
  have frame : Frame family pid world next := by
    refine ⟨?_, holds, ?_, present, ?_, ?_, clear.imp_right ?_⟩
    · intro other apart
      rw [phases, Function.update_of_ne apart]
    · intro other
      by_cases same : other = id
      · exact Or.inr (same ▸ right)
      · exact Or.inl (by rw [files, Dict.get_set, if_neg same])
    · exact fun id => Or.inl (by rw [launches])
    · exact fun stopped => mine.trans (gone stopped)
    · exact fun quiet path subject free => quiet.clear files path subject free
  refine frame.owned owned (mine ▸ disciplined) (mine ▸ claims) (mine ▸ copies) (mine ▸ launching) ?_ exclusive
  intro path recorded
  rw [launches] at recorded
  exact present path (owned.recorded path recorded)

theorem rightful (owned : Owned family world) {kind : Kind} (claims : (world.phase pid).claim = some (id, kind))
    (other : Nat) (also : Kind) (apart : other ≠ pid) : (world.phase other).claim ≠ some (id, also) :=
  fun others => apart (owned.apart other pid id also kind others claims)

theorem released (world : World ρ σ τ κ) (pid : Nat) (target : Phase ρ σ τ κ) (other : Nat) (apart : other ≠ pid)
    (held : world.holder = some other) : (world.leave pid target).holder = some other := by
  have theirs : world.holder ≠ some pid := by
    rw [held]
    exact fun same => apart (Option.some.inj same)
  exact (if_neg theirs).trans held

theorem left (owned : Owned family world) (pid : Nat) : Owned family (world.leave pid .gone) :=
  owned.turned rfl rfl rfl (released world pid .gone) (fun _ => rfl) nofun nofun trivial nofun

theorem failed (owned : Owned family world) (pid : Nat) (alive : world.phase pid ≠ .gone) :
    Owned family (world.leave pid .idle) :=
  owned.turned rfl rfl rfl (released world pid .idle) (fun gone => absurd gone alive) nofun nofun trivial nofun

theorem entered (owned : Owned family world) (pid : Nat) (target : Phase ρ σ τ κ) (bare : target.claim = none)
    (unread : target.Copied family next pid)
    (unlaunched : target.launches = none) (taken : enter world pid target = some next) : Owned family next := by
  unfold enter at taken
  split at taken
  · rename_i idle free
    cases taken
    refine owned.turned rfl rfl rfl ?_ ?_ (fun _ => rfl) ?_ unread ?_
    · intro other apart held
      rw [free] at held
      cases held
    · intro gone
      rw [idle] at gone
      cases gone
    · intro id kind claims
      rw [bare] at claims
      cases claims
    · intro id launching
      rw [unlaunched] at launching
      cases launching
  · cases taken

end Owned

end OrchestratorEngine.Monitors
