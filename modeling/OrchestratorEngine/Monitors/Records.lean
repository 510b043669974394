import Mathlib.Logic.Function.Basic
import OrchestratorEngine.Foundation.Dict

set_option autoImplicit false

namespace OrchestratorEngine.Monitors

open Foundation

inductive Status (τ : Type) where
  | starting
  | running
  | terminal (status : τ)
deriving DecidableEq, Repr

def Status.ended {τ : Type} : Status τ → Bool
  | .terminal _ => true
  | _ => false

inductive WakePolicy where
  | always
  | onFailure
  | actionRequired
  | never
deriving DecidableEq, Repr

structure Descriptor (σ τ : Type) where
  subject : σ
  status : Status τ
  supervisor : Option Nat
deriving DecidableEq, Repr

-- claim_json creates the file before its bytes are in it.
inductive Stored (σ τ : Type) where
  | torn
  | whole (descriptor : Descriptor σ τ)
deriving DecidableEq, Repr

-- What one kind of monitor decides about its subjects: ρ is what a dispatch asks for,
-- κ what a running monitor may discover. The two laws say that whatever start_monitor
-- and the discovery let through has no rival.
structure Family (ρ σ κ : Type) where
  subject : ρ → σ
  -- An existing descriptor is passed over before its path is looked at.
  concerns : σ → σ → Bool
  sameDispatch : σ → σ → Bool
  owns : σ → σ → Bool
  resolve : σ → κ → σ
  monitors : σ → σ → κ → Bool
  -- A heartbeat reloads the descriptor.
  reloads : Bool
  Rival : σ → σ → Prop
  symmetric : ∀ first second, Rival first second → Rival second first
  refuses : ∀ existing request, Rival existing (subject request) →
    concerns existing (subject request) = true ∧ owns existing (subject request) = true
  resolves : ∀ existing current run, Rival existing (resolve current run) →
    Rival existing current ∨ monitors existing current run = true

inductive Phase (ρ σ τ κ : Type) where
  | idle
  | gone
  | admitting (id : String) (request : ρ)
  | creating (id : String) (descriptor : Descriptor σ τ)
  | filling (id : String) (descriptor : Descriptor σ τ)
  | launching (id : String) (descriptor : Descriptor σ τ)
  | launched (id : String) (supervisor : Nat)
  -- The supervisor could not be spawned; its launcher finalizes without the lock.
  | failing (id : String) (descriptor : Descriptor σ τ)
  | entering (id : String)
  | taking (id : String) (descriptor : Descriptor σ τ)
  | supervising (id : String) (descriptor : Descriptor σ τ)
  | beating (id : String) (descriptor current : Descriptor σ τ)
  | discovering (id : String) (descriptor : Descriptor σ τ) (run : κ)
  | resolving (id : String) (descriptor current : Descriptor σ τ) (run : κ)
  | finalizing (id : String) (descriptor : Descriptor σ τ)
  | reaping (id : String)
  | burying (id : String) (descriptor : Descriptor σ τ)

structure World (ρ σ τ κ : Type) where
  monitors : Dict String (Stored σ τ)
  launches : Dict String Nat
  holder : Option Nat
  phase : Nat → Phase ρ σ τ κ

inductive Step (ρ τ κ : Type) where
  | start (pid : Nat) (id : String) (request : ρ)
  | scan (pid : Nat)
  | create (pid : Nat)
  | fill (pid : Nat)
  | spawn (pid : Nat) (supervisor : Nat)
  | spawnFails (pid : Nat)
  | record (pid : Nat)
  | giveUp (pid : Nat) (status : τ)
  | supervise (pid : Nat) (id : String)
  | take (pid : Nat)
  | hold (pid : Nat)
  | load (pid : Nat)
  | beat (pid : Nat)
  | discover (pid : Nat) (run : κ)
  | inspect (pid : Nat)
  | resolve (pid : Nat)
  | conclude (pid : Nat)
  | finish (pid : Nat) (status : τ)
  | reap (pid : Nat) (id : String)
  | judge (pid : Nat)
  | bury (pid : Nat) (status : τ)
  -- A call raises, or its process ends.
  | fail (pid : Nat)
  | exit (pid : Nat)
deriving DecidableEq, Repr

section Admission

variable {ρ σ τ κ : Type} (family : Family ρ σ κ)

inductive Admission where
  | idempotent
  | refused
  | admitted
deriving DecidableEq, Repr

-- The loop of start_monitor over the descriptors on disk. The order of the paths
-- decides only which refusal comes first.
def admission (id : String) (subject : σ) : List (String × Stored σ τ) → Admission
  | [] => .admitted
  | (_, .torn) :: _ => .refused
  | (other, .whole existing) :: rest =>
      if family.concerns existing.subject subject = false then admission id subject rest
      else if other = id then
        if family.sameDispatch existing.subject subject then .idempotent else .refused
      else if existing.status.ended then admission id subject rest
      else if family.owns existing.subject subject then .refused
      else admission id subject rest

inductive Discovery where
  | unreadable
  | owned
  | free
deriving DecidableEq, Repr

def discovery (id : String) (current : σ) (run : κ) : List (String × Stored σ τ) → Discovery
  | [] => .free
  | (other, .torn) :: rest => if other = id then discovery id current run rest else .unreadable
  | (other, .whole existing) :: rest =>
      if other = id ∨ existing.status.ended then discovery id current run rest
      else if family.monitors existing.subject current run then .owned
      else discovery id current run rest

def Contested (items : List (String × Stored σ τ)) (id : String) (subject : σ) : Prop :=
  ∃ other existing, (other, Stored.whole existing) ∈ items ∧ other ≠ id ∧ existing.status.ended = false ∧
    family.Rival existing.subject subject

theorem contested_cons (head : String × Stored σ τ) (rest : List (String × Stored σ τ)) (id : String) (subject : σ)
    (contested : Contested family (head :: rest) id subject) :
    (∃ existing, head.2 = .whole existing ∧ head.1 ≠ id ∧ existing.status.ended = false ∧
      family.Rival existing.subject subject) ∨ Contested family rest id subject := by
  obtain ⟨other, existing, listed, apart, active, rival⟩ := contested
  cases List.mem_cons.mp listed with
  | inl same => exact Or.inl ⟨existing, same ▸ rfl, same ▸ apart, active, rival⟩
  | inr later => exact Or.inr ⟨other, existing, later, apart, active, rival⟩

theorem admitted_clear (id : String) (request : ρ) (items : List (String × Stored σ τ))
    (admitted : admission family id (family.subject request) items = .admitted) :
    ¬ Contested family items id (family.subject request) := by
  induction items with
  | nil =>
      rintro ⟨_, _, listed, _⟩
      cases listed
  | cons head rest ih =>
      intro contested
      obtain ⟨other, stored⟩ := head
      cases stored with
      | torn => cases admitted
      | whole existing =>
          rw [admission] at admitted
          cases contested_cons family _ rest id _ contested with
          | inl here =>
              obtain ⟨_, same, apart, active, rival⟩ := here
              cases same
              obtain ⟨concerned, owned⟩ := family.refuses existing.subject request rival
              rw [if_neg (by rw [concerned]; exact Bool.noConfusion), if_neg apart,
                if_neg (by rw [active]; exact Bool.noConfusion), if_pos owned] at admitted
              cases admitted
          | inr later =>
              split at admitted
              · exact ih admitted later
              · split at admitted
                · split at admitted <;> cases admitted
                · split at admitted
                  · exact ih admitted later
                  · split at admitted
                    · cases admitted
                    · exact ih admitted later

theorem discovered_clear (id : String) (current : σ) (run : κ) (items : List (String × Stored σ τ))
    (free : discovery family id current run items = .free) (alone : ¬ Contested family items id current) :
    ¬ Contested family items id (family.resolve current run) := by
  induction items with
  | nil =>
      rintro ⟨_, _, listed, _⟩
      cases listed
  | cons head rest ih =>
      intro contested
      obtain ⟨other, stored⟩ := head
      have unrivalled : ¬ Contested family rest id current := by
        rintro ⟨_, _, listed, rest⟩
        exact alone ⟨_, _, List.mem_cons_of_mem _ listed, rest⟩
      cases stored with
      | torn =>
          rw [discovery] at free
          split at free
          · cases contested_cons family _ rest id _ contested with
            | inl here =>
                obtain ⟨_, same, _⟩ := here
                cases same
            | inr later => exact ih free unrivalled later
          · cases free
      | whole existing =>
          rw [discovery] at free
          cases contested_cons family _ rest id _ contested with
          | inl here =>
              obtain ⟨_, same, apart, active, rival⟩ := here
              cases same
              have looked : ¬ (other = id ∨ existing.status.ended = true) := by
                rw [active]
                exact not_or.mpr ⟨apart, Bool.false_ne_true⟩
              rw [if_neg looked] at free
              cases family.resolves existing.subject current run rival with
              | inl before => exact alone ⟨other, existing, List.mem_cons_self, apart, active, before⟩
              | inr owned =>
                  rw [if_pos owned] at free
                  cases free
          | inr later =>
              split at free
              · exact ih free unrivalled later
              · split at free
                · cases free
                · exact ih free unrivalled later

end Admission

end OrchestratorEngine.Monitors
