import Mathlib.Data.List.Basic

set_option autoImplicit false

namespace Foundation.Utf8

-- The strict decoder, one octet at a time: between characters, or with an octet
-- of a range owed and so many tails after it.
inductive State where
  | start
  | owes (more low high value : Nat)
deriving DecidableEq, Repr

def first (octet : Nat) : Option (State × List Nat) :=
  if octet ≤ 0x7F then some (.start, [octet])
  else if 0xC2 ≤ octet ∧ octet ≤ 0xDF then some (.owes 0 0x80 0xBF (octet - 0xC0), [])
  else if octet = 0xE0 then some (.owes 1 0xA0 0xBF 0, [])
  else if octet = 0xED then some (.owes 1 0x80 0x9F 0xD, [])
  else if 0xE1 ≤ octet ∧ octet ≤ 0xEF then some (.owes 1 0x80 0xBF (octet - 0xE0), [])
  else if octet = 0xF0 then some (.owes 2 0x90 0xBF 0, [])
  else if 0xF1 ≤ octet ∧ octet ≤ 0xF3 then some (.owes 2 0x80 0xBF (octet - 0xF0), [])
  else if octet = 0xF4 then some (.owes 2 0x80 0x8F 4, [])
  else none

def step : State → Nat → Option (State × List Nat)
  | .start, octet => first octet
  | .owes more low high value, octet =>
      if low ≤ octet ∧ octet ≤ high then
        let grown := 64 * value + (octet - 0x80)
        match more with
        | 0 => some (.start, [grown])
        | left + 1 => some (.owes left 0x80 0xBF grown, [])
      else none

def run : State → List Nat → Option (State × List Nat)
  | state, [] => some (state, [])
  | state, octet :: rest =>
      match step state octet with
      | none => none
      | some (next, text) => (run next rest).map fun found => (found.1, text ++ found.2)

def decode (octets : List Nat) : Option (List Nat) :=
  match run .start octets with
  | some (.start, text) => some text
  | _ => none

def State.Owing : State → Prop
  | .start => True
  | .owes _ low _ _ => 0x80 ≤ low

theorem first_owing (octet : Nat) (next : State) (text : List Nat) (done : first octet = some (next, text)) :
    next.Owing := by
  unfold first at done
  split at done
  · cases done
    trivial
  all_goals
    repeat (split at done; · cases done; simp [State.Owing])
  cases done

theorem step_owing (state next : State) (octet : Nat) (text : List Nat) (done : step state octet = some (next, text)) :
    next.Owing := by
  cases state with
  | start => exact first_owing octet next text done
  | owes more low high value =>
      rw [step] at done
      split at done
      · cases more with
        | zero =>
            cases done
            trivial
        | succ left =>
            cases done
            exact Nat.le_refl _
      · cases done

theorem run_owing (state final : State) (octets text : List Nat) (owing : state.Owing)
    (done : run state octets = some (final, text)) : final.Owing := by
  induction octets generalizing state text with
  | nil =>
      cases done
      exact owing
  | cons octet rest ih =>
      rw [run] at done
      split at done
      · cases done
      · rename_i next seen stepped
        rw [Option.map_eq_some_iff] at done
        obtain ⟨found, after, same⟩ := done
        cases same
        exact ih next found.2 (step_owing state next octet seen stepped) after

theorem run_append (state : State) (front back : List Nat) :
    run state (front ++ back) = (run state front).bind fun found =>
      (run found.1 back).map fun later => (later.1, found.2 ++ later.2) := by
  induction front generalizing state with
  | nil => simp [run]
  | cons octet rest ih =>
      rw [List.cons_append, run, run]
      cases stepped : step state octet with
      | none => rfl
      | some reached =>
          simp only [ih]
          cases run reached.1 rest with
          | none => rfl
          | some found => simp [Function.comp_def]

theorem run_ascii (octets : List Nat) (plain : ∀ octet ∈ octets, octet ≤ 0x7F) :
    run .start octets = some (.start, octets) := by
  induction octets with
  | nil => rfl
  | cons octet rest ih =>
      have small := plain octet List.mem_cons_self
      rw [run, step, first, if_pos small]
      simp [ih fun later listed => plain later (List.mem_cons_of_mem _ listed)]

theorem decode_between (front middle back : List Nat) (before : ∀ octet ∈ front, octet ≤ 0x7F)
    (after : ∀ octet ∈ back, octet ≤ 0x7F) (ends : back ≠ []) :
    decode (front ++ middle ++ back) = (decode middle).map fun text => front ++ text ++ back := by
  rw [decode, run_append, run_append, run_ascii front before, decode]
  simp only [Option.bind_some]
  cases done : run .start middle with
  | none => rfl
  | some found =>
      obtain ⟨final, text⟩ := found
      cases final with
      | start => simp [run_ascii back after]
      | owes more low high value =>
          have owing : 0x80 ≤ low := run_owing .start _ middle text trivial done
          cases back with
          | nil => exact absurd rfl ends
          | cons octet rest =>
              have small := after octet List.mem_cons_self
              have refused : ¬ (low ≤ octet ∧ octet ≤ high) := by omega
              simp [run, step, refused]

end Foundation.Utf8
