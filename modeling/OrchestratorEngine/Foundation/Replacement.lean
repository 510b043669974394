import Mathlib.Tactic.SplitIfs
import OrchestratorEngine.Foundation.Utf8

set_option autoImplicit false

namespace Foundation.Utf8

def replacement : Nat := 0xFFFD

-- The decoder that does not stop at what it cannot read: the given text stands for
-- a sequence that breaks off, and the octet that broke it is read afresh.
def lossyStep (stand : List Nat) (state : State) (octet : Nat) : State × List Nat :=
  match step state octet with
  | some found => found
  | none =>
      match state with
      | .start => (.start, stand)
      | .owes _ _ _ _ =>
          match first octet with
          | some (next, text) => (next, stand ++ text)
          | none => (.start, stand ++ stand)

def lossyRun (stand : List Nat) : State → List Nat → State × List Nat
  | state, [] => (state, [])
  | state, octet :: rest =>
      let (next, text) := lossyStep stand state octet
      let (final, more) := lossyRun stand next rest
      (final, text ++ more)

def State.closing (stand : List Nat) : State → List Nat
  | .start => []
  | .owes _ _ _ _ => stand

def lossyFrom (stand : List Nat) (state : State) (octets : List Nat) : List Nat :=
  (lossyRun stand state octets).2 ++ (lossyRun stand state octets).1.closing stand

def decodeReplacing (octets : List Nat) : List Nat := lossyFrom [replacement] .start octets

def decodeIgnoring (octets : List Nat) : List Nat := lossyFrom [] .start octets

section Stand

variable (stand : List Nat)

variable (state : State)

theorem lossy_from_cons (octet : Nat) (rest : List Nat) :
    lossyFrom stand state (octet :: rest) =
      (lossyStep stand state octet).2 ++ lossyFrom stand (lossyStep stand state octet).1 rest := by
  simp only [lossyFrom, lossyRun, List.append_assoc]

theorem lossy_from_append (front back : List Nat) :
    lossyFrom stand state (front ++ back) =
      (lossyRun stand state front).2 ++ lossyFrom stand (lossyRun stand state front).1 back := by
  induction front generalizing state with
  | nil => rfl
  | cons octet rest ih => rw [List.cons_append, lossy_from_cons, ih, lossyRun, List.append_assoc]

def State.Tail : State → Prop
  | .start => True
  | .owes _ low high _ => 0x80 ≤ low ∧ high ≤ 0xBF

theorem first_tail (octet : Nat) (next : State) (text : List Nat) (done : first octet = some (next, text)) :
    next.Tail := by
  unfold first at done
  split at done
  · cases done
    trivial
  all_goals
    repeat (split at done; · cases done; simp [State.Tail])
  cases done

theorem lossy_step_tail (octet : Nat) (tail : state.Tail) : (lossyStep stand state octet).1.Tail := by
  unfold lossyStep
  cases state with
  | start =>
      rw [step]
      cases done : first octet with
      | none => trivial
      | some found => exact first_tail octet found.1 found.2 done
  | owes more low high value =>
      rw [step]
      split
      · rename_i found done
        split at done
        · cases more with
          | zero =>
              cases done
              trivial
          | succ left =>
              cases done
              exact ⟨Nat.le_refl _, Nat.le_refl _⟩
        · cases done
      · cases done : first octet with
        | none => trivial
        | some found => exact first_tail octet found.1 found.2 done

theorem lossy_run_tail (octets : List Nat) (tail : state.Tail) :
    (lossyRun stand state octets).1.Tail := by
  induction octets generalizing state with
  | nil => exact tail
  | cons octet rest ih =>
      rw [lossyRun]
      exact ih _ (lossy_step_tail stand state octet tail)

end Stand

theorem lossy_resumes (more low high value : Nat) (lower : 0x80 ≤ low) (upper : high ≤ 0xBF) (octets : List Nat) :
    ∃ lead common lost, lossyFrom [replacement] (.owes more low high value) octets = lead :: common ∧
      lossyFrom [replacement] .start octets = List.replicate lost replacement ++ common := by
  induction octets generalizing more low high value with
  | nil => exact ⟨replacement, [], 0, rfl, rfl⟩
  | cons octet rest ih =>
      by_cases owed : low ≤ octet ∧ octet ≤ high
      · have stray : first octet = none := by
          unfold first
          split_ifs <;> first | rfl | omega
        have fresh : lossyFrom [replacement] .start (octet :: rest) =
            replacement :: lossyFrom [replacement] .start rest := by
          rw [lossy_from_cons, lossyStep, step, stray]
          rfl
        cases more with
        | zero =>
            refine ⟨64 * value + (octet - 0x80), lossyFrom [replacement] .start rest, 1, ?_, fresh⟩
            rw [lossy_from_cons, lossyStep, step, if_pos owed]
            rfl
        | succ left =>
            obtain ⟨lead, common, lost, whole, part⟩ := ih left 0x80 0xBF _ (Nat.le_refl _) (Nat.le_refl _)
            refine ⟨lead, common, lost + 1, ?_, ?_⟩
            · rw [lossy_from_cons, lossyStep, step, if_pos owed]
              exact whole
            · rw [fresh, part, List.replicate_succ, List.cons_append]
      · refine ⟨replacement, lossyFrom [replacement] .start (octet :: rest), 0, ?_, rfl⟩
        rw [lossy_from_cons, lossy_from_cons, lossyStep, lossyStep, step, step, if_neg owed]
        cases first octet with
        | none => rfl
        | some found => rfl

def charactersBefore (front : List Nat) : Nat :=
  (lossyRun [replacement] .start front).2.length +
    ((lossyRun [replacement] .start front).1.closing [replacement]).length

theorem lossy_suffix (front back : List Nat) : ∃ lost,
    decodeReplacing back =
      List.replicate lost replacement ++ (decodeReplacing (front ++ back)).drop (charactersBefore front) := by
  have whole : decodeReplacing (front ++ back) = (lossyRun [replacement] .start front).2 ++
      lossyFrom [replacement] (lossyRun [replacement] .start front).1 back :=
    lossy_from_append [replacement] .start front back
  have tail := lossy_run_tail [replacement] .start front trivial
  rw [whole, charactersBefore]
  generalize (lossyRun [replacement] .start front).1 = state at tail ⊢
  cases state with
  | start => exact ⟨0, by simp [State.closing, decodeReplacing]⟩
  | owes more low high value =>
      obtain ⟨lead, common, lost, inside, outside⟩ := lossy_resumes more low high value tail.1 tail.2 back
      refine ⟨lost, ?_⟩
      rw [inside, decodeReplacing, outside]
      simp [State.closing, List.drop_append]

-- The characters that have an encoding: the code points but the surrogates.
def Scalar (point : Nat) : Prop := point < 0xD800 ∨ 0xE000 ≤ point ∧ point < 0x110000

def encodePoint (point : Nat) : List Nat :=
  if point ≤ 0x7F then [point]
  else if point ≤ 0x7FF then [0xC0 + point / 64, 0x80 + point % 64]
  else if point ≤ 0xFFFF then [0xE0 + point / 4096, 0x80 + point / 64 % 64, 0x80 + point % 64]
  else [0xF0 + point / 262144, 0x80 + point / 4096 % 64, 0x80 + point / 64 % 64, 0x80 + point % 64]

def encode (text : List Nat) : List Nat := text.flatMap encodePoint

theorem run_encode_point (point : Nat) (scalar : Scalar point) :
    run .start (encodePoint point) = some (.start, [point]) := by
  unfold Scalar at scalar
  unfold encodePoint
  split_ifs with one two three
  · rw [run, step, first, if_pos one]
    rfl
  · have lead : first (0xC0 + point / 64) = some (.owes 0 0x80 0xBF (point / 64), []) := by
      rw [first, if_neg (by omega), if_pos (by omega), Nat.add_sub_cancel_left]
    have grown : 64 * (point / 64) + (0x80 + point % 64 - 0x80) = point := by omega
    simp only [run, step, lead, Option.map_some, List.nil_append]
    rw [if_pos (by omega), grown]
    rfl
  · have second : 64 * (point / 4096) + (0x80 + point / 64 % 64 - 0x80) = point / 64 := by omega
    have grown : 64 * (point / 64) + (0x80 + point % 64 - 0x80) = point := by omega
    obtain ⟨low, high, lead, inside⟩ : ∃ low high,
        first (0xE0 + point / 4096) = some (.owes 1 low high (point / 4096), []) ∧
        (low ≤ 0x80 + point / 64 % 64 ∧ 0x80 + point / 64 % 64 ≤ high) := by
      by_cases least : point / 4096 = 0
      · exact ⟨0xA0, 0xBF, by rw [least]; rfl, by omega⟩
      · by_cases last : point / 4096 = 0xD
        · exact ⟨0x80, 0x9F, by rw [last]; rfl, by omega⟩
        · refine ⟨0x80, 0xBF, ?_, by omega⟩
          rw [first, if_neg (by omega), if_neg (by omega), if_neg (by omega), if_neg (by omega), if_pos (by omega),
            Nat.add_sub_cancel_left]
    simp only [run, step, lead, Option.map_some, List.nil_append]
    rw [if_pos inside]
    simp only [second]
    rw [if_pos (by omega), grown]
    rfl
  · have second : 64 * (point / 262144) + (0x80 + point / 4096 % 64 - 0x80) = point / 4096 := by omega
    have third : 64 * (point / 4096) + (0x80 + point / 64 % 64 - 0x80) = point / 64 := by omega
    have grown : 64 * (point / 64) + (0x80 + point % 64 - 0x80) = point := by omega
    obtain ⟨low, high, lead, inside⟩ : ∃ low high,
        first (0xF0 + point / 262144) = some (.owes 2 low high (point / 262144), []) ∧
        (low ≤ 0x80 + point / 4096 % 64 ∧ 0x80 + point / 4096 % 64 ≤ high) := by
      by_cases least : point / 262144 = 0
      · exact ⟨0x90, 0xBF, by rw [least]; rfl, by omega⟩
      · by_cases last : point / 262144 = 4
        · exact ⟨0x80, 0x8F, by rw [last]; rfl, by omega⟩
        · refine ⟨0x80, 0xBF, ?_, by omega⟩
          rw [first, if_neg (by omega), if_neg (by omega), if_neg (by omega), if_neg (by omega), if_neg (by omega),
            if_neg (by omega), if_pos (by omega), Nat.add_sub_cancel_left]
    simp only [run, step, lead, Option.map_some, List.nil_append]
    rw [if_pos inside]
    simp only [second]
    rw [if_pos (by omega)]
    simp only [third]
    rw [if_pos (by omega), grown]
    rfl

theorem lossy_run_of_run (stand : List Nat) (state final : State) (octets text : List Nat)
    (done : run state octets = some (final, text)) : lossyRun stand state octets = (final, text) := by
  induction octets generalizing state text with
  | nil =>
      cases done
      rfl
  | cons octet rest ih =>
      rw [run] at done
      split at done
      · cases done
      · rename_i next seen stepped
        rw [Option.map_eq_some_iff] at done
        obtain ⟨found, after, same⟩ := done
        cases same
        simp only [lossyRun, lossyStep, stepped, ih next found.2 after]

theorem lossy_from_encode (stand text rest : List Nat) (scalars : ∀ point ∈ text, Scalar point) :
    lossyFrom stand .start (encode text ++ rest) = text ++ lossyFrom stand .start rest := by
  induction text with
  | nil => rfl
  | cons point more ih =>
      have one := run_encode_point point (scalars point List.mem_cons_self)
      rw [encode, List.flatMap_cons, List.append_assoc, lossy_from_append, lossy_run_of_run stand _ _ _ _ one]
      exact congrArg (point :: ·) (ih fun later listed => scalars later (List.mem_cons_of_mem _ listed))

theorem decode_ignoring_encode (text : List Nat) (scalars : ∀ point ∈ text, Scalar point) :
    decodeIgnoring (encode text) = text := by
  have read := lossy_from_encode [] text [] scalars
  rw [List.append_nil] at read
  rw [decodeIgnoring, read]
  exact List.append_nil text

theorem encode_point_tail (point lost : Nat) (some_lost : 0 < lost) :
    ∀ octet ∈ (encodePoint point).drop lost, first octet = none := by
  have tails : ∀ octet ∈ (encodePoint point).tail, 0x80 ≤ octet ∧ octet ≤ 0xBF := by
    unfold encodePoint
    split_ifs <;> simp <;> omega
  intro octet listed
  have later : octet ∈ (encodePoint point).tail := by
    rw [← List.drop_one]
    exact List.mem_of_mem_drop (by rwa [List.drop_drop, Nat.add_sub_cancel' some_lost])
  have bounds := tails octet later
  unfold first
  split_ifs <;> first | rfl | omega

theorem lossy_from_strays (strays rest : List Nat) (none_first : ∀ octet ∈ strays, first octet = none) :
    lossyFrom [] .start (strays ++ rest) = lossyFrom [] .start rest := by
  induction strays with
  | nil => rfl
  | cons octet more ih =>
      rw [List.cons_append, lossy_from_cons, lossyStep, step, none_first octet List.mem_cons_self]
      exact ih fun later listed => none_first later (List.mem_cons_of_mem _ listed)

theorem decode_ignoring_cut (text : List Nat) (scalars : ∀ point ∈ text, Scalar point) (lost : Nat) :
    ∃ gone, decodeIgnoring ((encode text).drop lost) = text.drop gone := by
  induction text generalizing lost with
  | nil => exact ⟨0, by rw [encode, List.flatMap_nil, List.drop_nil]; rfl⟩
  | cons point rest ih =>
      have later : ∀ other ∈ rest, Scalar other := fun other listed => scalars other (List.mem_cons_of_mem _ listed)
      rw [encode, List.flatMap_cons, List.drop_append]
      by_cases whole : lost = 0
      · subst whole
        refine ⟨0, ?_⟩
        rw [List.drop_zero, Nat.zero_sub, List.drop_zero, List.drop_zero, ← List.flatMap_cons]
        exact decode_ignoring_encode (point :: rest) scalars
      · by_cases inside : lost < (encodePoint point).length
        · refine ⟨1, ?_⟩
          rw [Nat.sub_eq_zero_of_le (Nat.le_of_lt inside), List.drop_zero, decodeIgnoring,
            lossy_from_strays _ _ (encode_point_tail point lost (by omega))]
          exact decode_ignoring_encode rest later
        · obtain ⟨gone, same⟩ := ih later (lost - (encodePoint point).length)
          refine ⟨gone + 1, ?_⟩
          rw [List.drop_eq_nil_of_le (by omega), List.nil_append, List.drop_succ_cons]
          exact same

def Sounds : Nat → Nat → Nat → Nat → Prop
  | 0, low, high, value => ∀ octet, low ≤ octet → octet ≤ high → Scalar (64 * value + (octet - 0x80))
  | more + 1, low, high, value => ∀ octet, low ≤ octet → octet ≤ high →
      Sounds more 0x80 0xBF (64 * value + (octet - 0x80))

def State.Sound : State → Prop
  | .start => True
  | .owes more low high value => Sounds more low high value

theorem first_sound (octet : Nat) (next : State) (text : List Nat) (done : first octet = some (next, text)) :
    next.Sound ∧ ∀ point ∈ text, Scalar point := by
  unfold first at done
  split at done
  · cases done
    refine ⟨trivial, fun point listed => ?_⟩
    rw [List.mem_singleton] at listed
    subst listed
    exact .inl (by omega)
  all_goals
    repeat (split at done; · cases done; refine ⟨?_, by simp⟩; simp only [State.Sound, Sounds, Scalar]; omega)
  cases done

theorem lossy_step_sound (stand : List Nat) (stands : ∀ point ∈ stand, Scalar point) (state : State) (octet : Nat)
    (sound : state.Sound) :
    (lossyStep stand state octet).1.Sound ∧ ∀ point ∈ (lossyStep stand state octet).2, Scalar point := by
  unfold lossyStep
  cases state with
  | start =>
      rw [step]
      cases done : first octet with
      | none => exact ⟨trivial, stands⟩
      | some found => exact first_sound octet found.1 found.2 done
  | owes more low high value =>
      rw [step]
      by_cases owed : low ≤ octet ∧ octet ≤ high
      · rw [if_pos owed]
        cases more with
        | zero =>
            refine ⟨trivial, fun point listed => ?_⟩
            rw [List.mem_singleton.mp listed]
            exact sound octet owed.1 owed.2
        | succ left => exact ⟨sound octet owed.1 owed.2, by simp⟩
      · rw [if_neg owed]
        cases done : first octet with
        | none =>
            refine ⟨trivial, fun point listed => ?_⟩
            rcases List.mem_append.mp listed with one | two
            exacts [stands point one, stands point two]
        | some found =>
            have sounds := first_sound octet found.1 found.2 done
            refine ⟨sounds.1, fun point listed => ?_⟩
            rcases List.mem_append.mp listed with stood | read
            exacts [stands point stood, sounds.2 point read]

theorem lossy_from_sound (stand : List Nat) (stands : ∀ point ∈ stand, Scalar point) (state : State) (octets : List Nat)
    (sound : state.Sound) : ∀ point ∈ lossyFrom stand state octets, Scalar point := by
  induction octets generalizing state with
  | nil =>
      cases state with
      | start => intro point listed; cases listed
      | owes more low high value => exact stands
  | cons octet rest ih =>
      have stepped := lossy_step_sound stand stands state octet sound
      intro point listed
      rw [lossy_from_cons] at listed
      rcases List.mem_append.mp listed with read | later
      exacts [stepped.2 point read, ih _ stepped.1 point later]

theorem decode_replacing_sound (octets : List Nat) : ∀ point ∈ decodeReplacing octets, Scalar point := by
  refine lossy_from_sound [replacement] (fun point listed => ?_) .start octets trivial
  rw [List.mem_singleton] at listed
  subst listed
  exact .inr (by decide)

end Foundation.Utf8
