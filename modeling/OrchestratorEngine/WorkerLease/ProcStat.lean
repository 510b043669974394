import Mathlib.Data.Nat.Digits.Defs
import OrchestratorEngine.Foundation.Utf8
import OrchestratorEngine.WorkerLease.Identity

set_option autoImplicit false

namespace OrchestratorEngine.WorkerLease

open Foundation

def procStatStarttimeIndex : Nat := 19

def isSpace (point : Nat) : Bool :=
  decide (9 ≤ point ∧ point ≤ 13 ∨ 28 ≤ point ∧ point ≤ 32 ∨ point = 0x85 ∨ point = 0xA0 ∨ point = 0x1680 ∨
    0x2000 ≤ point ∧ point ≤ 0x200A ∨ point = 0x2028 ∨ point = 0x2029 ∨ point = 0x202F ∨
    point = 0x205F ∨ point = 0x3000)

def isAsciiSpace (point : Nat) : Bool := decide (9 ≤ point ∧ point ≤ 13 ∨ point = 32)

-- "rpartition": what follows the last ") ", which is missing when there is none.
def afterLast : List Nat → Option (List Nat)
  | [] => none
  | point :: rest =>
      match afterLast rest with
      | some tail => some tail
      | none => if point = 41 ∧ rest.head? = some 32 then some rest.tail else none

-- "split": the runs of characters between spaces; the run at hand is kept in reverse.
def words (space : Nat → Bool) (word : List Nat) : List Nat → List (List Nat)
  | [] => if word = [] then [] else [word.reverse]
  | point :: rest =>
      if space point then
        if word = [] then words space [] rest else word.reverse :: words space [] rest
      else words space (point :: word) rest

def split (space : Nat → Bool) (text : List Nat) : List (List Nat) := words space [] text

def isDigit (point : Nat) : Bool := decide (48 ≤ point ∧ point ≤ 57)

def natural (digits : List Nat) : Option Nat :=
  if digits ≠ [] ∧ digits.all isDigit = true then some (digits.foldl (fun total point => 10 * total + (point - 48)) 0)
  else none

-- "int" of a field; the kernel writes no other form of a number.
def integer : List Nat → Option Int
  | 45 :: digits => (natural digits).map fun value : Nat => -(value : Int)
  | digits => (natural digits).map fun value : Nat => (value : Int)

def newlines : List Nat → List Nat
  | [] => []
  | 13 :: 10 :: rest => 10 :: newlines rest
  | 13 :: rest => 10 :: newlines rest
  | point :: rest => point :: newlines rest

inductive StatFault where
  | valueError
  | unicodeDecodeError
deriving DecidableEq, Repr

structure Stat where
  state : List Nat
  processGroup : Int
  startTicks : Int
deriving DecidableEq, Repr

def linuxProcStat (raw : List Nat) : Except StatFault Stat :=
  match afterLast raw with
  | none => .error .valueError
  | some tail =>
      let fields := split isAsciiSpace tail
      match fields[0]?, fields[2]?.bind integer, fields[procStatStarttimeIndex]?.bind integer with
      | some state, some processGroup, some startTicks =>
          if state.all (fun octet => decide (octet < 128)) = true ∧ state.length = 1 then
            .ok { state, processGroup, startTicks }
          else .error .valueError
      | _, _, _ => .error .valueError

inductive Reading where
  | missing
  | failed
  | line (octets : List Nat)
deriving DecidableEq, Repr

structure Observed where
  identity : Identity
  state : List Nat
deriving DecidableEq, Repr

inductive Probe where
  | unknown
  | gone
  | present (observed : Observed)
deriving DecidableEq, Repr

def Probe.identity : Probe → Option Observed
  | .present observed => some observed
  | _ => none

-- The line is decoded as UTF-8, and only errors of the system are caught.
def processIdentityProbe (bootId : Option String) (pid : Int) (reading : Reading) : Except StatFault Probe :=
  if pid ≤ 0 then .ok .unknown
  else match reading with
  | .missing => .ok .gone
  | .failed => .ok .unknown
  | .line octets =>
      match Utf8.decode octets with
      | none => .error .unicodeDecodeError
      | some decoded =>
          match afterLast (newlines decoded) with
          | none => .ok .unknown
          | some tail =>
              let fields := split isSpace tail
              match fields[0]?, fields[procStatStarttimeIndex]?.bind integer with
              | some state, some startTicks =>
                  .ok (.present {
                    identity := { source := some identitySource, pid := some pid, startTicks := some startTicks, bootId }
                    state })
              | _, _ => .ok .unknown

def digits (value : Nat) : List Nat :=
  if value = 0 then [48] else (Nat.digits 10 value).reverse.map fun digit => 48 + digit

def decimal (value : Int) : List Nat := if value < 0 then 45 :: digits value.natAbs else digits value.natAbs

-- The line that the kernel writes of a process. The name is the octets of its
-- choice; the numeric fields follow the letter of its state.
structure StatLine where
  pid : Nat
  name : List UInt8
  state : Nat
  numbers : List Int
  letter : 65 ≤ state ∧ state ≤ 90 ∨ 97 ≤ state ∧ state ≤ 122
  fields : procStatStarttimeIndex ≤ numbers.length

namespace StatLine

variable (line : StatLine)

def tail : List Nat := line.state :: (line.numbers.flatMap fun value => 32 :: decimal value) ++ [10]

def octets : List Nat := line.name.map UInt8.toNat

def raw : List Nat := digits line.pid ++ [32, 40] ++ line.octets ++ [41, 32] ++ line.tail

def processGroup : Int := line.numbers.getD 1 0

def startTicks : Int := line.numbers.getD 18 0

end StatLine

theorem digit_values (value : Nat) : ∀ digit ∈ Nat.digits 10 value, digit < 10 :=
  fun _ listed => Nat.digits_lt_base (by omega) listed

theorem digits_plain (value : Nat) : digits value ≠ [] ∧ ∀ point ∈ digits value, isDigit point = true := by
  unfold digits
  split
  · simp [isDigit]
  · rename_i positive
    refine ⟨by simpa using Nat.digits_ne_nil_iff_ne_zero.mpr positive, fun point listed => ?_⟩
    obtain ⟨digit, member, rfl⟩ := List.mem_map.mp listed
    have small := digit_values value digit (List.mem_reverse.mp member)
    simp only [isDigit, decide_eq_true_eq]
    omega

theorem natural_digits (value : Nat) : natural (digits value) = some value := by
  obtain ⟨filled, plain⟩ := digits_plain value
  rw [natural, if_pos ⟨filled, List.all_eq_true.mpr plain⟩, Option.some.injEq]
  unfold digits
  split
  · rename_i zero
    simp [zero]
  · rw [List.foldl_map, List.foldl_reverse]
    conv_rhs => rw [← Nat.ofDigits_digits 10 value, Nat.ofDigits_eq_foldr]
    have same : ∀ entries : List Nat, (∀ digit ∈ entries, digit < 10) →
        entries.foldr (fun digit total => 10 * total + (48 + digit - 48)) 0 =
          entries.foldr (fun digit total => (digit : Nat) + 10 * total) 0 := by
      intro entries _
      induction entries with
      | nil => rfl
      | cons digit rest ih => simp_all; omega
    simpa using same (Nat.digits 10 value) (digit_values value)

theorem integer_decimal (value : Int) : integer (decimal value) = some value := by
  unfold decimal
  split
  · rename_i negative
    rw [integer, natural_digits]
    simp only [Option.map_some, Option.some.injEq]
    omega
  · rename_i positive
    have plain := digits_plain value.natAbs
    have found := natural_digits value.natAbs
    revert plain found
    generalize digits value.natAbs = shown
    intro plain found
    unfold integer
    split
    · rename_i rest
      exact absurd (plain.2 45 List.mem_cons_self) (by decide)
    · rw [found]
      simp only [Option.map_some, Option.some.injEq]
      omega

theorem after_last_none (tail : List Nat) (plain : 41 ∉ tail) : afterLast tail = none := by
  induction tail with
  | nil => rfl
  | cons point rest ih =>
      rw [List.mem_cons, not_or] at plain
      have other : ¬ (point = 41 ∧ rest.head? = some 32) := fun found => plain.1 found.1.symm
      rw [afterLast, ih plain.2]
      simp [other]

theorem after_last_found (front tail : List Nat) (plain : 41 ∉ tail) :
    afterLast (front ++ 41 :: 32 :: tail) = some tail := by
  induction front with
  | nil =>
      have blank : afterLast (32 :: tail) = none := after_last_none _ (by simp [plain])
      rw [List.nil_append, afterLast, blank]
      simp
  | cons point rest ih => rw [List.cons_append, afterLast, ih]

section Words

variable (space : Nat → Bool)

theorem words_run (word run rest : List Nat) (plain : ∀ point ∈ run, space point = false) :
    words space word (run ++ rest) = words space (run.reverse ++ word) rest := by
  induction run generalizing word with
  | nil => rfl
  | cons point run ih =>
      rw [List.cons_append, words, if_neg (by simp [plain point List.mem_cons_self]),
        ih (point :: word) fun later listed => plain later (List.mem_cons_of_mem _ listed)]
      simp

theorem words_fields (blank : space 32 = true) (ends : space 10 = true) (first : List Nat) (fields : List (List Nat))
    (filled : ∀ field ∈ first :: fields, field ≠ [] ∧ ∀ point ∈ field, space point = false) :
    words space [] (first ++ (fields.flatMap fun field => 32 :: field) ++ [10]) = first :: fields := by
  induction fields generalizing first with
  | nil =>
      obtain ⟨here, plain⟩ := filled first List.mem_cons_self
      rw [List.flatMap_nil, List.append_nil, words_run space [] first [10] plain]
      simp [words, ends, here]
  | cons field fields ih =>
      obtain ⟨here, plain⟩ := filled first List.mem_cons_self
      rw [List.append_assoc, words_run space [] first _ plain]
      simp only [List.append_nil, List.flatMap_cons, List.cons_append]
      rw [words, if_pos blank, if_neg (by simpa using here), List.reverse_reverse,
        ih field fun other listed => filled other (List.mem_cons_of_mem _ listed)]

end Words

theorem decimal_plain (value : Int) :
    decimal value ≠ [] ∧ ∀ point ∈ decimal value, point = 45 ∨ 48 ≤ point ∧ point ≤ 57 := by
  have plain : ∀ point ∈ digits value.natAbs, 48 ≤ point ∧ point ≤ 57 := by
    intro point listed
    simpa [isDigit] using (digits_plain value.natAbs).2 point listed
  unfold decimal
  split
  · refine ⟨by simp, fun point listed => ?_⟩
    rcases List.mem_cons.mp listed with rfl | later
    · exact .inl rfl
    · exact .inr (plain point later)
  · exact ⟨(digits_plain value.natAbs).1, fun point listed => .inr (plain point listed)⟩

namespace StatLine

variable (line : StatLine)

theorem tail_eq : line.tail = [line.state] ++
    ((line.numbers.map decimal).flatMap fun field => 32 :: field) ++ [10] := by
  simp [tail, List.flatMap_map]

theorem tail_plain : ∀ point ∈ line.tail, point = 10 ∨ point = 32 ∨ point = 45 ∨ 48 ≤ point ∧ point ≤ 57 ∨
    65 ≤ point ∧ point ≤ 90 ∨ 97 ≤ point ∧ point ≤ 122 := by
  intro point listed
  have letter := line.letter
  simp only [tail, List.cons_append, List.mem_cons, List.mem_append, List.mem_flatMap, List.not_mem_nil,
    or_false] at listed
  rcases listed with rfl | ⟨value, _, rfl | shown⟩ | rfl
  · omega
  · omega
  · have plain := (decimal_plain value).2 point shown
    omega
  · omega

theorem split_tail (space : Nat → Bool) (blank : space 32 = true) (ends : space 10 = true)
    (letters : space line.state = false) (others : ∀ point, point = 45 ∨ 48 ≤ point ∧ point ≤ 57 →
    space point = false) :
    split space line.tail = [line.state] :: line.numbers.map decimal := by
  rw [split, tail_eq]
  refine words_fields space blank ends _ _ fun field listed => ?_
  rcases List.mem_cons.mp listed with rfl | later
  · simp [letters]
  · obtain ⟨value, _, rfl⟩ := List.mem_map.mp later
    exact ⟨(decimal_plain value).1, fun point member => others point ((decimal_plain value).2 point member)⟩

theorem split_ascii : split isAsciiSpace line.tail = [line.state] :: line.numbers.map decimal := by
  refine line.split_tail isAsciiSpace rfl rfl ?_ ?_
  · have letter := line.letter
    simp only [isAsciiSpace, decide_eq_false_iff_not]
    omega
  · intro point shown
    simp only [isAsciiSpace, decide_eq_false_iff_not]
    omega

theorem split_text : split isSpace line.tail = [line.state] :: line.numbers.map decimal := by
  refine line.split_tail isSpace rfl rfl ?_ ?_
  · have letter := line.letter
    simp only [isSpace, decide_eq_false_iff_not]
    omega
  · intro point shown
    simp only [isSpace, decide_eq_false_iff_not]
    omega

theorem number_field (index : Nat) (inside : index < line.numbers.length) :
    ([line.state] :: line.numbers.map decimal)[index + 1]?.bind integer = some (line.numbers.getD index 0) := by
  simp [List.getElem?_map, List.getElem?_eq_getElem inside, integer_decimal, List.getD_eq_getElem?_getD]

theorem after_last_raw : afterLast line.raw = some line.tail := by
  have closed : 41 ∉ line.tail := fun listed => by
    have plain := line.tail_plain 41 listed
    omega
  have shape : line.raw = (digits line.pid ++ [32, 40] ++ line.octets) ++ 41 :: 32 :: line.tail := by simp [raw]
  rw [shape]
  exact after_last_found _ _ closed

theorem linux_proc_stat : linuxProcStat line.raw =
    .ok { state := [line.state], processGroup := line.processGroup, startTicks := line.startTicks } := by
  have counted := line.fields
  have letter := line.letter
  have group := line.number_field 1 (by unfold procStatStarttimeIndex at counted; omega)
  have start := line.number_field 18 (by unfold procStatStarttimeIndex at counted; omega)
  simp only [linuxProcStat, line.after_last_raw, line.split_ascii, procStatStarttimeIndex, group, start,
    List.getElem?_cons_zero]
  rw [if_pos ⟨by simp; omega, rfl⟩]
  rfl

theorem pid_plain : ∀ octet ∈ digits line.pid ++ [32, 40], octet ≤ 0x7F := by
  intro octet listed
  rcases List.mem_append.mp listed with shown | mark
  · have digit := (digits_plain line.pid).2 octet shown
    simp only [isDigit, decide_eq_true_eq] at digit
    omega
  · simp only [List.mem_cons, List.not_mem_nil, or_false] at mark
    omega

theorem tail_ascii : ∀ octet ∈ [41, 32] ++ line.tail, octet ≤ 0x7F := by
  intro octet listed
  rcases List.mem_append.mp listed with mark | shown
  · simp only [List.mem_cons, List.not_mem_nil, or_false] at mark
    omega
  · have plain := line.tail_plain octet shown
    omega

theorem decode_raw : Utf8.decode line.raw =
    (Utf8.decode line.octets).map fun name => digits line.pid ++ [32, 40] ++ name ++ ([41, 32] ++ line.tail) := by
  have shape : line.raw = (digits line.pid ++ [32, 40]) ++ line.octets ++ ([41, 32] ++ line.tail) := by simp [raw]
  rw [shape]
  exact Utf8.decode_between _ _ _ line.pid_plain line.tail_ascii (by simp)

end StatLine

theorem newlines_plain (text : List Nat) (plain : 13 ∉ text) : newlines text = text := by
  induction text with
  | nil => rfl
  | cons point rest ih =>
      rw [List.mem_cons, not_or] at plain
      have other : point ≠ 13 := fun same => plain.1 same.symm
      simp [newlines, other, ih plain.2]

theorem newlines_before (front back : List Nat) : ∃ shown, newlines (front ++ 41 :: back) = shown ++ 41 ::
    newlines back := by
  fun_induction newlines front with
  | case1 => exact ⟨[], rfl⟩
  | case2 rest ih =>
      obtain ⟨shown, same⟩ := ih
      exact ⟨10 :: shown, by simp [newlines, same]⟩
  | case3 rest other ih =>
      obtain ⟨shown, same⟩ := ih
      refine ⟨10 :: shown, ?_⟩
      cases rest with
      | nil => simpa [newlines] using same
      | cons point rest =>
          have apart : point ≠ 10 := fun equal => other rest (by rw [equal])
          simpa [newlines, apart] using same
  | case4 point rest notBoth notReturn ih =>
      obtain ⟨shown, same⟩ := ih
      have other : point ≠ 13 := notReturn
      exact ⟨point :: shown, by simp [newlines, other, same]⟩

end OrchestratorEngine.WorkerLease
