import OrchestratorEngine.Foundation.Outcome
import OrchestratorEngine.ResourceAdapters.Results

set_option autoImplicit false

namespace OrchestratorEngine.Applicability

open Foundation
open ResourceAdapters (Text Json lit surrogate control utf8Size isDigest)

def maxInputBytes : Nat := 64 * 1024
def maxStringBytes : Nat := 256
def maxCriteria : Nat := 64
def maxDepth : Nat := 8

-- An ApplicabilityError with its message. A text that cannot be encoded is
-- refused by the interpreter itself.
inductive Fault where
  | refused (message : String)
  | unicodeError
deriving DecidableEq, Repr

def alphanumeric (point : Nat) : Bool :=
  decide (48 ≤ point ∧ point ≤ 57 ∨ 65 ≤ point ∧ point ≤ 90 ∨ 97 ≤ point ∧ point ≤ 122)

def isIdentifier (marks : Text) (most : Nat) : Text → Bool
  | [] => false
  | first :: rest => alphanumeric first && decide (rest.length ≤ most) &&
      rest.all fun point => alphanumeric point || decide (point ∈ marks)

def isOpaqueId : Text → Bool := isIdentifier (lit "_.:-") 255

def isOperationId : Text → Bool := isIdentifier (lit "_.-") 127

def isDigit (point : Nat) : Bool := decide (48 ≤ point ∧ point ≤ 57)

def isHex (point : Nat) : Bool := decide (48 ≤ point ∧ point ≤ 57 ∨ 97 ≤ point ∧ point ≤ 102)

def fits : List (Nat → Bool) → Text → Bool
  | [], [] => true
  | allows :: classes, point :: rest => allows point && fits classes rest
  | _, _ => false

def oneOf (marks : String) (point : Nat) : Bool := decide (point ∈ lit marks)

def isUuid : Text → Bool :=
  fits (List.replicate 8 isHex ++ [oneOf "-"] ++ List.replicate 4 isHex ++ [oneOf "-", oneOf "12345"] ++
    List.replicate 3 isHex ++ [oneOf "-", oneOf "89ab"] ++ List.replicate 3 isHex ++ [oneOf "-"] ++
    List.replicate 12 isHex)

def encodable (text : Text) : Bool := !text.any surrogate

def utf8Length (text : Text) : Nat := (text.map utf8Size).sum

def isBounded (text : Text) : Bool :=
  decide (text ≠ []) && encodable text && decide (utf8Length text ≤ maxStringBytes) && !text.any control

def boundedText (value : Json) (field : String) : Except Fault Text :=
  match value with
  | .str text => do
      refuse (text = []) (.refused (field ++ " must be a nonempty string"))
      refuse (encodable text = false) (.refused (field ++ " must be valid UTF-8"))
      refuse (maxStringBytes < utf8Length text ∨ text.any control = true)
        (.refused (field ++ " must be a bounded printable string"))
      return text
  | _ => .error (.refused (field ++ " must be a nonempty string"))

mutual

def boundedStructure (depth : Nat) (value : Json) : Except Fault Unit := do
  refuse (maxDepth < depth) (.refused "applicability declaration exceeds nesting limit")
  match value with
  | .obj fields => do
      refuse (32 < fields.length) (.refused "applicability declaration has too many fields")
      boundedFields (depth + 1) fields
  | .arr items => do
      refuse (maxCriteria < items.length) (.refused "applicability declaration list is too large")
      boundedItems (depth + 1) items
  | .str text => do
      let _ ← boundedText (.str text) "value"
      return ()
  | .float _ => .error (.refused "applicability declaration contains invalid JSON")
  | _ => return ()

def boundedItems (depth : Nat) : List Json → Except Fault Unit
  | [] => .ok ()
  | item :: rest => do
      boundedStructure depth item
      boundedItems depth rest

def boundedFields (depth : Nat) : List (Text × Json) → Except Fault Unit
  | [] => .ok ()
  | (name, item) :: rest => do
      let _ ← boundedText (.str name) "field name"
      boundedStructure depth item
      boundedFields depth rest

end

theorem lit_inj (first second : String) : lit first = lit second ↔ first = second := by
  constructor
  · intro same
    apply String.toList_injective
    exact List.map_injective_iff.mpr (fun left right equal => Char.toNat_inj.mp equal) same
  · rintro rfl
    rfl

structure Checked (passes : Text → Bool) where
  text : Text
  good : passes text = true
deriving DecidableEq

abbrev OpaqueId := Checked isOpaqueId
abbrev OperationId := Checked isOperationId
abbrev Digest := Checked isDigest
abbrev Uuid := Checked isUuid
abbrev Bounded := Checked isBounded

def Checked.json {passes : Text → Bool} (checked : Checked passes) : Json := .str checked.text

def matching (passes : Text → Bool) (value : Json) (fault : Fault) : Except Fault (Checked passes) :=
  match value with
  | .str text => if good : passes text = true then .ok ⟨text, good⟩ else .error fault
  | _ => .error fault

def opaqueId (value : Json) (field : String) : Except Fault OpaqueId := do
  let text ← boundedText value field
  matching isOpaqueId (.str text) (.refused (field ++ " is not a bounded opaque identifier"))

@[simp] theorem matching_checked {passes : Text → Bool} (checked : Checked passes) (fault : Fault) :
    matching passes (.str checked.text) fault = .ok checked := dif_pos checked.good

theorem bounded_text_ok_iff (value : Json) (field : String) (text : Text) :
    boundedText value field = .ok text ↔ value = .str text ∧ isBounded text = true := by
  cases value with
  | str other =>
      simp only [boundedText, bind_ok_iff, refuse_ok_iff]
      constructor
      · rintro ⟨_, filled, _, valid, _, small, done⟩
        cases done
        refine ⟨rfl, ?_⟩
        simp only [not_or, not_lt, Bool.not_eq_false, Bool.not_eq_true] at valid small
        simp [isBounded, filled, valid, small]
      · rintro ⟨same, good⟩
        cases same
        simp only [isBounded, Bool.and_eq_true, decide_eq_true_eq, Bool.not_eq_true'] at good
        obtain ⟨⟨⟨filled, valid⟩, small⟩, printable⟩ := good
        exact ⟨(), filled, (), by simp [valid], (), by simp [small, printable], rfl⟩
  | null => simp [boundedText]
  | bool truth => simp [boundedText]
  | int value => simp [boundedText]
  | float value => simp [boundedText]
  | arr items => simp [boundedText]
  | obj fields => simp [boundedText]

theorem identifier_point (marks : Text) (most : Nat) (text : Text) (good : isIdentifier marks most text = true)
    (point : Nat) (listed : point ∈ text) : alphanumeric point = true ∨ point ∈ marks := by
  cases text with
  | nil => cases listed
  | cons first rest =>
      simp only [isIdentifier, Bool.and_eq_true, List.all_eq_true, Bool.or_eq_true, decide_eq_true_eq] at good
      rcases List.mem_cons.mp listed with rfl | later
      · exact .inl good.1.1
      · exact good.2 point later

theorem ascii_bounded (text : Text) (filled : text ≠ []) (short : text.length ≤ 256)
    (plain : ∀ point ∈ text, 32 ≤ point ∧ point < 127) : isBounded text = true ∧ utf8Length text = text.length := by
  have sizes : ∀ point ∈ text, utf8Size point = 1 := by
    intro point listed
    have small := (plain point listed).2
    exact if_pos (by omega)
  have length : utf8Length text = text.length := by
    unfold utf8Length
    rw [List.map_congr_left sizes]
    simp
  refine ⟨?_, length⟩
  have encoded : encodable text = true := by
    simp only [encodable, Bool.not_eq_true', List.any_eq_false, surrogate, decide_eq_true_eq]
    intro point listed
    have small := (plain point listed).2
    omega
  have printable : text.any control = false := by
    simp only [List.any_eq_false, ResourceAdapters.control, decide_eq_true_eq]
    intro point listed
    have range := plain point listed
    omega
  have sized : utf8Length text ≤ maxStringBytes := by
    rw [length]
    exact short
  simp [isBounded, filled, encoded, printable, sized]

end OrchestratorEngine.Applicability
