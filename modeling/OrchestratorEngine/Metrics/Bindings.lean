import OrchestratorEngine.Metrics.Logical
import OrchestratorEngine.Metrics.Selection

set_option autoImplicit false

namespace OrchestratorEngine.Metrics

open Foundation

namespace Json

@[simp] theorem equals_str (value : Json) (text : String) : value.equals (.str text) = true ↔ value = .str text := by
  cases value <;> simp [equals, agree, sameScalar, number?]

theorem isText_iff (value : Json) : value.isText = true ↔ ∃ text, text ≠ "" ∧ value = .str text := by
  cases value <;> simp [isText]

theorem among_true (value : Json) (names : List String) :
    value.among names = .ok true ↔ ∃ name ∈ names, value = .str name := by
  cases value <;> simp [among, hashable]

theorem equals_text {left right : Json} (same : left.equals right = true) (texts : right.isText = true) :
    left = right := by
  obtain ⟨text, -, rfl⟩ := (isText_iff right).mp texts
  exact (equals_str left text).mp same

theorem agree_items_texts (left right : List Json) (same : agreeItems sameScalar left right = true)
    (texts : right.all isText = true) : left = right := by
  induction left generalizing right with
  | nil =>
      cases right with
      | nil => rfl
      | cons => simp [agreeItems] at same
  | cons head rest ih =>
      cases right with
      | nil => simp [agreeItems] at same
      | cons other others =>
          rw [agreeItems, Bool.and_eq_true] at same
          rw [List.all_cons, Bool.and_eq_true] at texts
          rw [equals_text same.1 texts.1, ih others same.2 texts.2]

end Json

theorem sorted_tuple_perm (items sorted : List Json) (done : sortedTuple (.arr items) = .ok sorted) :
    sorted.Perm items := by
  simp only [sortedTuple] at done
  split at done
  · cases done
    exact sorted_by_perm textOf items
  · split at done
    · cases done
      exact sorted_by_perm numberOf items
    · split at done
      · cases done
        exact List.Perm.refl _
      · cases done

def Agree (left right : Binding) : Prop :=
  ∃ first second, bindingSignature left = .ok first ∧ bindingSignature right = .ok second ∧ first.equals second = true

theorem value_of_listed (value : Binding) (name : String) (items : List Json) (kept : valueOf value name = .arr items) :
    (value.get? name).getD (.arr []) = .arr items := by
  rw [valueOf] at kept
  cases found : value.get? name with
  | none =>
      rw [found] at kept
      cases kept
  | some stored =>
      rw [found] at kept
      exact kept

theorem signature_parts (value : Binding) (signature : Json) (done : bindingSignature value = .ok signature) :
    ∃ requirements obligations,
      sortedTuple ((value.get? "obligation_ids").getD (.arr [])) = .ok obligations ∧
      signature = .arr [.arr [valueOf value "requirement_set_id", valueOf value "candidate_id",
        valueOf value "check_plan_revision", valueOf value "policy_revision", valueOf value "obligations_complete"],
        .arr requirements, .arr obligations] := by
  simp only [bindingSignature, bind_ok_iff, refuse_ok_iff] at done
  obtain ⟨requirements, _, obligations, sorted, _, _, finish⟩ := done
  cases finish
  exact ⟨requirements, obligations, sorted, rfl⟩

def bindingNames : List String := ["requirement_set_id", "candidate_id", "check_plan_revision", "policy_revision"]

theorem agree_fields {left right : Binding} (same : Agree left right)
    (complete : packageBindingsComplete right = true) :
    (∀ name ∈ bindingNames, valueOf left name = valueOf right name) ∧
      ∀ items, valueOf left "obligation_ids" = .arr items →
        ∃ others, valueOf right "obligation_ids" = .arr others ∧ items.Perm others := by
  obtain ⟨first, second, one, two, equal⟩ := same
  obtain ⟨_, obligations, sorted, rfl⟩ := signature_parts left first one
  obtain ⟨_, manifest, arranged, rfl⟩ := signature_parts right second two
  simp only [Json.equals, Json.agree, Json.agreeItems, Bool.and_true, Bool.and_eq_true] at equal
  obtain ⟨⟨setId, candidate, plan, policy, -⟩, -, lists⟩ := equal
  simp only [packageBindingsComplete, Bool.and_eq_true, textFields, List.all_cons, List.all_nil,
    Bool.and_true] at complete
  obtain ⟨⟨⟨setText, candidateText, planText, policyText⟩, -⟩, listing⟩ := complete
  constructor
  · intro name listed
    simp only [bindingNames, List.mem_cons, List.not_mem_nil, or_false] at listed
    rcases listed with rfl | rfl | rfl | rfl
    · exact Json.equals_text setId setText
    · exact Json.equals_text candidate candidateText
    · exact Json.equals_text plan planText
    · exact Json.equals_text policy policyText
  · intro items given
    split at listing
    case h_2 => cases listing
    case h_1 others kept =>
      rw [Bool.and_eq_true] at listing
      rw [value_of_listed left "obligation_ids" items given] at sorted
      rw [value_of_listed right "obligation_ids" others kept] at arranged
      have ordered := sorted_tuple_perm items obligations sorted
      have also := sorted_tuple_perm others manifest arranged
      have texts : manifest.all Json.isText = true := by
        rw [List.all_eq_true]
        exact fun item member => List.all_eq_true.mp listing.1 item (also.mem_iff.mp member)
      have equal := Json.agree_items_texts obligations manifest lists texts
      exact ⟨others, kept, ordered.symm.trans (equal ▸ also)⟩

theorem complete_of_agree {left right : Binding} (same : Agree left right)
    (complete : packageBindingsComplete right = true)
    (declared : (valueOf left "obligations_complete").isTrue = true)
    (listing : ∃ items, valueOf left "obligation_ids" = .arr items) : packageBindingsComplete left = true := by
  obtain ⟨fields, lists⟩ := agree_fields same complete
  obtain ⟨items, given⟩ := listing
  obtain ⟨others, kept, perm⟩ := lists items given
  simp only [packageBindingsComplete, kept, Bool.and_eq_true, textFields, decide_eq_true_eq] at complete
  simp only [packageBindingsComplete, given, Bool.and_eq_true, textFields, decide_eq_true_eq]
  obtain ⟨⟨texts, -⟩, shaped, distinct⟩ := complete
  refine ⟨⟨?_, declared⟩, ?_, ?_⟩
  · rw [List.all_eq_true] at texts ⊢
    intro name listed
    rw [fields name listed]
    exact texts name listed
  · rw [List.all_eq_true] at shaped ⊢
    exact fun item member => shaped item (perm.mem_iff.mp member)
  · exact (perm.filterMap Json.text?).nodup_iff.mpr distinct

theorem complete_shape {binding : Binding} (complete : packageBindingsComplete binding = true) :
    (valueOf binding "obligations_complete").isTrue = true ∧ ∃ items,
    valueOf binding "obligation_ids" = .arr items := by
  simp only [packageBindingsComplete, Bool.and_eq_true] at complete
  refine ⟨complete.1.2, ?_⟩
  have listing := complete.2
  split at listing
  case h_1 items kept => exact ⟨items, kept⟩
  case h_2 => cases listing

theorem selected_binding (ownerSources : List String) (records : List Observation) (binding : Binding)
    (selected : selectPackageBinding ownerSources records = .ok (.ok binding)) :
    packageBindingsComplete binding = true ∧
      (∃ source item, latestBinding ownerSources records source = some item ∧ item.data = binding) ∧
      ∀ source item, latestBinding ownerSources records source = some item → Agree item.data binding := by
  simp only [selectPackageBinding] at selected
  split at selected
  case h_1 => cases selected
  case h_2 current greatest =>
    obtain ⟨signatures, signed, decided⟩ := (bind_ok_iff _ _ _).mp selected
    split at decided
    case isTrue => cases decided
    case isFalse alike =>
      split at decided
      case isFalse => cases decided
      case isTrue complete =>
        cases decided
        have listed := List.argmax_mem greatest
        obtain ⟨⟨source, _⟩, member, rfl⟩ := List.mem_map.mp listed
        refine ⟨complete, ⟨source, _, ?_, rfl⟩, ?_⟩
        · rw [← selected_latest]
          exact (Dict.mem_items _ _ _).mp member
        · intro other item latest
          rw [← selected_latest, ← Dict.mem_items] at latest
          have pairs := mapM_ok_inv _ _ _ signed
          obtain ⟨first, firstListed, one⟩ := forall₂_mem_left _ _ _ pairs item
            (List.mem_map.mpr ⟨_, latest, rfl⟩)
          obtain ⟨second, secondListed, two⟩ := forall₂_mem_left _ _ _ pairs _ listed
          refine ⟨first, second, one, two, ?_⟩
          have all := List.all_eq_true.mp (not_not.mp alike) first firstListed
          exact List.all_eq_true.mp all second secondListed

end OrchestratorEngine.Metrics
