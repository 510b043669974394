import OrchestratorEngine.ResourceQueue.Operations

set_option autoImplicit false

namespace OrchestratorEngine.ResourceQueue

open Foundation

section Lookup

variable (first second : Registry) (same : Dict.Same first second)

include same

theorem depth_same : depth first = depth second := by
  rw [depth, depth, (Dict.same_items_perm first second same).length_eq]

theorem enter_same (name : Name) (trail : List Name) : enter first name trail = enter second name trail := by
  rw [enter, enter, same name]

theorem selector_leaves_within_same (fuel : Nat) (name : Name) (trail : List Name) :
    selectorLeavesWithin first fuel name trail = selectorLeavesWithin second fuel name trail := by
  induction fuel generalizing name trail with
  | zero => rfl
  | succ fuel ih => simp only [selectorLeavesWithin, enter_same first second same, ih]

theorem selector_available_within_same (excluded : List Name) (fuel : Nat) (name : Name) (trail : List Name) :
    selectorAvailableWithin first excluded fuel name trail = selectorAvailableWithin second excluded
    fuel name trail := by
  induction fuel generalizing name trail with
  | zero => rfl
  | succ fuel ih => simp only [selectorAvailableWithin, enter_same first second same, ih]

theorem sorted_members_same (priority : Name → Int) (members : List Name) :
    sortedMembers first priority members = sortedMembers second priority members := by
  have keys : memberKey first priority = memberKey second priority := by
    funext member
    simp only [memberKey, selectorLeaves, depth_same first second same, selector_leaves_within_same first second same]
  rw [sortedMembers, sortedMembers, keys]

theorem alternatives_within_same (priority : Name → Int) (excluded : List Name) (fuel : Nat) (name : Name)
    (trail : List Name) :
    alternativesWithin first priority excluded fuel name trail =
      alternativesWithin second priority excluded fuel name trail := by
  induction fuel generalizing name trail with
  | zero => rfl
  | succ fuel ih =>
      simp only [alternativesWithin, enter_same first second same, selector_available_within_same first second same,
        sorted_members_same first second same, ih]

theorem require_alternative_same (name : Name) : requireAlternative first name = requireAlternative second name := by
  simp only [requireAlternative, alternatives, depth_same first second same, alternatives_within_same first second same]

end Lookup

def Entry.physical (entry : Entry) : Option Name :=
  if entry.kind = some .resource then entry.physicalId else none

-- An entry that normalization leaves as it is, and that it accepts wherever its
-- physical resource is still free.
def Stable (name : Name) (entry : Entry) : Prop :=
  ∀ (result : Registry) (physical : List Name), (∀ key, entry.physical = some key → key ∉ physical) →
    normalizeEntry (result, physical) (name, entry) = .ok (result.set name entry, entry.physical.toList ++ physical)

theorem identifier_again (value result : Name) (done : identifier value = .ok result) :
    result = value ∧ identifier value = .ok value := by
  simp only [identifier, bind_ok_iff, refuse_ok_iff, exists_const, pure_ok, Except.ok.injEq] at done ⊢
  exact ⟨done.2.symm, done.1, trivial⟩

theorem normalize_resource_settled (name : Name) (named : identifier name = .ok name) (entry : Entry)
    (physical : List Name) (next : Entry × List Name) (done : normalizeResource name entry physical = .ok next) :
    Stable name next.1 ∧ ∃ key ∉ physical, next.1.physical = some key ∧ next.2 = key :: physical := by
  simp only [normalizeResource, bind_ok_iff, refuse_ok_iff, exists_const, pure_ok, Except.ok.injEq] at done
  obtain ⟨key, known, fresh, capacity, counted, incarnation, dated, released, probed, rfl⟩ := done
  obtain ⟨rfl, known⟩ := identifier_again _ _ known
  obtain ⟨rfl, dated⟩ := identifier_again _ _ dated
  refine ⟨fun result others free => ?_, _, fresh, by simp [Entry.physical], rfl⟩
  have open_ : (entry.physicalId.getD name) ∉ others := free _ (by simp [Entry.physical])
  have again : positive (.integer capacity) = .ok capacity :=
    (positive_iff _ capacity).mpr ⟨rfl, ((positive_iff _ capacity).mp counted).2⟩
  simp only [normalizeEntry, named, bind_ok, Option.getD_some, normalizeResource, again, known, dated, refuse, open_,
    released, probed, if_false, pure_ok, Entry.physical, if_true, Option.toList_some, List.singleton_append]

theorem normalize_selector_settled (name : Name) (named : identifier name = .ok name) (kind : Kind)
    (selector : kind = .aliased ∨ kind = .pool ∨ kind = .bundle) (entry changed : Entry)
    (done : normalizeSelector kind entry = .ok changed) : Stable name changed ∧ changed.physical = none := by
  simp only [normalizeSelector, bind_ok_iff, refuse_ok_iff, exists_const, pure_ok, Except.ok.injEq] at done
  obtain ⟨proper, single, rfl⟩ := done
  have unowned : ({ entry with kind := some kind } : Entry).physical = none := by
    rcases selector with rfl | rfl | rfl <;> simp [Entry.physical]
  refine ⟨fun result others _ => ?_, unowned⟩
  rw [unowned]
  have again : normalizeSelector kind { entry with kind := some kind } = .ok { entry with kind := some kind } := by
    simp only [normalizeSelector, refuse, if_neg proper, if_neg single, bind_ok, pure_ok]
  rcases selector with rfl | rfl | rfl <;>
    simp only [normalizeEntry, named, bind_ok, Option.getD_some, again, pure_ok, Option.toList_none, List.nil_append]

variable (result : Registry)

theorem normalize_entry_settled (physical : List Name) (item : Name × Entry)
    (next : Registry × List Name) (done : normalizeEntry (result, physical) item = .ok next) :
    ∃ entry, Stable item.1 entry ∧ next = (result.set item.1 entry, entry.physical.toList ++ physical) ∧
      ∀ key, entry.physical = some key → key ∉ physical := by
  obtain ⟨name, entry⟩ := item
  obtain ⟨checked, named, rest⟩ := (bind_ok_iff _ _ _).mp done
  obtain ⟨rfl, named⟩ := identifier_again _ _ named
  have choose : ∀ kind : Kind, kind = .aliased ∨ kind = .pool ∨ kind = .bundle →
      (do let entry ← normalizeSelector kind entry; return (result.set checked entry, physical)) = .ok next →
      ∃ changed, Stable checked changed ∧ next = (result.set checked changed, changed.physical.toList ++ physical) ∧
        ∀ key, changed.physical = some key → key ∉ physical := by
    intro kind selector done
    obtain ⟨changed, normalized, finish⟩ := (bind_ok_iff _ _ _).mp done
    obtain ⟨settled, unowned⟩ := normalize_selector_settled checked named kind selector entry changed normalized
    cases finish
    exact ⟨changed, settled, by rw [unowned]; rfl, by simp [unowned]⟩
  cases kind : entry.kind.getD .resource with
  | resource =>
      rw [kind] at rest
      obtain ⟨changed, normalized, finish⟩ := (bind_ok_iff _ _ _).mp rest
      obtain ⟨settled, key, fresh, owned, listed⟩ :=
        normalize_resource_settled checked named entry physical changed normalized
      cases finish
      exact ⟨changed.1, settled, by rw [owned, listed]; rfl, by simp [owned, fresh]⟩
  | other text => simp [kind] at rest
  | aliased =>
      rw [kind] at rest
      exact choose .aliased (by simp) rest
  | pool =>
      rw [kind] at rest
      exact choose .pool (by simp) rest
  | bundle =>
      rw [kind] at rest
      exact choose .bundle (by simp) rest

-- What the loop over the entries keeps: every entry is settled, and no two of
-- them share a physical resource.
structure Collected (result : Registry) (physical : List Name) : Prop where
  settled : ∀ name entry, result.get? name = some entry → Stable name entry
  listed : ∀ name entry key, result.get? name = some entry → entry.physical = some key → key ∈ physical
  apart : ∀ first second entry other key, result.get? first = some entry → result.get? second = some other →
    entry.physical = some key → other.physical = some key → first = second

theorem collected_set (physical : List Name) (collected : Collected result physical) (name : Name)
    (entry : Entry) (settled : Stable name entry) (fresh : ∀ key, entry.physical = some key → key ∉ physical) :
    Collected (result.set name entry) (entry.physical.toList ++ physical) := by
  have split : ∀ other found, (result.set name entry).get? other = some found →
      other = name ∧ found = entry ∨ result.get? other = some found := by
    intro other found known
    rw [Dict.get_set] at known
    by_cases same : other = name
    · rw [if_pos same] at known
      exact .inl ⟨same, (Option.some.inj known).symm⟩
    · rw [if_neg same] at known
      exact .inr known
  refine ⟨fun other found known => ?_, fun other found key known owned => ?_, ?_⟩
  · rcases split other found known with ⟨rfl, rfl⟩ | old
    · exact settled
    · exact collected.settled other found old
  · rcases split other found known with ⟨rfl, rfl⟩ | old
    · simp [owned]
    · exact List.mem_append_right _ (collected.listed other found key old owned)
  · intro first second found other key known also owned shared
    rcases split first found known with ⟨rfl, rfl⟩ | old <;> rcases split second other also with ⟨rfl, rfl⟩ | older
    · rfl
    · exact absurd (collected.listed second other key older shared) (fresh key owned)
    · exact absurd (collected.listed first found key old owned) (fresh key shared)
    · exact collected.apart first second found other key old older owned shared

theorem set_fresh (name : Name) (entry : Entry) (fresh : name ∉ result.keys) :
    (result.set name entry).items = result.items ++ [(name, entry)] := by
  obtain ⟨items, distinct⟩ := result
  change name ∉ items.map Prod.fst at fresh
  change Dict.setItems name entry items = items ++ [(name, entry)]
  clear distinct
  induction items with
  | nil => rfl
  | cons item tail ih =>
      obtain ⟨old, kept⟩ := item
      have different : ¬ old = name := fun same => fresh (by simp [same])
      rw [Dict.setItems, if_neg different, ih fun later => fresh (List.mem_cons_of_mem _ later), List.cons_append]

theorem normalize_settled (items : List (Name × Entry)) (result : Registry) (physical : List Name)
    (distinct : (result.keys ++ items.map Prod.fst).Nodup) (settled : ∀ item ∈ items, Stable item.1 item.2)
    (free : ∀ item ∈ items, ∀ key, item.2.physical = some key → key ∉ physical)
    (apart : items.Pairwise fun item other => ∀ key, item.2.physical = some key → other.2.physical ≠ some key) :
    ∃ final, items.foldlM normalizeEntry (result, physical) = .ok final ∧ final.1.items = result.items ++ items := by
  induction items generalizing result physical with
  | nil => exact ⟨_, rfl, by simp⟩
  | cons item tail ih =>
      obtain ⟨here, later⟩ := List.pairwise_cons.mp apart
      have unheard : item.1 ∉ result.keys := fun known =>
        (List.nodup_append.mp distinct).2.2 item.1 known item.1 (by simp) rfl
      have added := set_fresh result item.1 item.2 unheard
      have keys : (result.set item.1 item.2).keys = result.keys ++ [item.1] := by simp [Dict.keys, added]
      obtain ⟨final, done, collected⟩ := ih (result.set item.1 item.2) (item.2.physical.toList ++ physical)
        (by simpa [keys] using distinct) (fun other inside => settled other (List.mem_cons_of_mem _ inside))
        (fun other inside key owned listed => by
          rcases List.mem_append.mp listed with mine | old
          · exact here other inside key (by simpa using mine) owned
          · exact free other (List.mem_cons_of_mem _ inside) key owned old) later
      refine ⟨final, ?_, by simpa [added] using collected⟩
      rw [List.foldlM_cons, settled item List.mem_cons_self result physical (free item List.mem_cons_self), bind_ok]
      exact done

theorem normalize_registry_again (raw registry other : Registry) (done : normalizeRegistry raw = .ok registry)
    (same : Dict.Same other registry) : normalizeRegistry other = .ok other := by
  simp only [normalizeRegistry, bind_ok_iff, pure_ok, Except.ok.injEq] at done
  obtain ⟨⟨result, physical⟩, folded, checked, complete, rfl⟩ := done
  have collected : Collected result physical := by
    refine foldlM_ok_inv normalizeEntry (fun state => Collected state.1 state.2) raw.items (Dict.empty, [])
      (result, physical) ⟨by simp, by simp, by simp⟩ ?_ folded
    rintro ⟨before, seen⟩ item _ next kept step
    obtain ⟨entry, settled, rfl, fresh⟩ := normalize_entry_settled before seen item next step
    exact collected_set before seen kept item.1 entry settled fresh
  have known : ∀ item ∈ other.items, result.get? item.1 = some item.2 := by
    rintro ⟨name, entry⟩ listed
    rw [← same name]
    exact (Dict.mem_items other name entry).mp listed
  obtain ⟨final, refolded, items⟩ := normalize_settled other.items Dict.empty [] (by simpa using other.distinct)
    (fun item listed => collected.settled item.1 item.2 (known item listed)) (by simp) (by
      have distinct : other.items.Pairwise fun item next => item.1 ≠ next.1 := List.pairwise_map.mp other.distinct
      refine distinct.imp_of_mem fun {item next} listed also different key owned shared => ?_
      exact different (collected.apart item.1 next.1 item.2 next.2 key (known item listed)
      (known next also) owned shared))
  have unchanged : final.1 = other := by
    obtain ⟨⟨kept, distinct⟩, seen⟩ := final
    cases items
    rfl
  have accepted : other.keys.mapM (requireAlternative other) = .ok (other.keys.map fun _ => ()) := by
    refine mapM_pure _ _ _ fun name listed => ?_
    rw [require_alternative_same other result same]
    obtain ⟨entry, stored⟩ := (Dict.mem_keys other name).mp listed
    obtain ⟨_, _, found⟩ := forall₂_mem_left _ _ _ (mapM_ok_inv _ _ _ complete) name
      ((Dict.mem_keys result name).mpr ⟨entry, (same name) ▸ stored⟩)
    exact found
  simp only [normalizeRegistry, refolded, bind_ok, unchanged, accepted, pure_ok]

end OrchestratorEngine.ResourceQueue
