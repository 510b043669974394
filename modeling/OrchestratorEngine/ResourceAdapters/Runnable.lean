import OrchestratorEngine.ResourceAdapters.Recipes

set_option autoImplicit false

namespace OrchestratorEngine.ResourceAdapters

open Foundation

def boundedPath (text : Text) : Bool := decide (text ≠ [] ∧ text.length ≤ 4096) && goodPath text

variable (field : String)

theorem relative_path_ok (value : Json) (text : Text) :
    relativePath field value = .ok text ↔ value = .str text ∧ boundedPath text = true := by
  cases value with
  | str given =>
      simp only [relativePath, boundedPath, bind_ok_iff, refuse_ok_iff, pure_ok, not_or, Nat.not_lt, Bool.not_eq_false,
        Except.ok.injEq, Json.str.injEq, Bool.and_eq_true, decide_eq_true_eq]
      constructor
      · rintro ⟨_, bounded, _, good, rfl⟩
        exact ⟨rfl, bounded, good⟩
      · rintro ⟨rfl, bounded, good⟩
        exact ⟨(), bounded, (), good, rfl⟩
  | _ => simp [relativePath]

def BoundedList (maximum : Nat) (paths : List Text) : Prop :=
  paths ≠ [] ∧ paths.length ≤ maximum ∧ paths.Nodup ∧ ∀ path ∈ paths, boundedPath path = true

theorem relative_paths_ok (items : List Json) (paths : List Text) :
    items.mapM (relativePath field) = .ok paths ↔ items = paths.map .str ∧ ∀ path ∈ paths, boundedPath path = true := by
  induction items generalizing paths with
  | nil => cases paths <;> simp
  | cons item rest ih =>
      simp only [List.mapM_cons, bind_ok_iff, pure_ok, Except.ok.injEq, relative_path_ok, ih]
      cases paths with
      | nil => simp
      | cons path later =>
          simp only [List.map_cons, List.cons.injEq, List.forall_mem_cons]
          constructor
          · rintro ⟨_, ⟨rfl, good⟩, _, ⟨rfl, others⟩, rfl, rfl⟩
            exact ⟨⟨rfl, rfl⟩, good, others⟩
          · rintro ⟨⟨rfl, rfl⟩, good, others⟩
            exact ⟨path, ⟨rfl, good⟩, later, ⟨rfl, others⟩, rfl, rfl⟩

theorem texts_of_strings (paths : List Text) : (paths.map Json.str).filterMap Json.text? = paths := by
  induction paths with
  | nil => rfl
  | cons path rest ih => simp [Json.text?, ih]

theorem path_list_ok (maximum : Nat) (value : Json) (paths : List Text) :
    pathList field maximum value = .ok paths ↔ value = .texts paths ∧ BoundedList maximum paths := by
  cases value with
  | arr items =>
      simp only [pathList, Json.texts, BoundedList, bind_ok_iff, refuse_ok_iff, relative_paths_ok, Json.arr.injEq]
      constructor
      · rintro ⟨_, checked, rfl, good⟩
        simp only [not_or, Nat.not_lt, not_not, texts_of_strings, List.length_map, List.map_eq_nil_iff] at checked
        exact ⟨rfl, checked.1, checked.2.1, checked.2.2.2, good⟩
      · rintro ⟨rfl, some_, few, distinct, good⟩
        refine ⟨(), ?_, rfl, good⟩
        simp only [not_or, Nat.not_lt, not_not, texts_of_strings, List.length_map, List.map_eq_nil_iff]
        refine ⟨some_, few, ?_, distinct⟩
        simp [Json.text?]
  | _ => simp [pathList, Json.texts]

theorem cover_paths_ok (paths inputs : List Text) (done : Unit) :
    coverPaths paths inputs = .ok done ↔ ∀ relative ∈ paths, covered relative inputs = true := by
  rw [coverPaths]
  split
  case h_1 relative found =>
    have uncovered := List.find?_some found
    simp only [reduceCtorEq, false_iff, not_forall]
    exact ⟨relative, List.mem_of_find?_eq_some found, by simpa using uncovered⟩
  case h_2 none_ => simpa using none_

theorem covered_self (path : Text) (inputs : List Text) (listed : path ∈ inputs) : covered path inputs = true := by
  rw [covered, List.any_eq_true]
  exact ⟨path, listed, by simp⟩

theorem timeout_positive (value : Json) (seconds : Rat) (read : timeoutSeconds value = .ok (some seconds)) :
    0 < seconds := by
  cases value with
  | int given =>
      cases exact_ : floatOfNat given.natAbs with
      | none => simp [timeoutSeconds, exact_] at read
      | some rounded =>
          simp only [timeoutSeconds, exact_, bind_ok_iff, refuse_ok_iff, not_le, pure_ok, Except.ok.injEq,
            Option.some.injEq] at read
          obtain ⟨_, positive, rfl⟩ := read
          have natural := float_of_nat_pos given.natAbs rounded (by omega) exact_
          exact_mod_cast natural
  | float given =>
      cases given with
      | none => cases read
      | some exact_ =>
          simp only [timeoutSeconds, bind_ok_iff, refuse_ok_iff, not_le, pure_ok, Except.ok.injEq,
            Option.some.injEq] at read
          obtain ⟨_, positive, rfl⟩ := read
          exact positive
  | null => cases read
  | _ => cases read

structure Accepted (fields : List (Text × Json)) (recipe : Recipe) : Prop where
  only : Json.onlyFields recipeFields fields = true
  kind : Json.item "kind" fields = .str (lit releaseUpgradeKind)
  inputs : Json.item "inputs" fields = .texts recipe.inputs
  needs : normalizeNeeds (Json.item "needs" fields) = .ok recipe.resource
  adapter : Json.item "adapter" fields = .str recipe.adapter
  boundary : Json.item "previous_boundary" fields = .str recipe.previousBoundary
  fixtures : Json.item "fixtures" fields = .texts recipe.fixtures
  pre : Json.item "pre_assertions" fields = .texts recipe.preAssertions
  post : Json.item "post_assertions" fields = .texts recipe.postAssertions
  readbacks : Json.item "readbacks" fields = .texts recipe.readbacks
  timeout : timeoutSeconds (Json.item "timeout_seconds" fields) = .ok recipe.timeoutSeconds

structure Fitting (recipe : Recipe) : Prop where
  inputs : BoundedList 64 recipe.inputs
  adapter : boundedPath recipe.adapter = true
  boundary : isBoundary recipe.previousBoundary = true
  fixtures : BoundedList 16 recipe.fixtures
  pre : BoundedList 32 recipe.preAssertions
  post : BoundedList 32 recipe.postAssertions
  readbacks : BoundedList 32 recipe.readbacks
  covers : ∀ relative ∈ recipe.paths, covered relative recipe.inputs = true

theorem previous_boundary_ok (value : Json) (text : Text) :
    previousBoundary value = .ok text ↔ value = .str text ∧ isBoundary text = true := by
  cases value with
  | str given =>
      simp only [previousBoundary, bind_ok_iff, refuse_ok_iff, pure_ok, Bool.not_eq_false,
        Except.ok.injEq, Json.str.injEq]
      constructor
      · rintro ⟨_, good, rfl⟩
        exact ⟨rfl, good⟩
      · rintro ⟨rfl, good⟩
        exact ⟨(), good, rfl⟩
  | _ => simp [previousBoundary]

variable (fields : List (Text × Json))

theorem normalize_ok (recipe : Recipe) :
    normalizeReleaseUpgradeRecipe (.obj fields) = .ok recipe ↔ Accepted fields recipe ∧ Fitting recipe := by
  simp only [normalizeReleaseUpgradeRecipe, bind_ok_iff, refuse_ok_iff, Bool.not_eq_false, is_text_iff, path_list_ok,
    relative_path_ok, previous_boundary_ok, cover_paths_ok, pure_ok, Except.ok.injEq]
  constructor
  · rintro ⟨_, only, _, kind, _, ⟨inputs, i⟩, _, needs, _, ⟨adapter, a⟩, _, ⟨boundary, b⟩, _,
      ⟨fixtures, f⟩, _, ⟨pre, p⟩,
      _, ⟨post, q⟩, _, ⟨readbacks, r⟩, _, timeout, _, covers, rfl⟩
    exact ⟨⟨only, kind, inputs, needs, adapter, boundary, fixtures, pre, post, readbacks, timeout⟩,
      ⟨i, a, b, f, p, q, r, covers⟩⟩
  · rintro ⟨accepted, fitting⟩
    exact ⟨(), accepted.only, (), accepted.kind, _, ⟨accepted.inputs, fitting.inputs⟩, _, accepted.needs, _,
      ⟨accepted.adapter, fitting.adapter⟩, _, ⟨accepted.boundary, fitting.boundary⟩, _,
      ⟨accepted.fixtures, fitting.fixtures⟩, _, ⟨accepted.pre, fitting.pre⟩, _, ⟨accepted.post, fitting.post⟩, _,
      ⟨accepted.readbacks, fitting.readbacks⟩, _, accepted.timeout, (), fitting.covers, rfl⟩

-- The recipe that the check of a compiled command makes of it.
def Recipe.compiled (recipe : Recipe) : Recipe := { recipe with inputs := recipe.paths, resource := lit "compiled" }

def compiledFields (recipe : Recipe) : List (Text × Json) :=
  Dict.setItems (lit "needs")
    (.arr [.obj [(lit "resource", .str (lit "compiled")), (lit "mode", .str (lit "exclusive"))]])
    (Dict.setItems (lit "inputs") (.texts recipe.paths) recipe.command)

variable (recipe : Recipe)

theorem command_accepted (positive : ∀ seconds, recipe.timeoutSeconds = some seconds → 0 < seconds) :
    Accepted (compiledFields recipe) recipe.compiled := by
  obtain ⟨inputs, resource, adapter, boundary, fixtures, pre, post, readbacks, timeout⟩ := recipe
  cases timeout with
  | none => exact ⟨rfl, rfl, rfl, rfl, rfl, rfl, rfl, rfl, rfl, rfl, rfl⟩
  | some seconds =>
      have timed : timeoutSeconds (.float (some seconds)) = .ok (some seconds) := by
        simp [timeoutSeconds, refuse, not_le.mpr (positive seconds rfl)]
      exact ⟨rfl, rfl, rfl, rfl, rfl, rfl, rfl, rfl, rfl, rfl, timed⟩

theorem texts_injective (first second : List Text) (same : Json.texts first = .texts second) : first = second := by
  have lists : first.map Json.str = second.map Json.str := Json.arr.inj same
  rw [← texts_of_strings first, lists, texts_of_strings]

theorem accepted_unique (first second : Recipe) (one : Accepted fields first)
    (two : Accepted fields second) : first = second := by
  have inputs := texts_injective _ _ (one.inputs.symm.trans two.inputs)
  have resource := Except.ok.inj (one.needs.symm.trans two.needs)
  have adapter := Json.str.inj (one.adapter.symm.trans two.adapter)
  have boundary := Json.str.inj (one.boundary.symm.trans two.boundary)
  have fixtures := texts_injective _ _ (one.fixtures.symm.trans two.fixtures)
  have pre := texts_injective _ _ (one.pre.symm.trans two.pre)
  have post := texts_injective _ _ (one.post.symm.trans two.post)
  have readbacks := texts_injective _ _ (one.readbacks.symm.trans two.readbacks)
  have timeout := Except.ok.inj (one.timeout.symm.trans two.timeout)
  cases first
  cases second
  simp_all

theorem compiled_texts : Json.texts recipe.paths = .arr (.str recipe.adapter ::
    (recipe.fixtures.map .str ++ recipe.preAssertions.map .str ++ recipe.postAssertions.map .str ++
      recipe.readbacks.map .str)) := by
  simp [Json.texts, Recipe.paths]

theorem validate_command :
    validateCompiledCommand (.obj recipe.command) =
      normalizeReleaseUpgradeRecipe (.obj (compiledFields recipe)) >>= fun _ => pure () := by
  rw [compiledFields, compiled_texts]
  obtain ⟨inputs, resource, adapter, boundary, fixtures, pre, post, readbacks, timeout⟩ := recipe
  cases timeout with
  | none => rfl
  | some seconds => rfl

theorem compiled_fits (fitting : Fitting recipe) :
    Fitting recipe.compiled ↔ recipe.paths.Nodup ∧ recipe.paths.length ≤ 64 := by
  constructor
  · intro checked
    exact ⟨checked.inputs.2.2.1, checked.inputs.2.1⟩
  · rintro ⟨distinct, few⟩
    refine ⟨⟨?_, few, distinct, ?_⟩, fitting.adapter, fitting.boundary, fitting.fixtures, fitting.pre, fitting.post,
      fitting.readbacks, fun relative listed => covered_self relative recipe.paths listed⟩
    · exact List.cons_ne_nil _ _
    · intro path listed
      simp only [Recipe.compiled, Recipe.paths, List.mem_cons, List.mem_append] at listed
      rcases listed with rfl | (((fixture | pre) | post) | readback)
      · exact fitting.adapter
      · exact fitting.fixtures.2.2.2 path fixture
      · exact fitting.pre.2.2.2 path pre
      · exact fitting.post.2.2.2 path post
      · exact fitting.readbacks.2.2.2 path readback

theorem command_valid (fitting : Fitting recipe)
    (positive : ∀ seconds, recipe.timeoutSeconds = some seconds → 0 < seconds) :
    validateCompiledCommand (.obj recipe.command) = .ok () ↔ recipe.paths.Nodup ∧ recipe.paths.length ≤ 64 := by
  have accepted := command_accepted recipe positive
  rw [validate_command, ← compiled_fits recipe fitting]
  simp only [bind_ok_iff, normalize_ok, pure_ok, and_true]
  constructor
  · rintro ⟨checked, also, fits⟩
    rwa [accepted_unique _ _ _ accepted also]
  · intro fits
    exact ⟨recipe.compiled, accepted, fits⟩

def textsAt (name : String) (fields : List (Text × Json)) : List Text :=
  match Json.item name fields with
  | .arr items => items.filterMap Json.text?
  | _ => []

def listedPaths (recipe : Json) : List Text :=
  match recipe with
  | .obj fields => (Json.item "adapter" fields).text?.toList ++ (textsAt "fixtures" fields ++
      textsAt "pre_assertions" fields ++ textsAt "post_assertions" fields ++ textsAt "readbacks" fields)
  | _ => []

theorem texts_at_given (name : String) (fields : List (Text × Json)) (paths : List Text)
    (given : Json.item name fields = .texts paths) : textsAt name fields = paths := by
  simp only [textsAt, given]
  exact texts_of_strings paths

theorem accepted_paths (recipe : Recipe) (accepted : Accepted fields recipe) :
    listedPaths (.obj fields) = recipe.paths := by
  simp only [listedPaths, accepted.adapter, texts_at_given _ _ _ accepted.fixtures,
    texts_at_given _ _ _ accepted.pre, texts_at_given _ _ _ accepted.post,
    texts_at_given _ _ _ accepted.readbacks]
  simp [Recipe.paths, Json.text?]

-- Every command of every compiled stage passes the check that is made before it runs.
def Runnable (recipe : Json) : Prop :=
  ∃ stages, compileRecipe recipe = .ok (.typed stages) ∧
    ∀ stage ∈ stages, ∀ command ∈ stage.commands, validateCompiledCommand command = .ok ()

theorem admitted_recipe_runnable (recipe : Json) (value : Recipe)
    (admitted : normalizeReleaseUpgradeRecipe recipe = .ok value) :
    Runnable recipe ↔ (listedPaths recipe).Nodup ∧ (listedPaths recipe).length ≤ 64 := by
  cases recipe with
  | obj fields =>
      obtain ⟨accepted, fitting⟩ := (normalize_ok fields value).mp admitted
      have compiled : compileRecipe (.obj fields) =
          .ok (.typed [⟨releaseUpgradeKind, value.resource, [.obj value.command]⟩]) := by
        simp [compileRecipe, accepted.kind, Json.isText, admitted]
      have positive : ∀ seconds, value.timeoutSeconds = some seconds → 0 < seconds := by
        intro seconds given
        exact timeout_positive _ seconds (given ▸ accepted.timeout)
      rw [accepted_paths fields value accepted, ← command_valid value fitting positive, Runnable, compiled]
      simp
  | _ => cases admitted

def plainRecipe (readback : String) : List (Text × Json) :=
  [(lit "kind", .str (lit releaseUpgradeKind)), (lit "inputs", .texts [lit "stack"]),
    (lit "needs", .arr [.obj [(lit "resource", .str (lit "db")), (lit "mode", .str (lit "exclusive"))]]),
    (lit "adapter", .str (lit "stack/adapter.py")), (lit "previous_boundary", .str (lit "v1")),
    (lit "fixtures", .texts [lit "stack/data.sql"]), (lit "pre_assertions", .texts [lit "stack/before.sql"]),
    (lit "post_assertions", .texts [lit "stack/after.sql"]), (lit "readbacks", .texts [lit readback])]

def plainValue (readback : String) : Recipe :=
  ⟨[lit "stack"], lit "db", lit "stack/adapter.py", lit "v1", [lit "stack/data.sql"], [lit "stack/before.sql"],
    [lit "stack/after.sql"], [lit readback], none⟩

theorem distinct_paths_runnable : Runnable (.obj (plainRecipe "stack/rows.sql")) :=
  (admitted_recipe_runnable _ (plainValue "stack/rows.sql") (by rfl)).mpr (by decide)

theorem shared_path_refused :
    normalizeReleaseUpgradeRecipe (.obj (plainRecipe "stack/data.sql")) = .ok (plainValue "stack/data.sql") ∧
      ¬ Runnable (.obj (plainRecipe "stack/data.sql")) := by
  refine ⟨by rfl, ?_⟩
  rintro ⟨stages, compiled, checked⟩
  have stage : stages = [⟨releaseUpgradeKind, lit "db", [.obj (plainValue "stack/data.sql").command]⟩] :=
    (Compiled.typed.inj (Except.ok.inj compiled)).symm
  subst stage
  have passes := checked _ (List.mem_singleton_self _) _ (List.mem_singleton_self _)
  have refused : validateCompiledCommand (.obj (plainValue "stack/data.sql").command) =
      .error (.resource "inputs must be a nonempty unique bounded path list") := by rfl
  rw [refused] at passes
  cases passes

end OrchestratorEngine.ResourceAdapters
