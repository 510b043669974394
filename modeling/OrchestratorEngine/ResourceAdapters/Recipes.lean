import OrchestratorEngine.Foundation.Floats
import OrchestratorEngine.ResourceAdapters.Values

set_option autoImplicit false

namespace OrchestratorEngine.ResourceAdapters

open Foundation

def releaseUpgradeKind : String := "release-upgrade"

def recipeFields : List String :=
  ["kind", "inputs", "needs", "adapter", "previous_boundary", "fixtures", "pre_assertions", "post_assertions",
    "readbacks", "timeout_seconds"]

-- "set(value) - {...}" is empty.
def Json.onlyFields (names : List String) (fields : List (Text × Json)) : Bool :=
  fields.all fun entry => decide (entry.1 ∈ names.map lit)

def slash : Nat := 47

-- PurePosixPath(value).parts of a relative path.
def parts (value : Text) : List Text := (value.splitOn slash).filter fun part => decide (part ≠ [] ∧ part ≠ lit ".")

def asPosix (value : Text) : Text := if parts value = [] then lit "." else [slash].intercalate (parts value)

def goodPath (value : Text) : Bool :=
  decide (value.head? ≠ some slash ∧ asPosix value = value ∧ 92 ∉ value) &&
    (parts value).all fun part => decide (part ∉ [lit "", lit ".", lit "..", lit ".orchestrator"])

def relativePath (field : String) (value : Json) : Except Failure Text :=
  match value with
  | .str text => do
      refuse (text = [] ∨ 4096 < text.length) (.resource (field ++ " must be a nonempty bounded relative path"))
      refuse (goodPath text = false) (.resource (field ++ " must stay inside captured project inputs"))
      return text
  | _ => .error (.resource (field ++ " must be a nonempty bounded relative path"))

def Json.text? : Json → Option Text
  | .str text => some text
  | _ => none

def pathList (field : String) (maximum : Nat) (value : Json) : Except Failure (List Text) :=
  match value with
  | .arr items => do
      refuse (items = [] ∨ maximum < items.length ∨ (∃ item ∈ items, item.text? = none) ∨
        ¬ (items.filterMap Json.text?).Nodup)
        (.resource (field ++ " must be a nonempty unique bounded path list"))
      items.mapM (relativePath field)
  | _ => .error (.resource (field ++ " must be a nonempty unique bounded path list"))

def covered (relative : Text) (inputs : List Text) : Bool := inputs.any fun root =>
    (parts root).isPrefixOf (parts relative)

structure Recipe where
  inputs : List Text
  resource : Text
  adapter : Text
  previousBoundary : Text
  fixtures : List Text
  preAssertions : List Text
  postAssertions : List Text
  readbacks : List Text
  timeoutSeconds : Option Rat

def Recipe.paths (recipe : Recipe) : List Text :=
  recipe.adapter :: (recipe.fixtures ++ recipe.preAssertions ++ recipe.postAssertions ++ recipe.readbacks)

def goodNeed (fields : List (Text × Json)) (resource : Text) : Bool :=
  Json.hasFields ["resource", "mode"] fields && decide (resource ≠ [] ∧ resource.length ≤ 160) &&
    (Json.item "mode" fields).isText (lit "exclusive")

def normalizeNeeds (value : Json) : Except Failure Text :=
  match value with
  | .arr [need] =>
      match need with
      | .obj fields =>
          match Json.item "resource" fields with
          | .str resource => do
              refuse (goodNeed fields resource = false)
                (.resource "release-upgrade resource needs must be explicit exclusive selectors")
              return resource
          | _ => .error (.resource "release-upgrade resource needs must be explicit exclusive selectors")
      | _ => .error (.resource "release-upgrade resource needs must be explicit exclusive selectors")
  | _ => .error (.resource "release-upgrade requires exactly one exclusive resource selector")

def isBoundary (text : Text) : Bool :=
  let alphanumeric (point : Nat) : Bool := decide (48 ≤ point ∧ point ≤ 57 ∨ 65 ≤ point ∧ point ≤ 90 ∨ 97 ≤
  point ∧ point ≤ 122)
  match text with
  | [] => false
  | first :: rest => alphanumeric first && decide (rest.length ≤ 159) &&
      rest.all fun point => alphanumeric point || decide (point ∈ lit "_.-")

def previousBoundary (value : Json) : Except Failure Text :=
  match value with
  | .str text => do
      refuse (isBoundary text = false) (.resource "previous boundary must be a bounded ASCII identifier")
      return text
  | _ => .error (.resource "previous boundary must be a bounded ASCII identifier")

-- An integer that is too large for a float is not even refused.
def timeoutSeconds (value : Json) : Except Failure (Option Rat) :=
  match value with
  | .null => .ok none
  | .int seconds =>
      match floatOfNat seconds.natAbs with
      | none => .error .overflow
      | some rounded => do
          refuse (seconds ≤ 0) (.resource "release-upgrade timeout must be positive and finite")
          return some rounded
  | .float (some seconds) => do
      refuse (seconds ≤ 0) (.resource "release-upgrade timeout must be positive and finite")
      return some seconds
  | _ => .error (.resource "release-upgrade timeout must be positive and finite")

def Text.shown (text : Text) : String := String.ofList (text.map Char.ofNat)

def coverPaths (paths inputs : List Text) : Except Failure Unit :=
  match paths.find? fun relative => !covered relative inputs with
  | some relative =>
      .error (.resource ("release-upgrade path is not covered by recipe inputs: " ++ Text.shown relative))
  | none => .ok ()

def normalizeReleaseUpgradeRecipe (recipe : Json) : Except Failure Recipe :=
  match recipe with
  | .obj fields => do
      refuse (Json.onlyFields recipeFields fields = false) (.resource "unsupported release-upgrade recipe fields")
      refuse ((Json.item "kind" fields).isText (lit releaseUpgradeKind) = false)
        (.resource "unsupported typed resource recipe kind")
      let inputs ← pathList "inputs" 64 (Json.item "inputs" fields)
      let resource ← normalizeNeeds (Json.item "needs" fields)
      let adapter ← relativePath "adapter" (Json.item "adapter" fields)
      let boundary ← previousBoundary (Json.item "previous_boundary" fields)
      let fixtures ← pathList "fixtures" 16 (Json.item "fixtures" fields)
      let pre ← pathList "pre_assertions" 32 (Json.item "pre_assertions" fields)
      let post ← pathList "post_assertions" 32 (Json.item "post_assertions" fields)
      let readbacks ← pathList "readbacks" 32 (Json.item "readbacks" fields)
      let timeout ← timeoutSeconds (Json.item "timeout_seconds" fields)
      let value : Recipe := ⟨inputs, resource, adapter, boundary, fixtures, pre, post, readbacks, timeout⟩
      coverPaths value.paths inputs
      return value
  | _ => .error (.resource "unsupported release-upgrade recipe fields")

def Json.texts (values : List Text) : Json := .arr (values.map .str)

-- The compiled command of a recipe.
def Recipe.command (recipe : Recipe) : List (Text × Json) :=
  [(lit "kind", .str (lit releaseUpgradeKind)), (lit "adapter", .str recipe.adapter),
    (lit "previous_boundary", .str recipe.previousBoundary), (lit "fixtures", .texts recipe.fixtures),
    (lit "pre_assertions", .texts recipe.preAssertions), (lit "post_assertions", .texts recipe.postAssertions),
    (lit "readbacks", .texts recipe.readbacks)] ++
    recipe.timeoutSeconds.toList.map fun seconds => (lit "timeout_seconds", .float (some seconds))

structure Stage where
  id : String
  needs : Text
  commands : List Json

inductive Compiled where
  | registered (stages : Json)
  | typed (stages : List Stage)

def compileRecipe (recipe : Json) : Except Failure Compiled :=
  match recipe with
  | .obj fields =>
      if (Json.item "kind" fields).isText (lit releaseUpgradeKind) = false then .ok
        (.registered (Json.item "stages" fields))
      else do
        let value ← normalizeReleaseUpgradeRecipe recipe
        return .typed [⟨releaseUpgradeKind, value.resource, [.obj value.command]⟩]
  | _ => .error .typeError

-- "*value" in a list: a string gives its characters and an object its keys.
def spread : Json → Except Failure (List Json)
  | .arr items => .ok items
  | .str text => .ok (text.map fun point => .str [point])
  | .obj fields => .ok (fields.map fun entry => .str entry.1)
  | _ => .error .typeError

def commandFields : List String :=
  ["kind", "adapter", "previous_boundary", "fixtures", "pre_assertions", "post_assertions", "readbacks"]

def validateCompiledCommand (command : Json) : Except Failure Unit :=
  match command with
  | .obj fields => do
      refuse (Json.onlyFields (commandFields ++ ["timeout_seconds"]) fields = false ∨
        ∃ name ∈ commandFields, lit name ∉ fields.map Prod.fst)
        (.resource "unsupported compiled release-upgrade command fields")
      let fixtures ← spread (Json.item "fixtures" fields)
      let pre ← spread (Json.item "pre_assertions" fields)
      let post ← spread (Json.item "post_assertions" fields)
      let readbacks ← spread (Json.item "readbacks" fields)
      let inputs := Json.item "adapter" fields :: (fixtures ++ pre ++ post ++ readbacks)
      let needs := [Json.obj [(lit "resource", .str (lit "compiled")), (lit "mode", .str (lit "exclusive"))]]
      let _ ← normalizeReleaseUpgradeRecipe
        (.obj (Dict.setItems (lit "needs") (.arr needs) (Dict.setItems (lit "inputs") (.arr inputs) fields)))
  | _ => .error (.resource "unsupported compiled release-upgrade command fields")

end OrchestratorEngine.ResourceAdapters
