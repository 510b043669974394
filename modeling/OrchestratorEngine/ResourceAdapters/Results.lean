import OrchestratorEngine.ResourceAdapters.Values

set_option autoImplicit false

namespace OrchestratorEngine.ResourceAdapters

open Foundation

def releaseUpgradeResultKind : String := "ORCHESTRATOR_RELEASE_UPGRADE_RESULT"

def releaseUpgradePhases : List String :=
  ["stack_start", "reset_previous", "fixture_load", "pre_assertions", "migrate_candidate", "post_assertions",
    "type_readback", "check_readback"]

structure Expected where
  contractDigest : Text
  candidateDigest : Text
  previousBoundary : Text

def isDigest (text : Text) : Bool :=
  decide (text.length = 64) && text.all fun point => decide (48 ≤ point ∧ point ≤ 57 ∨ 97 ≤ point ∧ point ≤ 102)

def verdicts : List Text := [lit "passed", lit "failed"]

-- "value == 1": a truth value and a float are numbers too.
def Json.isOne : Json → Bool
  | .bool truth => truth
  | .int value => decide (value = 1)
  | .float value => decide (value = some 1)
  | _ => false

def boundedText (value : Json) (field : String) (maximum : Nat) : Except Failure Text :=
  match value with
  | .str text => do
      refuse (text = []) (.resource ("release-upgrade " ++ field ++ " is not a bounded string"))
      refuse (text.any surrogate = true) .unicodeError
      refuse (maximum < (text.map utf8Size).sum ∨ text.any control = true)
        (.resource ("release-upgrade " ++ field ++ " is not a bounded string"))
      return text
  | _ => .error (.resource ("release-upgrade " ++ field ++ " is not a bounded string"))

def checkSha256 (value : Json) : Except Failure Unit :=
  match value with
  | .str sha256 => refuse (isDigest sha256 = false) (.resource "release-upgrade evidence digest is invalid")
  | _ => .error (.resource "release-upgrade evidence digest is invalid")

def checkSize (value : Json) : Except Failure Unit :=
  match value with
  | .int size =>
      refuse (size < 0 ∨ 8 * 1024 * 1024 < size) (.resource "release-upgrade evidence size is invalid")
  | _ => .error (.resource "release-upgrade evidence size is invalid")

def checkRecord (record : Json) : Except Failure Json :=
  match record with
  | .obj fields => do
      refuse (Json.hasFields ["name", "status", "sha256", "size_bytes"] fields = false)
        (.resource "unsupported release-upgrade evidence fields")
      let name ← boundedText (Json.item "name" fields) "evidence name" 160
      let known ← (Json.item "status" fields).among verdicts
      refuse (known = false) (.resource "release-upgrade evidence status is invalid")
      checkSha256 (Json.item "sha256" fields)
      checkSize (Json.item "size_bytes" fields)
      return .obj (Dict.setItems (lit "name") (.str name) fields)
  | _ => .error (.resource "unsupported release-upgrade evidence fields")

def checkExit (status exitCode : Json) : Except Failure Unit := do
  let known ← status.among verdicts
  match exitCode with
  | .int code => do
      refuse (known = false) (.resource "release-upgrade phase status/exit code is invalid")
      refuse (status.isText (lit "passed") ≠ decide (code = 0))
        (.resource "release-upgrade phase status contradicts exit code")
  | _ => .error (.resource "release-upgrade phase status/exit code is invalid")

def checkEvidence (evidence : Json) : Except Failure (List Json) :=
  match evidence with
  | .arr records => do
      refuse (64 < records.length) (.resource "release-upgrade phase evidence must be bounded")
      records.mapM checkRecord
  | _ => .error (.resource "release-upgrade phase evidence must be bounded")

def checkPhase (entry : Json × String) : Except Failure Json :=
  match entry.1 with
  | .obj fields => do
      refuse (Json.hasFields ["name", "status", "exit_code", "evidence"] fields = false)
        (.resource "unsupported release-upgrade phase fields")
      refuse ((Json.item "name" fields).isText (lit entry.2) = false)
        (.resource "release-upgrade phases must use the declared order")
      checkExit (Json.item "status" fields) (Json.item "exit_code" fields)
      let records ← checkEvidence (Json.item "evidence" fields)
      return .obj (Dict.setItems (lit "evidence") (.arr records) fields)
  | _ => .error (.resource "unsupported release-upgrade phase fields")

def Json.statusIs (status : String) : Json → Bool
  | .obj fields => (Json.item "status" fields).isText (lit status)
  | _ => false

def checkPhases (phases : Json) : Except Failure (List Json) :=
  match phases with
  | .arr phases => do
      refuse (phases = [] ∨ releaseUpgradePhases.length < phases.length)
        (.resource "release-upgrade result requires a bounded phase prefix")
      (phases.zip releaseUpgradePhases).mapM checkPhase
  | _ => .error (.resource "release-upgrade result requires a bounded phase prefix")

def checkOutcome (status : Json) (normalized : List Json) : Except Failure Unit :=
  if status.isText (lit "passed") = true then
    refuse (normalized.length ≠ releaseUpgradePhases.length ∨ ∃ phase ∈ normalized, phase.statusIs "passed" = false)
      (.resource "passed release-upgrade result requires every phase")
  else
    refuse (normalized.getLast?.any (Json.statusIs "failed") = false)
      (.resource "failed release-upgrade result must end at a failed phase")

def checkBinding (fields : List (Text × Json)) (expected : Expected) : Except Failure Unit := do
  refuse (Json.hasFields ["schema_version", "kind", "contract_digest", "candidate_digest",
    "previous_boundary", "status",
    "phases"] fields = false) (.resource "unsupported release-upgrade result fields")
  refuse ((Json.item "schema_version" fields).isOne = false)
    (.resource "unsupported release-upgrade result schema version")
  refuse ((Json.item "kind" fields).isText (lit releaseUpgradeResultKind) = false)
    (.resource "unsupported release-upgrade result kind")
  refuse ((Json.item "contract_digest" fields).isText expected.contractDigest = false ∨
    isDigest expected.contractDigest = false) (.resource "release-upgrade result contract_digest mismatch")
  refuse ((Json.item "candidate_digest" fields).isText expected.candidateDigest = false ∨
    isDigest expected.candidateDigest = false) (.resource "release-upgrade result candidate_digest mismatch")
  refuse ((Json.item "previous_boundary" fields).isText expected.previousBoundary = false)
    (.resource "release-upgrade result previous boundary mismatch")

def validateReleaseUpgradeResult (value : Json) (expected : Expected) : Except Failure Json :=
  match value with
  | .obj fields => do
      checkBinding fields expected
      let known ← (Json.item "status" fields).among verdicts
      refuse (known = false) (.resource "release-upgrade result status must be passed or failed")
      let normalized ← checkPhases (Json.item "phases" fields)
      checkOutcome (Json.item "status" fields) normalized
      return .obj (Dict.setItems (lit "phases") (.arr normalized) fields)
  | _ => .error (.resource "unsupported release-upgrade result fields")

end OrchestratorEngine.ResourceAdapters
