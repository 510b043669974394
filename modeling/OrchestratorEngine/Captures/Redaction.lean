import OrchestratorEngine.Foundation.Replacement
import OrchestratorEngine.Foundation.Scanning
import OrchestratorEngine.WorkerLease.ProcStat

set_option autoImplicit false

namespace OrchestratorEngine.Captures

open Foundation Foundation.Scanning
open WorkerLease (isSpace)

def isAsciiWord (point : Nat) : Bool :=
  decide (48 ≤ point ∧ point ≤ 57 ∨ 65 ≤ point ∧ point ≤ 90 ∨ point = 95 ∨ 97 ≤ point ∧ point ≤ 122)

-- "\w": what the character tables say of each code point, and what is read off them.
-- The last three are the letters that are equal to "i" or "k" when case is ignored.
structure Letters where
  word : Nat → Bool
  ascii : ∀ point, point < 128 → word point = isAsciiWord point
  space : ∀ point, isSpace point = true → word point = false
  replacement : word Utf8.replacement = false
  folded : ∀ point, point = 0x130 ∨ point = 0x131 ∨ point = 0x212A → word point = true

-- "gh[pousr]_"
def githubToken : List (List Nat) := [[103], [104], [112, 111, 117, 115, 114], [95]]

-- "github_pat_"
def githubPat : List (List Nat) :=
  [[103], [105], [116], [104], [117], [98], [95], [112], [97], [116], [95]]

def authorization : List Nat := [97, 117, 116, 104, 111, 114, 105, 122, 97, 116, 105, 111, 110]
def bearer : List Nat := [98, 101, 97, 114, 101, 114]
def token : List Nat := [116, 111, 107, 101, 110]

-- "[REDACTED]"
def redactedMark : List Nat := [91, 82, 69, 68, 65, 67, 84, 69, 68, 93]

section Cells

variable {α : Type} (point : α → Nat) (letters : Letters)

def spelled : List (List Nat) → List α → Option (List α)
  | [], cells => some cells
  | _ :: _, [] => none
  | options :: rest, cell :: cells => if point cell ∈ options then spelled rest cells else none

-- r"\b...[A-Za-z0-9_]{20,}\b": no shorter run than the longest one ends at a boundary.
def tokenPattern (start : List (List Nat)) : Pattern α := fun before cells =>
  if before.any fun cell => letters.word (point cell) then none
  else
    match spelled point start cells with
    | none => none
    | some body =>
        let run := body.takeWhile fun cell => isAsciiWord (point cell)
        let after := body.dropWhile fun cell => isAsciiWord (point cell)
        if 20 ≤ run.length ∧ after.head?.any (fun cell => letters.word (point cell)) = false then
          some { kept := [], lead := [], secret := cells.take (cells.length - after.length) }
        else none

-- "(?i)": a letter in either case, and the letters whose lower case it is.
def eitherCase (letter : Nat) : List Nat :=
  if letter = 105 then [105, 73, 0x130, 0x131]
  else if letter = 107 then [107, 75, 0x212A]
  else [letter, letter - 32]

-- r"(?i)(authorization\s*:\s*)(?:bearer|token)\s+\S+"
def authorizationPattern : Pattern α := fun _ cells =>
  let space := fun cell => isSpace (point cell)
  match spelled point (authorization.map eitherCase) cells with
  | none => none
  | some name =>
      match name.dropWhile space with
      | [] => none
      | colon :: value =>
          if point colon ≠ 58 then none
          else
            let scheme := value.dropWhile space
            match (spelled point (bearer.map eitherCase) scheme).or (spelled point (token.map eitherCase) scheme) with
            | none => none
            | some gap =>
                let credential := gap.dropWhile space
                if (gap.takeWhile space).isEmpty || credential.isEmpty then none
                else
                  some
                    { kept := cells.take (cells.length - scheme.length)
                      lead := scheme.take (scheme.length - credential.length)
                      secret := credential.takeWhile fun cell => !space cell }

def sub (mark : List α) (pattern : Pattern α) (cells : List α) : List α :=
  substitute mark (pieces pattern none cells)

def redactTokens (mark cells : List α) : List α :=
  sub mark (tokenPattern point letters githubPat) (sub mark (tokenPattern point letters githubToken) cells)

def redactCredentials (mark cells : List α) : List α := sub mark (authorizationPattern point) cells

def redactText (mark cells : List α) : List α := redactCredentials point mark (redactTokens point letters mark cells)

end Cells

def tokenSpans (letters : Letters) (place : Nat) (text : List Nat) : List Span :=
  spans place (pieces (tokenPattern id letters githubToken) none text) ++
    spans place (pieces (tokenPattern id letters githubPat) none text)

def authorizationSpans (text : List Nat) : List Span := spans 0 (pieces (authorizationPattern id) none text)

section Carried

variable {α : Type} (point : α → Nat) (letters : Letters)

theorem spelled_map (options : List (List Nat)) (cells : List α) :
    spelled id options (cells.map point) = (spelled point options cells).map (List.map point) := by
  induction options generalizing cells with
  | nil => rfl
  | cons choice rest ih =>
      cases cells with
      | nil => rfl
      | cons cell more =>
          rw [List.map_cons, spelled, spelled, ih]
          by_cases fits : point cell ∈ choice
          · rw [if_pos fits, if_pos (show id (point cell) ∈ choice from fits)]
          · rw [if_neg fits, if_neg (show id (point cell) ∉ choice from fits)]
            rfl

theorem take_while_map (kind : Nat → Bool) (cells : List α) :
    (cells.map point).takeWhile kind = (cells.takeWhile fun cell => kind (point cell)).map point := by
  induction cells with
  | nil => rfl
  | cons cell rest ih =>
      rw [List.map_cons, List.takeWhile_cons, List.takeWhile_cons, ih]
      cases kind (point cell) <;> rfl

theorem drop_while_map (kind : Nat → Bool) (cells : List α) :
    (cells.map point).dropWhile kind = (cells.dropWhile fun cell => kind (point cell)).map point := by
  induction cells with
  | nil => rfl
  | cons cell rest ih =>
      rw [List.map_cons, List.dropWhile_cons, List.dropWhile_cons, ih]
      cases kind (point cell) <;> rfl

theorem token_pattern_map (start : List (List Nat)) (before : Option α) (cells : List α) :
    tokenPattern id letters start (before.map point) (cells.map point) =
      (tokenPattern point letters start before cells).map (Hit.map point) := by
  have earlier : ((before.map point).any fun cell => letters.word (id cell)) =
      before.any fun cell => letters.word (point cell) := by cases before <;> rfl
  rw [tokenPattern, tokenPattern, earlier, spelled_map]
  cases before.any fun cell => letters.word (point cell) with
  | true => rfl
  | false =>
      cases spelled point start cells with
      | none => rfl
      | some body =>
          simp only [Option.map_some, id_eq, take_while_map, drop_while_map, List.length_map]
          have later : (((body.dropWhile fun cell => isAsciiWord (point cell)).map point).head?.any fun cell =>
              letters.word cell) =
              (body.dropWhile fun cell => isAsciiWord (point cell)).head?.any fun cell =>
              letters.word (point cell) := by
            cases body.dropWhile fun cell => isAsciiWord (point cell) <;> rfl
          rw [later]
          simp only [Bool.false_eq_true, if_false]
          split
          · simp [Hit.map]
          · rfl

theorem authorization_pattern_map (before : Option α) (cells : List α) :
    authorizationPattern id (before.map point) (cells.map point) =
      (authorizationPattern point before cells).map (Hit.map point) := by
  rw [authorizationPattern, authorizationPattern, spelled_map]
  cases spelled point (authorization.map eitherCase) cells with
  | none => rfl
  | some name =>
      simp only [Option.map_some, id_eq, drop_while_map]
      cases name.dropWhile fun cell => isSpace (point cell) with
      | nil => rfl
      | cons colon value =>
          simp only [List.map_cons, spelled_map, drop_while_map]
          by_cases colons : point colon = 58
          · simp only [colons, ne_eq, not_true_eq_false, if_false, ← Option.map_or]
            generalize (spelled point (bearer.map eitherCase) (value.dropWhile fun cell => isSpace (point cell))).or
              (spelled point (token.map eitherCase) (value.dropWhile fun cell => isSpace (point cell))) = scheme
            cases scheme with
            | none => rfl
            | some gap =>
                simp only [Option.map_some, take_while_map, drop_while_map, List.isEmpty_map, List.length_map]
                split
                · rfl
                · simp [Hit.map]
          · simp only [colons, ne_eq, not_false_eq_true, if_true, Option.map_none]

theorem sub_map (coarse : Pattern Nat) (fine : Pattern α)
    (same : ∀ before cells, coarse (before.map point) (cells.map point) = (fine before cells).map (Hit.map point))
    (mark cells : List α) : sub (mark.map point) coarse (cells.map point) = (sub mark fine cells).map point := by
  rw [sub, sub, ← substitute_map, ← pieces_map point coarse fine same]
  rfl

theorem redact_text_map (mark cells : List α) :
    redactText id letters (mark.map point) (cells.map point) = (redactText point letters mark cells).map point := by
  rw [redactText, redactText, redactCredentials, redactCredentials, redactTokens, redactTokens,
    sub_map point _ _ (token_pattern_map point letters githubToken),
    sub_map point _ _ (token_pattern_map point letters githubPat),
    sub_map point _ _ (authorization_pattern_map point)]

end Carried

end OrchestratorEngine.Captures
