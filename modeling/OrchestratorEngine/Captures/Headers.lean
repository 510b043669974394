import OrchestratorEngine.Captures.Tokens

set_option autoImplicit false

namespace OrchestratorEngine.Captures

open Foundation Foundation.Scanning
open WorkerLease (isSpace)

section Cells

variable {α : Type} (point : α → Nat) (letters : Letters)

def Spells (letters : List Nat) (cells : List α) : Prop :=
  List.Forall₂ (fun options cell => point cell ∈ options) (letters.map eitherCase) cells

structure Header where
  name : List α
  before : List α
  colon : α
  after : List α
  scheme : List α
  gap : List α
  named : Spells point authorization name
  before_space : ∀ cell ∈ before, isSpace (point cell) = true
  colon_point : point colon = 58
  after_space : ∀ cell ∈ after, isSpace (point cell) = true
  schemed : Spells point bearer scheme ∨ Spells point token scheme
  gap_space : ∀ cell ∈ gap, isSpace (point cell) = true
  gapped : gap ≠ []

variable {point letters}

def Header.kept (header : Header point) : List α := header.name ++ header.before ++ header.colon :: header.after

def Header.lead (header : Header point) : List α := header.scheme ++ header.gap

def Credential (point : α → Nat) (secret rest : List α) : Prop :=
  secret ≠ [] ∧ (∀ cell ∈ secret, isSpace (point cell) = false) ∧ ∀ cell ∈ rest.head?, isSpace (point cell) = true

theorem drop_spaces (spaces rest : List α) (all : ∀ cell ∈ spaces, isSpace (point cell) = true)
    (stops : ∀ cell ∈ rest.head?, isSpace (point cell) = false) :
    (spaces ++ rest).dropWhile (fun cell => isSpace (point cell)) = rest ∧
      (spaces ++ rest).takeWhile (fun cell => isSpace (point cell)) = spaces := by
  rw [List.dropWhile_append_of_pos all, List.takeWhile_append_of_pos all]
  cases rest with
  | nil => exact ⟨rfl, List.append_nil _⟩
  | cons cell more =>
      have here := stops cell rfl
      constructor <;> simp [here]

theorem spaces_taken (cells : List α) :
    ∀ cell ∈ cells.takeWhile (fun cell => isSpace (point cell)), isSpace (point cell) = true := by
  intro cell listed
  have kind := List.mem_takeWhile_imp listed
  exact kind

theorem spells_not_space (letters : List Nat) (cells : List α) (fits : Spells point letters cells)
    (plain : ∀ choices ∈ letters.map eitherCase, ∀ choice ∈ choices, isSpace choice = false) :
    ∀ cell ∈ cells, isSpace (point cell) = false :=
  choices_all (fun value => isSpace value = false) _ cells plain fits

theorem bearer_or_token (scheme rest : List α) (schemed : Spells point bearer scheme ∨ Spells point token scheme) :
    (spelled point (bearer.map eitherCase) (scheme ++ rest)).or
      (spelled point (token.map eitherCase) (scheme ++ rest)) = some rest := by
  rcases schemed with fits | fits
  · rw [spelled_of_split _ scheme rest fits]
    rfl
  · have other : spelled point (bearer.map eitherCase) (scheme ++ rest) = none := by
      cases fits with
      | cons here _ =>
          rw [List.cons_append, bearer, List.map_cons, spelled, if_neg]
          intro fits
          revert here fits
          generalize point _ = letter
          simp only [eitherCase]
          simp
          omega
    rw [other, spelled_of_split _ scheme rest fits]
    rfl

variable (before : Option α)

theorem authorization_found (header : Header point) (secret rest : List α)
    (credential : Credential point secret rest) :
    authorizationPattern point before (header.kept ++ header.lead ++ secret ++ rest) =
      some ⟨header.kept, header.lead, secret⟩ := by
  obtain ⟨name, before, colon, after, scheme, gap, named, before_space, colon_point, after_space, schemed, gap_space,
    gapped⟩ := header
  simp only [Header.kept, Header.lead]
  have colon_other : ∀ cell ∈ (colon :: (after ++ (scheme ++ (gap ++ (secret ++ rest))))).head?,
      isSpace (point cell) = false := by
    intro cell head
    cases head
    rw [colon_point]
    rfl
  have scheme_plain : ∀ cell ∈ scheme, isSpace (point cell) = false := by
    rcases schemed with fits | fits
    · exact spells_not_space bearer scheme fits (by decide)
    · exact spells_not_space token scheme fits (by decide)
  have scheme_other : ∀ cell ∈ (scheme ++ (gap ++ (secret ++ rest))).head?, isSpace (point cell) = false := by
    intro cell head
    cases scheme with
    | cons first more =>
        cases head
        exact scheme_plain _ List.mem_cons_self
    | nil => rcases schemed with fits | fits <;> cases fits
  have secret_other : ∀ cell ∈ (secret ++ rest).head?, isSpace (point cell) = false := by
    intro cell head
    cases secret with
    | cons first more =>
        cases head
        exact credential.2.1 _ List.mem_cons_self
    | nil => exact absurd rfl credential.1
  have whole : name ++ before ++ colon :: after ++ (scheme ++ gap) ++ secret ++ rest =
      name ++ (before ++ colon :: (after ++ (scheme ++ (gap ++ (secret ++ rest))))) := by simp
  have secret_taken : (secret ++ rest).takeWhile (fun cell => !isSpace (point cell)) = secret := by
    rw [List.takeWhile_append_of_pos fun cell listed => by rw [credential.2.1 cell listed]; rfl]
    cases rest with
    | nil => exact List.append_nil _
    | cons cell more =>
        rw [List.takeWhile_cons_of_neg (by rw [credential.2.2 cell rfl]; exact Bool.false_ne_true), List.append_nil]
  have real : (gap.isEmpty || (secret ++ rest).isEmpty) = false := by
    cases gap with
    | nil => exact absurd rfl gapped
    | cons first more =>
        cases secret with
        | nil => exact absurd rfl credential.1
        | cons second others => rfl
  rw [whole, authorizationPattern, spelled_of_split _ name _ named]
  simp only [(drop_spaces before _ before_space colon_other).1, colon_point, ne_eq, not_true_eq_false, if_false,
    (drop_spaces after _ after_space scheme_other).1, bearer_or_token scheme _ schemed,
    (drop_spaces gap _ gap_space secret_other).1, (drop_spaces gap _ gap_space secret_other).2, real,
    Bool.false_eq_true, secret_taken, Option.some.injEq, Hit.mk.injEq, and_true]
  constructor
  · have cut : name ++ (before ++ colon :: (after ++ (scheme ++ (gap ++ (secret ++ rest))))) =
        (name ++ before ++ colon :: after) ++ (scheme ++ (gap ++ (secret ++ rest))) := by simp
    rw [cut, List.length_append, Nat.add_sub_cancel, List.take_left]
  · have cut : scheme ++ (gap ++ (secret ++ rest)) = (scheme ++ gap) ++ (secret ++ rest) := by simp
    rw [cut, List.length_append, Nat.add_sub_cancel, List.take_left]

theorem authorization_split (cells : List α) (hit : Hit α)
    (found : authorizationPattern point before cells = some hit) :
    ∃ (header : Header point) (rest : List α), cells = header.kept ++ header.lead ++ hit.secret ++ rest ∧
      hit.kept = header.kept ∧ hit.lead = header.lead ∧ Credential point hit.secret rest := by
  unfold authorizationPattern at found
  dsimp only at found
  split at found
  · cases found
  rename_i afterName nameRead
  split at found
  · cases found
  rename_i colon value valueRead
  split at found
  · cases found
  rename_i colon_point
  split at found
  · cases found
  rename_i afterScheme schemeRead
  split at found
  · cases found
  rename_i real
  obtain ⟨name, nameSplit, named⟩ := spelled_split _ cells afterName nameRead
  have schemed : ∃ scheme, value.dropWhile (fun cell => isSpace (point cell)) = scheme ++ afterScheme ∧
      (Spells point bearer scheme ∨ Spells point token scheme) := by
    rw [Option.or_eq_some_iff] at schemeRead
    rcases schemeRead with read | ⟨_, read⟩
    · obtain ⟨scheme, split, fits⟩ := spelled_split _ _ _ read
      exact ⟨scheme, split, .inl fits⟩
    · obtain ⟨scheme, split, fits⟩ := spelled_split _ _ _ read
      exact ⟨scheme, split, .inr fits⟩
  obtain ⟨scheme, schemeSplit, spelling⟩ := schemed
  rw [Bool.not_eq_true, Bool.or_eq_false_iff, List.isEmpty_eq_false_iff, List.isEmpty_eq_false_iff] at real
  obtain ⟨gap_real, credential_real⟩ := real
  let header : Header point :=
    { name
      before := afterName.takeWhile fun cell => isSpace (point cell)
      colon
      after := value.takeWhile fun cell => isSpace (point cell)
      scheme
      gap := afterScheme.takeWhile fun cell => isSpace (point cell)
      named
      before_space := spaces_taken _
      colon_point := Decidable.of_not_not colon_point
      after_space := spaces_taken _
      schemed := spelling
      gap_space := spaces_taken _
      gapped := gap_real }
  have nameCut : afterName = header.before ++ colon :: value := by
    rw [← valueRead]
    exact List.takeWhile_append_dropWhile.symm
  have valueCut : value = header.after ++ (scheme ++ afterScheme) := by
    rw [← schemeSplit]
    exact List.takeWhile_append_dropWhile.symm
  have gapCut : afterScheme = header.gap ++ afterScheme.dropWhile fun cell => isSpace (point cell) :=
    List.takeWhile_append_dropWhile.symm
  have keptCut : cells = header.kept ++ (scheme ++ afterScheme) := by
    rw [nameSplit, nameCut, valueCut]
    simp [Header.kept, header]
  have leadCut : scheme ++ afterScheme = header.lead ++ afterScheme.dropWhile fun cell => isSpace (point cell) := by
    rw [Header.lead, List.append_assoc, ← gapCut]
  cases found
  dsimp only
  rw [schemeSplit]
  generalize credentialEq : (afterScheme.dropWhile fun cell => isSpace (point cell)) =
    credential at credential_real leadCut
  have secretCut : credential.takeWhile (fun cell => !isSpace (point cell)) ++
      credential.dropWhile (fun cell => !isSpace (point cell)) = credential := List.takeWhile_append_dropWhile
  refine ⟨header, credential.dropWhile fun cell => !isSpace (point cell), ?_, ?_, ?_, ?_, fun cell listed => ?_,
    fun cell head => ?_⟩
  · rw [List.append_assoc _ (credential.takeWhile _), secretCut, List.append_assoc, ← leadCut, ← keptCut]
  · rw [keptCut, List.length_append, Nat.add_sub_cancel, List.take_left]
  · rw [leadCut, List.length_append, Nat.add_sub_cancel, List.take_left]
  · have opens := List.head?_dropWhile_not (fun cell => isSpace (point cell)) afterScheme
    rw [credentialEq] at opens
    cases credential with
    | nil => exact absurd rfl credential_real
    | cons cell more =>
        rw [List.head?_cons] at opens
        rw [List.takeWhile_cons_of_pos (by simpa using opens)]
        exact List.cons_ne_nil _ _
  · have kind := List.mem_takeWhile_imp listed
    simpa using kind
  · have stops := List.head?_dropWhile_not (fun cell => !isSpace (point cell)) credential
    rw [Option.mem_def] at head
    rw [head] at stops
    simpa using stops

theorem authorization_lawful : (authorizationPattern point).Lawful := by
  intro before cells hit found
  obtain ⟨header, rest, split, kept, lead, credential⟩ := authorization_split before cells hit found
  refine ⟨fun none => ?_, rest, ?_⟩
  · rw [Hit.cells, List.append_eq_nil_iff] at none
    exact credential.1 none.2
  · rw [split, Hit.cells, kept, lead]

theorem pieces_anywhere (cells : List α) :
    pieces (authorizationPattern point) before cells = pieces (authorizationPattern point) none cells := by
  cases cells <;> rfl

theorem quiet_anywhere (before other : Option α) (cells after : List α) :
    Quiet (authorizationPattern point) before cells after ↔ Quiet (authorizationPattern point) other cells after := by
  cases cells <;> rfl

def authorizations (point : α → Nat) (cells : List α) : List (Hit α) :=
  hits (pieces (authorizationPattern point) none cells)

theorem credentials_quiet (mark quiet rest : List α) (silent : Quiet (authorizationPattern point) none quiet rest) :
    redactCredentials point mark (quiet ++ rest) = quiet ++ redactCredentials point mark rest := by
  rw [redactCredentials, sub, pieces_quiet _ none quiet rest silent, pieces_anywhere, substitute_append,
    substitute_plain, redactCredentials, sub]

theorem credentials_hit (mark : List α) (hit : Hit α) (rest : List α)
    (found : authorizationPattern point none (hit.cells ++ rest) = some hit) :
    redactCredentials point mark (hit.cells ++ rest) = hit.kept ++ mark ++ redactCredentials point mark rest := by
  rw [redactCredentials, sub, pieces_hit _ authorization_lawful none hit rest found, pieces_anywhere]
  simp [redactCredentials, sub, substitute, Piece.substituted]

theorem authorizations_quiet (quiet rest : List α) (silent : Quiet (authorizationPattern point) none quiet rest) :
    authorizations point (quiet ++ rest) = authorizations point rest := by
  rw [authorizations, pieces_quiet _ none quiet rest silent, pieces_anywhere, hits_append, hits_plain]
  rfl

theorem authorizations_hit (hit : Hit α) (rest : List α)
    (found : authorizationPattern point none (hit.cells ++ rest) = some hit) :
    authorizations point (hit.cells ++ rest) = hit :: authorizations point rest := by
  rw [authorizations, pieces_hit _ authorization_lawful none hit rest found, pieces_anywhere]
  rfl

def Silent (point : α → Nat) (cells : List α) : Prop :=
  ∀ after, Quiet (authorizationPattern point) none cells after

theorem silent_nil : Silent point ([] : List α) := fun _ => trivial

theorem silent_append (front back : List α) (first : Silent point front) (second : Silent point back) :
    Silent point (front ++ back) := fun after =>
  quiet_append _ none front back after (first _) ((quiet_anywhere _ none _ _).mpr (second after))

theorem silent_drop (front back : List α) (silent : Silent point (front ++ back)) : Silent point back := by
  induction front with
  | nil => exact silent
  | cons cell rest ih => exact ih fun after => (quiet_anywhere _ none _ _).mp (silent after).2

theorem match_opens (cells : List α) (hit : Hit α)
    (found : authorizationPattern point before cells = some hit) :
    ∃ opening next rest, cells = opening :: next :: rest ∧ (point opening = 97 ∨ point opening = 65) ∧
      (point next = 117 ∨ point next = 85) := by
  obtain ⟨header, rest, split, _⟩ := authorization_split before cells hit found
  have named := header.named
  rw [Header.kept] at split
  generalize header.name = name at named split
  cases named with
  | cons here named =>
      cases named with
      | cons later _ => exact ⟨_, _, _, split, by simpa [eitherCase] using here, by simpa [eitherCase] using later⟩

theorem silent_cons (cell : α) (rest : List α) (other : point cell ≠ 97 ∧ point cell ≠ 65)
    (silent : Silent point rest) :
    Silent point (cell :: rest) := by
  intro after
  refine ⟨?_, (quiet_anywhere none _ _ _).mp (silent after)⟩
  cases found : authorizationPattern point none (cell :: (rest ++ after)) with
  | none => rfl
  | some hit =>
      obtain ⟨opening, next, more, same, opens, _⟩ := match_opens none _ hit found
      obtain ⟨rfl, _⟩ := List.cons.inj same
      omega

theorem silent_pair (cell next : α) (rest : List α) (other : point next ≠ 117 ∧ point next ≠ 85)
    (silent : Silent point (next :: rest)) : Silent point (cell :: next :: rest) := by
  intro after
  refine ⟨?_, (quiet_anywhere none _ _ _).mp (silent after)⟩
  cases found : authorizationPattern point none (cell :: (next :: rest ++ after)) with
  | none => rfl
  | some hit =>
      obtain ⟨opening, second, more, same, _, follows⟩ := match_opens none _ hit found
      obtain ⟨_, later⟩ := List.cons.inj same
      obtain ⟨rfl, _⟩ := List.cons.inj later
      omega

theorem silent_all (cells : List α) (others : ∀ cell ∈ cells, point cell ≠ 97 ∧ point cell ≠ 65) :
    Silent point cells := by
  induction cells with
  | nil => exact silent_nil
  | cons cell rest ih =>
      exact silent_cons cell rest (others cell List.mem_cons_self)
        (ih fun other listed => others other (List.mem_cons_of_mem cell listed))

theorem silent_spaces (spaces : List α) (all : ∀ cell ∈ spaces, isSpace (point cell) = true) : Silent point spaces := by
  refine silent_all spaces fun cell listed => ?_
  have space := all cell listed
  constructor <;> (intro letter; rw [letter] at space; revert space; decide)

variable (header : Header point)

theorem header_plain :
    ∀ cell ∈ header.kept ++ header.lead, point cell ≠ 103 ∧ point cell ≠ 91 := by
  have spaces : ∀ cell, isSpace (point cell) = true → point cell ≠ 103 ∧ point cell ≠ 91 := by
    intro cell space
    constructor <;> (intro letter; rw [letter] at space; revert space; decide)
  have letters : ∀ (letters : List Nat) (cells : List α), Spells point letters cells →
      (∀ choices ∈ letters.map eitherCase, ∀ choice ∈ choices, choice ≠ 103 ∧ choice ≠ 91) →
      ∀ cell ∈ cells, point cell ≠ 103 ∧ point cell ≠ 91 := fun letters cells fits plain =>
    choices_all (fun value => value ≠ 103 ∧ value ≠ 91) _ cells plain fits
  intro cell listed
  simp only [Header.kept, Header.lead, List.mem_append, List.mem_cons] at listed
  rcases listed with ((named | before) | rfl | after) | schemed | gap
  · exact letters authorization _ header.named (by decide) cell named
  · exact spaces cell (header.before_space cell before)
  · rw [header.colon_point]
    decide
  · exact spaces cell (header.after_space cell after)
  · rcases header.schemed with fits | fits
    · exact letters bearer _ fits (by decide) cell schemed
    · exact letters token _ fits (by decide) cell schemed
  · exact spaces cell (header.gap_space cell gap)

-- No spelling of these letters has an "a" before a "u", or as its last letter.
def mute : List (List Nat) → Bool
  | [] => true
  | [options] => options.all fun value => value != 97 && value != 65
  | options :: next :: rest =>
      (options.all (fun value => value != 97 && value != 65) || next.all fun value => value != 117 && value != 85) &&
        mute (next :: rest)

theorem silent_spelled (options : List (List Nat)) (cells : List α) (muted : mute options = true)
    (fits : List.Forall₂ (fun options cell => point cell ∈ options) options cells) : Silent point cells := by
  induction fits with
  | nil => exact silent_nil
  | cons here later ih =>
      cases later with
      | nil =>
          refine silent_cons _ [] ?_ silent_nil
          have other := List.all_eq_true.mp muted _ here
          simpa using other
      | cons next more =>
          rw [mute, Bool.and_eq_true, Bool.or_eq_true] at muted
          rcases muted.1 with first | second
          · refine silent_cons _ _ ?_ (ih muted.2)
            simpa using List.all_eq_true.mp first _ here
          · refine silent_pair _ _ _ ?_ (ih muted.2)
            simpa using List.all_eq_true.mp second _ next

theorem header_silent : Silent point (header.kept ++ header.lead).tail := by
  have named := header.named
  have value : Silent point (header.before ++ header.colon :: header.after ++ header.lead) := by
    refine silent_append _ _ (silent_append _ _ (silent_spaces _ header.before_space) ?_) (silent_append _ _ ?_ ?_)
    · refine silent_cons _ _ ?_ (silent_spaces _ header.after_space)
      rw [header.colon_point]
      decide
    · rcases header.schemed with fits | fits
      · exact silent_spelled _ _ (by decide) fits
      · exact silent_spelled _ _ (by decide) fits
    · exact silent_spaces _ header.gap_space
  rw [Header.kept, List.append_assoc header.name, List.append_assoc header.name]
  generalize header.name = name at named
  cases named with
  | cons _ rest => exact silent_append _ _ (silent_spelled _ _ (by decide) rest) value

theorem header_ends :
    ∃ start last, header.kept ++ header.lead = start ++ [last] ∧ isSpace (point last) = true := by
  have real := header.gapped
  refine ⟨header.kept ++ header.scheme ++ header.gap.dropLast, header.gap.getLast real, ?_,
    header.gap_space _ (List.getLast_mem real)⟩
  rw [List.append_assoc, List.dropLast_append_getLast, Header.lead, List.append_assoc]

theorem name_real (name : List α) (named : Spells point authorization name) : name ≠ [] := by
  rintro rfl
  cases named

theorem name_word (letters : Letters) (name : List α) (named : Spells point authorization name) :
    ∀ cell ∈ name, isWord point letters cell = true := by
  refine choices_all (fun value => letters.word value = true) _ name ?_ named
  have folds : ∀ choices ∈ authorization.map eitherCase, ∀ choice ∈ choices,
      isAsciiWord choice = true ∨ choice = 0x130 ∨ choice = 0x131 ∨ choice = 0x212A := by decide
  intro choices listed choice fits
  rcases folds choices listed choice fits with ascii | folded
  · exact letters.word_of_ascii choice ascii
  · exact letters.folded choice folded

theorem space_apart (letters : Letters) (cell : α) (space : isSpace (point cell) = true) :
    isWord point letters cell = false := letters.space _ space

theorem colon_apart (letters : Letters) (cell : α) (colon : point cell = 58) : isWord point letters cell = false :=
  is_word_eq letters cell 58 colon (by decide)

theorem header_value_fresh (letters : Letters) (header : Header point) (rest : List α) :
    Fresh point letters (header.before ++ header.colon :: header.after ++ rest) := by
  intro cell head
  have spaces := header.before_space
  generalize header.before = before at head spaces
  cases before with
  | nil =>
      cases head
      exact colon_apart letters _ header.colon_point
  | cons first more =>
      cases head
      exact space_apart letters _ (spaces _ List.mem_cons_self)

end Cells

end OrchestratorEngine.Captures
