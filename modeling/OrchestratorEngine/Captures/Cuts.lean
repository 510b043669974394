import OrchestratorEngine.Captures.Alignment

set_option autoImplicit false

namespace OrchestratorEngine.Captures

open Foundation Foundation.Scanning
open WorkerLease (isSpace)

section Cells

variable {α : Type} {point : α → Nat} {letters : Letters} {mark : List α}

theorem mem_text (marked : mark.map point = redactedMark) (kept : List α) (cell : α) (own : cell ∉ mark)
    (covered : cell ∈ redactCredentials point mark (redactTokens point letters mark kept)) :
    cell ∈ redactTokens point letters mark kept ∧ cell ∈ kept := by
  have tokens := (mem_credentials _ cell covered).resolve_right own
  exact ⟨tokens, (mem_redact marked kept cell tokens).resolve_right own⟩

theorem credentials_plain (mark cells : List α) (plain : ∀ cell ∈ cells, point cell ≠ 58) :
    redactCredentials point mark cells = cells := by
  obtain quiet | ⟨before, cell, after, hit, split, _, found⟩ :=
    quiet_or_hit (authorizationPattern point) none cells []
  · have kept := credentials_quiet mark cells [] quiet
    rw [List.append_nil] at kept
    rw [kept]
    exact List.append_nil cells
  · obtain ⟨header, later, cut, _⟩ := authorization_split _ _ hit found
    refine absurd header.colon_point (plain header.colon ?_)
    rw [List.append_nil] at cut
    rw [split, cut, Header.kept]
    simp

theorem header_cut (header : Header point) (secret front later : List α) (real : front ≠ []) (left : later ≠ [])
    (filled : secret ≠ []) (cut : header.kept ++ header.lead ++ secret = front ++ later) :
    ∃ start back tail gone, start ≠ [] ∧ header.kept ++ header.lead = start ++ back ∧ later = back ++ tail ∧
      tail ≠ [] ∧ secret = gone ++ tail := by
  rcases List.append_eq_append_iff.mp cut with ⟨more, split, same⟩ | ⟨back, split, same⟩
  · refine ⟨header.kept ++ header.lead, [], later, more, ?_, (List.append_nil _).symm, rfl, left, same⟩
    rw [Header.kept]
    simp
  · exact ⟨front, back, secret, [], real, split, same, filled, rfl⟩

theorem kept_head (before : Option α) (cells : List α) (hit : Hit α)
    (found : authorizationPattern point before cells = some hit) : hit.kept.head? = cells.head? := by
  obtain ⟨cell, kept, rest, same, split⟩ := kept_opens before cells hit found
  rw [same, split, List.head?_cons, List.head?_cons]

theorem cut_inside_or_through (front kept match_cells rest : List α) (cut : front ++ kept = match_cells ++ rest) :
    (∃ later, front = match_cells ++ later ∧ rest = later ++ kept) ∨
      ∃ later, later ≠ [] ∧ match_cells = front ++ later ∧ kept = later ++ rest := by
  rcases List.append_eq_append_iff.mp cut with ⟨later, split, same⟩ | ⟨later, split, same⟩
  · by_cases none : later = []
    · subst none
      refine .inl ⟨[], ?_, same.symm⟩
      rw [split, List.append_nil, List.append_nil]
    · exact .inr ⟨later, none, split, same⟩
  · exact .inl ⟨later, split, same⟩

theorem aligned_cut (marked : mark.map point = redactedMark) (front kept : List α) (distinct : (front ++ kept).Nodup)
    (own : ∀ cell ∈ front ++ kept, cell ∉ mark) :
    Aligned point mark (front ++ kept) (redactTokens point letters mark kept) := by
  induction measured : front.length using Nat.strongRecOn generalizing front with
  | ind bound ih =>
      subst measured
      have keptDistinct := (List.nodup_append.mp distinct).2.1
      have keptOwn : ∀ cell ∈ kept, cell ∉ mark := fun cell listed => own cell (List.mem_append_right _ listed)
      obtain quiet | ⟨before, cell, after, hit, split, quiet, found⟩ :=
        quiet_or_hit (authorizationPattern point) none front kept
      · have aligned : Aligned point mark kept (redactTokens point letters mark kept) :=
          aligned_redact marked kept keptDistinct keptOwn
        intro reached hit listed
        rw [authorizations_quiet front kept quiet] at reached listed
        exact aligned reached hit listed
      · subst split
        obtain ⟨header, rest, cut, headed, leading, credential⟩ := authorization_split _ _ hit found
        have cells : hit.cells = header.kept ++ header.lead ++ hit.secret := by rw [Hit.cells, headed, leading]
        rw [← cells] at cut
        have text : before ++ cell :: after ++ kept = (before ++ hit.cells) ++ rest := by
          rw [List.append_assoc, cut, List.append_assoc]
        have scanned : authorizations point ((before ++ hit.cells) ++ rest) = [hit] ++ authorizations point rest := by
          rw [cut] at quiet found
          rw [List.append_assoc, authorizations_quiet before _ quiet, authorizations_hit hit rest found]
          rfl
        have unmarked : ∀ cell ∈ hit.secret, cell ∉ mark := fun other listed => own other (by
          rw [text, cells]
          simp [listed])
        have outside : ∀ other ∈ before ++ cell :: after, other ∉ kept := fun other listed inside =>
          (List.nodup_append.mp distinct).2.2 other listed other inside rfl
        have gone := apart_of (before ++ hit.cells) rest (text ▸ distinct) (text ▸ own)
        rcases cut_inside_or_through _ _ _ _ cut with ⟨later, split, same⟩ | ⟨later, left, split, same⟩
        · have fewer : later.length < (before ++ cell :: after).length := by
            have some_cell : 0 < hit.cells.length :=
              List.length_pos_of_ne_nil (List.append_ne_nil_of_right_ne_nil _ credential.1)
            rw [List.length_append, split, List.length_append]
            omega
          have aligned : Aligned point mark rest (redactTokens point letters mark kept) := by
            rw [same]
            refine ih later.length fewer later ?_ (fun other listed => own other ?_) rfl
            · rw [text, same] at distinct
              exact (List.nodup_append.mp distinct).2.1
            · rw [text, same]
              exact List.mem_append_right _ listed
          rw [text]
          refine aligned_step (before ++ hit.cells) rest _ [] _ [] [hit] aligned rfl rfl scanned (by simp) (by simp) ?_
          intro other listed _ held inside covered
          cases List.mem_singleton.mp listed
          refine outside held ?_ (mem_text marked kept held (unmarked held inside) covered).2
          rw [split, cells]
          simp [inside]
        · intro reached
          have lost : ∀ cell ∈ hit.secret, cell ∉ redactTokens point letters mark kept := by
            refine (reached hit ?_).resolve_left ?_
            · rw [text, scanned]
              exact List.mem_append_left _ List.mem_cons_self
            · rintro ⟨other, head, inside⟩
              rw [kept_head _ _ _ found] at head
              cases head
              have early : cell ∈ before ++ cell :: after := List.mem_append_right _ List.mem_cons_self
              rcases mem_redact marked kept cell inside with listed | marks
              · exact outside cell early listed
              · exact own cell (List.mem_append_left _ early) marks
          have stops := credential.2.2
          obtain ⟨start, back, tail, front, real, headerCut, laterCut, filled, secretCut⟩ :=
            header_cut header hit.secret (cell :: after) later (List.cons_ne_nil _ _) left credential.1
              (by rw [← cells, split])
          have keptCut : kept = back ++ (tail ++ rest) := by rw [same, laterCut, List.append_assoc]
          have keptHidden : redactTokens point letters mark kept =
              back ++ (redactTokens point letters mark tail ++ redactTokens point letters mark rest) := by
            rw [keptCut]
            exact redact_value marked header start back tail rest headerCut stops
          have goneTail : ∀ cell ∈ tail, cell ∉ redactTokens point letters mark tail := by
            intro other listed inside
            refine lost other (by rw [secretCut]; exact List.mem_append_right _ listed) ?_
            rw [keptHidden]
            exact List.mem_append_right _ (List.mem_append_left _ inside)
          have past := credentials_past marked header start back tail rest real headerCut filled goneTail stops
          rw [← keptCut] at past
          have inBack : ∀ cell ∈ back, cell ∈ before ++ hit.cells := fun other listed => by
            rw [cells, headerCut]
            simp [listed]
          have aligned : Aligned point mark rest (redactTokens point letters mark rest) :=
            aligned_redact marked rest (List.nodup_append.mp (text ▸ distinct)).2.1
              (fun other listed => own other (by rw [text]; exact List.mem_append_right _ listed))
          revert reached
          rw [text]
          refine aligned_step (before ++ hit.cells) rest _ (back ++ mark) _ (back ++ mark) [hit] aligned ?_ ?_ scanned
            ?_ ?_ ?_
          · rw [keptHidden, redact_all marked tail filled goneTail, List.append_assoc]
          · rw [past, List.append_assoc]
          · intro other listed
            exact gone other ((List.mem_append.mp listed).imp_left (inBack other))
          · intro other listed
            exact gone other ((List.mem_append.mp listed).imp_left (inBack other))
          · intro other listed _ held inside covered
            cases List.mem_singleton.mp listed
            exact lost held inside (mem_text marked kept held (unmarked held inside) covered).1

theorem mem_credentials_head (cell : α) (rest : List α) : cell ∈ redactCredentials point mark (cell :: rest) := by
  cases found : authorizationPattern point none (cell :: rest) with
  | none =>
      rw [redactCredentials, sub, pieces_plain _ none cell rest found]
      exact List.mem_cons_self
  | some hit =>
      obtain ⟨_, after, split⟩ := authorization_lawful _ _ hit found
      obtain ⟨first, kept, later, same, cut⟩ := kept_opens none _ hit found
      obtain ⟨rfl, _⟩ := List.cons.inj cut
      rw [split] at found ⊢
      rw [credentials_hit mark hit after found, same]
      exact List.mem_append_left _ List.mem_cons_self

theorem credential_leaks (marked : mark.map point = redactedMark) (secret rest : List α) (cell : α)
    (listed : cell ∈ secret) (own : cell ∉ mark) (kept : cell ∈ redactTokens point letters mark secret) :
    ∃ other ∈ secret, other ∈ redactCredentials point mark (redactTokens point letters mark secret ++ rest) := by
  obtain ⟨front, first, after, split, opens, inside⟩ := redact_kept marked secret cell listed own kept
  refine ⟨first, inside, ?_⟩
  have silent : Silent point front := by
    rcases opens with rfl | rfl
    · exact silent_nil
    · exact silent_mark marked
  rw [split, List.append_assoc, credentials_quiet mark front _ (silent _)]
  exact List.mem_append_right _ (mem_credentials_head first _)

theorem header_last (header : Header point) (front back : List α) (real : back ≠ [])
    (split : header.kept ++ header.lead = front ++ back) :
    ∃ last, back.getLast? = some last ∧ isSpace (point last) = true := by
  obtain ⟨start, last, same, space⟩ := header_ends header
  have final : (front ++ back).getLast? = some last := by rw [← split, same, List.getLast?_concat]
  obtain ⟨cell, ends⟩ := Option.isSome_iff_exists.mp (List.getLast?_isSome.mpr real)
  rw [List.getLast?_append, ends, Option.some_or] at final
  cases final
  exact ⟨_, ends, space⟩

theorem match_ends (marked : mark.map point = redactedMark) (header other : Header point)
    (tail front beyond secret : List α) (split : header.kept ++ header.lead = header.name ++ tail)
    (plain : ∀ cell ∈ secret, isSpace (point cell) = false) :
    other.kept ++ other.lead ++ secret ≠ front ++ (mark ++ tail) ++ beyond := by
  intro same
  have bracket : ∃ opening ∈ mark, point opening = 91 := by
    obtain ⟨opening, _, _, shape, value, _⟩ := mark_split marked
    exact ⟨opening, by rw [shape]; exact List.mem_cons_self, value⟩
  obtain ⟨opening, inMark, value⟩ := bracket
  have tailReal : tail ≠ [] := by
    have whole := List.append_cancel_left (split.symm.trans (header_from_name header))
    rw [whole]
    simp
  rcases List.append_eq_append_iff.mp same with ⟨more, cut, later⟩ | ⟨more, cut, _⟩
  · cases more with
    | nil =>
        refine (header_plain other opening ?_).2 value
        rw [List.append_nil] at cut
        rw [← cut]
        simp [inMark]
    | cons next others =>
        obtain ⟨last, ends, space⟩ := header_last header header.name tail tailReal split
        have final : (other.kept ++ other.lead ++ next :: others).getLast? = some last := by
          rw [← cut, ← List.append_assoc, List.getLast?_append, ends, Option.some_or]
        have inside : last ∈ next :: others := by
          rw [List.getLast?_append] at final
          cases found : (next :: others).getLast? with
          | none => simp at found
          | some cell =>
              rw [found, Option.some_or] at final
              cases final
              exact List.mem_of_getLast? found
        have letter := plain last (by rw [later]; exact List.mem_append_left _ inside)
        rw [space] at letter
        cases letter
  · refine (header_plain other opening ?_).2 value
    rw [cut]
    simp [inMark]

theorem credentials_reach (marked : mark.map point = redactedMark) (header : Header point) (tail after : List α)
    (split : header.kept ++ header.lead = header.name ++ tail) (front : List α) :
    ∃ out, redactCredentials point mark (front ++ (mark ++ (tail ++ after))) =
      out ++ redactCredentials point mark after := by
  have silent : Silent point (mark ++ tail) :=
    silent_append _ _ (silent_mark marked) (header_rest_silent header header.name tail (name_real _ header.named) split)
  induction measured : front.length using Nat.strongRecOn generalizing front with
  | ind bound ih =>
      subst measured
      obtain quiet | ⟨before, cell, rest, hit, same, quiet, found⟩ :=
        quiet_or_hit (authorizationPattern point) none front (mark ++ (tail ++ after))
      · refine ⟨front ++ (mark ++ tail), ?_⟩
        rw [credentials_quiet mark front _ quiet, ← List.append_assoc mark, credentials_quiet mark _ _ (silent after),
          List.append_assoc front]
      · subst same
        obtain ⟨other, later, cut, headed, leading, credential⟩ := authorization_split _ _ hit found
        have cells : hit.cells = other.kept ++ other.lead ++ hit.secret := by rw [Hit.cells, headed, leading]
        rw [← cells] at cut
        have output : redactCredentials point mark (before ++ cell :: rest ++ (mark ++ (tail ++ after))) =
            before ++ (hit.kept ++ mark ++ redactCredentials point mark later) := by
          rw [cut] at quiet found
          rw [List.append_assoc, cut, credentials_quiet mark before _ quiet, credentials_hit mark hit later found]
        have ends : ∃ out, redactCredentials point mark later = out ++ redactCredentials point mark after := by
          rcases cut_inside_or_through _ _ _ _ cut with ⟨more, inside, same⟩ | ⟨more, _, through, same⟩
          · rw [same]
            refine ih more.length ?_ more rfl
            have some_cell : 0 < hit.cells.length :=
              List.length_pos_of_ne_nil (List.append_ne_nil_of_right_ne_nil _ credential.1)
            rw [List.length_append, inside, List.length_append]
            omega
          · rw [← List.append_assoc] at same
            rcases cut_inside_or_through _ _ _ _ same with ⟨left, reached, same⟩ | ⟨beyond, _, reached, _⟩
            · rw [same]
              have quiet_left := silent_drop more left (reached ▸ silent)
              exact ⟨left, credentials_quiet mark left after (quiet_left after)⟩
            · rw [reached, ← List.append_assoc] at through
              exact absurd (cells.symm.trans through)
                (match_ends marked header other tail (cell :: rest) beyond hit.secret split credential.2.1)
        obtain ⟨out, reaches⟩ := ends
        refine ⟨before ++ (hit.kept ++ mark ++ out), ?_⟩
        rw [output, reaches]
        simp

theorem secret_only (marked : mark.map point = redactedMark) (front secret rest : List α) (cell : α)
    (listed : cell ∈ secret) (own : cell ∉ mark) (distinct : (front ++ (secret ++ rest)).Nodup)
    (kept : cell ∈ front ++ (redactTokens point letters mark secret ++ redactTokens point letters mark rest)) :
    cell ∈ redactTokens point letters mark secret := by
  have parts := List.nodup_append.mp distinct
  rcases List.mem_append.mp kept with early | kept
  · exact absurd rfl (parts.2.2 cell early cell (List.mem_append_left _ listed))
  · refine (List.mem_append.mp kept).resolve_right fun later => ?_
    have behind := (mem_redact marked rest cell later).resolve_right own
    exact (List.nodup_append.mp parts.2.1).2.2 cell listed cell behind rfl

theorem cut_leaks (marked : mark.map point = redactedMark) (header : Header point) (start back secret rest : List α)
    (real : start ≠ []) (split : header.kept ++ header.lead = start ++ back)
    (stops : ∀ cell ∈ rest.head?, isSpace (point cell) = true) (cell : α) (listed : cell ∈ secret) (own : cell ∉ mark)
    (distinct : (back ++ (secret ++ rest)).Nodup)
    (kept : cell ∈ redactTokens point letters mark (back ++ (secret ++ rest))) :
    ∃ other ∈ secret,
      other ∈ redactCredentials point mark (redactTokens point letters mark (back ++ (secret ++ rest))) := by
  rw [redact_value marked header start back secret rest split stops] at kept ⊢
  have inside := secret_only marked back secret rest cell listed own distinct kept
  obtain ⟨other, within, leaked⟩ := credential_leaks marked secret
    (redactTokens point letters mark rest) cell listed own
    inside
  refine ⟨other, within, ?_⟩
  rw [credentials_quiet mark back _ (header_rest_silent header start back real split _)]
  exact List.mem_append_right _ leaked

theorem hidden_leaks (marked : mark.map point = redactedMark) (front word value : List α) (hit : Hit α)
    (whole : ∀ cell ∈ word, isWord point letters cell = true) (hides : hidden point word = true)
    (fresh : Fresh point letters value) (last : ∀ cell ∈ front.getLast?, isWord point letters cell = false)
    (before name : List α) (split : word = before ++ name) (real : name ≠ [])
    (found : authorizationPattern point none (name ++ value) = some hit) (cell : α) (listed : cell ∈ hit.secret)
    (own : cell ∉ mark) (distinct : (front ++ (word ++ value)).Nodup)
    (kept : cell ∈ redactTokens point letters mark (front ++ (word ++ value))) :
    ∃ other ∈ hit.secret,
      other ∈ redactCredentials point mark (redactTokens point letters mark (front ++ (word ++ value))) := by
  have nameWhole : ∀ cell ∈ name, isWord point letters cell = true := fun cell listed =>
    whole cell (by rw [split]; exact List.mem_append_right _ listed)
  obtain ⟨header, rest, rfl, valueCut, _, _, credential⟩ := match_in_word name value nameWhole fresh hit found
  generalize tailEq : header.before ++ header.colon :: header.after ++ header.lead = tail at valueCut
  have headed : header.kept ++ header.lead = header.name ++ tail := by rw [header_from_name, tailEq]
  have wordReal : word ≠ [] := by
    rw [split]
    exact List.append_ne_nil_of_right_ne_nil _ real
  have tokens : redactTokens point letters mark (front ++ (word ++ value)) =
      redactTokens point letters mark front ++ (mark ++ (tail ++
        (redactTokens point letters mark hit.secret ++ redactTokens point letters mark rest))) := by
    rw [redact_append marked front _ (.inl last), redact_word marked word value wordReal whole fresh, hides, if_pos rfl,
      valueCut, redact_value marked header header.name tail hit.secret rest headed credential.2.2]
  have cut : front ++ (word ++ value) = (front ++ word ++ tail) ++ (hit.secret ++ rest) := by
    rw [valueCut]
    simp
  have inside : cell ∈ redactTokens point letters mark hit.secret := by
    refine secret_only marked (front ++ word ++ tail) hit.secret rest cell listed own (cut ▸ distinct) ?_
    rw [tokens] at kept
    simp only [List.mem_append] at kept ⊢
    rcases kept with early | marks | later | inside
    · exact .inl (.inl (.inl ((mem_redact marked front cell early).resolve_right own)))
    · exact absurd marks own
    · exact .inl (.inr later)
    · exact .inr inside
  obtain ⟨other, within, leaked⟩ := credential_leaks marked hit.secret
    (redactTokens point letters mark rest) cell listed
    own inside
  obtain ⟨out, reaches⟩ := credentials_reach marked header tail
    (redactTokens point letters mark hit.secret ++ redactTokens point letters mark rest) headed
    (redactTokens point letters mark front)
  refine ⟨other, within, ?_⟩
  rw [tokens, reaches]
  exact List.mem_append_right _ leaked

theorem begun_leaks (marked : mark.map point = redactedMark) (before kept after : List α) (hit : Hit α)
    (split : kept = before ++ (hit.cells ++ after))
    (found : authorizationPattern point none (hit.cells ++ after) = some hit) (distinct : kept.Nodup)
    (lost : ∀ cell ∈ hit.kept.head?, cell ∉ redactTokens point letters mark kept) (cell : α)
    (listed : cell ∈ hit.secret)
    (own : cell ∉ mark) (stays : cell ∈ redactTokens point letters mark kept) :
    ∃ other ∈ hit.secret, other ∈ redactCredentials point mark (redactTokens point letters mark kept) := by
  obtain ⟨first, more, rest, keptCut, matchCut⟩ := kept_opens none _ hit found
  rw [matchCut] at split found
  have firstKept : first ∈ kept := by
    rw [split]
    exact List.mem_append_right _ List.mem_cons_self
  obtain ⟨front, word, value, ⟨⟨textCut, _, whole, fresh, last⟩, hides⟩, inside⟩ :=
    hidden_word marked kept first firstKept (lost first (by rw [keptCut]; rfl))
  obtain ⟨wordFront, wordBack, rfl⟩ := List.append_of_mem inside
  have once : first ∉ before := fun early => by
    rw [split] at distinct
    exact (List.nodup_append.mp distinct).2.2 first early first List.mem_cons_self rfl
  have behind : first ∉ rest := by
    rw [split] at distinct
    exact (List.nodup_cons.mp (List.nodup_append.mp distinct).2.1).1
  have place : before ++ first :: rest = (front ++ wordFront) ++ first :: (wordBack ++ value) := by
    rw [← split, textCut]
    simp
  have same := ((List.append_cons_inj_of_notMem once behind).mp place).2.2
  rw [same, ← List.cons_append] at found
  rw [textCut] at distinct stays ⊢
  exact hidden_leaks marked front _ value hit whole hides fresh last wordFront (first :: wordBack) rfl
    (List.cons_ne_nil _ _) found cell listed own distinct stays

theorem authorization_leaks (marked : mark.map point = redactedMark) (front kept : List α)
    (distinct : (front ++ kept).Nodup) (own : ∀ cell ∈ front ++ kept, cell ∉ mark) (hit : Hit α)
    (matched : hit ∈ authorizations point (front ++ kept))
    (lost : ∀ cell ∈ hit.kept.head?, cell ∉ redactTokens point letters mark kept) (cell : α)
    (listed : cell ∈ hit.secret)
    (stays : cell ∈ redactTokens point letters mark kept) :
    ∃ other ∈ hit.secret, other ∈ redactCredentials point mark (redactTokens point letters mark kept) := by
  obtain ⟨before, after, split, found⟩ := authorization_placed _ hit matched
  obtain ⟨header, rest, cut, headed, leading, credential⟩ := authorization_split none _ hit found
  have cells : hit.cells = header.kept ++ header.lead ++ hit.secret := by rw [Hit.cells, headed, leading]
  rw [← cells] at cut
  have sameRest : after = rest := List.append_cancel_left cut
  subst sameRest
  have inMatch : cell ∈ hit.cells := by
    rw [cells]
    exact List.mem_append_right _ listed
  have inText : cell ∈ front ++ kept := by
    rw [split]
    exact List.mem_append_right _ (List.mem_append_left _ inMatch)
  have unmarked : cell ∉ mark := own cell inText
  have inKept : cell ∈ kept := (mem_redact marked kept cell stays).resolve_right unmarked
  have keptDistinct := (List.nodup_append.mp distinct).2.1
  rcases cut_inside_or_through _ _ _ _ split with ⟨later, frontCut, sameKept⟩ | ⟨later, _, _, sameKept⟩
  · by_cases none : later = []
    · rw [none, List.nil_append] at sameKept
      exact begun_leaks marked [] kept after hit sameKept.symm found keptDistinct lost cell listed unmarked stays
    · rcases cut_inside_or_through _ _ _ _ sameKept.symm with ⟨more, inside, _⟩ | ⟨more, left, through, keptCut⟩
      · have early : cell ∈ front := by
          rw [frontCut, inside]
          exact List.mem_append_right _ (List.mem_append_left _ inMatch)
        exact absurd rfl ((List.nodup_append.mp distinct).2.2 cell early cell inKept)
      · obtain ⟨start, back, tail, gone, real, headerCut, moreCut, _, secretCut⟩ :=
          header_cut header hit.secret later more none left credential.1 (by rw [← cells, through])
        have text : kept = back ++ (tail ++ after) := by rw [keptCut, moreCut, List.append_assoc]
        have matchDistinct : (hit.cells ++ after).Nodup := by
          rw [split] at distinct
          exact (List.nodup_append.mp distinct).2.1
        have inTail : cell ∈ tail := by
          rw [text] at inKept
          rw [cells, headerCut, secretCut] at matchDistinct
          simp only [List.mem_append] at inKept
          rcases inKept with header_cell | inside | later
          · have parts := (List.nodup_append.mp (List.nodup_append.mp matchDistinct).1).2.2
            rw [secretCut] at listed
            exact absurd rfl (parts cell (List.mem_append_right _ header_cell) cell listed)
          · exact inside
          · rw [secretCut] at listed
            exact absurd rfl ((List.nodup_append.mp matchDistinct).2.2 cell (List.mem_append_right _ listed) cell later)
        rw [text] at keptDistinct stays ⊢
        obtain ⟨other, within, leaked⟩ := cut_leaks marked header start back tail after real headerCut
          credential.2.2 cell
          inTail unmarked keptDistinct stays
        refine ⟨other, ?_, leaked⟩
        rw [secretCut]
        exact List.mem_append_right _ within
  · exact begun_leaks marked later kept after hit sameKept found keptDistinct lost cell listed unmarked stays

end Cells

end OrchestratorEngine.Captures
