import PatternWorkbench.Proofs.Authoring.Buffer
import PatternWorkbench.Proofs.Breakdown.Brackets
import PatternWorkbench.Proofs.Breakdown.SideBySide

/-!
# Assembled patterns

Whatever text a fragment is made for, nothing in the fragment waits for more to
come: each class, repetition and escape sequence in it is finished.  So a pattern
that is put together from fragments is broken down fragment by fragment.
-/

namespace PatternWorkbench.Authoring

open Breakdown (Firm Lexeme Token namedNote tokenize tokenizeEach tokenizeFrom)
open Inference (Count Entry Kind Run Segment Shape classifyWith? dateFragment?
  fragmentForSelection generalize isCaptureName quoted wrapNamed)
open Pattern (standsForItself)
open Pattern.Escape (isMeta)

/-! ## Fragments are firm -/

theorem isSingle_of_standsForItself {c : Char} (hc : standsForItself c = true) :
    Lexeme.IsSingle c := by
  simp only [standsForItself, Pattern.Reading.beginsAtom, List.contains_eq_mem,
    List.mem_cons, List.not_mem_nil, or_false, Bool.and_eq_true, Bool.not_eq_true',
    decide_eq_false_iff_not, not_or] at hc
  refine Lexeme.isSingle_of_standsAlone ?_ hc.1.2.2.2.1
  by_cases hclosing : c = ']' <;>
    simp [Pattern.standsAlone, Pattern.isDelimiter, hc, hclosing]

theorem firm_letters {word : Text} (hword : ∀ c ∈ word, standsForItself c = true) :
    Firm word := by
  rw [← List.flatMap_singleton' word]
  exact Firm.flatMap fun c hc => Firm.of_isSingle (isSingle_of_standsForItself (hword c hc))

theorem firm_escape (c : Char) : Firm ['\\', c] :=
  .of_first (Lexeme.first?_escape c []) (by decide)

/-- A quoted text is made of escape sequences and of characters for themselves. -/
theorem firm_quoted (text : Text) : Firm (quoted text) := by
  apply Firm.flatMap
  intro c _
  cases hmeta : isMeta c with
  | true => exact firm_escape c
  | false =>
      exact .of_isSingle (isSingle_of_standsForItself
        (Inference.standsForItself_of_not_isMeta hmeta))

/-- What is written for a kind of characters has its end in itself. -/
theorem firm_kind {kind : Kind} (hlegible : kind.isLegible = true) :
    Firm kind.fragment := by
  cases kind with
  | exact c =>
      rw [Kind.fragment_exact]
      split
      case isTrue => exact firm_escape '.'
      case isFalse hdot =>
        refine .of_isSingle (isSingle_of_standsForItself ?_)
        simpa [Kind.isLegible, hdot] using hlegible
  | decimal | word | blank | nonBlank => exact firm_escape _
  | lower | upper | letter | oneToFive | sign | path | any =>
      exact .of_first rfl (by decide)

theorem firm_bounds {bounds : Text} (hbounds : Lexeme.IsBounds bounds) :
    Firm ('{' :: bounds) := by
  have hlength := Lexeme.boundsLength?_append hbounds []
  rw [List.append_nil] at hlength
  exact .of_first (Lexeme.first?_bounds_of_some hlength) (by decide)

theorem firm_suffix (count : Count) : Firm count.suffix := by
  have hdigits (n : Nat) : ∀ d ∈ decimal n, d.isDigit = true := fun d hd =>
    Nat.isDigit_of_mem_toDigits (by decide) (by decide) hd
  cases count with
  | exactly count =>
      rw [Count.suffix]
      split
      case isTrue => exact .nil
      case isFalse =>
        have hbounds := Lexeme.IsBounds.once Nat.toDigits_ne_nil (hdigits count)
        exact firm_bounds hbounds
  | between low high =>
      have hbounds := Lexeme.IsBounds.range Nat.toDigits_ne_nil (hdigits low) (hdigits high)
      simpa [Count.suffix, decimal] using firm_bounds hbounds
  | oneOrMore | anyNumber => exact .of_first rfl (by decide)

theorem firm_shape {shape : Shape} (hlegible : shape.isLegible = true) :
    Firm shape.fragment := by
  cases shape with
  | row runs =>
      apply Firm.flatMap
      intro run hrun
      have hkind := List.all_eq_true.1 hlegible run hrun
      rw [Run.isLegible, Bool.and_eq_true] at hkind
      exact (firm_kind hkind.1).append (firm_suffix run.count)
  | oneOf words =>
      have hwords : ∀ word ∈ words, Firm word := fun word hword =>
        firm_letters (List.all_eq_true.1 (List.all_eq_true.1 hlegible word hword))
      have hopening : Firm "(?:".toList := .of_first rfl (by decide)
      have hclosing : Firm [')'] := .of_first rfl (by decide)
      have hbar : Firm ['|'] := .of_first rfl (by decide)
      have hchoice : Firm (List.intercalate ['|'] words) := by
        clear hlegible
        induction words with
        | nil => exact .nil
        | cons word words ih =>
            rw [List.forall_mem_cons] at hwords
            cases words with
            | nil => simpa using hwords.1
            | cons next later =>
                simpa using hwords.1.append (hbar.append (ih hwords.2))
      exact (hopening.append hchoice).append hclosing

/-- The fragments of segments can be laid side by side. -/
theorem firm_segment (segment : Segment) : Firm segment.fragment := by
  unfold Segment.fragment Inference.Rule.fragment
  split
  · split
    · exact .of_isSingle (isSingle_of_standsForItself (by decide))
    · exact firm_shape (Inference.isLegible_shape _)
  · exact firm_quoted _

theorem firm_generalize (text : Text) : Firm (generalize text) :=
  Firm.flatMap fun segment _ => firm_segment segment

/-- The shapes of the texts that entries stand for. -/
def entryShapes : List Shape :=
  [.ipv4, .statusCode, .httpMethod, .path, .time, .manyOf .decimal, .manyOf .word,
    .manyOf .nonBlank, .anything] ++ Inference.dateShapes

/-- An entry gives the fragment of a shape or the text itself, the latter only if it
is asked for by name. -/
theorem fragment_entry (entry : Entry) (text : Text) :
    (∃ shape ∈ entryShapes, entry.fragment text = shape.fragment) ∨
      entry.fragment text = quoted text ∧
        (entry.autoSelect && entry.accepts text) = false := by
  cases entry with
  | literal => exact Or.inr ⟨rfl, rfl⟩
  | date =>
      rw [Entry.fragment]
      cases hdate : dateFragment? text with
      | none => exact Or.inr ⟨rfl, by simp [Entry.accepts, hdate]⟩
      | some fragment =>
          obtain ⟨shape, hfind, rfl⟩ := Option.map_eq_some_iff.1 hdate
          have hshape := List.mem_of_find?_eq_some hfind
          exact Or.inl ⟨shape, List.mem_append_right _ hshape, rfl⟩
  | ipv4 => exact Or.inl ⟨.ipv4, by decide, rfl⟩
  | status => exact Or.inl ⟨.statusCode, by decide, rfl⟩
  | method => exact Or.inl ⟨.httpMethod, by decide, rfl⟩
  | path => exact Or.inl ⟨.path, by decide, rfl⟩
  | time => exact Or.inl ⟨.time, by decide, rfl⟩
  | digits => exact Or.inl ⟨.manyOf .decimal, by decide, rfl⟩
  | word => exact Or.inl ⟨.manyOf .word, by decide, rfl⟩
  | nonSpace => exact Or.inl ⟨.manyOf .nonBlank, by decide, rfl⟩
  | wildcard => exact Or.inl ⟨.anything, by decide, rfl⟩

/-- Every entry gives a fragment that can be laid beside others, whatever the text is.
-/
theorem firm_entry (entry : Entry) (text : Text) : Firm (entry.fragment text) := by
  have hshapes : ∀ shape ∈ entryShapes, shape.isLegible = true := by decide
  rcases fragment_entry entry text with ⟨shape, hshape, heq⟩ | ⟨heq, -⟩
  · exact heq ▸ firm_shape (hshapes shape hshape)
  · exact heq ▸ firm_quoted text

theorem firm_classify {text fragment : Text}
    (hclassify : Inference.classify? text = some fragment) : Firm fragment := by
  obtain ⟨entry, _, rfl⟩ := Option.map_eq_some_iff.1 hclassify
  exact firm_entry entry text

theorem firm_selection (text : Text) : Firm (fragmentForSelection text) := by
  unfold fragmentForSelection
  cases hclassify : Inference.classify? text with
  | none => exact firm_generalize text
  | some fragment => exact firm_classify hclassify

/-! ## Named groups -/

theorem isGroupName_of_isCaptureName {name : Text} (hname : isCaptureName name = true) :
    Pattern.GroupReading.IsGroupName name := by
  have hcontinues : ∀ c ∈ name, Inference.continuesName c = true := by
    cases name with
    | nil => contradiction
    | cons c rest =>
        rw [isCaptureName, Bool.and_eq_true, List.all_eq_true] at hname
        rw [List.forall_mem_cons]
        exact ⟨(isNameStart_of_beginsName hname.1).2, hname.2⟩
  have hunlike (c : Char) (hc : c ∈ name) := not_mem_of_continuesName (hcontinues c hc)
  refine ⟨?_, fun hangle => hunlike '>' hangle (by decide), fun c hc => ?_⟩
  · rintro rfl
    contradiction
  · have hc := hunlike c (List.mem_of_head? hc)
    simp only [List.mem_cons, List.not_mem_nil, or_false, not_or] at hc
    exact hc.2

/-- A fragment is only wrapped under a name of the right form, between the opening and a
closing parenthesis. -/
theorem eq_of_wrapNamed {fragment name wrapped : Text}
    (hwrap : wrapNamed fragment name = .ok wrapped) :
    isCaptureName name = true ∧
      wrapped = "(?<".toList ++ name ++ ['>'] ++ fragment ++ [')'] := by
  unfold wrapNamed at hwrap
  split at hwrap
  case isTrue hname => exact ⟨hname, (Except.ok.inj hwrap).symm⟩
  case isFalse => contradiction

def namedOpening (name : Text) : Text :=
  "(?<".toList ++ name ++ ['>']

/-- The opening of a group is one lexeme up to the angle that closes the name. -/
theorem first?_namedOpening {name : Text} (hname : isCaptureName name = true)
    (after : Text) :
    Lexeme.first? '(' ("?<".toList ++ name ++ '>' :: after) =
      some (.namedGroupOpen, ("?<".toList ++ name ++ ['>']).length + 1) := by
  have hsign : Lexeme.IsNameSign "?<".toList := Or.inl rfl
  rw [Lexeme.first?_named hsign (isGroupName_of_isCaptureName hname),
    List.length_append, List.length_append, List.length_append]
  rfl

theorem firm_namedOpening {name : Text} (hname : isCaptureName name = true) :
    Firm (namedOpening name) :=
  .of_first (first?_namedOpening hname []) (by decide)

theorem firm_wrapNamed {fragment name wrapped : Text} (hfirm : Firm fragment)
    (hwrap : wrapNamed fragment name = .ok wrapped) : Firm wrapped := by
  obtain ⟨hname, rfl⟩ := eq_of_wrapNamed hwrap
  have hclosing : Firm [')'] := .of_first rfl (by decide)
  exact ((firm_namedOpening hname).append hfirm).append hclosing

/-- The tokens of a fragment in a group with a name: the opening with its name,
the tokens of the fragment and the closing parenthesis. -/
def tokensInGroup (fragment name : Text) : List Token :=
  let inside := byteLength (namedOpening name)
  ⟨.namedGroupMarker, namedOpening name, 0, some (namedNote name)⟩ ::
    (tokenize fragment).map (Token.shifted inside) ++
    [⟨.groupMarker, [')'], inside + byteLength fragment, some "end of group".toList⟩]

/-- A wrapped fragment keeps its tokens, which are moved behind the opening. -/
theorem tokenize_wrapNamed {fragment name wrapped : Text} (hfirm : Firm fragment)
    (hwrap : wrapNamed fragment name = .ok wrapped) :
    tokenize wrapped = tokensInGroup fragment name := by
  obtain ⟨hname, rfl⟩ := eq_of_wrapNamed hwrap
  have hopening : tokenizeFrom 0 (namedOpening name) =
      [⟨.namedGroupMarker, namedOpening name, 0, some (namedNote name)⟩] := by
    have hnote : Lexeme.note? .namedGroupOpen (namedOpening name) =
        some (namedNote name) :=
      congrArg (fun name => some (namedNote name)) (Breakdown.groupName_named (Or.inl rfl))
    rw [← hnote]
    exact Breakdown.tokenizeFrom_lexeme (first?_namedOpening hname []) 0
  have hclosing (start : Nat) : tokenizeFrom start [')'] =
      [⟨.groupMarker, [')'], start, some "end of group".toList⟩] := by
    have hfirst : Lexeme.first? ')' [] = some (.groupClose, ([] : Text).length + 1) := rfl
    exact Breakdown.tokenizeFrom_lexeme hfirst start
  calc tokenize (namedOpening name ++ fragment ++ [')'])
      = tokenizeFrom 0 (namedOpening name) ++
          (tokenizeFrom (byteLength (namedOpening name)) fragment ++
            tokenizeFrom (byteLength (namedOpening name) + byteLength fragment) [')']) := by
        rw [tokenize, List.append_assoc,
          (firm_namedOpening hname).tokenizeFrom_append, Nat.zero_add,
          hfirm.tokenizeFrom_append]
    _ = tokensInGroup fragment name := by
        rw [hopening, hclosing, Breakdown.tokenizeFrom_eq_shifted]
        rfl

/-! ## Patterns -/

/-- The fragments that are offered to an author. -/
inductive Offered : Text → Prop where
  | selection (text : Text) : Offered (fragmentForSelection text)
  | generalized (text : Text) : Offered (generalize text)
  | entry {id text fragment : Text} (hentry : classifyWith? id text = some fragment) :
      Offered fragment
  | named {fragment name wrapped : Text} (hoffered : Offered fragment)
      (hwrap : wrapNamed fragment name = .ok wrapped) : Offered wrapped

/-- All that is offered to an author can be laid side by side. -/
theorem Offered.firm {fragment : Text} (hoffered : Offered fragment) : Firm fragment := by
  induction hoffered with
  | selection text => exact firm_selection text
  | generalized text => exact firm_generalize text
  | entry hentry =>
      obtain ⟨entry, _, rfl⟩ := Option.map_eq_some_iff.1 hentry
      exact firm_entry entry _
  | named hoffered hwrap ih => exact firm_wrapNamed ih hwrap

/-- A pattern that is put together from fragments has no errors, its tokens are
those of its fragments one after the other, and those of a fragment in a group
with a name are the ones of the fragment between the two ends of the group. -/
theorem tokenize_offered {fragments : List Text}
    (hoffered : ∀ fragment ∈ fragments, Offered fragment) :
    (∀ token ∈ tokenize fragments.flatten, token.kind ≠ .error) ∧
      tokenize fragments.flatten = tokenizeEach 0 fragments ∧
      ∀ fragment name wrapped, Offered fragment → wrapNamed fragment name = .ok wrapped →
        tokenize wrapped = tokensInGroup fragment name := by
  have hfirm : ∀ fragment ∈ fragments, Firm fragment :=
    fun fragment hfragment => (hoffered fragment hfragment).firm
  have hwhole : Firm fragments.flatten := by
    rw [← List.flatMap_id]
    exact Firm.flatMap hfirm
  exact ⟨hwhole.faultless.kind_ne_error 0, Breakdown.tokenizeFrom_flatten hfirm 0,
    fun fragment name wrapped hfragment => tokenize_wrapNamed hfragment.firm⟩

/-- A quoted parenthesis and brace in a group with a name, before a number and
another quoted parenthesis. -/
theorem tokenize_offered_parentheses :
    (∀ token ∈ tokenize "(?<n>\\(\\\x7b)\\d+\\(".toList, token.kind ≠ .error) ∧
    tokenize "(?<n>\\(\\\x7b)\\d+\\(".toList =
      tokenizeEach 0 ["(?<n>\\(\\\x7b)".toList, "\\d+".toList, "\\(".toList] ∧
    tokenize "(?<n>\\(\\\x7b)".toList = tokensInGroup "\\(\\\x7b".toList "n".toList := by
  have hentry (id text fragment : Text) (hentry : classifyWith? id text = some fragment) :
      Offered fragment := .entry hentry
  have hquoted : Offered "\\(\\\x7b".toList :=
    hentry "literal".toList "(\x7b".toList _ (by decide)
  have hwrap : wrapNamed "\\(\\\x7b".toList "n".toList = .ok "(?<n>\\(\\\x7b)".toList := rfl
  have hdigits : Offered "\\d+".toList :=
    hentry "digits".toList "x".toList _ (by decide)
  have hopening : Offered "\\(".toList :=
    hentry "literal".toList "(".toList _ (by decide)
  have hoffered : ∀ fragment ∈
      ["(?<n>\\(\\\x7b)".toList, "\\d+".toList, "\\(".toList], Offered fragment := by
    rw [List.forall_mem_cons, List.forall_mem_cons, List.forall_mem_singleton]
    exact ⟨.named hquoted hwrap, hdigits, hopening⟩
  obtain ⟨hkinds, htokens, hgroups⟩ := tokenize_offered hoffered
  exact ⟨hkinds, htokens, hgroups _ _ _ hquoted hwrap⟩

end PatternWorkbench.Authoring
