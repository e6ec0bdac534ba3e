import PatternWorkbench.Proofs.Authoring.Assembly
import PatternWorkbench.Proofs.Command.Ending
import PatternWorkbench.Proofs.Inference.Fallback
import PatternWorkbench.Proofs.Inference.Pieces
import PatternWorkbench.Proofs.Report.Trimming

/-!
# Fragments as they are shown

A report loses the blanks at its end, and a fragment at the end of its report
loses them as well.  What is left tells the fragment unless it ends in a blank,
which it cannot do in a group with a name or when an entry picks itself.
-/

namespace PatternWorkbench.Command

open Inference (Entry Rule Segment Shape classify? classifyWith? fragmentForSelection
  generalize isCaptureName quoted segmentsFrom wrapNamed)
open Report (Document Survives endsBlank trimEnd)
open Settings (Format Options)
open Unicode (isBlank)

/-! ## Fragments that end in a blank -/

theorem endsBlank_shape : ∀ rule ∈ Rule.all,
    rule.shape.fragment ≠ [] ∧ endsBlank rule.shape.fragment = false := by
  simp only [Report.endsBlank_eq_has]
  decide

theorem quoted_singleton_ne_nil (c : Char) : quoted [c] ≠ [] := by
  unfold quoted
  rw [List.flatMap_singleton]
  split <;> simp

/-- Quoting a text keeps a blank at its end. -/
theorem endsBlank_quoted (text : Text) : endsBlank (quoted text) = endsBlank text := by
  rcases List.eq_nil_or_concat text with rfl | ⟨init, c, rfl⟩
  · rfl
  · rw [List.concat_eq_append, Inference.quoted_append, Report.endsBlank_append
      (quoted_singleton_ne_nil c), Report.endsBlank_concat]
    unfold quoted
    rw [List.flatMap_singleton]
    split <;> simp [endsBlank]

/-- The first segment of a sample stands for a blank by itself only if it is a
single space. -/
theorem fragment_first (start : Nat) (c : Char) (rest : Text) :
    (Segment.first start c rest).fragment ≠ [] ∧
      (endsBlank (Segment.first start c rest).fragment = true →
        (Segment.first start c rest).text = [' ']) := by
  unfold Segment.first
  split
  case h_1 rule length _ =>
    have hall : rule ∈ Rule.all := by cases rule <;> decide
    obtain ⟨hne, hend⟩ := endsBlank_shape rule hall
    simp only [Segment.fragment]
    unfold Rule.fragment
    split
    case isTrue hspace => exact ⟨by simp, fun _ => hspace.2⟩
    case isFalse => exact ⟨hne, fun hblank => by simp [hend] at hblank⟩
  case h_2 hnone =>
    refine ⟨quoted_singleton_ne_nil c, fun hblank => ?_⟩
    have hsolid : endsBlank (quoted [c]) = false :=
      (endsBlank_quoted [c]).trans (Inference.coveringRule?_eq_none_iff.1 hnone).noBlank
    simp [Segment.fragment, hsolid] at hblank

theorem flatMap_fragment_ne_nil (start : Nat) {text : Text} (hne : text ≠ []) :
    (segmentsFrom start text).flatMap Segment.fragment ≠ [] := by
  obtain ⟨c, rest, rfl⟩ := List.exists_cons_of_ne_nil hne
  rw [segmentsFrom, List.flatMap_cons]
  exact List.append_ne_nil_of_left_ne_nil (fragment_first start c rest).1 _

/-- A pattern inferred from a sample ends in a blank only if the sample ends in a space.
-/
theorem getLast?_of_endsBlank_segments (start : Nat) (text : Text)
    (hblank : endsBlank ((segmentsFrom start text).flatMap Segment.fragment) = true) :
    text.getLast? = some ' ' := by
  fun_induction segmentsFrom start text with
  | case1 => contradiction
  | case2 start c rest segment ih =>
      have hwhole : segment.text ++ (c :: rest).drop segment.text.length = c :: rest :=
        Segment.text_first_append_drop start c rest
      rw [List.flatMap_cons] at hblank
      generalize hmore : (c :: rest).drop segment.text.length = more at hblank hwhole ih
      cases more with
      | nil =>
          have hspace : segment.text = [' '] := by
            apply (fragment_first start c rest).2
            simpa [segmentsFrom] using hblank
          rw [← hwhole, hspace]
          rfl
      | cons d later =>
          have hne := flatMap_fragment_ne_nil segment.stop (List.cons_ne_nil d later)
          rw [Report.endsBlank_append hne] at hblank
          rw [← hwhole, List.getLast?_append, ih hblank, Option.some_or]

/-- The fragment of an entry ends in a blank only if the entry gives the text itself. -/
theorem endsBlank_entry {entry : Entry} {text : Text}
    (hblank : endsBlank (entry.fragment text) = true) :
    entry.fragment text = quoted text ∧ (entry.autoSelect && entry.accepts text) = false := by
  have hsolid : ∀ shape ∈ Authoring.entryShapes, endsBlank shape.fragment = false := by
    simp only [Report.endsBlank_eq_has]
    decide
  rcases Authoring.fragment_entry entry text with ⟨shape, hshape, heq⟩ | hquoted
  · rw [heq, hsolid shape hshape] at hblank
    contradiction
  · exact hquoted

/-- No entry that is picked unasked gives a fragment with a blank at its end. -/
theorem endsBlank_classify {text fragment : Text} (hclassify : classify? text = some fragment) :
    endsBlank fragment = false := by
  obtain ⟨entry, hfind, rfl⟩ := Option.map_eq_some_iff.1 hclassify
  by_contra hblank
  rw [Bool.not_eq_false] at hblank
  have haccepts := List.find?_some hfind
  rw [(endsBlank_entry hblank).2] at haccepts
  contradiction

theorem endsBlank_classifyWith {id text fragment : Text}
    (hentry : classifyWith? id text = some fragment) (hend : endsBlank text = false) :
    endsBlank fragment = false := by
  obtain ⟨entry, _, rfl⟩ := Option.map_eq_some_iff.1 hentry
  by_contra hblank
  rw [Bool.not_eq_false] at hblank
  rw [(endsBlank_entry hblank).1, endsBlank_quoted, hend] at hblank
  contradiction

theorem endsBlank_selection {text : Text} (hspace : text.getLast? ≠ some ' ') :
    endsBlank (fragmentForSelection text) = false := by
  unfold fragmentForSelection
  cases hclassify : classify? text with
  | some fragment => exact endsBlank_classify hclassify
  | none =>
      by_contra hblank
      rw [Bool.not_eq_false] at hblank
      exact hspace (getLast?_of_endsBlank_segments 0 text hblank)

theorem endsBlank_wrapNamed {fragment name wrapped : Text}
    (hwrap : wrapNamed fragment name = .ok wrapped) : endsBlank wrapped = false := by
  obtain ⟨_, rfl⟩ := Authoring.eq_of_wrapNamed hwrap
  rw [Report.endsBlank_concat, Unicode.isBlank_eq_has]
  decide

/-! ## Requests for a fragment -/

def Request.fragment? : Request → Option Text
  | .classify text none => classify? text
  | .classify text (some id) => classifyWith? id text
  | .generalize text none false => some (fragmentForSelection text)
  | .generalize text (some name) false =>
    (wrapNamed (fragmentForSelection text) name).toOption
  | _ => none

/-- A fragment is asked for, without its segments. -/
inductive Request.ForFragment : Request → Prop where
  | classify (text : Text) (entry : Option Text) : ForFragment (.classify text entry)
  | generalize (text : Text) (name : Option Text) : ForFragment (.generalize text name false)

/-- The requests whose fragments never end in a blank. -/
inductive Request.EndsSolid : Request → Prop where
  | picked (text : Text) : EndsSolid (.classify text none)
  | entry {text : Text} (id : Text) (hend : endsBlank text = false) :
      EndsSolid (.classify text (some id))
  | named (text name : Text) : EndsSolid (.generalize text (some name) false)
  | generalized {text : Text} (hspace : text.getLast? ≠ some ' ') :
      EndsSolid (.generalize text none false)

/-- A solid request is for a fragment without a blank at its end. -/
theorem Request.EndsSolid.endsBlank {request : Request} {fragment : Text}
    (hsolid : request.EndsSolid) (hfragment : request.fragment? = some fragment) :
    endsBlank fragment = false := by
  cases hsolid with
  | picked => exact endsBlank_classify hfragment
  | entry id hend => exact endsBlank_classifyWith hfragment hend
  | named text name =>
      cases hwrap : wrapNamed (fragmentForSelection text) name with
      | error fault =>
          rw [Request.fragment?, hwrap] at hfragment
          contradiction
      | ok wrapped =>
          rw [Request.fragment?, hwrap] at hfragment
          exact Option.some.inj hfragment ▸ endsBlank_wrapNamed hwrap
  | generalized hspace => exact Option.some.inj hfragment ▸ endsBlank_selection hspace

/-- The core has a fragment for the request, which is to be shown in the format. -/
structure Shows (surroundings : Surroundings) (invocation : Invocation) (format : Format)
    (fragment : Text) : Prop where
  formatted : formatUnder surroundings invocation = some format
  computed : invocation.request.fragment? = some fragment

section Shows

variable {surroundings surroundings' : Surroundings} {invocation invocation' : Invocation}
  {format : Format} {fragment fragment' : Text}

theorem Shows.exists_options (hshows : Shows surroundings invocation format fragment) :
    ∃ options, loadOptions surroundings invocation.config = .ok options ∧
      invocation.format.getD options.format = format := by
  have hformatted := hshows.formatted
  rw [formatUnder] at hformatted
  cases hconfig : loadOptions surroundings invocation.config with
  | error fault => simp [hconfig, Except.toOption] at hformatted
  | ok options => exact ⟨options, rfl, by simpa [hconfig, Except.toOption] using hformatted⟩

theorem classify_of_fragment {text : Text} {entry : Option Text}
    (hfragment : (Request.classify text entry).fragment? = some fragment) (format : Format) :
    classify text entry format = showFragment fragment format := by
  cases entry with
  | none =>
      have hclassify : classify? text = some fragment := hfragment
      simp only [classify, hclassify]
  | some id =>
      have hentry : classifyWith? id text = some fragment := hfragment
      simp only [classify, hentry]

theorem generalize_of_fragment {text : Text} {name : Option Text} {segments : Bool}
    (hfragment : (Request.generalize text name segments).fragment? = some fragment)
    (format : Format) :
    Command.generalize text name segments format = showFragment fragment format := by
  cases segments with
  | true => cases name <;> contradiction
  | false =>
      cases name with
      | none =>
          have hselection : fragmentForSelection text = fragment := Option.some.inj hfragment
          simp [Command.generalize, hselection]
      | some name =>
          rw [Request.fragment?] at hfragment
          cases hwrap : wrapNamed (fragmentForSelection text) name with
          | error fault =>
              rw [hwrap] at hfragment
              contradiction
          | ok wrapped =>
              rw [hwrap] at hfragment
              simp [Command.generalize, hwrap, Option.some.inj hfragment]

theorem Shows.carryOut (hshows : Shows surroundings invocation format fragment) :
    carryOut surroundings invocation = showFragment fragment format := by
  obtain ⟨options, hconfig, rfl⟩ := hshows.exists_options
  have hcomputed := hshows.computed
  rw [Command.carryOut, hconfig]
  cases hrequest : invocation.request with
  | classify => exact classify_of_fragment (hrequest ▸ hcomputed) _
  | generalize => exact generalize_of_fragment (hrequest ▸ hcomputed) _
  | tokenize | run | classifiers => simp [hrequest, Request.fragment?] at hcomputed

/-- The core has an answer to a request for a fragment only if it has a fragment. -/
theorem exists_shows (hfor : invocation.request.ForFragment)
    (hsucceeds : Succeeds surroundings invocation.config invocation.request) :
    ∃ format fragment, Shows surroundings invocation format fragment := by
  obtain ⟨options, hconfig, hanswered⟩ := hsucceeds
  have hcomputed : ∃ fragment, invocation.request.fragment? = some fragment := by
    generalize invocation.request = request at hfor hanswered
    cases hfor with
    | classify text entry =>
        cases hanswered with
        | entry hentry => exact ⟨_, hentry⟩
        | classified hclassify => exact ⟨_, hclassify⟩
    | generalize text name =>
        cases hanswered with
        | generalize _ hname =>
            cases name with
            | none => exact ⟨_, rfl⟩
            | some name =>
                have hwrap : isCaptureName name = true := hname name rfl
                simp [Request.fragment?, wrapNamed, hwrap, Except.toOption]
  obtain ⟨fragment, hcomputed⟩ := hcomputed
  exact ⟨_, fragment, formatUnder_eq hconfig, hcomputed⟩

/-- In the same format, fragments that survive are shown differently. -/
theorem output_injOn (hsurvives : Survives format fragment)
    (hsurvives' : Survives format fragment')
    (heq : (showFragment fragment format).output = (showFragment fragment' format).output) :
    fragment = fragment' := by
  cases format with
  | text =>
      have hend {fragment : Text} (hsurvives : Survives .text fragment) :
          trimEnd fragment = fragment := by
        cases hsurvives with
        | solid hend => exact Report.trimEnd_of_endsBlank hend
      have htrimmed : trimEnd fragment = trimEnd fragment' := List.append_cancel_right heq
      rwa [hend hsurvives, hend hsurvives'] at htrimmed
  | json =>
      have htrimmed := List.append_cancel_right heq
      simp only [Report.trimEnd_json_fragment] at htrimmed
      exact Report.json_fragment_injective htrimmed
  | yaml => exact Report.yaml_fragment_injOn hsurvives hsurvives' (List.append_cancel_right heq)

end Shows

/-! ## Output -/

/-- What the output of a run that shows a fragment tells about the fragment. -/
structure TellsFragment (surroundings : Surroundings) (invocation : Invocation)
    (format : Format) (fragment : Text) : Prop where
  listing : format = .text →
    (carryOut surroundings invocation).output = trimEnd fragment ++ ['\n']
  exact_iff : format = .text →
    ((carryOut surroundings invocation).output = fragment ++ ['\n'] ↔
      endsBlank fragment = false)
  survives : invocation.request.EndsSolid → Survives format fragment
  /-- Another run with the same output has the same fragment. -/
  apart : ∀ surroundings' invocation' fragment',
    Shows surroundings' invocation' format fragment' →
      Survives format fragment → Survives format fragment' →
        (carryOut surroundings' invocation').output =
          (carryOut surroundings invocation).output → fragment' = fragment

/-- A run that succeeds for a fragment shows the one that the core has.  What gets
lost on the way are blanks at its end. -/
theorem tells_fragment {surroundings : Surroundings} {invocation : Invocation}
    (hfor : invocation.request.ForFragment)
    (hcode : (carryOut surroundings invocation).code = 0) :
    ∃ format fragment, Shows surroundings invocation format fragment ∧
      TellsFragment surroundings invocation format fragment := by
  obtain ⟨format, fragment, hshows⟩ := exists_shows hfor (succeeds_of_code_eq_zero hcode)
  refine ⟨format, fragment, hshows, ?_, ?_, ?_, ?_⟩
  · rintro rfl
    rw [hshows.carryOut]
    rfl
  · rintro rfl
    rw [hshows.carryOut, ← Report.trimEnd_eq_self_iff]
    exact List.append_left_inj ['\n']
  · exact fun hsolid => .solid (hsolid.endsBlank hshows.computed)
  · intro surroundings' invocation' fragment' hshows' hsurvives hsurvives' heq
    rw [hshows.carryOut, hshows'.carryOut] at heq
    exact output_injOn hsurvives' hsurvives heq

/-- The exact text is asked for where there are no files. -/
theorem tells_fragment_literal :
    let surroundings := Surroundings.ofFiles [] []
    let invocation : Invocation :=
      ⟨.classify "a.b".toList (some "literal".toList), none, some .text⟩
    invocation.request.ForFragment ∧ (carryOut surroundings invocation).code = 0 ∧
      (carryOut surroundings invocation).output = "a\\.b\n".toList := by
  intro surroundings invocation
  have hfor : invocation.request.ForFragment := .classify _ _
  have hcode : (carryOut surroundings invocation).code = 0 := by decide
  obtain ⟨format, fragment, hshows, htells⟩ := tells_fragment hfor hcode
  have hformat : format = .text := Option.some.inj (hshows.formatted.symm.trans rfl)
  have hfragment : fragment = "a\\.b".toList :=
    Option.some.inj (hshows.computed.symm.trans rfl)
  refine ⟨hfor, hcode, ?_⟩
  rw [(htells.exact_iff hformat).2 (by rw [hfragment, Report.endsBlank_eq_has]; decide),
    hfragment]
  rfl

end PatternWorkbench.Command
