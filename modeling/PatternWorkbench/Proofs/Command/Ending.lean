import PatternWorkbench.Command.Program

/-!
# How a run of the program ends

A run succeeds, or it fails for the first reason that is found.  The exit code and
the place of the report follow from the reason, and what the output is formatted as
has no part in the code.
-/

namespace PatternWorkbench.Command

open Inference (classify? classifyWith? fragmentForSelection isCaptureName wrapNamed)
open Matching (Fault Flags Record execute)
open Report (Document)
open Settings (Format Options)

/-! ## Success and failure -/

inductive Failure where
  | configuration (fault : Settings.Fault)
  | flag (letter : Char)
  | sample (path : Text) (fault : ReadFault)
  | matching (fault : Fault)
  | entry (id : Text)
  | unclassified
  | name (name : Text)

def flagsFor (options : Options) : Option Text → Except Char Flags
  | some letters => Flags.read letters
  | none => .ok options.flags

/-- A failure of a request.  Each reason has its conditions and whatever is looked
at before it in order, and nothing is asked of what would be looked at later. -/
inductive Fails (surroundings : Surroundings) (config : Option Text) (request : Request) :
    Failure → Prop where
  | configuration {fault : Settings.Fault}
      (hconfig : loadOptions surroundings config = .error fault) :
      Fails surroundings config request (.configuration fault)
  | flag {options : Options} {pattern letters : Text} {sample : Sample} {marks : Bool}
      {letter : Char} (hconfig : loadOptions surroundings config = .ok options)
      (hrequest : request = .run pattern sample (some letters) marks)
      (hflags : Flags.read letters = .error letter) :
      Fails surroundings config request (.flag letter)
  | sample {options : Options} {pattern path : Text} {letters : Option Text}
      {marks : Bool} {flags : Flags} {fault : ReadFault}
      (hconfig : loadOptions surroundings config = .ok options)
      (hrequest : request = .run pattern (.file path) letters marks)
      (hflags : flagsFor options letters = .ok flags)
      (hread : readPath surroundings path = .error fault) :
      Fails surroundings config request (.sample path fault)
  | matching {options : Options} {pattern text : Text} {sample : Sample}
      {letters : Option Text} {marks : Bool} {flags : Flags} {fault : Fault}
      (hconfig : loadOptions surroundings config = .ok options)
      (hrequest : request = .run pattern sample letters marks)
      (hflags : flagsFor options letters = .ok flags)
      (hread : readSample surroundings sample = .ok text)
      (hexecute : execute pattern flags text options.budget = .error fault) :
      Fails surroundings config request (.matching fault)
  | entry {options : Options} {text id : Text}
      (hconfig : loadOptions surroundings config = .ok options)
      (hrequest : request = .classify text (some id))
      (hentry : classifyWith? id text = none) :
      Fails surroundings config request (.entry id)
  | unclassified {options : Options} {text : Text}
      (hconfig : loadOptions surroundings config = .ok options)
      (hrequest : request = .classify text none) (hclassify : classify? text = none) :
      Fails surroundings config request .unclassified
  | name {options : Options} {text name : Text} {segments : Bool}
      (hconfig : loadOptions surroundings config = .ok options)
      (hrequest : request = .generalize text (some name) segments)
      (hname : isCaptureName name = false) :
      Fails surroundings config request (.name name)

/-- A request that the core has an answer to. -/
inductive Answered (surroundings : Surroundings) (options : Options) : Request → Prop where
  | tokenize (pattern : Text) : Answered surroundings options (.tokenize pattern)
  | entry {text id fragment : Text} (hentry : classifyWith? id text = some fragment) :
      Answered surroundings options (.classify text (some id))
  | classified {text fragment : Text} (hclassify : classify? text = some fragment) :
      Answered surroundings options (.classify text none)
  | generalize {text : Text} {name : Option Text} (segments : Bool)
      (hname : ∀ given ∈ name, isCaptureName given = true) :
      Answered surroundings options (.generalize text name segments)
  | run {pattern text : Text} {sample : Sample} {letters : Option Text} {flags : Flags}
      {records : List Record} (marks : Bool) (hflags : flagsFor options letters = .ok flags)
      (hread : readSample surroundings sample = .ok text)
      (hexecute : execute pattern flags text options.budget = .ok records) :
      Answered surroundings options (.run pattern sample letters marks)
  | classifiers : Answered surroundings options .classifiers

def Succeeds (surroundings : Surroundings) (config : Option Text) (request : Request) :
    Prop :=
  ∃ options, loadOptions surroundings config = .ok options ∧
    Answered surroundings options request

section Totality

variable {surroundings : Surroundings} {config : Option Text}

/-- A run has an answer, or one of the reasons to fail applies. -/
theorem fails_or_answered_run {options : Options} {pattern : Text} {sample : Sample}
    {letters : Option Text} {marks : Bool}
    (hconfig : loadOptions surroundings config = .ok options) :
    Answered surroundings options (.run pattern sample letters marks) ∨
      ∃ failure, Fails surroundings config (.run pattern sample letters marks) failure := by
  cases hflags : flagsFor options letters with
  | error letter =>
      cases letters with
      | none => contradiction
      | some letters => exact Or.inr ⟨_, .flag hconfig rfl hflags⟩
  | ok flags =>
      cases hread : readSample surroundings sample with
      | error message =>
          cases sample with
          | text text => contradiction
          | file path =>
              cases hpath : readPath surroundings path with
              | error fault => exact Or.inr ⟨_, .sample hconfig rfl hflags hpath⟩
              | ok text =>
                  rw [readSample, hpath] at hread
                  contradiction
      | ok text =>
          cases hexecute : execute pattern flags text options.budget with
          | error fault => exact Or.inr ⟨_, .matching hconfig rfl hflags hread hexecute⟩
          | ok records => exact Or.inl (.run marks hflags hread hexecute)

/-- Whatever is asked for, it succeeds or there is a reason why it does not. -/
theorem succeeds_or_fails (surroundings : Surroundings) (config : Option Text)
    (request : Request) :
    Succeeds surroundings config request ∨
      ∃ failure, Fails surroundings config request failure := by
  cases hconfig : loadOptions surroundings config with
  | error fault => exact Or.inr ⟨_, .configuration hconfig⟩
  | ok options =>
      have hanswered (h : Answered surroundings options request) :
          Succeeds surroundings config request := ⟨options, hconfig, h⟩
      cases request with
      | tokenize pattern => exact Or.inl (hanswered (.tokenize pattern))
      | classify text entry =>
          cases entry with
          | none =>
              cases hclassify : classify? text with
              | none => exact Or.inr ⟨_, .unclassified hconfig rfl hclassify⟩
              | some fragment => exact Or.inl (hanswered (.classified hclassify))
          | some id =>
              cases hentry : classifyWith? id text with
              | none => exact Or.inr ⟨_, .entry hconfig rfl hentry⟩
              | some fragment => exact Or.inl (hanswered (.entry hentry))
      | generalize text name segments =>
          cases name with
          | none => exact Or.inl (hanswered (.generalize segments (by simp)))
          | some name =>
              cases hname : isCaptureName name with
              | false => exact Or.inr ⟨_, .name hconfig rfl hname⟩
              | true => exact Or.inl (hanswered (.generalize segments (by simpa using hname)))
      | run pattern sample letters marks =>
          exact (fails_or_answered_run hconfig).imp_left hanswered
      | classifiers => exact Or.inl (hanswered .classifiers)

end Totality

/-! ## Reports -/

namespace Failure

def message : Failure → Text
  | .configuration fault => "Configuration error: ".toList ++ fault.message
  | .flag letter => (Fault.unknownFlag letter).message
  | .sample path fault => unreadable path fault
  | .matching fault => fault.message
  | .entry id => unknownEntry id
  | .unclassified => "No classifier matched the whole text; try 'generalize'".toList
  | .name given => (Fault.badName given).message

def isBudget : Failure → Bool
  | .matching fault => fault.isBudget
  | _ => false

def code (failure : Failure) : Nat :=
  if failure.isBudget then 2 else 1

def outcome (format : Format) : Failure → Outcome
  | .matching fault => .ofFailedRun format fault
  | failure => .failed 1 failure.message

theorem code_outcome (format : Format) (failure : Failure) :
    (failure.outcome format).code = failure.code := by
  cases failure with
  | matching fault => cases format <;> rfl
  | configuration | flag | sample | entry | unclassified | name => rfl

theorem code_ne_zero (failure : Failure) : failure.code ≠ 0 := by
  unfold code
  split <;> decide

/-- The code is two where a limit was reached, and nowhere else. -/
theorem code_eq_two_iff (failure : Failure) :
    failure.code = 2 ↔ failure.isBudget = true := by
  unfold code
  split <;> simp_all

end Failure

def formatUnder (surroundings : Surroundings) (invocation : Invocation) : Option Format :=
  (loadOptions surroundings invocation.config).toOption.map fun options =>
    invocation.format.getD options.format

section Outcomes

variable {surroundings : Surroundings} {invocation : Invocation} {options : Options}
  {failure : Failure}

theorem formatUnder_eq (hconfig : loadOptions surroundings invocation.config = .ok options) :
    formatUnder surroundings invocation = some (invocation.format.getD options.format) := by
  rw [formatUnder, hconfig]
  rfl

theorem run_eq (format : Format) (pattern : Text) (sample : Sample)
    (letters : Option Text) (marks : Bool) :
    run surroundings options format pattern sample letters marks =
      match flagsFor options letters with
      | .error letter => .ofFault (.unknownFlag letter)
      | .ok flags =>
        match readSample surroundings sample with
        | .error message => .failed 1 message
        | .ok text => runOn pattern flags text marks options format := by
  cases letters <;> rfl

/-- What is carried out ends as the first reason to fail says. -/
theorem carryOut_of_fails
    (hfails : Fails surroundings invocation.config invocation.request failure) :
    carryOut surroundings invocation =
      failure.outcome ((formatUnder surroundings invocation).getD .text) := by
  cases hfails with
  | configuration hconfig =>
      rw [carryOut, hconfig]
      rfl
  | flag hconfig hrequest hflags =>
      rw [carryOut, hconfig, hrequest]
      simp only [run_eq, flagsFor, hflags]
      rfl
  | sample hconfig hrequest hflags hread =>
      rw [carryOut, hconfig, hrequest]
      simp only [run_eq, hflags, readSample, hread]
      rfl
  | matching hconfig hrequest hflags hread hexecute =>
      rw [carryOut, formatUnder_eq hconfig, hconfig, hrequest]
      simp only [run_eq, hflags, hread, runOn, hexecute]
      rfl
  | entry hconfig hrequest hentry =>
      rw [carryOut, hconfig, hrequest]
      simp only [classify, hentry]
      rfl
  | unclassified hconfig hrequest hclassify =>
      rw [carryOut, hconfig, hrequest]
      simp only [classify, hclassify]
      rfl
  | name hconfig hrequest hname =>
      rw [carryOut, hconfig, hrequest]
      simp only [generalize, wrapNamed, hname]
      rfl

end Outcomes

/-! ## Codes and channels -/

/-- The report of a failed match among the results: what went wrong, and whether a
limit was reached. -/
def failureReport (message : Text) (exceeded : Bool) : Document :=
  .record [("error", .text message), ("budget_exceeded", .flag exceeded)]

/-- What an outcome tells about the run that it is of. -/
structure Tells (surroundings : Surroundings) (invocation : Invocation)
    (outcome : Outcome) : Prop where
  code_eq_zero_iff : outcome.code = 0 ↔
    Succeeds surroundings invocation.config invocation.request
  /-- Reaching a limit while matching has a code of its own. -/
  code_eq_two_iff : outcome.code = 2 ↔ ∃ fault,
    Fails surroundings invocation.config invocation.request (.matching fault) ∧
      fault.isBudget = true
  code_eq_one : ∀ failure,
    Fails surroundings invocation.config invocation.request failure →
      failure.isBudget = false → outcome.code = 1
  /-- The reason of a failure is the only thing that is reported. -/
  reported : ∀ failure,
    Fails surroundings invocation.config invocation.request failure →
      (∀ fault, failure = .matching fault →
        formatUnder surroundings invocation = some .text) →
      outcome.output = [] ∧ outcome.errors = failure.message ++ ['\n']
  /-- In a data format a failed match is shown like any other result. -/
  shown : ∀ fault format,
    Fails surroundings invocation.config invocation.request (.matching fault) →
      formatUnder surroundings invocation = some format → format ≠ .text →
      outcome = .shown outcome.code format fault.message
        (failureReport fault.message (outcome.code == 2)) ∧ outcome.errors = []
  quiet : Succeeds surroundings invocation.config invocation.request →
    outcome.errors = []
  format_irrelevant : ∀ format,
    (carryOut surroundings { invocation with format }).code = outcome.code

section Codes

variable {surroundings : Surroundings} {invocation : Invocation} {failure : Failure}

theorem code_of_fails
    (hfails : Fails surroundings invocation.config invocation.request failure) :
    (carryOut surroundings invocation).code = failure.code := by
  rw [carryOut_of_fails hfails, Failure.code_outcome]

/-- Zero is kept for requests that succeed. -/
theorem succeeds_of_code_eq_zero (hcode : (carryOut surroundings invocation).code = 0) :
    Succeeds surroundings invocation.config invocation.request := by
  rcases succeeds_or_fails surroundings invocation.config invocation.request with
    hsucceeds | ⟨failure, hfails⟩
  · exact hsucceeds
  · exact absurd ((code_of_fails hfails).symm.trans hcode) failure.code_ne_zero

end Codes

end PatternWorkbench.Command
