import PatternWorkbench.Breakdown.Token
import PatternWorkbench.Inference.Selection
import PatternWorkbench.Matching.Highlight

/-!
# Authoring a pattern

An author builds a pattern from typed text and from fragments for selected
pieces of a sample, and sees after each step what it matches. The records of the
last run that succeeded are kept, so that they can be shown on a changed sample.
-/

namespace PatternWorkbench.Authoring

open Breakdown (TokenKind)
open Matching (Fault Flags Record Stretch)

structure Session where
  pattern : Text := []
  flags : Flags := {}
  sample : Text := []
  /-- The records of the last run that succeeded. -/
  records : List Record := []
  deriving DecidableEq, Repr

inductive Step where
  | typed (text : Text)
  | erase (count : Nat)
  | clear
  | select (text : Text) (name : Option Text)
  | applyEntry (id text : Text)
  | generalize (text : Text)
  | setFlags (letters : Text)
  | setSample (text : Text)
  /-- The sample changes, and the remembered records are shown on it as they
  are. -/
  | showStale (text : Text)
  deriving DecidableEq, Repr

inductive Refusal where
  | fault (fault : Fault)
  | unknownEntry (id : Text)
  deriving DecidableEq, Repr

/-- What a run of the current pattern found in the sample. -/
structure View where
  records : List Record
  stretches : List Stretch
  deriving DecidableEq, Repr

inductive Response where
  | refused (refusal : Refusal)
  | stale (stretches : List Stretch)
  | state (pattern : Text) (flags : Flags) (kinds : List TokenKind)
    (outcome : Except Fault View)

namespace Session

def append (session : Session) (fragment : Text) : Session :=
  { session with pattern := session.pattern ++ fragment }

/-- The session after what a step changes, before the pattern is run. -/
def edit (session : Session) : Step → Except Refusal Session
  | .typed text => .ok (session.append text)
  | .erase count =>
    let kept := session.pattern.length - count
    .ok { session with pattern := session.pattern.take kept }
  | .clear => .ok { session with pattern := [] }
  | .select text name =>
    let fragment := Inference.fragmentForSelection text
    match name with
    | none => .ok (session.append fragment)
    | some name =>
      match Inference.wrapNamed fragment name with
      | .ok wrapped => .ok (session.append wrapped)
      | .error fault => .error (.fault fault)
  | .applyEntry id text =>
    match Inference.classifyWith? id text with
    | some fragment => .ok (session.append fragment)
    | none => .error (.unknownEntry id)
  | .generalize text => .ok (session.append (Inference.generalize text))
  | .setFlags letters =>
    match Flags.read letters with
    | .ok flags => .ok { session with flags }
    | .error letter => .error (.fault (.unknownFlag letter))
  | .setSample text | .showStale text => .ok { session with sample := text }

def run (session : Session) : Except Fault (List Record) :=
  Matching.execute session.pattern session.flags session.sample {}

/-- The session after a run, and what the author is shown of it. -/
def refreshed (session : Session) : Session × Response :=
  let kinds := (Breakdown.tokenize session.pattern).map (·.kind)
  match session.run with
  | .ok records =>
    ({ session with records },
      .state session.pattern session.flags kinds
        (.ok ⟨records, Matching.highlight session.sample records⟩))
  | .error fault =>
    (session, .state session.pattern session.flags kinds (.error fault))

def step (session : Session) (step : Step) : Session × Response :=
  match session.edit step with
  | .error refusal => (session, .refused refusal)
  | .ok edited =>
    match step with
    | .showStale _ =>
      (edited, .stale (Matching.highlight edited.sample edited.records))
    | _ => edited.refreshed

/-- The responses to a row of steps. -/
def play (session : Session) : List Step → List Response
  | [] => []
  | step :: steps =>
    let (next, response) := session.step step
    response :: next.play steps

end Session

end PatternWorkbench.Authoring
