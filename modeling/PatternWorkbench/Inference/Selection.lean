import PatternWorkbench.Inference.Catalogue
import PatternWorkbench.Inference.Segment
import PatternWorkbench.Matching.Scan

/-!
# Fragments for selections

A selected piece of a sample is classified as a whole if possible, and
generalized piece by piece otherwise. Its fragment can be given a name to capture
it under.
-/

namespace PatternWorkbench.Inference

open Matching (Budget Fault Flags)

def fragmentForSelection (text : Text) : Text :=
  (classify? text).getD (generalize text)

def beginsName (c : Char) : Bool :=
  c.isAlpha || c == '_'

def continuesName (c : Char) : Bool :=
  c.isAlphanum || c == '_'

def isCaptureName : Text → Bool
  | [] => false
  | c :: rest => beginsName c && rest.all continuesName

/-- A fragment as a group of a given name. -/
def wrapNamed (fragment name : Text) : Except Fault Text :=
  if isCaptureName name then
    .ok ("(?<".toList ++ name ++ ['>'] ++ fragment ++ [')'])
  else .error (.badName name)

/-- A fragment as a pattern for whole texts. -/
def anchored (fragment : Text) : Text :=
  "^(?:".toList ++ fragment ++ ")$".toList

/-- The budget under which fragments are tried on texts. -/
def trialBudget : Budget :=
  { sizeLimit := 67108864 }

/-- Whether a fragment has a text as a whole for its only match. -/
def acceptsWhole (fragment text : Text) : Except Fault Bool := do
  let records ← Matching.execute (anchored fragment) {} text trialBudget
  match records with
  | [record] => return record.startOffset == 0 && record.matchedText == text
  | _ => return false

end PatternWorkbench.Inference
