import PatternWorkbench.Breakdown.Token
import PatternWorkbench.Inference.Catalogue
import PatternWorkbench.Inference.Segment
import PatternWorkbench.Matching.Fault
import PatternWorkbench.Matching.Flags
import PatternWorkbench.Matching.Highlight

/-!
# Documents

A result as a value of texts, numbers, lists and records, ready to be written in
a data format. The fields of a record keep their order.
-/

namespace PatternWorkbench.Report

open Breakdown (Token)
open Inference (Entry Segment)
open Matching (Capture Fault Flags Record Stretch)

inductive Document where
  | text (text : Text)
  | number (number : Nat)
  | flag (flag : Bool)
  | list (items : List Document)
  | record (fields : List (String × Document))

namespace Document

def ofToken (token : Token) : Document :=
  record
    ([("kind", text token.kind.name.toList), ("text", text token.text),
      ("start", number token.start), ("end", number token.stop)] ++
      match token.note with
      | some note => [("note", text note)]
      | none => [])

def ofTokens (tokens : List Token) : Document :=
  list (tokens.map ofToken)

def ofSegment (segment : Segment) : Document :=
  record
    [("rule", text segment.ruleName.toList), ("text", text segment.text),
      ("fragment", text segment.fragment), ("start", number segment.start),
      ("end", number segment.stop)]

/-- A fragment, with the segments it was put together from if they are asked
for. -/
def ofFragment (fragment : Text) (segments : Option (List Segment)) : Document :=
  record
    (("fragment", text fragment) ::
      match segments with
      | some segments => [("segments", list (segments.map ofSegment))]
      | none => [])

def ofFlags (flags : Flags) : Document :=
  record
    [("global", flag flags.global),
      ("caseInsensitive", flag flags.caseInsensitive),
      ("multiline", flag flags.multiline), ("dotAll", flag flags.dotAll)]

def ofCapture (capture : Capture) : Document :=
  record [("name", text capture.name), ("value", text capture.value)]

def ofRecord (found : Record) : Document :=
  record
    [("matchedText", text found.matchedText),
      ("startOffset", number found.startOffset),
      ("lineNumber", number found.lineNumber),
      ("captures", list (found.captures.map ofCapture))]

def ofStretch (stretch : Stretch) : Document :=
  record [("text", text stretch.text), ("isMatch", flag stretch.isMatch)]

/-- The matches of a pattern, with the marked sample if it is asked for. -/
def ofMatches (pattern : Text) (flags : Flags) (records : List Record)
    (stretches : Option (List Stretch)) : Document :=
  record
    ([("pattern", text pattern), ("flags", ofFlags flags),
      ("matches", list (records.map ofRecord))] ++
      match stretches with
      | some stretches => [("highlight", list (stretches.map ofStretch))]
      | none => [])

def ofFault (fault : Fault) : Document :=
  record
    [("error", text fault.message), ("budget_exceeded", flag fault.isBudget)]

def ofEntry (entry : Entry) : Document :=
  record
    [("id", text entry.id.toList), ("label", text entry.label.toList),
      ("auto_select", flag entry.autoSelect)]

def ofEntries (entries : List Entry) : Document :=
  list (entries.map ofEntry)

end Document

end PatternWorkbench.Report
