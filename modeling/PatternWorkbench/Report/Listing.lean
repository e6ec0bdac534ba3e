import PatternWorkbench.Breakdown.Token
import PatternWorkbench.Inference.Catalogue
import PatternWorkbench.Inference.Segment
import PatternWorkbench.Matching.Highlight
import PatternWorkbench.Report.Quotation

/-!
# Listings

What is shown to a reader: a line for each token, segment, match, capture and
catalogue entry, and a sample with its matches marked.
-/

namespace PatternWorkbench.Report

open Breakdown (Token TokenKind)
open Inference (Entry Segment)
open Matching (Capture Record Stretch)

/-- The name of a kind of token as a heading. -/
def kindTitle (kind : TokenKind) : Text :=
  match kind.name.toList with
  | [] => []
  | c :: rest => c.toUpper :: rest

def tokenLine (token : Token) : Text :=
  trimEnd
    (padLeft 4 (decimal token.start) ++ "..".toList ++
      padRight 4 (decimal token.stop) ++ [' '] ++
      padRight 18 (kindTitle token.kind) ++ [' '] ++
      padRight 14 token.text ++ [' '] ++ token.note.getD [])

def tokens (tokens : List Token) : Text :=
  joinLines (tokens.map tokenLine)

def segmentLine (segment : Segment) : Text :=
  padRight 14 segment.ruleName.toList ++ [' '] ++
    padRight 24 (quote segment.text) ++ [' '] ++ segment.fragment

def segments (segments : List Segment) : Text :=
  joinLines (segments.map segmentLine)

def matchLine (record : Record) : Text :=
  "line ".toList ++ decimal record.lineNumber ++ " @".toList ++
    decimal record.startOffset ++ ": ".toList ++ quote record.matchedText

def captureLine (capture : Capture) : Text :=
  "    ".toList ++ capture.name ++ " = ".toList ++ quote capture.value

def recordLines (record : Record) : List Text :=
  matchLine record :: record.captures.map captureLine

def records (records : List Record) : Text :=
  if records.isEmpty then "no matches".toList
  else joinLines (records.flatMap recordLines)

def markStretch (stretch : Stretch) : Text :=
  if stretch.isMatch then "[[".toList ++ stretch.text ++ "]]".toList
  else stretch.text

/-- A sample with brackets around its matches. -/
def marked (stretches : List Stretch) : Text :=
  stretches.flatMap markStretch

def entryLine (entry : Entry) : Text :=
  "  ".toList ++ padRight 10 entry.id.toList ++ [' '] ++ entry.label.toList ++
    if entry.autoSelect then [] else " (explicit only)".toList

def entries (entries : List Entry) : Text :=
  joinLines (entries.map entryLine)

end PatternWorkbench.Report
