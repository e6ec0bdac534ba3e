import PatternWorkbench.Matching.Record

/-!
# Highlighting matches

The sample is split into matched and plain stretches. Records may come from an
earlier state of the sample, so each is checked against it before it is marked.
-/

namespace PatternWorkbench.Matching

structure Stretch where
  text : Text
  isMatch : Bool
  deriving DecidableEq, Repr

namespace Highlight

def plain (text : Text) : List Stretch :=
  if text.isEmpty then [] else [⟨text, false⟩]

/-- Where a record lies in the rest of a sample that begins at byte `cursor`:
the text before it and the text behind it. Empty records, records that begin
before the cursor and records of another text have no place. -/
def place? (cursor : Nat) (rest : Text) (record : Record) : Option (Text × Text) :=
  if record.matchedText.isEmpty || record.startOffset < cursor then none
  else do
    let (before, after) ← splitAtByte rest (record.startOffset - cursor)
    if record.matchedText.isPrefixOf after then
      return (before, after.drop record.matchedText.length)
    else none

/-- Marks ordered records in the rest of a sample. -/
def marked (cursor : Nat) (rest : Text) : List Record → List Stretch
  | [] => plain rest
  | record :: records =>
    match place? cursor rest record with
    | none => marked cursor rest records
    | some (before, after) =>
      plain before ++ ⟨record.matchedText, true⟩ ::
        marked record.endOffset after records

end Highlight

/-- Splits a sample around the records that describe it. Of two that overlap
the one that starts first is marked. -/
def highlight (sample : Text) (records : List Record) : List Stretch :=
  Highlight.marked 0 sample
    (records.mergeSort fun left right => left.startOffset ≤ right.startOffset)

end PatternWorkbench.Matching
