import PatternWorkbench.Machine.Search
import PatternWorkbench.Text

/-!
# Match records

What is reported of one match: its text, its place in the sample, and the
captured parts.
-/

namespace PatternWorkbench.Matching

open Machine (Found)

structure Capture where
  name : Text
  value : Text
  deriving DecidableEq, Repr

structure Record where
  matchedText : Text
  startOffset : Nat
  lineNumber : Nat
  captures : List Capture
  deriving DecidableEq, Repr

namespace Record

def endOffset (record : Record) : Nat :=
  record.startOffset + byteLength record.matchedText

/-- The value captured under a name. -/
def capture? (record : Record) (name : Text) : Option Text :=
  (record.captures.find? (·.name == name)).map (·.value)

end Record

/-- The characters of a sample between two positions. -/
def slice (sample : Text) (start stop : Nat) : Text :=
  (sample.drop start).take (stop - start)

/-- The line on which a position lies, counted from one. -/
def lineAt (sample : Text) (position : Nat) : Nat :=
  1 + (sample.take position).count '\n'

/-- The name under which a whole match is reported when nothing is captured. -/
def wholeName : Text :=
  "match".toList

def groupName (index : Nat) : Text :=
  "group_".toList ++ decimal index

/-- The groups that are reported, under their names: the named ones if there are
any, and all of them by number otherwise. -/
def reportedGroups (groups : List (Nat × Option Text)) : List (Nat × Text) :=
  let named := groups.filterMap fun (index, name) => name.map ((index, ·))
  if named.isEmpty then groups.map fun (index, _) => (index, groupName index)
  else named

/-- What a match captured. Groups that took no part in it are left out. -/
def capturesOf (groups : List (Nat × Option Text)) (sample : Text)
    (found : Found) : List Capture :=
  if groups.isEmpty then [⟨wholeName, slice sample found.start found.stop⟩]
  else
    (reportedGroups groups).filterMap fun (index, name) =>
      (found.group? index).map fun (start, stop) =>
        ⟨name, slice sample start stop⟩

def Record.ofFound (groups : List (Nat × Option Text)) (sample : Text)
    (found : Found) : Record where
  matchedText := slice sample found.start found.stop
  startOffset := byteLength (sample.take found.start)
  lineNumber := lineAt sample found.start
  captures := capturesOf groups sample found

end PatternWorkbench.Matching
