import PatternWorkbench.Unicode.RangeTable

/-!
# Rosters

A property that is derived from others is given by a roster: the tables whose
members have it, the tables whose members are excepted from that, and those whose
members have it all the same.
-/

namespace PatternWorkbench.Unicode

structure Roster where
  sources : List RangeTable
  exceptions : List RangeTable := []
  additions : List RangeTable := []

def Roster.of (sources : List RangeTable) : Roster :=
  { sources }

def Roster.has (roster : Roster) (code : Nat) : Bool :=
  (RangeTable.anyHas roster.sources code &&
      !RangeTable.anyHas roster.exceptions code) ||
    RangeTable.anyHas roster.additions code

end PatternWorkbench.Unicode
