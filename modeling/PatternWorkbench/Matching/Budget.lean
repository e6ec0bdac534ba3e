/-!
# Execution limits

A pattern under construction may be large or match everywhere, so its size, the
number of its matches and the time of a scan are limited.
-/

namespace PatternWorkbench.Matching

structure Budget where
  timeLimitMs : Nat := 250
  maxMatches : Nat := 10000
  sizeLimit : Nat := 2097152
  deriving DecidableEq, Repr

end PatternWorkbench.Matching
