import PatternWorkbench.Pattern.Diagnostic

/-!
# What can go wrong on the way to matches

Reading tokens and inferring fragments always succeed. Compiling, scanning and
naming can fail, and a limit that was reached is told apart from a mistake.
-/

namespace PatternWorkbench.Matching

inductive Limit where
  | matchCount (count : Nat)
  | size (bytes : Nat)
  | time (milliseconds : Nat)
  deriving DecidableEq, Repr

def Limit.message : Limit → Text
  | matchCount count => "more than ".toList ++ decimal count ++ " matches".toList
  | size bytes =>
    "compiled pattern exceeds ".toList ++ decimal bytes ++ " bytes".toList
  | time milliseconds =>
    "scan took longer than ".toList ++ decimal milliseconds ++ " ms".toList

inductive Fault where
  | badPattern (pattern : Text) (diagnostic : Pattern.Diagnostic)
  | overBudget (limit : Limit)
  | badName (name : Text)
  | unknownFlag (letter : Char)
  deriving DecidableEq, Repr

namespace Fault

def isBudget : Fault → Bool
  | overBudget _ => true
  | _ => false

def message : Fault → Text
  | badPattern pattern diagnostic =>
    "Invalid pattern: ".toList ++ diagnostic.render pattern
  | overBudget limit => "Matching budget exceeded: ".toList ++ limit.message
  | badName name => "Invalid capture name '".toList ++ name ++ ['\'']
  | unknownFlag letter =>
    "Unknown flag '".toList ++ [letter] ++
      "' (expected any of g, i, m, s)".toList

end Fault

end PatternWorkbench.Matching
