import PatternWorkbench.Command.Arguments

/-!
# Invocations

What the arguments of the program ask for.
-/

namespace PatternWorkbench.Command

open Settings (Format)

inductive Sample where
  | text (text : Text)
  | file (path : Text)
  deriving DecidableEq, Repr

/-- The path that stands for the standard input. -/
def standardInput : Text := ['-']

inductive Request where
  | tokenize (pattern : Text)
  | classify (text : Text) (entry : Option Text)
  | generalize (text : Text) (name : Option Text) (withSegments : Bool)
  | run (pattern : Text) (sample : Sample) (flags : Option Text)
      (withHighlight : Bool)
  | classifiers
  deriving DecidableEq, Repr

structure Invocation where
  request : Request
  /-- The path of a configuration file. -/
  config : Option Text
  /-- The format of the output, unless the configuration is to decide. -/
  format : Option Format
  deriving DecidableEq, Repr

def requireOperand (given : Given) : Except Halt Text :=
  match given.operand with
  | some operand => .ok operand
  | none => .error .misuse

/-- The sample is given either as it is or as a file. -/
def sampleOf (given : Given) : Except Halt Sample :=
  match given.value? .text, given.value? .file with
  | some text, none => .ok (.text text)
  | none, some path => .ok (.file path)
  | _, _ => .error .misuse

def requestOf (verb : Verb) (given : Given) : Except Halt Request :=
  match verb with
  | .tokenize => do return .tokenize (← requireOperand given)
  | .classify => do
    return .classify (← requireOperand given) (given.value? .entry)
  | .generalize => do
    return .generalize (← requireOperand given) (given.value? .name)
      (given.has .segments)
  | .run => do
    return .run (← requireOperand given) (← sampleOf given) (given.value? .flags)
      (given.has .highlight)
  | .classifiers => return .classifiers

namespace Invocation

/-- Reads the arguments of the program. What is said behind the command's name
about the configuration and the format goes before what is said in front. -/
def read (arguments : List Text) : Except Halt Invocation := do
  let (front, behind) ← readArguments { verb := none } arguments
  let shared := fun switch => (behind.value? switch).or (front.value? switch)
  match behind.verb with
  | none => .error .misuse
  | some verb =>
    return {
      request := ← requestOf verb behind
      config := shared .config
      format := (shared .format).bind Format.named? }

/-- A path with the usual ending of configuration files behind its last name. -/
def withEnding? (path : Text) : Option Text :=
  let steps := (path.splitOn '/').reverse.dropWhile fun step =>
    step.isEmpty || step == ['.']
  match steps with
  | [] | ['.', '.'] :: _ => none
  | name :: way =>
    some (List.intercalate ['/'] ((name ++ ".toml".toList) :: way).reverse)

/-- Where a configuration file is looked for. -/
def configPaths (path : Text) : List Text :=
  path :: (withEnding? path).toList

/-- The files that may have to be read. -/
def paths (invocation : Invocation) : List Text :=
  (invocation.config.map configPaths).getD [] ++
    match invocation.request with
    | .run _ (.file path) _ _ => [path]
    | _ => []

end Invocation

end PatternWorkbench.Command
