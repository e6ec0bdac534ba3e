import PatternWorkbench.Command.Invocation
import PatternWorkbench.Command.Surroundings
import PatternWorkbench.Inference.Selection
import PatternWorkbench.Report.Json
import PatternWorkbench.Report.Listing
import PatternWorkbench.Report.Yaml
import PatternWorkbench.Settings.Loader

/-!
# The program

Carries an invocation out. The configuration is read first, then the options of
the command, then its sample. A limit that was reached is told apart from other
failures by the exit code.

The page about the usage is given in short, without descriptions, and says nothing
of which argument was wrong: only the exit code and the channel that it is written
to are meant to be exact. No diagnostics are logged.
-/

namespace PatternWorkbench.Command

open Inference (Entry Segment)
open Matching (Fault Flags)
open Report (Document)
open Settings (Format Loader Options)

/-- What the program leaves behind: an exit code and what it wrote. -/
structure Outcome where
  code : Nat
  output : Text
  errors : Text
  deriving DecidableEq, Repr

namespace Outcome

/-- A result in one of its forms, without blanks at its end. -/
def shown (code : Nat) (format : Format) (listing : Text) (document : Document) :
    Outcome :=
  let text :=
    match format with
    | .text => listing
    | .json => Report.Json.render document
    | .yaml => Report.Yaml.render document
  ⟨code, Report.trimEnd text ++ ['\n'], []⟩

def failed (code : Nat) (message : Text) : Outcome :=
  ⟨code, [], message ++ ['\n']⟩

def codeOf (fault : Fault) : Nat :=
  if fault.isBudget then 2 else 1

def ofFault (fault : Fault) : Outcome :=
  failed (codeOf fault) fault.message

/-- A failed run. In a data format the failure is a result like any other. -/
def ofFailedRun (format : Format) (fault : Fault) : Outcome :=
  match format with
  | .text => ofFault fault
  | _ => shown (codeOf fault) format fault.message (.ofFault fault)

end Outcome

/-- The configuration file of a path, or of the path with its usual ending. -/
def findConfig (surroundings : Surroundings) (path : Text) : Settings.File :=
  let found := (Invocation.configPaths path).findSome? fun candidate =>
    match surroundings.read candidate with
    | .ok text => some (candidate, text)
    | .error _ => none
  match found with
  | some (candidate, text) =>
    { path := candidate, required := true, text := some text }
  | none => { path, required := true, text := none }

def loadOptions (surroundings : Surroundings) (config : Option Text) :
    Except Settings.Fault Options :=
  let loader : Loader := {}
  match config with
  | some path => (loader.withFile (findConfig surroundings path)).build
  | none => loader.build

def tokenize (pattern : Text) (format : Format) : Outcome :=
  let tokens := Breakdown.tokenize pattern
  .shown 0 format (Report.tokens tokens) (.ofTokens tokens)

/-- What is said of an unknown entry: its name, and those there are. -/
def unknownEntry (id : Text) : Text :=
  joinLines
    (["Unknown classifier '".toList ++ id ++ ['\''], [],
      "Available classifiers:".toList] ++
      Inference.catalogue.map fun entry =>
        "  ".toList ++ entry.id.toList ++ " - ".toList ++ entry.label.toList)

def showFragment (fragment : Text) (format : Format) : Outcome :=
  .shown 0 format fragment (.ofFragment fragment none)

def classify (text : Text) (entry : Option Text) (format : Format) : Outcome :=
  match entry with
  | some id =>
    match Inference.classifyWith? id text with
    | some fragment => showFragment fragment format
    | none => .failed 1 (unknownEntry id)
  | none =>
    match Inference.classify? text with
    | some fragment => showFragment fragment format
    | none =>
      .failed 1 "No classifier matched the whole text; try 'generalize'".toList

def showSegments (fragment : Text) (segments : List Segment) (format : Format) :
    Outcome :=
  .shown 0 format
    (fragment ++ ['\n', '\n'] ++ Report.segments segments)
    (.ofFragment fragment (some segments))

def generalize (text : Text) (name : Option Text) (withSegments : Bool)
    (format : Format) : Outcome :=
  let fragment := Inference.fragmentForSelection text
  let named :=
    match name with
    | some name => Inference.wrapNamed fragment name
    | none => .ok fragment
  match named with
  | .error fault => .ofFault fault
  | .ok fragment =>
    if withSegments then showSegments fragment (Inference.segments text) format
    else showFragment fragment format

/-- What the path of a sample leads to. -/
def readPath (surroundings : Surroundings) (path : Text) : Except ReadFault Text :=
  if path = standardInput then surroundings.input else surroundings.read path

/-- What is said of a sample that cannot be read. -/
def unreadable (path : Text) (fault : ReadFault) : Text :=
  "Error reading ".toList ++ path ++ ": ".toList ++ fault.message

def readSample (surroundings : Surroundings) : Sample → Except Text Text
  | .text text => .ok text
  | .file path => (readPath surroundings path).mapError (unreadable path)

/-- Runs a pattern against a sample and shows the matches. -/
def runOn (pattern : Text) (flags : Flags) (sample : Text) (withHighlight : Bool)
    (options : Options) (format : Format) : Outcome :=
  match Matching.execute pattern flags sample options.budget with
  | .error fault => .ofFailedRun format fault
  | .ok records =>
    let stretches := Matching.highlight sample records
    let listing := Report.records records
    if withHighlight then
      .shown 0 format (listing ++ ['\n', '\n'] ++ Report.marked stretches)
        (.ofMatches pattern flags records (some stretches))
    else .shown 0 format listing (.ofMatches pattern flags records none)

def run (surroundings : Surroundings) (options : Options) (format : Format)
    (pattern : Text) (sample : Sample) (letters : Option Text)
    (withHighlight : Bool) : Outcome :=
  let flags :=
    match letters with
    | some letters => Flags.read letters
    | none => .ok options.flags
  match flags with
  | .error letter => .ofFault (.unknownFlag letter)
  | .ok flags =>
    match readSample surroundings sample with
    | .error message => .failed 1 message
    | .ok sample => runOn pattern flags sample withHighlight options format

def classifiers (format : Format) : Outcome :=
  .shown 0 format (Report.entries Inference.catalogue)
    (.ofEntries Inference.catalogue)

def carryOut (surroundings : Surroundings) (invocation : Invocation) : Outcome :=
  match loadOptions surroundings invocation.config with
  | .error fault => .failed 1 ("Configuration error: ".toList ++ fault.message)
  | .ok options =>
    let format := invocation.format.getD options.format
    match invocation.request with
    | .tokenize pattern => tokenize pattern format
    | .classify text entry => classify text entry format
    | .generalize text name withSegments => generalize text name withSegments format
    | .run pattern sample letters withHighlight =>
      run surroundings options format pattern sample letters withHighlight
    | .classifiers => classifiers format

/-- A page that stands for the one a parser of arguments would lay out. -/
def usage : Text :=
  joinLines
    (["Usage: regexplore [OPTIONS] <COMMAND>", "", "Commands:",
      "  tokenize <PATTERN>", "  classify <TEXT> [--with <ID>]",
      "  generalize <TEXT> [--name <NAME>] [--segments]",
      "  match <PATTERN> --text <TEXT> | --file <PATH> [--flags <LETTERS>]" ++
        " [--highlight]", "  classifiers", "", "Options:",
      "  -c, --config <PATH>", "  -f, --format <text|json|yaml>"].map String.toList)

/-- What arguments that ask for nothing to be carried out leave behind. The misuse
itself is not described. -/
def Outcome.ofHalt : Halt → Outcome
  | .misuse => .failed 2 usage
  | .help => ⟨0, usage ++ ['\n'], []⟩
  | .version => ⟨0, "regexplore 0.1.0\n".toList, []⟩

end PatternWorkbench.Command
