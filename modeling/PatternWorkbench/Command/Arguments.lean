import PatternWorkbench.Settings.Options

/-!
# Command line arguments

Arguments are read from left to right: options with their values, and one operand
for most commands. The operand may begin with a hyphen, so as long as it is
missing, an argument that is not made up of known options is taken for it.
-/

namespace PatternWorkbench.Command

open Settings (Format)

inductive Verb where
  | tokenize
  | classify
  | generalize
  | run
  | classifiers
  deriving DecidableEq, Repr

namespace Verb

def all : List Verb :=
  [tokenize, classify, generalize, run, classifiers]

def name : Verb → Text
  | tokenize => "tokenize".toList
  | classify => "classify".toList
  | generalize => "generalize".toList
  | run => "match".toList
  | classifiers => "classifiers".toList

def hasOperand : Verb → Bool
  | classifiers => false
  | _ => true

end Verb

inductive Switch where
  | config
  | format
  | entry
  | name
  | segments
  | text
  | file
  | flags
  | highlight
  | help
  | version
  deriving DecidableEq, Repr

namespace Switch

def word : Switch → Text
  | config => "config".toList
  | format => "format".toList
  | entry => "with".toList
  | name => "name".toList
  | segments => "segments".toList
  | text => "text".toList
  | file => "file".toList
  | flags => "flags".toList
  | highlight => "highlight".toList
  | help => "help".toList
  | version => "version".toList

def letter? : Switch → Option Char
  | config => some 'c'
  | format => some 'f'
  | name => some 'n'
  | text => some 't'
  | help => some 'h'
  | version => some 'V'
  | _ => none

def takesValue : Switch → Bool
  | segments | highlight | help | version => false
  | _ => true

/-- Whether a value that stands on its own may begin with a hyphen. -/
def allowsHyphen : Switch → Bool
  | text => true
  | _ => false

/-- Whether a value is one of those that are allowed. -/
def admits (switch : Switch) (value : Text) : Bool :=
  match switch with
  | format => [Format.text, .json, .yaml].any (·.name == value)
  | _ => true

/-- The switches of a command, or of the program itself. -/
def known : Option Verb → List Switch
  | none => [config, format, help, version]
  | some .tokenize => [config, format, help]
  | some .classify => [entry, config, format, help]
  | some .generalize => [name, segments, config, format, help]
  | some .run => [text, file, flags, highlight, config, format, help]
  | some .classifiers => [config, format, help]

end Switch

/-- Why reading ends before all is read. -/
inductive Halt where
  | misuse
  | help
  | version
  deriving DecidableEq, Repr

/-- What has been read of the arguments of one command. -/
structure Given where
  verb : Option Verb
  values : List (Switch × Text) := []
  operand : Option Text := none
  /-- The option whose value is still to come. -/
  pending : Option Switch := none
  /-- Whether nothing but operands can follow. -/
  operandsOnly : Bool := false
  deriving DecidableEq, Repr

namespace Given

def has (given : Given) (switch : Switch) : Bool :=
  given.values.any (·.1 == switch)

def value? (given : Given) (switch : Switch) : Option Text :=
  given.values.lookup switch

def byWord? (given : Given) (word : Text) : Option Switch :=
  (Switch.known given.verb).find? (·.word == word)

def byLetter? (given : Given) (letter : Char) : Option Switch :=
  (Switch.known given.verb).find? (·.letter? == some letter)

/-- Whether the operand of the command is still to come. -/
def wantsOperand (given : Given) : Bool :=
  given.verb.any Verb.hasOperand && given.operand.isNone

/-- Nothing may be left to come when something else begins. -/
def settle (given : Given) : Except Halt Given :=
  if given.pending.isSome then .error .misuse else .ok given

/-- Takes an option with its value. No option comes twice. -/
def take (given : Given) (switch : Switch) (value : Text) : Except Halt Given :=
  match switch with
  | .help => .error .help
  | .version => .error .version
  | _ =>
    if given.has switch || !switch.admits value then .error .misuse
    else .ok { given with values := given.values ++ [(switch, value)] }

/-- Takes an option without a value, or with one that is attached to it. -/
def begin (given : Given) (switch : Switch) (attached : Option Text) :
    Except Halt Given := do
  let given ← given.settle
  if switch.takesValue then
    match attached with
    | some value => given.take switch value
    | none => return { given with pending := some switch }
  else
    match attached with
    | some _ => .error .misuse
    | none => given.take switch []

/-- Takes an argument that is no option. -/
def place (given : Given) (argument : Text) : Except Halt Given :=
  match given.pending with
  | some switch =>
    if given.operandsOnly then .error .misuse
    else { given with pending := none }.take switch argument
  | none =>
    if given.wantsOperand then .ok { given with operand := some argument }
    else .error .misuse

/-- Takes options given by their letters. The rest of the letters is the value of
the first that takes one. -/
def letters (given : Given) : Text → Except Halt Given
  | [] => .ok given
  | letter :: rest =>
    match given.byLetter? letter with
    | none => .error .misuse
    | some switch =>
      if switch.takesValue then
        given.begin switch <|
          match rest with
          | [] => none
          | '=' :: value => some value
          | value => some value
      else do letters (← given.begin switch none) rest

/-- Takes an option given by its word, with a value behind an equals sign. -/
def word (given : Given) (text : Text) : Except Halt Given :=
  let name := text.takeWhile (· != '=')
  match given.byWord? name with
  | none =>
    if given.wantsOperand then given.place ('-' :: '-' :: text) else .error .misuse
  | some switch =>
    given.begin switch <|
      match text.dropWhile (· != '=') with
      | [] => none
      | _ :: value => some value

/-- Takes one argument. -/
def next (given : Given) (argument : Text) : Except Halt Given :=
  if given.operandsOnly || given.pending.any Switch.allowsHyphen then
    given.place argument
  else
    match argument with
    | ['-', '-'] => .ok { given with operandsOnly := true }
    | '-' :: '-' :: text => given.word text
    | '-' :: letter :: rest =>
      if given.wantsOperand &&
          (letter :: rest).any fun letter => (given.byLetter? letter).isNone then
        given.place argument
      else given.letters (letter :: rest)
    | _ => given.place argument

def nextAll (given : Given) (arguments : List Text) : Except Halt Given := do
  (← arguments.foldlM next given).settle

end Given

/-- Reads the arguments of the program up to the name of a command, and those of
the command behind it. -/
def readArguments (given : Given) : List Text → Except Halt (Given × Given)
  | [] => .error .misuse
  | argument :: rest =>
    let verb :=
      if given.pending.isSome || given.operandsOnly then none
      else Verb.all.find? (·.name == argument)
    match verb with
    | some verb => do return (given, ← Given.nextAll { verb := some verb } rest)
    | none => do readArguments (← given.next argument) rest

end PatternWorkbench.Command
