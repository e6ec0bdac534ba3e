import PatternWorkbench.Text
import PatternWorkbench.Unicode.Age
import PatternWorkbench.Unicode.Character
import PatternWorkbench.Unicode.ScriptExtension
import PatternWorkbench.Unicode.Segmentation

/-!
# Character properties by name

A pattern may name a general category, a script or a binary property, or ask for
one value of a property with several. Spelling is loose: case, blanks, hyphens,
underscores and a leading `is` do not count.
-/

namespace PatternWorkbench.Pattern

open Unicode

namespace Property

def looseChars (name : Text) : Text :=
  (name.filter fun c => c.toNat < 128 && c != ' ' && c != '_' && c != '-').map
    Char.toLower

/-- The form in which names are compared. The bare `c` left of `isc` stands for
a property of its own and keeps its three letters. -/
def loosely (name : Text) : String :=
  match name with
  | i :: s :: rest =>
    if i.toLower = 'i' && s.toLower = 's' then
      if looseChars rest = ['c'] then "isc"
      else String.ofList (looseChars rest)
    else String.ofList (looseChars name)
  | _ => String.ofList (looseChars name)

def everything : RangeTable := [(0x0000, 0x10FFFF)]

/-- General categories and the groups they form, under all their names. -/
def categories : List (List String × Roster) := [
  (["lu", "uppercaseletter"], .of [uppercaseLetter]),
  (["ll", "lowercaseletter"], .of [lowercaseLetter]),
  (["lt", "titlecaseletter"], .of [titlecaseLetter]),
  (["lc", "casedletter"], .of [uppercaseLetter, lowercaseLetter,
    titlecaseLetter]),
  (["lm", "modifierletter"], .of [modifierLetter]),
  (["lo", "otherletter"], .of [otherLetter]),
  (["l", "letter"], .of [uppercaseLetter, lowercaseLetter, titlecaseLetter,
    modifierLetter, otherLetter]),
  (["mn", "nonspacingmark"], .of [nonspacingMark]),
  (["mc", "spacingmark"], .of [spacingMark]),
  (["me", "enclosingmark"], .of [enclosingMark]),
  (["m", "mark", "combiningmark"], .of [nonspacingMark, spacingMark,
    enclosingMark]),
  (["nd", "digit", "decimalnumber"], .of [decimalNumber]),
  (["nl", "letternumber"], .of [letterNumber]),
  (["no", "othernumber"], .of [otherNumber]),
  (["n", "number"], .of [decimalNumber, letterNumber, otherNumber]),
  (["pc", "connectorpunctuation"], .of [connectorPunctuation]),
  (["pd", "dashpunctuation"], .of [dashPunctuation]),
  (["ps", "openpunctuation"], .of [openPunctuation]),
  (["pe", "closepunctuation"], .of [closePunctuation]),
  (["pi", "initialpunctuation"], .of [initialPunctuation]),
  (["pf", "finalpunctuation"], .of [finalPunctuation]),
  (["po", "otherpunctuation"], .of [otherPunctuation]),
  (["p", "punct", "punctuation"], .of [connectorPunctuation, dashPunctuation,
    openPunctuation, closePunctuation, initialPunctuation, finalPunctuation,
    otherPunctuation]),
  (["sm", "mathsymbol"], .of [mathSymbol]),
  (["sc", "currencysymbol"], .of [currencySymbol]),
  (["sk", "modifiersymbol"], .of [modifierSymbol]),
  (["so", "othersymbol"], .of [otherSymbol]),
  (["s", "symbol"], .of [mathSymbol, currencySymbol, modifierSymbol,
    otherSymbol]),
  (["zs", "spaceseparator"], .of [spaceSeparator]),
  (["zl", "lineseparator"], .of [lineSeparator]),
  (["zp", "paragraphseparator"], .of [paragraphSeparator]),
  (["z", "separator"], .of [spaceSeparator, lineSeparator, paragraphSeparator]),
  (["cc", "cntrl", "control"], .of [control]),
  (["cf", "format"], .of [format]),
  (["co", "privateuse"], .of [privateUse]),
  (["cn", "unassigned"], ⟨[everything], assignedTables, []⟩),
  (["c", "other"], ⟨[everything], graphicTables, []⟩),
  (["any"], .of [everything]),
  (["ascii"], .of [[(0x00, 0x7F)]]),
  (["assigned"], .of assignedTables)]

/-- Binary properties under all their names. -/
def binaryProperties : List (List String × Roster) := [
  (["ahex", "asciihexdigit"], .of [asciiHexDigit]),
  (["alpha", "alphabetic"], .of [uppercaseLetter, lowercaseLetter,
    titlecaseLetter, modifierLetter, otherLetter, letterNumber, extraLowercase,
    extraUppercase, extraAlphabetic]),
  (["bidic", "bidicontrol"], .of [bidiControl]),
  (["bidim", "bidimirrored"], .of [bidiMirrored]),
  (["ci", "caseignorable"], .of [nonspacingMark, enclosingMark, format,
    modifierLetter, modifierSymbol, midLetter, midNumberOrLetter, [(0x27,
    0x27)]]),
  (["cased"], .of [uppercaseLetter, titlecaseLetter, extraUppercase,
    lowercaseLetter, extraLowercase]),
  (["cwcf", "changeswhencasefolded"], ⟨[uppercaseLetter, titlecaseLetter,
    extraUppercase], [capitalAlone, foldedTo], [foldedSmall]⟩),
  (["cwcm", "changeswhencasemapped"], ⟨[uppercaseLetter, titlecaseLetter,
    extraUppercase, lowercaseLetter, extraLowercase, halfCapital, smallDigraph],
    [capitalAlone, smallAlone], []⟩),
  (["cwl", "changeswhenlowercased"], ⟨[uppercaseLetter, titlecaseLetter,
    extraUppercase], [capitalAlone], []⟩),
  (["cwt", "changeswhentitlecased"], ⟨[lowercaseLetter, extraLowercase,
    smallDigraph], [smallAlone, titledOnce], []⟩),
  (["cwu", "changeswhenuppercased"], ⟨[lowercaseLetter, extraLowercase,
    halfCapital], [smallAlone], []⟩),
  (["dash"], .of [dash]),
  (["di", "defaultignorablecodepoint"], ⟨[format, variationSelector,
    extraIgnorable], [whiteSpace, prependedConcatenationMark, [(0xFFF9, 0xFFFB),
    (0x13430, 0x1343F)]], []⟩),
  (["dep", "deprecated"], .of [deprecatedCharacter]),
  (["dia", "diacritic"], .of [diacritic]),
  (["emoji"], .of [emoji]),
  (["ecomp", "emojicomponent"], .of [emojiComponent]),
  (["emod", "emojimodifier"], .of [emojiModifier]),
  (["ebase", "emojimodifierbase"], .of [emojiModifierBase]),
  (["epres", "emojipresentation"], .of [emojiPresentation]),
  (["extpict", "extendedpictographic"], .of [extendedPictographic]),
  (["ext", "extender"], .of [extender]),
  (["grbase", "graphemebase"], ⟨graphicTables, [lineSeparator,
    paragraphSeparator, nonspacingMark, enclosingMark, extraGraphemeExtend],
    []⟩),
  (["grext", "graphemeextend"], .of [nonspacingMark, enclosingMark,
    extraGraphemeExtend]),
  (["grlink", "graphemelink"], .of [graphemeLink]),
  (["hex", "hexdigit"], .of [hexDigit]),
  (["hyphen"], .of [hyphen]),
  (["idsb", "idsbinaryoperator"], .of [idsBinaryOperator]),
  (["idst", "idstrinaryoperator"], .of [idsTrinaryOperator]),
  (["idsu", "idsunaryoperator"], .of [idsUnaryOperator]),
  (["idcompatmathcontinue"], .of [idCompatMathContinue]),
  (["idcompatmathstart"], .of [idCompatMathStart]),
  (["idc", "idcontinue"], ⟨[uppercaseLetter, lowercaseLetter, titlecaseLetter,
    modifierLetter, otherLetter, letterNumber, extraIdentifierStart,
    nonspacingMark, spacingMark, decimalNumber, connectorPunctuation,
    extraIdentifierContinue], [patternSyntax, patternWhiteSpace], []⟩),
  (["ids", "idstart"], ⟨[uppercaseLetter, lowercaseLetter, titlecaseLetter,
    modifierLetter, otherLetter, letterNumber, extraIdentifierStart],
    [patternSyntax, patternWhiteSpace], []⟩),
  (["ideo", "ideographic"], .of [ideographic]),
  (["joinc", "joincontrol"], .of [joinControl]),
  (["loe", "logicalorderexception"], .of [logicalOrderException]),
  (["lower", "lowercase"], .of [lowercaseLetter, extraLowercase]),
  (["math"], .of [mathSymbol, extraMath]),
  (["mcm", "modifiercombiningmark"], .of [modifierCombiningMark]),
  (["nchar", "noncharactercodepoint"], .of [noncharacterCodePoint]),
  (["oalpha", "otheralphabetic"], .of [extraAlphabetic]),
  (["odi", "otherdefaultignorablecodepoint"], .of [extraIgnorable]),
  (["ogrext", "othergraphemeextend"], .of [extraGraphemeExtend]),
  (["oidc", "otheridcontinue"], .of [extraIdentifierContinue]),
  (["oids", "otheridstart"], .of [extraIdentifierStart]),
  (["olower", "otherlowercase"], .of [extraLowercase]),
  (["omath", "othermath"], .of [extraMath]),
  (["oupper", "otheruppercase"], .of [extraUppercase]),
  (["patsyn", "patternsyntax"], .of [patternSyntax]),
  (["patws", "patternwhitespace"], .of [patternWhiteSpace]),
  (["pcm", "prependedconcatenationmark"], .of [prependedConcatenationMark]),
  (["qmark", "quotationmark"], .of [quotationMark]),
  (["radical"], .of [radical]),
  (["ri", "regionalindicator"], .of [regionalIndicator]),
  (["sterm", "sentenceterminal"], .of [sentenceTerminal]),
  (["sd", "softdotted"], .of [softDotted]),
  (["term", "terminalpunctuation"], .of [terminalPunctuation]),
  (["uideo", "unifiedideograph"], .of [unifiedIdeograph]),
  (["upper", "uppercase"], .of [uppercaseLetter, extraUppercase]),
  (["vs", "variationselector"], .of [variationSelector]),
  (["space", "wspace", "whitespace"], .of [whiteSpace]),
  (["xidc", "xidcontinue"], ⟨[uppercaseLetter, lowercaseLetter, titlecaseLetter,
    modifierLetter, otherLetter, letterNumber, extraIdentifierStart,
    nonspacingMark, spacingMark, decimalNumber, connectorPunctuation,
    extraIdentifierContinue], [patternSyntax, patternWhiteSpace,
    decomposesOutside], []⟩),
  (["xids", "xidstart"], ⟨[uppercaseLetter, lowercaseLetter, titlecaseLetter,
    modifierLetter, otherLetter, letterNumber, extraIdentifierStart],
    [patternSyntax, patternWhiteSpace, continuesOnly, decomposesOutside], []⟩)]

/-- The properties with several values, of which a pattern may ask for one. -/
inductive Choosable where
  | category
  | script
  | scriptUse
  | age
  | graphemeBreak
  | wordBreak
  | sentenceBreak
  deriving DecidableEq, Repr

def choosable : List (List String × Choosable) := [
  (["gc", "generalcategory"], .category),
  (["sc", "script"], .script),
  (["scx", "scriptextensions"], .scriptUse),
  (["age"], .age),
  (["gcb", "graphemeclusterbreak"], .graphemeBreak),
  (["wb", "wordbreak"], .wordBreak),
  (["sb", "sentencebreak"], .sentenceBreak)]

/-- Properties that exist and whose values no pattern can ask for. -/
def unsupported : List String :=
  ["bc", "bidiclass", "bidimirroringglyph", "bidipairedbracket",
    "bidipairedbrackettype", "blk", "block", "bmg", "bpb", "bpt",
    "canonicalcombiningclass", "casefolding", "ccc", "ce", "cf",
    "changeswhennfkccasefolded", "cjkaccountingnumeric",
    "cjkcompatibilityvariant", "cjkiicore", "cjkirggsource", "cjkirghsource",
    "cjkirgjsource", "cjkirgkpsource", "cjkirgksource", "cjkirgmsource",
    "cjkirgssource", "cjkirgtsource", "cjkirguksource", "cjkirgusource",
    "cjkirgvsource", "cjkothernumeric", "cjkprimarynumeric", "cjkrsunicode",
    "compex", "compositionexclusion", "cwkcf", "decompositionmapping",
    "decompositiontype", "dm", "dt", "ea", "eastasianwidth", "equideo",
    "equivalentunifiedideograph", "expandsonnfc", "expandsonnfd",
    "expandsonnfkc", "expandsonnfkd", "fcnfkc", "fcnfkcclosure",
    "fullcompositionexclusion", "hangulsyllabletype", "hst", "incb",
    "indicconjunctbreak", "indicpositionalcategory", "indicsyllabiccategory",
    "inpc", "insc", "isc", "jamoshortname", "jg", "joininggroup", "joiningtype",
    "jsn", "jt", "kaccountingnumeric", "kcompatibilityvariant", "kehcat",
    "kehdesc", "kehhg", "kehifao", "kehjsesh", "kehnomirror", "kehnorotate",
    "kiicore", "kirggsource", "kirghsource", "kirgjsource", "kirgkpsource",
    "kirgksource", "kirgmsource", "kirgssource", "kirgtsource", "kirguksource",
    "kirgusource", "kirgvsource", "kothernumeric", "kprimarynumeric",
    "krsunicode", "lb", "lc", "linebreak", "lowercasemapping", "na", "na1",
    "name", "namealias", "nfcqc", "nfcquickcheck", "nfdqc", "nfdquickcheck",
    "nfkccasefold", "nfkccf", "nfkcqc", "nfkcquickcheck", "nfkcscf",
    "nfkcsimplecasefold", "nfkdqc", "nfkdquickcheck", "nt", "numerictype",
    "numericvalue", "nv", "ocomment", "scf", "sfc", "simplecasefolding",
    "simplelowercasemapping", "simpletitlecasemapping",
    "simpleuppercasemapping", "slc", "stc", "suc", "tc", "titlecasemapping",
    "uc", "unicode1name", "unicoderadicalstroke", "uppercasemapping", "urs",
    "verticalorientation", "vo", "xonfc", "xonfd", "xonfkc", "xonfkd"]

/-- Names of categories and scripts that no character has. -/
def memberless : List String :=
  ["cs", "surrogate", "zzzz", "unknown", "hrkt", "katakanaorhiragana"]

def named? {Value : Type} (entries : List (List String × Value)) (name : String) :
    Option Value :=
  (entries.find? fun entry => entry.1.contains name).map (·.2)

def fromRoster? (entries : List (List String × Roster)) (name : String) :
    Option CharSet :=
  (named? entries name).map .ofRoster

def category? (name : String) : Option CharSet :=
  fromRoster? categories name

def script? (name : String) : Option CharSet :=
  (named? scripts name).map .ofTable

/-- The characters in use in a script, whether it shares them or not. -/
def scriptUse? (name : String) : Option CharSet :=
  (scripts.find? fun entry => entry.1.contains name).map fun (names, own) =>
    .ofRoster (usedInScript names own)

/-- A version is named by its number, or by a `v` and its digits. -/
def isVersion (name version : String) : Bool :=
  name == version ||
    name.toList == 'v' :: version.toList.filter (· != '.')

/-- What a version and the ones before it brought. -/
def age? (name : String) : Option CharSet :=
  if ages.any (isVersion name ·.1) then
    let before := ages.takeWhile (!isVersion name ·.1)
    let itself := ages.filter (isVersion name ·.1)
    some (.ofTables ((before ++ itself).map (·.2)))
  else none

def Choosable.value? (name : String) : Choosable → Option CharSet
  | category => category? name
  | script => script? name
  | scriptUse => scriptUse? name
  | age => age? name
  | graphemeBreak => fromRoster? graphemeBreaks name
  | wordBreak => fromRoster? wordBreaks name
  | sentenceBreak => fromRoster? sentenceBreaks name

/-- Names that stand for a category although a property shares them. -/
def categoryFirst : List String := ["cf", "lc", "sc"]

/-- Whether a name is one of a property with several values. -/
def isManyValued (name : String) : Bool :=
  (named? choosable name).isSome || unsupported.contains name

end Property

/-- A property as a pattern names it, alone or as the value of another one. -/
inductive PropertyQuery where
  | plain (label : Text)
  | valued (property : Text) (label : Text)
  deriving DecidableEq, Repr

inductive PropertyLookup where
  | found (set : CharSet)
  | unknownProperty
  | unknownValue

def PropertyLookup.ofValue : Option CharSet → PropertyLookup
  | some set => found set
  | none => unknownValue

/-- Binary properties go before categories, and categories before scripts. -/
def PropertyQuery.lookup : PropertyQuery → PropertyLookup
  | .plain label =>
    let key := Property.loosely label
    match Property.fromRoster? Property.binaryProperties key with
    | some set => .found set
    | none =>
      if Property.isManyValued key && !Property.categoryFirst.contains key then
        .unknownProperty
      else
        match Property.category? key <|> Property.script? key with
        | some set => .found set
        | none =>
          if Property.memberless.contains key then .unknownValue
          else .unknownProperty
  | .valued property label =>
    let property := Property.loosely property
    match Property.named? Property.choosable property with
    | some kind => .ofValue (kind.value? (Property.loosely label))
    | none =>
      if Property.unsupported.contains property ||
          (Property.named? Property.binaryProperties property).isSome then
        .unknownValue
      else .unknownProperty

end PatternWorkbench.Pattern
