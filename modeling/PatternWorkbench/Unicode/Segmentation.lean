import PatternWorkbench.Unicode.BinaryProperty
import PatternWorkbench.Unicode.Letters
import PatternWorkbench.Unicode.MarksAndNumbers
import PatternWorkbench.Unicode.Roster
import PatternWorkbench.Unicode.Script
import PatternWorkbench.Unicode.Separators
import PatternWorkbench.Unicode.Symbols

/-!
# Segmentation

The part that each character plays where a text is divided into graphemes, into
words and into sentences. Characters that play none are not listed.
-/

namespace PatternWorkbench.Unicode

/-- Spacing marks that stand apart from the letter before them. -/
def loneSpacingMark : RangeTable := [
  (0x102B, 0x102C), (0x1038, 0x1038), (0x1062, 0x1064), (0x1067, 0x106D),
  (0x1083, 0x1083), (0x1087, 0x108C), (0x108F, 0x108F), (0x109A, 0x109C),
  (0x1A61, 0x1A61), (0x1A63, 0x1A64), (0xAA7B, 0xAA7B), (0xAA7D, 0xAA7D),
  (0x11720, 0x11721)]

/-- Controls that a grapheme never goes across. -/
def graphemeControl : RangeTable := [
  (0x0000, 0x0009), (0x000B, 0x000C), (0x000E, 0x001F), (0x007F, 0x009F),
  (0x00AD, 0x00AD), (0x061C, 0x061C), (0x180E, 0x180E), (0x200B, 0x200B),
  (0x200E, 0x200F), (0x2028, 0x202E), (0x2060, 0x206F), (0xFEFF, 0xFEFF),
  (0xFFF0, 0xFFFB), (0x13430, 0x1343F), (0x1BCA0, 0x1BCA3), (0x1D173, 0x1D17A),
  (0xE0000, 0xE001F), (0xE0080, 0xE00FF), (0xE01F0, 0xE0FFF)]

/-- Characters that belong to the one after them. -/
def graphemePrepend : RangeTable := [
  (0x0600, 0x0605), (0x06DD, 0x06DD), (0x070F, 0x070F), (0x0890, 0x0891),
  (0x08E2, 0x08E2), (0x0D4E, 0x0D4E), (0x110BD, 0x110BD), (0x110CD, 0x110CD),
  (0x111C2, 0x111C3), (0x113D1, 0x113D1), (0x1193F, 0x1193F),
  (0x11941, 0x11941), (0x11A3A, 0x11A3A), (0x11A84, 0x11A89),
  (0x11D46, 0x11D46), (0x11F02, 0x11F02)]

/-- What takes part in words like a letter, without being alphabetic. -/
def wordLetterExtra : RangeTable := [
  (0x02C2, 0x02C5), (0x02D2, 0x02D7), (0x02DE, 0x02DF), (0x02E5, 0x02EB),
  (0x02ED, 0x02ED), (0x02EF, 0x02FF), (0x055A, 0x055C), (0x055E, 0x055E),
  (0x058A, 0x058A), (0x05F3, 0x05F3), (0x070F, 0x070F), (0xA708, 0xA716),
  (0xA720, 0xA721), (0xA789, 0xA78A), (0xAB5B, 0xAB5B)]

/-- Letters of scripts written without blanks between words. -/
def complexContext : RangeTable := [
  (0x0E01, 0x0E30), (0x0E32, 0x0E33), (0x0E40, 0x0E46), (0x0E81, 0x0E82),
  (0x0E84, 0x0E84), (0x0E86, 0x0E8A), (0x0E8C, 0x0EA3), (0x0EA5, 0x0EA5),
  (0x0EA7, 0x0EB0), (0x0EB2, 0x0EB3), (0x0EBD, 0x0EBD), (0x0EC0, 0x0EC4),
  (0x0EC6, 0x0EC6), (0x0EDC, 0x0EDF), (0x1000, 0x102A), (0x103F, 0x103F),
  (0x1050, 0x1055), (0x105A, 0x105D), (0x1061, 0x1061), (0x1065, 0x1066),
  (0x106E, 0x1070), (0x1075, 0x1081), (0x108E, 0x108E), (0x1780, 0x17B3),
  (0x17D7, 0x17D7), (0x17DC, 0x17DC), (0x1950, 0x196D), (0x1970, 0x1974),
  (0x1980, 0x19AB), (0x19B0, 0x19C9), (0x1A20, 0x1A54), (0x1AA7, 0x1AA7),
  (0xA9E0, 0xA9E4), (0xA9E6, 0xA9EF), (0xA9FA, 0xA9FE), (0xAA60, 0xAA76),
  (0xAA7A, 0xAA7A), (0xAA7E, 0xAAAF), (0xAAB1, 0xAAB1), (0xAAB5, 0xAAB6),
  (0xAAB9, 0xAABD), (0xAAC0, 0xAAC0), (0xAAC2, 0xAAC2), (0xAADB, 0xAADD),
  (0x11700, 0x1171A), (0x11740, 0x11746)]

/-- What words in Katakana are made of. -/
def wordKatakana : RangeTable := [
  (0x3031, 0x3035), (0x309B, 0x309C), (0x30A0, 0x30FA), (0x30FC, 0x30FF),
  (0x31F0, 0x31FF), (0x32D0, 0x32FE), (0x3300, 0x3357), (0xFF66, 0xFF9D),
  (0x1AFF0, 0x1AFF3), (0x1AFF5, 0x1AFFB), (0x1AFFD, 0x1AFFE),
  (0x1B000, 0x1B000), (0x1B120, 0x1B122), (0x1B155, 0x1B155),
  (0x1B164, 0x1B167)]

/-- The letters of Hebrew words. -/
def hebrewLetter : RangeTable := [
  (0x05D0, 0x05EA), (0x05EF, 0x05F2), (0xFB1D, 0xFB1D), (0xFB1F, 0xFB28),
  (0xFB2A, 0xFB36), (0xFB38, 0xFB3C), (0xFB3E, 0xFB3E), (0xFB40, 0xFB41),
  (0xFB43, 0xFB44), (0xFB46, 0xFB4F)]

/-- Signs that belong to a number, among them those before its digits. -/
def numberSign : RangeTable := [
  (0x0600, 0x0605), (0x066B, 0x066B), (0x06DD, 0x06DD), (0x0890, 0x0891),
  (0x08E2, 0x08E2), (0x19DA, 0x19DA), (0x110BD, 0x110BD), (0x110CD, 0x110CD)]

/-- Format characters that are part of a word or of a number. -/
def visibleFormat : RangeTable := [
  (0x0600, 0x0605), (0x06DD, 0x06DD), (0x070F, 0x070F), (0x0890, 0x0891),
  (0x08E2, 0x08E2), (0x200B, 0x200D), (0x110BD, 0x110BD), (0x110CD, 0x110CD),
  (0xE0020, 0xE007F)]

/-- Format characters that are part of a sentence. -/
def sentenceFormat : RangeTable := [
  (0x0600, 0x0605), (0x06DD, 0x06DD), (0x0890, 0x0891), (0x08E2, 0x08E2),
  (0x200C, 0x200D), (0x110BD, 0x110BD), (0x110CD, 0x110CD), (0xE0020, 0xE007F)]

/-- Signs that close or open a quotation without being brackets. -/
def quoteLike : RangeTable := [
  (0x0022, 0x0022), (0x0027, 0x0027), (0x275B, 0x2760), (0x2E00, 0x2E01),
  (0x2E06, 0x2E08), (0x2E0B, 0x2E0B), (0x1F676, 0x1F678)]

/-- Signs that join two letters to one word. -/
def midLetter : RangeTable := [
  (0x003A, 0x003A), (0x00B7, 0x00B7), (0x0387, 0x0387), (0x055F, 0x055F),
  (0x05F4, 0x05F4), (0x2027, 0x2027), (0xFE13, 0xFE13), (0xFE55, 0xFE55),
  (0xFF1A, 0xFF1A)]

/-- Signs that join two digits to one number. -/
def midNumber : RangeTable := [
  (0x002C, 0x002C), (0x003B, 0x003B), (0x037E, 0x037E), (0x0589, 0x0589),
  (0x060C, 0x060D), (0x066C, 0x066C), (0x07F8, 0x07F8), (0x2044, 0x2044),
  (0xFE50, 0xFE50), (0xFE54, 0xFE54), (0xFF0C, 0xFF0C), (0xFF1B, 0xFF1B)]

/-- Signs that join two letters or two digits. -/
def midNumberOrLetter : RangeTable := [
  (0x002E, 0x002E), (0x2018, 0x2019), (0x2024, 0x2024), (0xFE52, 0xFE52),
  (0xFF07, 0xFF07), (0xFF0E, 0xFF0E)]

/-- Blanks between words. -/
def wordSpace : RangeTable := [
  (0x0020, 0x0020), (0x1680, 0x1680), (0x2000, 0x2006), (0x2008, 0x200A),
  (0x205F, 0x205F), (0x3000, 0x3000)]

/-- Blanks between sentences. -/
def sentenceSpace : RangeTable := [
  (0x0009, 0x0009), (0x000B, 0x000C), (0x0020, 0x0020), (0x00A0, 0x00A0),
  (0x1680, 0x1680), (0x2000, 0x200A), (0x202F, 0x202F), (0x205F, 0x205F),
  (0x3000, 0x3000)]

/-- Signs after which a sentence goes on. -/
def sentenceContinue : RangeTable := [
  (0x002C, 0x002D), (0x003A, 0x003B), (0x037E, 0x037E), (0x055D, 0x055D),
  (0x060C, 0x060D), (0x07F8, 0x07F8), (0x1802, 0x1802), (0x1808, 0x1808),
  (0x2013, 0x2014), (0x3001, 0x3001), (0xFE10, 0xFE11), (0xFE13, 0xFE14),
  (0xFE31, 0xFE32), (0xFE50, 0xFE51), (0xFE54, 0xFE55), (0xFE58, 0xFE58),
  (0xFE63, 0xFE63), (0xFF0C, 0xFF0D), (0xFF1A, 0xFF1B), (0xFF64, 0xFF64)]

/-- Stops, which end a sentence or an abbreviation. -/
def fullStop : RangeTable := [
  (0x002E, 0x002E), (0x2024, 0x2024), (0xFE52, 0xFE52), (0xFF0E, 0xFF0E)]

/-- Georgian letters, whose case does not tell where a sentence starts. -/
def caselessGeorgian : RangeTable := [
  (0x10D0, 0x10FA), (0x10FD, 0x10FF), (0x1C90, 0x1CBA), (0x1CBD, 0x1CBF)]

/-- Syllables of Hangul that end in a vowel: every twenty-eighth of them all. -/
def openSyllable : RangeTable :=
  (List.range 399).map fun place => (0xAC00 + 28 * place, 0xAC00 + 28 * place)

/-- Parts within a grapheme, under their names. -/
def graphemeBreaks : List (List String × Roster) := [
  (["cr"], ⟨[[(0x000D, 0x000D)]], [], []⟩),
  (["lf"], ⟨[[(0x000A, 0x000A)]], [], []⟩),
  (["cn", "control"], ⟨[graphemeControl], [], []⟩),
  (["ex", "extend"], ⟨[nonspacingMark, enclosingMark, extraGraphemeExtend,
    emojiModifier], [], []⟩),
  (["zwj"], ⟨[[(0x200D, 0x200D)]], [], []⟩),
  (["ri", "regionalindicator"], ⟨[regionalIndicator], [], []⟩),
  (["pp", "prepend"], ⟨[graphemePrepend], [], []⟩),
  (["sm", "spacingmark"], ⟨[spacingMark], [extraGraphemeExtend,
    loneSpacingMark], [[(0x0E33, 0x0E33), (0x0EB3, 0x0EB3)]]⟩),
  (["l"], ⟨[[(0x1100, 0x115F), (0xA960, 0xA97C)]], [], []⟩),
  (["v"],
    ⟨[[(0x1160, 0x11A7), (0xD7B0, 0xD7C6), (0x16D63, 0x16D63), (0x16D67, 0x16D6A)]],
    [], []⟩),
  (["t"], ⟨[[(0x11A8, 0x11FF), (0xD7CB, 0xD7FB)]], [], []⟩),
  (["lv"], ⟨[openSyllable], [], []⟩),
  (["lvt"], ⟨[[(0xAC00, 0xD7A3)]], [openSyllable], []⟩)]

/-- Parts within a word, under their names. -/
def wordBreaks : List (List String × Roster) := [
  (["cr"], ⟨[[(0x000D, 0x000D)]], [], []⟩),
  (["lf"], ⟨[[(0x000A, 0x000A)]], [], []⟩),
  (["nl", "newline"], ⟨[[(0x000B, 0x000C), (0x0085, 0x0085), (0x2028, 0x2029)]],
    [], []⟩),
  (["extend"], ⟨[nonspacingMark, enclosingMark, extraGraphemeExtend,
    spacingMark, emojiModifier], [], []⟩),
  (["zwj"], ⟨[[(0x200D, 0x200D)]], [], []⟩),
  (["ri", "regionalindicator"], ⟨[regionalIndicator], [], []⟩),
  (["fo", "format"], ⟨[format], [visibleFormat], []⟩),
  (["ka", "katakana"], ⟨[wordKatakana], [], []⟩),
  (["hl", "hebrewletter"], ⟨[hebrewLetter], [], []⟩),
  (["le", "aletter"], ⟨[uppercaseLetter, lowercaseLetter, titlecaseLetter,
    modifierLetter, otherLetter, letterNumber, extraLowercase, extraUppercase,
    extraAlphabetic, wordLetterExtra], [nonspacingMark, enclosingMark,
    extraGraphemeExtend, spacingMark, ideographic, wordKatakana, scriptHiragana,
    hebrewLetter, complexContext], []⟩),
  (["dq", "doublequote"], ⟨[[(0x0022, 0x0022)]], [], []⟩),
  (["sq", "singlequote"], ⟨[[(0x0027, 0x0027)]], [], []⟩),
  (["ml", "midletter"], ⟨[midLetter], [], []⟩),
  (["mn", "midnum"], ⟨[midNumber], [], []⟩),
  (["mb", "midnumlet"], ⟨[midNumberOrLetter], [], []⟩),
  (["nu", "numeric"], ⟨[decimalNumber, numberSign], [], []⟩),
  (["ex", "extendnumlet"], ⟨[connectorPunctuation, [(0x202F, 0x202F)]], [],
    []⟩),
  (["wsegspace"], ⟨[wordSpace], [], []⟩)]

/-- Parts within a sentence, under their names. -/
def sentenceBreaks : List (List String × Roster) := [
  (["cr"], ⟨[[(0x000D, 0x000D)]], [], []⟩),
  (["lf"], ⟨[[(0x000A, 0x000A)]], [], []⟩),
  (["se", "sep"], ⟨[[(0x0085, 0x0085), (0x2028, 0x2029)]], [], []⟩),
  (["sp"], ⟨[sentenceSpace], [], []⟩),
  (["ex", "extend"], ⟨[nonspacingMark, enclosingMark, extraGraphemeExtend,
    spacingMark, [(0x200D, 0x200D)]], [], []⟩),
  (["fo", "format"], ⟨[format], [sentenceFormat], []⟩),
  (["lo", "lower"], ⟨[lowercaseLetter, extraLowercase], [caselessGeorgian,
    [(0x0345, 0x0345)]], []⟩),
  (["up", "upper"], ⟨[uppercaseLetter, titlecaseLetter, extraUppercase],
    [caselessGeorgian], []⟩),
  (["le", "oletter"], ⟨[modifierLetter, otherLetter, letterNumber,
    extraAlphabetic, [(0x05F3, 0x05F3)]], [extraLowercase, extraUppercase,
    nonspacingMark, enclosingMark, extraGraphemeExtend, spacingMark],
    [caselessGeorgian]⟩),
  (["nu", "numeric"], ⟨[decimalNumber, numberSign, [(0x066C, 0x066C)]], [],
    []⟩),
  (["at", "aterm"], ⟨[fullStop], [], []⟩),
  (["st", "sterm"], ⟨[sentenceTerminal], [fullStop], []⟩),
  (["sc", "scontinue"], ⟨[sentenceContinue], [], []⟩),
  (["cl", "close"], ⟨[openPunctuation, closePunctuation, initialPunctuation,
    finalPunctuation, quoteLike], [], []⟩)]

end PatternWorkbench.Unicode
