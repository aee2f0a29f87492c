import Guest.Pattern.Property
import Guest.Pattern.Script

/-!
# Segmentation

The classes of characters by which texts are cut into characters as users see them, into words,
and into sentences.  Each class has its name and its short name.
-/

namespace Guest

namespace Pattern

namespace CharSet

/-- The characters of the scripts with some codes. -/
def ofScripts (codes : List String) : CharSet :=
  unions ((Script.all.filter fun script => codes.contains script.code).map Script.set)

/-- The carriage return. -/
def carriageReturn : CharSet := single 0x0D

/-- The line feed. -/
def lineFeed : CharSet := single 0x0A

/-- The joiner of zero width. -/
def joiner : CharSet := single 0x200D

/-- Letters that are written before the syllable that they belong to. -/
def prependedLetters : CharSet := [
  (0xD4E, 0xD4E), (0x111C2, 0x111C3), (0x113D1, 0x113D1), (0x1193F, 0x1193F), (0x11941, 0x11941),
  (0x11A3A, 0x11A3A), (0x11A84, 0x11A89), (0x11D46, 0x11D46), (0x11F02, 0x11F02)]

/-- Vowels that a syllable ends with though they are no letters of Korean. -/
def trailingVowels : CharSet := [(0x16D63, 0x16D63), (0x16D67, 0x16D6A)]

/-- Spacing marks that do not extend the character before them. -/
def separateMarks : CharSet := [
  (0x102B, 0x102C), (0x1038, 0x1038), (0x1062, 0x1064), (0x1067, 0x106D), (0x1083, 0x1083),
  (0x1087, 0x108C), (0x108F, 0x108F), (0x109A, 0x109C), (0x1A61, 0x1A61), (0x1A63, 0x1A64),
  (0xAA7B, 0xAA7B), (0xAA7D, 0xAA7D), (0x11720, 0x11721)]

/-- Syllables of Korean. -/
def syllables : CharSet := [(0xAC00, 0xD7A3)]

/-- Syllables of Korean that end with a vowel. -/
def openSyllables : CharSet := ofRuns [(0xAC00, 0xD788, 28)]

/-- Characters that break the text around them. -/
def graphemeControl : CharSet :=
  diff (union (inter unassigned defaultIgnorable)
      (ofCategories [lineSeparator, paragraphSeparator, control, format]))
    (unions [carriageReturn, lineFeed, graphemeExtend, joiner, prependedConcatenationMark])

/-- The classes by which characters as users see them are found. -/
def graphemeClasses : List (List String × CharSet) := [
  (["Control", "CN"], graphemeControl),
  (["CR"], carriageReturn),
  (["Extend", "EX"], diff (union graphemeExtend emojiModifier) joiner),
  (["L"], [(0x1100, 0x115F), (0xA960, 0xA97C)]),
  (["LF"], lineFeed),
  (["LV"], openSyllables),
  (["LVT"], diff syllables openSyllables),
  (["Prepend", "PP"], union prependedConcatenationMark prependedLetters),
  (["Regional_Indicator", "RI"], regionalIndicator),
  (["SpacingMark", "SM"],
    diff (union (ofRuns spacingMark) [(0xE33, 0xE33), (0xEB3, 0xEB3)])
      (unions [graphemeExtend, separateMarks, trailingVowels])),
  (["T"], [(0x11A8, 0x11FF), (0xD7CB, 0xD7FB)]),
  (["V"], unions [[(0x1160, 0x11A7)], [(0xD7B0, 0xD7C6)], trailingVowels]),
  (["ZWJ"], joiner)]

/-- Signs that go before numbers and belong to them. -/
def numberSigns : CharSet := [
  (0x600, 0x605), (0x6DD, 0x6DD), (0x890, 0x891), (0x8E2, 0x8E2), (0x110BD, 0x110BD),
  (0x110CD, 0x110CD)]

/-- A sign that goes before abbreviations. -/
def abbreviationSign : CharSet := single 0x70F

/-- Characters that extend others, spaced or not. -/
def wordExtend : CharSet :=
  diff (unions [graphemeExtend, ofRuns spacingMark, emojiModifier]) joiner

/-- Digits and what belongs to them in a word. -/
def wordNumeric : CharSet := unions [digits, single 0x66B, numberSigns]

/-- Letters and marks of Katakana. -/
def katakana : CharSet :=
  union (ofScripts ["Kana"])
    [(0x3031, 0x3035), (0x309B, 0x309C), (0x30A0, 0x30A0), (0x30FC, 0x30FC), (0xFF70, 0xFF70)]

/-- Letters of Hebrew. -/
def hebrewLetters : CharSet := inter (ofScripts ["Hebr"]) (ofRuns otherLetter)

/-- Symbols that are parts of words though they are not alphabetic. -/
def wordSymbols : CharSet := [
  (0x2C2, 0x2C5), (0x2D2, 0x2D7), (0x2DE, 0x2DF), (0x2E5, 0x2EB), (0x2ED, 0x2ED), (0x2EF, 0x2FF),
  (0x55A, 0x55C), (0x55E, 0x55E), (0x58A, 0x58A), (0x5F3, 0x5F3), (0xA708, 0xA716),
  (0xA720, 0xA721), (0xA789, 0xA78A), (0xAB5B, 0xAB5B)]

/-- Scripts whose words are not marked in writing. -/
def unmarkedScripts : List String :=
  ["Thai", "Laoo", "Mymr", "Khmr", "Tale", "Talu", "Lana", "Tavt", "Ahom", "Hira"]

/-- The letters of words. -/
def wordLetters : CharSet :=
  diff (unions [alphabetic, wordSymbols, abbreviationSign])
    (unions [ideographic, katakana, ofScripts unmarkedScripts, wordExtend, hebrewLetters,
      wordNumeric])

/-- Formats that do not end a word. -/
def wordFormat : CharSet :=
  diff (ofRuns format)
    (unions [[(0x200B, 0x200D)], wordExtend, numberSigns, abbreviationSign])

/-- The classes by which words are found. -/
def wordClasses : List (List String × CharSet) := [
  (["ALetter", "LE"], wordLetters),
  (["CR"], carriageReturn),
  (["Double_Quote", "DQ"], single 0x22),
  (["Extend"], wordExtend),
  (["ExtendNumLet", "EX"], union (ofRuns connectorPunctuation) (single 0x202F)),
  (["Format", "FO"], wordFormat),
  (["Hebrew_Letter", "HL"], hebrewLetters),
  (["Katakana", "KA"], katakana),
  (["LF"], lineFeed),
  (["MidLetter", "ML"],
    [(0x3A, 0x3A), (0xB7, 0xB7), (0x387, 0x387), (0x55F, 0x55F), (0x5F4, 0x5F4),
      (0x2027, 0x2027), (0xFE13, 0xFE13), (0xFE55, 0xFE55), (0xFF1A, 0xFF1A)]),
  (["MidNum", "MN"],
    [(0x2C, 0x2C), (0x3B, 0x3B), (0x37E, 0x37E), (0x589, 0x589), (0x60C, 0x60D), (0x66C, 0x66C),
      (0x7F8, 0x7F8), (0x2044, 0x2044), (0xFE10, 0xFE10), (0xFE14, 0xFE14), (0xFE50, 0xFE50),
      (0xFE54, 0xFE54), (0xFF0C, 0xFF0C), (0xFF1B, 0xFF1B)]),
  (["MidNumLet", "MB"],
    [(0x2E, 0x2E), (0x2018, 0x2019), (0x2024, 0x2024), (0xFE52, 0xFE52), (0xFF07, 0xFF07),
      (0xFF0E, 0xFF0E)]),
  (["Newline", "NL"], [(0x0B, 0x0C), (0x85, 0x85), (0x2028, 0x2029)]),
  (["Numeric", "NU"], wordNumeric),
  (["Regional_Indicator", "RI"], regionalIndicator),
  (["Single_Quote", "SQ"], single 0x27),
  (["WSegSpace"],
    [(0x20, 0x20), (0x1680, 0x1680), (0x2000, 0x2006), (0x2008, 0x200A), (0x205F, 0x205F),
      (0x3000, 0x3000)]),
  (["ZWJ"], joiner)]

/-- Ends of paragraphs other than the carriage return and the line feed. -/
def paragraphEnds : CharSet := [(0x85, 0x85), (0x2028, 0x2029)]

/-- Full stops, which may also end an abbreviation. -/
def fullStops : CharSet :=
  [(0x2E, 0x2E), (0x2024, 0x2024), (0xFE52, 0xFE52), (0xFF0E, 0xFF0E)]

/-- Characters that extend others in a sentence. -/
def sentenceExtend : CharSet := unions [graphemeExtend, ofRuns spacingMark, joiner]

/-- Letters of Georgian, which do not mark the start of a sentence. -/
def georgianLetters : CharSet :=
  [(0x10D0, 0x10FA), (0x10FD, 0x10FF), (0x1C90, 0x1CBA), (0x1CBD, 0x1CBF)]

/-- Small letters in a sentence. -/
def sentenceLower : CharSet := diff lowercase (union graphemeExtend georgianLetters)

/-- Capital letters in a sentence. -/
def sentenceUpper : CharSet := diff (union uppercase (ofRuns titlecaseLetter)) georgianLetters

/-- Quotation marks that both open and close. -/
def plainQuotes : CharSet := [
  (0x22, 0x22), (0x27, 0x27), (0x275B, 0x2760), (0x2E00, 0x2E01), (0x2E06, 0x2E08),
  (0x2E0B, 0x2E0B), (0x1F676, 0x1F678)]

/-- The classes by which sentences are found. -/
def sentenceClasses : List (List String × CharSet) := [
  (["ATerm", "AT"], fullStops),
  (["Close", "CL"], union brackets plainQuotes),
  (["CR"], carriageReturn),
  (["Extend", "EX"], sentenceExtend),
  (["Format", "FO"], diff (ofRuns format) (union numberSigns sentenceExtend)),
  (["LF"], lineFeed),
  (["Lower", "LO"], sentenceLower),
  (["Numeric", "NU"], union wordNumeric (single 0x66C)),
  (["OLetter", "LE"],
    diff (union alphabetic (single 0x5F3))
      (unions [sentenceLower, sentenceUpper, sentenceExtend])),
  (["SContinue", "SC"],
    [(0x2C, 0x2D), (0x3A, 0x3B), (0x37E, 0x37E), (0x55D, 0x55D), (0x60C, 0x60D), (0x7F8, 0x7F8),
      (0x1802, 0x1802), (0x1808, 0x1808), (0x2013, 0x2014), (0x3001, 0x3001), (0xFE10, 0xFE11),
      (0xFE13, 0xFE14), (0xFE31, 0xFE32), (0xFE50, 0xFE51), (0xFE54, 0xFE55), (0xFE58, 0xFE58),
      (0xFE63, 0xFE63), (0xFF0C, 0xFF0D), (0xFF1A, 0xFF1B), (0xFF64, 0xFF64)]),
  (["Sep", "SE"], paragraphEnds),
  (["Sp", "SP"], diff blanks (unions [paragraphEnds, carriageReturn, lineFeed])),
  (["STerm", "ST"], diff sentenceTerminal fullStops),
  (["Upper", "UP"], sentenceUpper)]

end CharSet

end Pattern

end Guest
