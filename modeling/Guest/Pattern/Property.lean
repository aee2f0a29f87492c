import Guest.Pattern.Category
import Guest.Pattern.PropertyTable
import Guest.Text.Blank

/-!
# Sets composed of categories and properties

Most properties of characters follow from their categories and from a few properties that are
stated one by one.
-/

namespace Guest

namespace Pattern

namespace CharSet

/-- The set of several categories. -/
def ofCategories (categories : List (List (Nat × Nat × Nat))) : CharSet :=
  unions (categories.map ofRuns)

/-- The letters that differ in case. -/
def casedLetters : CharSet := ofCategories [uppercaseLetter, lowercaseLetter, titlecaseLetter]

/-- The letters. -/
def letters : CharSet := union casedLetters (ofCategories [modifierLetter, otherLetter])

/-- The marks. -/
def marks : CharSet := ofCategories [nonspacingMark, spacingMark, enclosingMark]

/-- Decimal digits. -/
def digits : CharSet := ofRuns decimalNumber

/-- The numbers. -/
def numbers : CharSet := union digits (ofCategories [letterNumber, otherNumber])

/-- Brackets, and the quotation marks that open and close. -/
def brackets : CharSet :=
  ofCategories [openPunctuation, closePunctuation, initialPunctuation, finalPunctuation]

/-- The punctuation. -/
def punctuation : CharSet :=
  union brackets (ofCategories [connectorPunctuation, dashPunctuation, otherPunctuation])

/-- The symbols. -/
def symbols : CharSet := ofCategories [mathSymbol, currencySymbol, modifierSymbol, otherSymbol]

/-- The separators. -/
def separators : CharSet := ofCategories [spaceSeparator, lineSeparator, paragraphSeparator]

/-- The surrogates, which are no characters of a text. -/
def surrogates : CharSet := [(0xD800, 0xDFFF)]

/-- Code points that are assigned to a character. -/
def assigned : CharSet :=
  unions [letters, marks, numbers, punctuation, symbols, separators,
    ofCategories [control, format, privateUse]]

/-- Code points that are not assigned. -/
def unassigned : CharSet := complement (union surrogates assigned)

/-- Alphabetic characters. -/
def alphabetic : CharSet := unions [letters, ofRuns letterNumber, otherAlphabetic]

/-- Whitespace. -/
def blanks : CharSet := Text.blankRanges

/-- Word characters: letters, marks, digits, connectors and the two joiners. -/
def wordCharacters : CharSet :=
  unions [alphabetic, marks, digits, ofRuns connectorPunctuation, joinControl]

/-- Small letters and characters like them. -/
def lowercase : CharSet := union (ofRuns lowercaseLetter) otherLowercase

/-- Capital letters and characters like them. -/
def uppercase : CharSet := union (ofRuns uppercaseLetter) otherUppercase

/-- Characters that have a case. -/
def cased : CharSet := unions [lowercase, uppercase, ofRuns titlecaseLetter]

/-- Punctuation that may stand inside a word. -/
def wordPunctuation : CharSet := [
  (0x27, 0x27), (0x2E, 0x2E), (0x3A, 0x3A), (0xB7, 0xB7), (0x387, 0x387), (0x55F, 0x55F),
  (0x5F4, 0x5F4), (0x2018, 0x2019), (0x2024, 0x2024), (0x2027, 0x2027), (0xFE13, 0xFE13),
  (0xFE52, 0xFE52), (0xFE55, 0xFE55), (0xFF07, 0xFF07), (0xFF0E, 0xFF0E), (0xFF1A, 0xFF1A)]

/-- Characters that do not count where the case of their neighbours matters. -/
def caseIgnorable : CharSet :=
  union wordPunctuation
    (ofCategories [nonspacingMark, enclosingMark, format, modifierLetter, modifierSymbol])

/-- Numbers and circled letters in small form. -/
def smallNumerals : CharSet := [(0x2170, 0x217F), (0x24D0, 0x24E9)]

/-- Numbers and circled letters in capital form. -/
def capitalNumerals : CharSet := [(0x2160, 0x216F), (0x24B6, 0x24CF)]

/-- Characters that conversion to small letters changes. -/
def changesWhenLowercased : CharSet :=
  unions [diff (ofRuns uppercaseLetter) capitalWithoutSmall, ofRuns titlecaseLetter,
    capitalNumerals]

/-- Characters that conversion to capitals changes. -/
def changesWhenUppercased : CharSet :=
  unions [diff (ofRuns lowercaseLetter) smallWithoutCapital, ofRuns titlecaseLetter,
    smallNumerals, single 0x345]

/-- Letters that have capitals, but not in title case. -/
def titlecaseConstant : CharSet := [(0x10D0, 0x10FA), (0x10FD, 0x10FF)]

/-- The capitals of the letters that join two and have a title case of their own. -/
def capitalPairs : CharSet := [(0x1C4, 0x1C4), (0x1C7, 0x1C7), (0x1CA, 0x1CA), (0x1F1, 0x1F1)]

/-- Characters that conversion to title case changes. -/
def changesWhenTitlecased : CharSet :=
  union capitalPairs
    (diff changesWhenUppercased (union titlecaseConstant (ofRuns titlecaseLetter)))

/-- Letters whose capitals remain where case is folded. -/
def foldedToCapital : CharSet := [(0x13A0, 0x13F5)]

/-- Characters that case folding changes. -/
def changesWhenCasefolded : CharSet :=
  union foldedOnly (diff changesWhenLowercased foldedToCapital)

/-- Characters that some conversion of case changes. -/
def changesWhenCasemapped : CharSet :=
  unions [changesWhenLowercased, changesWhenUppercased, changesWhenTitlecased]

/-- Characters that are not shown where they are not supported. -/
def defaultIgnorable : CharSet :=
  diff (unions [otherDefaultIgnorable, ofRuns format, variationSelector])
    (unions [blanks, [(0xFFF9, 0xFFFB)], [(0x13430, 0x13440)], prependedConcatenationMark])

/-- Characters that extend the one before them. -/
def graphemeExtend : CharSet :=
  union otherGraphemeExtend (ofCategories [nonspacingMark, enclosingMark])

/-- Characters that others may extend. -/
def graphemeBase : CharSet :=
  diff assigned
    (union graphemeExtend
      (ofCategories [control, format, privateUse, lineSeparator, paragraphSeparator]))

/-- Characters that notations for patterns may use. -/
def patternCharacters : CharSet := union patternSyntax patternWhiteSpace

/-- Characters that start an identifier. -/
def identifierStart : CharSet :=
  diff (unions [letters, ofRuns letterNumber, otherIdentifierStart]) patternCharacters

/-- Characters of identifiers. -/
def identifierContinue : CharSet :=
  diff
    (unions [identifierStart, otherIdentifierContinue,
      ofCategories [nonspacingMark, spacingMark, decimalNumber, connectorPunctuation]])
    patternCharacters

/-- Characters that are no longer parts of an identifier after normalisation. -/
def unstableContinue : CharSet := [
  (0x37A, 0x37A), (0x309B, 0x309C), (0xFC5E, 0xFC63), (0xFDFA, 0xFDFB), (0xFE70, 0xFE70),
  (0xFE72, 0xFE72), (0xFE74, 0xFE74), (0xFE76, 0xFE76), (0xFE78, 0xFE78), (0xFE7A, 0xFE7A),
  (0xFE7C, 0xFE7C), (0xFE7E, 0xFE7E)]

/-- Characters that no longer start an identifier after normalisation. -/
def unstableStart : CharSet :=
  union unstableContinue [(0xE33, 0xE33), (0xEB3, 0xEB3), (0xFF9E, 0xFF9F)]

/-- Characters that start an identifier, also after normalisation. -/
def stableIdentifierStart : CharSet := diff identifierStart unstableStart

/-- Characters of identifiers, also after normalisation. -/
def stableIdentifierContinue : CharSet := diff identifierContinue unstableContinue

/-- Digits that stand above or below the line, and the signs among them, with the signs that start
an identifier in a mathematical notation. -/
def compatMathContinue : CharSet :=
  union compatMathStart
    [(0xB2, 0xB3), (0xB9, 0xB9), (0x2070, 0x2070), (0x2074, 0x207E), (0x2080, 0x208E)]

/-- Characters of formulas. -/
def math : CharSet := union (ofRuns mathSymbol) otherMath

end CharSet

end Pattern

end Guest
