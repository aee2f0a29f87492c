import Guest.Pattern.Age
import Guest.Pattern.ScriptExtension
import Guest.Pattern.Segmentation

/-!
# Names of sets of characters

Patterns refer to sets of characters by the names of categories, properties and scripts, or by a
property and one of its values.  Case, blanks, hyphens and underscores do not count in names, and
neither does the word "is" at their front.
-/

namespace Guest

namespace Pattern

/-- A name reduced to what counts. -/
def plainName (name : List Char) : String :=
  let reduce (s : List Char) : List Char :=
    (s.filter fun c => c.toNat < 0x80 && c != ' ' && c != '_' && c != '-').map Char.toLower
  match name with
  | i :: s :: rest =>
    if i.toLower = 'i' ∧ s.toLower = 's' then
      let plain := reduce rest
      String.ofList (if plain = ['c'] then ['i', 's', 'c'] else plain)
    else String.ofList (reduce name)
  | name => String.ofList (reduce name)

namespace CharSet

/-- Looks a plain name up in a table. -/
def lookup? (table : List (List String × CharSet)) (plain : String) : Option CharSet :=
  (table.find? fun entry => entry.1.any fun name => plainName name.toList == plain).map Prod.snd

/-- The categories and their groups. -/
def categories : List (List String × CharSet) := [
  (["L", "Letter"], letters),
  (["LC", "Cased_Letter"], casedLetters),
  (["Lu", "Uppercase_Letter"], ofRuns uppercaseLetter),
  (["Ll", "Lowercase_Letter"], ofRuns lowercaseLetter),
  (["Lt", "Titlecase_Letter"], ofRuns titlecaseLetter),
  (["Lm", "Modifier_Letter"], ofRuns modifierLetter),
  (["Lo", "Other_Letter"], ofRuns otherLetter),
  (["M", "Mark", "Combining_Mark"], marks),
  (["Mn", "Nonspacing_Mark"], ofRuns nonspacingMark),
  (["Mc", "Spacing_Mark"], ofRuns spacingMark),
  (["Me", "Enclosing_Mark"], ofRuns enclosingMark),
  (["N", "Number"], numbers),
  (["Nd", "Decimal_Number", "digit"], digits),
  (["Nl", "Letter_Number"], ofRuns letterNumber),
  (["No", "Other_Number"], ofRuns otherNumber),
  (["P", "Punctuation", "punct"], punctuation),
  (["Pc", "Connector_Punctuation"], ofRuns connectorPunctuation),
  (["Pd", "Dash_Punctuation"], ofRuns dashPunctuation),
  (["Ps", "Open_Punctuation"], ofRuns openPunctuation),
  (["Pe", "Close_Punctuation"], ofRuns closePunctuation),
  (["Pi", "Initial_Punctuation"], ofRuns initialPunctuation),
  (["Pf", "Final_Punctuation"], ofRuns finalPunctuation),
  (["Po", "Other_Punctuation"], ofRuns otherPunctuation),
  (["S", "Symbol"], symbols),
  (["Sm", "Math_Symbol"], ofRuns mathSymbol),
  (["Sc", "Currency_Symbol"], ofRuns currencySymbol),
  (["Sk", "Modifier_Symbol"], ofRuns modifierSymbol),
  (["So", "Other_Symbol"], ofRuns otherSymbol),
  (["Z", "Separator"], separators),
  (["Zs", "Space_Separator"], ofRuns spaceSeparator),
  (["Zl", "Line_Separator"], ofRuns lineSeparator),
  (["Zp", "Paragraph_Separator"], ofRuns paragraphSeparator),
  (["C", "Other"], union (ofCategories [control, format, privateUse]) unassigned),
  (["Cc", "Control", "cntrl"], ofRuns control),
  (["Cf", "Format"], ofRuns format),
  (["Co", "Private_Use"], ofRuns privateUse),
  (["Cn", "Unassigned"], unassigned),
  (["Any"], any),
  (["Assigned"], assigned),
  (["ASCII"], [(0, 0x7F)])]

/-- The properties that a character has or has not. -/
def properties : List (List String × CharSet) := [
  (["ASCII_Hex_Digit", "AHex"], asciiHexDigit),
  (["Alphabetic", "Alpha"], alphabetic),
  (["Bidi_Control", "Bidi_C"], bidiControl),
  (["Case_Ignorable", "CI"], caseIgnorable),
  (["Cased"], cased),
  (["Changes_When_Casefolded", "CWCF"], changesWhenCasefolded),
  (["Changes_When_Casemapped", "CWCM"], changesWhenCasemapped),
  (["Changes_When_Lowercased", "CWL"], changesWhenLowercased),
  (["Changes_When_Titlecased", "CWT"], changesWhenTitlecased),
  (["Changes_When_Uppercased", "CWU"], changesWhenUppercased),
  (["Dash"], dash),
  (["Default_Ignorable_Code_Point", "DI"], defaultIgnorable),
  (["Deprecated", "Dep"], deprecated),
  (["Diacritic", "Dia"], diacritic),
  (["Emoji"], emoji),
  (["Emoji_Component", "EComp"], emojiComponent),
  (["Emoji_Modifier", "EMod"], emojiModifier),
  (["Emoji_Modifier_Base", "EBase"], emojiModifierBase),
  (["Emoji_Presentation", "EPres"], emojiPresentation),
  (["Extended_Pictographic", "ExtPict"], extendedPictographic),
  (["Extender", "Ext"], extender),
  (["Grapheme_Base", "Gr_Base"], graphemeBase),
  (["Grapheme_Extend", "Gr_Ext"], graphemeExtend),
  (["Grapheme_Link", "Gr_Link"], graphemeLink),
  (["Hex_Digit", "Hex"], hexDigit),
  (["Hyphen"], hyphen),
  (["ID_Compat_Math_Continue"], compatMathContinue),
  (["ID_Compat_Math_Start"], compatMathStart),
  (["ID_Continue", "IDC"], identifierContinue),
  (["ID_Start", "IDS"], identifierStart),
  (["IDS_Binary_Operator", "IDSB"], binaryOperator),
  (["IDS_Trinary_Operator", "IDST"], trinaryOperator),
  (["IDS_Unary_Operator", "IDSU"], unaryOperator),
  (["Ideographic", "Ideo"], ideographic),
  (["Join_Control", "Join_C"], joinControl),
  (["Logical_Order_Exception", "LOE"], logicalOrderException),
  (["Lowercase", "Lower"], lowercase),
  (["Math"], math),
  (["Modifier_Combining_Mark", "MCM"], modifierCombiningMark),
  (["Noncharacter_Code_Point", "NChar"], noncharacter),
  (["Other_Alphabetic", "OAlpha"], otherAlphabetic),
  (["Other_Default_Ignorable_Code_Point", "ODI"], otherDefaultIgnorable),
  (["Other_Grapheme_Extend", "OGr_Ext"], otherGraphemeExtend),
  (["Other_ID_Continue", "OIDC"], otherIdentifierContinue),
  (["Other_ID_Start", "OIDS"], otherIdentifierStart),
  (["Other_Lowercase", "OLower"], otherLowercase),
  (["Other_Math", "OMath"], otherMath),
  (["Other_Uppercase", "OUpper"], otherUppercase),
  (["Pattern_Syntax", "Pat_Syn"], patternSyntax),
  (["Pattern_White_Space", "Pat_WS"], patternWhiteSpace),
  (["Prepended_Concatenation_Mark", "PCM"], prependedConcatenationMark),
  (["Quotation_Mark", "QMark"], quotationMark),
  (["Radical"], radical),
  (["Regional_Indicator", "RI"], regionalIndicator),
  (["Sentence_Terminal", "STerm"], sentenceTerminal),
  (["Soft_Dotted", "SD"], softDotted),
  (["Terminal_Punctuation", "Term"], terminalPunctuation),
  (["Unified_Ideograph", "UIdeo"], unifiedIdeograph),
  (["Uppercase", "Upper"], uppercase),
  (["Variation_Selector", "VS"], variationSelector),
  (["White_Space", "WSpace", "space"], blanks),
  (["XID_Continue", "XIDC"], stableIdentifierContinue),
  (["XID_Start", "XIDS"], stableIdentifierStart)]

/-- The script of a plain name or code. -/
def script? (plain : String) : Option Script :=
  Script.all.find? fun script =>
    plainName script.name.toList == plain || script.code.toLower == plain ||
      (script.code == "Copt" && plain == "qaac") || (script.code == "Zinh" && plain == "qaai")

/-- The set of a name: of a property, a category or a script. -/
def ofName? (name : List Char) : Option CharSet :=
  let plain := plainName name
  (lookup? properties plain).or ((lookup? categories plain).or ((script? plain).map Script.set))

/-- The characters for which a property has a value. -/
def ofValue? (property value : List Char) : Option CharSet :=
  let plain := plainName value
  match plainName property with
  | "gc" | "generalcategory" => lookup? categories plain
  | "sc" | "script" => (script? plain).map Script.set
  | "scx" | "scriptextensions" => (script? plain).map Script.extension
  | "age" => ageUpTo? plain additions
  | "gcb" | "graphemeclusterbreak" => lookup? graphemeClasses plain
  | "wb" | "wordbreak" => lookup? wordClasses plain
  | "sb" | "sentencebreak" => lookup? sentenceClasses plain
  | _ => none

/-- Decimal digits of ASCII. -/
def asciiDigits : CharSet := [(0x30, 0x39)]

/-- Word characters of ASCII. -/
def asciiWordCharacters : CharSet := [(0x30, 0x39), (0x41, 0x5A), (0x5F, 0x5F), (0x61, 0x7A)]

/-- Whitespace of ASCII. -/
def asciiBlanks : CharSet := [(0x09, 0x0D), (0x20, 0x20)]

/-- The classes that are written between brackets and colons. -/
def ofAsciiName? (name : List Char) : Option CharSet :=
  match String.ofList name with
  | "alnum" => some [(0x30, 0x39), (0x41, 0x5A), (0x61, 0x7A)]
  | "alpha" => some [(0x41, 0x5A), (0x61, 0x7A)]
  | "ascii" => some [(0, 0x7F)]
  | "blank" => some [(0x09, 0x09), (0x20, 0x20)]
  | "cntrl" => some [(0, 0x1F), (0x7F, 0x7F)]
  | "digit" => some [(0x30, 0x39)]
  | "graph" => some [(0x21, 0x7E)]
  | "lower" => some [(0x61, 0x7A)]
  | "print" => some [(0x20, 0x7E)]
  | "punct" => some [(0x21, 0x2F), (0x3A, 0x40), (0x5B, 0x60), (0x7B, 0x7E)]
  | "space" => some asciiBlanks
  | "upper" => some [(0x41, 0x5A)]
  | "word" => some asciiWordCharacters
  | "xdigit" => some [(0x30, 0x39), (0x41, 0x46), (0x61, 0x66)]
  | _ => none

end CharSet

end Pattern

end Guest
