import TypeGrading.Text.Blank
import TypeGrading.Unicode.Category
import TypeGrading.Unicode.Property.Table

/-!
# Properties

The properties of characters that hold or do not hold. Those that the standard derives from general
categories are derived here in the same way.

* `isAlphabetic`, `isLowercase`, `isGraphemeExtend` and so on: the derived properties;
* `isWord`: the characters of words;
* `Property.all`: all properties by name.
-/

namespace TypeGrading.Unicode

open Category (letters marks)

/-! ### Letters and case -/

/-- The general category of the character is one of those given. -/
def isIn (categories : List Category) (c : Char) : Bool := categories.contains (Category.of c)

/-- Lowercase letters and what else is lowercase. -/
def isLowercase (c : Char) : Bool :=
  isIn [.lowercaseLetter] c || Property.Table.otherLowercase.contains c

/-- Uppercase letters and what else is uppercase. -/
def isUppercase (c : Char) : Bool :=
  isIn [.uppercaseLetter] c || Property.Table.otherUppercase.contains c

/-- Letters of words and what is written like them. -/
def isAlphabetic (c : Char) : Bool :=
  isLowercase c || isUppercase c ||
    isIn [.titlecaseLetter, .modifierLetter, .otherLetter, .letterNumber] c ||
    Property.Table.otherAlphabetic.contains c

/-- Alphabetic characters and numbers. -/
def isAlphanumeric (c : Char) : Bool :=
  isAlphabetic c || isIn [.decimalNumber, .letterNumber, .otherNumber] c

/-- Characters of one of the cases. -/
def isCased (c : Char) : Bool :=
  isLowercase c || isUppercase c || isIn [.titlecaseLetter] c

/-- Characters that do not matter for what stands beside a cased one. -/
def isCaseIgnorable (c : Char) : Bool :=
  isIn [.nonspacingMark, .enclosingMark, .format, .modifierLetter, .modifierSymbol] c ||
    Property.Table.otherCaseIgnorable.contains c

/-- Characters with a lowercase mapping. -/
def changesWhenLowercased (c : Char) : Bool :=
  (isUppercase c || isIn [.titlecaseLetter] c) && !Property.Table.lowercaseFixed.contains c

/-- Characters with an uppercase mapping. -/
def changesWhenUppercased (c : Char) : Bool :=
  (isIn [.lowercaseLetter, .titlecaseLetter] c && !Property.Table.uppercaseFixed.contains c) ||
    Property.Table.otherUppercased.contains c

/-- Characters with a titlecase mapping. -/
def changesWhenTitlecased (c : Char) : Bool :=
  (changesWhenUppercased c && !Property.Table.titlecaseFixed.contains c) ||
    Property.Table.otherTitlecased.contains c

/-- Characters that case folding changes. -/
def changesWhenCasefolded (c : Char) : Bool :=
  (changesWhenLowercased c && !Property.Table.casefoldFixed.contains c) ||
    Property.Table.otherCasefolded.contains c

/-- Characters that some case mapping changes. -/
def changesWhenCasemapped (c : Char) : Bool :=
  changesWhenLowercased c || changesWhenUppercased c || changesWhenTitlecased c

/-! ### Graphemes, identifiers, words -/

/-- Characters that extend the grapheme in front of them. -/
def isGraphemeExtend (c : Char) : Bool :=
  isIn [.enclosingMark, .nonspacingMark] c || Property.Table.otherGraphemeExtend.contains c

/-- Characters that stand on their own in a grapheme. -/
def isGraphemeBase (c : Char) : Bool :=
  !isIn [.control, .format, .privateUse, .unassigned, .lineSeparator, .paragraphSeparator] c &&
    !isGraphemeExtend c

/-- Characters reserved for patterns. -/
def isForPatterns (c : Char) : Bool :=
  Property.Table.patternSyntax.contains c || Property.Table.patternWhiteSpace.contains c

/-- Characters at the start of identifiers. -/
def isIdStart (c : Char) : Bool :=
  (isIn (.letterNumber :: letters) c && !isForPatterns c) || Property.Table.otherIdStart.contains c

/-- Characters within identifiers. -/
def isIdContinue (c : Char) : Bool :=
  isIdStart c || Property.Table.otherIdContinue.contains c ||
    (isIn [.nonspacingMark, .spacingMark, .decimalNumber, .connectorPunctuation] c &&
      !isForPatterns c)

/-- Characters that are not shown where they are not supported. -/
def isDefaultIgnorable (c : Char) : Bool :=
  ((isIn [.format] c || Property.Table.variationSelector.contains c) &&
      !Property.Table.visibleFormat.contains c) ||
    Property.Table.otherIgnorable.contains c

/-- Mathematical symbols and what else is mathematical. -/
def isMath (c : Char) : Bool :=
  isIn [.mathSymbol] c || Property.Table.otherMath.contains c

/-- The characters that make up words: letters, marks, digits, connectors and joiners. -/
def isWord (c : Char) : Bool :=
  isAlphabetic c || isIn (.decimalNumber :: .connectorPunctuation :: marks) c ||
    Property.Table.joinControl.contains c

/-! ### By name -/

namespace Property

open Property.Table in
/-- The properties that are listed in tables. -/
def listed : List (List String × Ranges) := [
  (["ASCII_Hex_Digit", "AHex"], asciiHexDigit), (["Bidi_Control", "Bidi_C"], bidiControl),
  (["Bidi_Mirrored", "Bidi_M"], bidiMirrored), (["Dash"], dash),
  (["Deprecated", "Dep"], deprecated), (["Diacritic", "Dia"], diacritic), (["Emoji"], emoji),
  (["Emoji_Component", "EComp"], emojiComponent), (["Emoji_Modifier", "EMod"], emojiModifier),
  (["Emoji_Modifier_Base", "EBase"], emojiModifierBase),
  (["Emoji_Presentation", "EPres"], emojiPresentation),
  (["Extended_Pictographic", "ExtPict"], extendedPictographic), (["Extender", "Ext"], extender),
  (["Hex_Digit", "Hex"], hexDigit), (["Hyphen"], hyphen),
  (["IDS_Binary_Operator", "IDSB"], idsBinaryOperator),
  (["IDS_Trinary_Operator", "IDST"], idsTrinaryOperator),
  (["IDS_Unary_Operator", "IDSU"], idsUnaryOperator), (["Ideographic", "Ideo"], ideographic),
  (["Join_Control", "Join_C"], joinControl),
  (["Logical_Order_Exception", "LOE"], logicalOrderException),
  (["Noncharacter_Code_Point", "NChar"], noncharacter),
  (["Other_Alphabetic", "OAlpha"], otherAlphabetic),
  (["Other_Default_Ignorable_Code_Point", "ODI"], otherIgnorable),
  (["Other_Grapheme_Extend", "OGr_Ext"], otherGraphemeExtend),
  (["Other_ID_Continue", "OIDC"], otherIdContinue), (["Other_ID_Start", "OIDS"], otherIdStart),
  (["Other_Lowercase", "OLower"], otherLowercase), (["Other_Math", "OMath"], otherMath),
  (["Other_Uppercase", "OUpper"], otherUppercase),
  (["Pattern_Syntax", "Pat_Syn"], patternSyntax),
  (["Pattern_White_Space", "Pat_WS"], patternWhiteSpace),
  (["Prepended_Concatenation_Mark", "PCM"], prependedConcatenationMark),
  (["Quotation_Mark", "QMark"], quotationMark), (["Radical"], radical),
  (["Regional_Indicator", "RI"], regionalIndicator),
  (["Sentence_Terminal", "STerm"], sentenceTerminal), (["Soft_Dotted", "SD"], softDotted),
  (["Terminal_Punctuation", "Term"], terminalPunctuation),
  (["Unified_Ideograph", "UIdeo"], unifiedIdeograph),
  (["Variation_Selector", "VS"], variationSelector)]

/-- The properties that are derived from others. -/
def derived : List (List String × (Char → Bool)) := [
  (["Alphabetic", "Alpha"], isAlphabetic), (["Case_Ignorable", "CI"], isCaseIgnorable),
  (["Cased"], isCased), (["Changes_When_Casefolded", "CWCF"], changesWhenCasefolded),
  (["Changes_When_Casemapped", "CWCM"], changesWhenCasemapped),
  (["Changes_When_Lowercased", "CWL"], changesWhenLowercased),
  (["Changes_When_Titlecased", "CWT"], changesWhenTitlecased),
  (["Changes_When_Uppercased", "CWU"], changesWhenUppercased),
  (["Default_Ignorable_Code_Point", "DI"], isDefaultIgnorable),
  (["Grapheme_Base", "Gr_Base"], isGraphemeBase),
  (["Grapheme_Extend", "Gr_Ext"], isGraphemeExtend), (["ID_Continue", "IDC"], isIdContinue),
  (["ID_Start", "IDS"], isIdStart), (["Lowercase", "Lower"], isLowercase),
  (["Math"], isMath), (["Uppercase", "Upper"], isUppercase),
  (["White_Space", "WSpace", "space"], Text.isBlank),
  (["XID_Continue", "XIDC"], fun c => isIdContinue c && !Table.unstableIdContinue.contains c),
  (["XID_Start", "XIDS"], fun c => isIdStart c && !Table.unstableIdStart.contains c)]

/-- All properties by their names. -/
def all : List (List String × (Char → Bool)) :=
  derived ++ listed.map fun (names, ranges) => (names, ranges.contains)

end Property

end TypeGrading.Unicode
