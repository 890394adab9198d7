import TypeGrading.Unicode.Category.Table
import TypeGrading.Unicode.Ranges

/-!
# General categories

Every character has one general category.

* `Category`: the categories of characters; surrogates are no characters;
* `Category.of`: the category of a character;
* `Category.Group`, `Group.contains`: sets of categories that have names.
-/

namespace TypeGrading.Unicode

/-- The general category of a character. -/
inductive Category
  | uppercaseLetter | lowercaseLetter | titlecaseLetter | modifierLetter | otherLetter
  | nonspacingMark | spacingMark | enclosingMark
  | decimalNumber | letterNumber | otherNumber
  | connectorPunctuation | dashPunctuation | openPunctuation | closePunctuation
  | initialPunctuation | finalPunctuation | otherPunctuation
  | mathSymbol | currencySymbol | modifierSymbol | otherSymbol
  | spaceSeparator | lineSeparator | paragraphSeparator
  | control | format | privateUse | unassigned
  deriving DecidableEq, Repr

namespace Category

/-- Every category with its abbreviation and its name. -/
def names : List (String × String × Category) := [
  ("Lu", "Uppercase_Letter", .uppercaseLetter), ("Ll", "Lowercase_Letter", .lowercaseLetter),
  ("Lt", "Titlecase_Letter", .titlecaseLetter), ("Lm", "Modifier_Letter", .modifierLetter),
  ("Lo", "Other_Letter", .otherLetter), ("Mn", "Nonspacing_Mark", .nonspacingMark),
  ("Mc", "Spacing_Mark", .spacingMark), ("Me", "Enclosing_Mark", .enclosingMark),
  ("Nd", "Decimal_Number", .decimalNumber), ("Nl", "Letter_Number", .letterNumber),
  ("No", "Other_Number", .otherNumber), ("Pc", "Connector_Punctuation", .connectorPunctuation),
  ("Pd", "Dash_Punctuation", .dashPunctuation), ("Ps", "Open_Punctuation", .openPunctuation),
  ("Pe", "Close_Punctuation", .closePunctuation),
  ("Pi", "Initial_Punctuation", .initialPunctuation),
  ("Pf", "Final_Punctuation", .finalPunctuation),
  ("Po", "Other_Punctuation", .otherPunctuation), ("Sm", "Math_Symbol", .mathSymbol),
  ("Sc", "Currency_Symbol", .currencySymbol), ("Sk", "Modifier_Symbol", .modifierSymbol),
  ("So", "Other_Symbol", .otherSymbol), ("Zs", "Space_Separator", .spaceSeparator),
  ("Zl", "Line_Separator", .lineSeparator), ("Zp", "Paragraph_Separator", .paragraphSeparator),
  ("Cc", "Control", .control), ("Cf", "Format", .format), ("Co", "Private_Use", .privateUse),
  ("Cn", "Unassigned", .unassigned)]

/-- The category of an abbreviation. -/
def ofAbbreviation (s : String) : Category := ((names.lookup s).map (·.2)).getD .unassigned

/-- The first code point of a run with the category of the run. -/
def ofWord (s : String) : Nat × Category :=
  match s.splitOn ":" with
  | [first, abbreviation] => (codePoint first, ofAbbreviation abbreviation)
  | _ => (0, .unassigned)

/-- The runs of one category by their first code points. -/
def table : SortedTable Category := ⟨((words runs).map ofWord).toArray⟩

/-- The category of a character. -/
def of (c : Char) : Category := ((table.floor? c.toNat).map (·.2)).getD .unassigned

/-! ### Groups -/

/-- The letters. -/
def letters : List Category :=
  [.uppercaseLetter, .lowercaseLetter, .titlecaseLetter, .modifierLetter, .otherLetter]

/-- The marks. -/
def marks : List Category := [.nonspacingMark, .spacingMark, .enclosingMark]

/-- The groups of categories that have names. -/
def groups : List (List String × List Category) := [
  (["LC", "Cased_Letter"], [.uppercaseLetter, .lowercaseLetter, .titlecaseLetter]),
  (["L", "Letter"], letters),
  (["M", "Mark", "Combining_Mark"], marks),
  (["N", "Number"], [.decimalNumber, .letterNumber, .otherNumber]),
  (["P", "Punctuation", "punct"], [.connectorPunctuation, .dashPunctuation, .openPunctuation,
    .closePunctuation, .initialPunctuation, .finalPunctuation, .otherPunctuation]),
  (["S", "Symbol"], [.mathSymbol, .currencySymbol, .modifierSymbol, .otherSymbol]),
  (["Z", "Separator"], [.spaceSeparator, .lineSeparator, .paragraphSeparator]),
  (["C", "Other"], [.control, .format, .privateUse, .unassigned]),
  (["digit"], [.decimalNumber]),
  (["cntrl"], [.control])]

/-- All names of sets of categories, single categories included. -/
def allNames : List (List String × List Category) :=
  names.map (fun (short, long, category) => ([short, long], [category])) ++ groups

end Category

end TypeGrading.Unicode
