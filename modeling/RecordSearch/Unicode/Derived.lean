import RecordSearch.Unicode.GeneralCategory
import RecordSearch.Unicode.Listed
import RecordSearch.Unicode.Supplement

/-!
# Derived properties

The properties of Unicode 16 that the standard derives from the general categories and from lists
of further characters.  Patterns are read by these classes.
-/

namespace RecordSearch.Unicode

def ofCategories (categories : List GeneralCategory) : CharClass :=
  fun c ↦ categories.any fun category ↦ category.contains c.toNat

def alphabetic : CharClass := fun c ↦
  let code := c.toNat
  inRuns lowercaseLetters code || inRuns uppercaseLetters code || inRuns otherLetters code ||
    inRuns titlecaseLetters code || inRuns modifierLetters code || inRuns letterNumbers code ||
    inRuns otherAlphabetic code

def decimalDigit : CharClass := ofRuns decimalDigits

/-- `Join_Control`: the zero width joiner and non-joiner. -/
def joinControl : CharClass := fun c ↦ c.toNat == 0x200C || c.toNat == 0x200D

def mark : CharClass := fun c ↦
  inRuns nonspacingMarks c.toNat || inRuns spacingMarks c.toNat || inRuns enclosingMarks c.toNat

/-- A character that can be part of a word: alphabetic characters, marks, digits, connecting
punctuation and joiners. -/
def wordCharacter : CharClass := fun c ↦
  alphabetic c || decimalDigit c || mark c || inRuns connectorPunctuation c.toNat || joinControl c

def uppercaseCharacter : CharClass := fun c ↦
  inRuns uppercaseLetters c.toNat || inRuns otherUppercase c.toNat

def lowercaseCharacter : CharClass := fun c ↦
  inRuns lowercaseLetters c.toNat || inRuns otherLowercase c.toNat

def cased : CharClass := fun c ↦
  lowercaseCharacter c || uppercaseCharacter c || inRuns titlecaseLetters c.toNat

/-- `Case_Ignorable`: the characters that are passed over when the case of a letter depends on its
neighbours. -/
def caseIgnorable : CharClass := fun c ↦
  let code := c.toNat
  inRuns nonspacingMarks code || inRuns enclosingMarks code || inRuns formatCharacters code ||
    inRuns modifierLetters code || inRuns modifierSymbols code || inRuns innerPunctuation code

def mathematical : CharClass := fun c ↦ inRuns mathSymbols c.toNat || inRuns otherMath c.toNat

/-- `White_Space`: the characters that separate words. -/
def whiteSpace : CharClass := fun c ↦
  let code := c.toNat
  (0x9 ≤ code && code ≤ 0xD) || code == 0x20 || code == 0x85 || code == 0xA0 || code == 0x1680 ||
    (0x2000 ≤ code && code ≤ 0x200A) || code == 0x2028 || code == 0x2029 || code == 0x202F ||
    code == 0x205F || code == 0x3000

/-- `Noncharacter_Code_Point`: the code points that will never be assigned. -/
def noncharacter : CharClass := fun c ↦
  0xFFFE ≤ c.toNat % 0x10000 || (0xFDD0 ≤ c.toNat && c.toNat ≤ 0xFDEF)

def asciiHexDigit : CharClass := fun c ↦ c.isDigit || ('a' ≤ c.toLower && c.toLower ≤ 'f')

/-- `Default_Ignorable_Code_Point`: the characters that are not shown.  Format characters are among
them unless they stand for something visible. -/
def defaultIgnorable : CharClass := fun c ↦
  let code := c.toNat
  let visible := (0xFFF9 ≤ code && code ≤ 0xFFFB) || (0x13430 ≤ code && code ≤ 0x1343F) ||
    inRuns prependedMarks code
  inRuns otherDefaultIgnorable code || inRuns variationSelectors code ||
    (inRuns formatCharacters code && !visible)

/-- `Grapheme_Extend`: the characters that extend the user-perceived character before. -/
def graphemeExtend : CharClass := fun c ↦
  let code := c.toNat
  inRuns nonspacingMarks code || inRuns enclosingMarks code || inRuns otherGraphemeExtend code

/-- `Grapheme_Base`: the assigned and visible characters that extend no other. -/
def graphemeBase : CharClass := fun c ↦
  !graphemeExtend c &&
    !ofCategories (.lineSeparator :: .paragraphSeparator :: GeneralCategory.others) c

/-- The characters of pattern languages, which no identifier contains. -/
def reservedForPatterns : CharClass := fun c ↦
  inRuns patternSyntax c.toNat || inRuns patternWhiteSpace c.toNat

/-- `ID_Start`: the characters that start identifiers. -/
def idStart : CharClass := fun c ↦
  (ofCategories (.letterNumber :: GeneralCategory.letters) c || inRuns otherIdStart c.toNat) &&
    !reservedForPatterns c

/-- `ID_Continue`: the characters of identifiers. -/
def idContinue : CharClass := fun c ↦
  idStart c ||
    ((ofCategories [.nonspacingMark, .spacingMark, .decimalDigit, .connectorPunctuation] c ||
      inRuns otherIdContinue c.toNat) && !reservedForPatterns c)

/-- `XID_Start`: the characters that start the identifiers of a normalized text. -/
def normalizedIdStart : CharClass := fun c ↦
  idStart c && !inRuns openingCompatibility c.toNat

/-- `XID_Continue`: the characters of the identifiers of a normalized text. -/
def normalizedIdContinue : CharClass := fun c ↦
  idContinue c && !inRuns innerCompatibility c.toNat

end RecordSearch.Unicode
