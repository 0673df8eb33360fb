import RecordSearch.Unicode.Derived
import RecordSearch.Unicode.Emoji
import RecordSearch.Unicode.Ideograph
import RecordSearch.Unicode.Script

/-!
# Segmentation of texts

The standard cuts texts into user-perceived characters, words and sentences by giving each
character a role.  The roles of Unicode 16 are derived here from other properties and a few lists.
The characters that have none of the listed roles cannot be asked for.
-/

namespace RecordSearch.Unicode

/-- The role of a character in the segmentation of a text, under its names in loose form. -/
structure BreakRole where
  names : List String
  members : CharClass

def only (char : Char) : CharClass := fun c ↦ c == char

def between (first last : Nat) : CharClass := fun c ↦ first ≤ c.toNat && c.toNat ≤ last

def inScript (name : String) : CharClass := fun c ↦
  (Script.named? name).any fun script ↦ script.contains c.toNat

/-- Signs before a number other than the Syriac abbreviation mark, which stands before letters. -/
def prependedNumberSign : CharClass := fun c ↦
  inRuns prependedMarks c.toNat && c.toNat != 0x70F

/-! ## User-perceived characters -/

/-- Consonants that are written before the character that they belong to. -/
def prefixedConsonants : List Run :=
  [
    ⟨0x0D4E, 0x0D4E, 1⟩, ⟨0x111C2, 0x111C3, 1⟩, ⟨0x113D1, 0x113D1, 1⟩, ⟨0x1193F, 0x1193F, 1⟩,
    ⟨0x11941, 0x11941, 1⟩, ⟨0x11A3A, 0x11A3A, 1⟩, ⟨0x11A84, 0x11A89, 1⟩, ⟨0x11D46, 0x11D46, 1⟩,
    ⟨0x11F02, 0x11F02, 1⟩ ]

/-- Spacing marks that do not belong to the character before. -/
def separateMarks : List Run :=
  [
    ⟨0x102B, 0x102C, 1⟩, ⟨0x1038, 0x1038, 1⟩, ⟨0x1062, 0x1064, 1⟩, ⟨0x1067, 0x106D, 1⟩,
    ⟨0x1083, 0x1083, 1⟩, ⟨0x1087, 0x108C, 1⟩, ⟨0x108F, 0x108F, 1⟩, ⟨0x109A, 0x109C, 1⟩,
    ⟨0x1A61, 0x1A61, 1⟩, ⟨0x1A63, 0x1A64, 1⟩, ⟨0xAA7B, 0xAA7B, 1⟩, ⟨0xAA7D, 0xAA7D, 1⟩,
    ⟨0x11720, 0x11721, 1⟩ ]

def graphemeExtension : CharClass := fun c ↦ graphemeExtend c || inRuns emojiModifiers c.toNat

/-- Characters that stand for themselves and show nothing, line ends apart. -/
def graphemeControl : CharClass := fun c ↦
  (ofCategories [.lineSeparator, .paragraphSeparator, .control, .format] c ||
      (ofCategories [.unassigned] c && defaultIgnorable c)) &&
    c != '\r' && c != '\n' && !joinControl c && !inRuns prependedMarks c.toNat &&
    !graphemeExtend c

/-- Spacing marks that belong to the character before, and two vowels that do. -/
def graphemeSpacingMark : CharClass := fun c ↦
  (inRuns spacingMarks c.toNat && !graphemeExtension c && !inRuns separateMarks c.toNat) ||
    c.toNat == 0xE33 || c.toNat == 0xEB3

/-- Syllables of two letters, and of three where `final` holds. -/
def hangulSyllable (final : Bool) : CharClass := fun c ↦
  between 0xAC00 0xD7A3 c && ((c.toNat - 0xAC00) % 28 != 0) == final

def graphemeRoles : List BreakRole :=
  [
    ⟨["cr"], only '\r'⟩,
    ⟨["lf"], only '\n'⟩,
    ⟨["control", "cn"], graphemeControl⟩,
    ⟨["extend", "ex"], graphemeExtension⟩,
    ⟨["zwj"], only '\u200D'⟩,
    ⟨["regionalindicator", "ri"], ofRuns regionalIndicators⟩,
    ⟨["prepend", "pp"], fun c ↦ inRuns prependedMarks c.toNat || inRuns prefixedConsonants c.toNat⟩,
    ⟨["spacingmark", "sm"], graphemeSpacingMark⟩,
    ⟨["l"], fun c ↦ between 0x1100 0x115F c || between 0xA960 0xA97C c⟩,
    ⟨["v"], fun c ↦ between 0x1160 0x11A7 c || between 0xD7B0 0xD7C6 c || c.toNat == 0x16D63 ||
      between 0x16D67 0x16D6A c⟩,
    ⟨["t"], fun c ↦ between 0x11A8 0x11FF c || between 0xD7CB 0xD7FB c⟩,
    ⟨["lv"], hangulSyllable false⟩,
    ⟨["lvt"], hangulSyllable true⟩ ]

/-! ## Words -/

/-- Letters of words that are not alphabetic. -/
def otherWordLetters : List Run :=
  [
    ⟨0x02C2, 0x02C5, 1⟩, ⟨0x02D2, 0x02D7, 1⟩, ⟨0x02DE, 0x02DF, 1⟩, ⟨0x02E5, 0x02EB, 1⟩,
    ⟨0x02ED, 0x02ED, 1⟩, ⟨0x02EF, 0x02FF, 1⟩, ⟨0x055A, 0x055C, 1⟩, ⟨0x055E, 0x055E, 1⟩,
    ⟨0x058A, 0x058A, 1⟩, ⟨0x05F3, 0x05F3, 1⟩, ⟨0x070F, 0x070F, 1⟩, ⟨0xA708, 0xA716, 1⟩,
    ⟨0xA720, 0xA721, 1⟩, ⟨0xA789, 0xA78A, 1⟩, ⟨0xAB5B, 0xAB5B, 1⟩ ]

def middleOfLetters : List Run :=
  [
    ⟨0x003A, 0x003A, 1⟩, ⟨0x00B7, 0x00B7, 1⟩, ⟨0x0387, 0x0387, 1⟩, ⟨0x055F, 0x055F, 1⟩,
    ⟨0x05F4, 0x05F4, 1⟩, ⟨0x2027, 0x2027, 1⟩, ⟨0xFE13, 0xFE13, 1⟩, ⟨0xFE55, 0xFE55, 1⟩,
    ⟨0xFF1A, 0xFF1A, 1⟩ ]

def middleOfDigits : List Run :=
  [
    ⟨0x002C, 0x002C, 1⟩, ⟨0x003B, 0x003B, 1⟩, ⟨0x037E, 0x037E, 1⟩, ⟨0x0589, 0x0589, 1⟩,
    ⟨0x060C, 0x060D, 1⟩, ⟨0x066C, 0x066C, 1⟩, ⟨0x07F8, 0x07F8, 1⟩, ⟨0x2044, 0x2044, 1⟩,
    ⟨0xFE10, 0xFE10, 1⟩, ⟨0xFE14, 0xFE14, 1⟩, ⟨0xFE50, 0xFE50, 1⟩, ⟨0xFE54, 0xFE54, 1⟩,
    ⟨0xFF0C, 0xFF0C, 1⟩, ⟨0xFF1B, 0xFF1B, 1⟩ ]

def middleOfBoth : List Run :=
  [
    ⟨0x002E, 0x002E, 1⟩, ⟨0x2018, 0x2019, 1⟩, ⟨0x2024, 0x2024, 1⟩, ⟨0xFE52, 0xFE52, 1⟩,
    ⟨0xFF07, 0xFF07, 1⟩, ⟨0xFF0E, 0xFF0E, 1⟩ ]

def wordExtension : CharClass := fun c ↦
  graphemeExtend c || inRuns spacingMarks c.toNat || inRuns emojiModifiers c.toNat

def wordFormat : CharClass := fun c ↦
  inRuns formatCharacters c.toNat && c.toNat != 0x200B && !joinControl c && !graphemeExtend c &&
    !inRuns prependedMarks c.toNat

def katakana : CharClass := fun c ↦
  inScript "katakana" c || between 0x3031 0x3035 c || between 0x309B 0x309C c ||
    c.toNat == 0x30A0 || c.toNat == 0x30FC || c.toNat == 0xFF70

def hebrewLetter : CharClass := fun c ↦ inScript "hebrew" c && inRuns otherLetters c.toNat

/-- The scripts that separate words in a way that depends on a dictionary. -/
def dictionaryScripts : List String :=
  ["thai", "lao", "khmer", "myanmar", "taile", "newtailue", "taitham", "taiviet", "ahom"]

/-- The letters of words that are separated by other characters. -/
def wordLetter : CharClass := fun c ↦
  (alphabetic c || inRuns otherWordLetters c.toNat) && !inRuns ideographs c.toNat &&
    !katakana c && !inScript "hiragana" c && !wordExtension c && !hebrewLetter c &&
    !dictionaryScripts.any fun name ↦ inScript name c

def wordRoles : List BreakRole :=
  [
    ⟨["cr"], only '\r'⟩,
    ⟨["lf"], only '\n'⟩,
    ⟨["newline", "nl"], fun c ↦ between 0xB 0xC c || c.toNat == 0x85 || between 0x2028 0x2029 c⟩,
    ⟨["extend"], wordExtension⟩,
    ⟨["zwj"], only '\u200D'⟩,
    ⟨["regionalindicator", "ri"], ofRuns regionalIndicators⟩,
    ⟨["format", "fo"], wordFormat⟩,
    ⟨["katakana", "ka"], katakana⟩,
    ⟨["hebrewletter", "hl"], hebrewLetter⟩,
    ⟨["aletter", "le"], wordLetter⟩,
    ⟨["singlequote", "sq"], only '\''⟩,
    ⟨["doublequote", "dq"], only '"'⟩,
    ⟨["midnumlet", "mb"], ofRuns middleOfBoth⟩,
    ⟨["midletter", "ml"], ofRuns middleOfLetters⟩,
    ⟨["midnum", "mn"], ofRuns middleOfDigits⟩,
    ⟨["numeric", "nu"], fun c ↦ decimalDigit c || c.toNat == 0x66B || prependedNumberSign c⟩,
    ⟨["extendnumlet", "ex"], fun c ↦ inRuns connectorPunctuation c.toNat || c.toNat == 0x202F⟩,
    ⟨["wsegspace"], fun c ↦ inRuns spaceSeparators c.toNat && c.toNat != 0xA0 &&
      c.toNat != 0x2007 && c.toNat != 0x202F⟩ ]

/-! ## Sentences -/

/-- Quotation marks that are neither opening nor closing punctuation. -/
def ornamentalQuotes : List Run :=
  [
    ⟨0x0022, 0x0022, 1⟩, ⟨0x0027, 0x0027, 1⟩, ⟨0x275B, 0x2760, 1⟩, ⟨0x2E00, 0x2E01, 1⟩,
    ⟨0x2E06, 0x2E08, 1⟩, ⟨0x2E0B, 0x2E0B, 1⟩, ⟨0x1F676, 0x1F678, 1⟩ ]

def continuations : List Run :=
  [
    ⟨0x002C, 0x002D, 1⟩, ⟨0x003A, 0x003B, 1⟩, ⟨0x037E, 0x037E, 1⟩, ⟨0x055D, 0x055D, 1⟩,
    ⟨0x060C, 0x060D, 1⟩, ⟨0x07F8, 0x07F8, 1⟩, ⟨0x1802, 0x1802, 1⟩, ⟨0x1808, 0x1808, 1⟩,
    ⟨0x2013, 0x2014, 1⟩, ⟨0x3001, 0x3001, 1⟩, ⟨0xFE10, 0xFE11, 1⟩, ⟨0xFE13, 0xFE14, 1⟩,
    ⟨0xFE31, 0xFE32, 1⟩, ⟨0xFE50, 0xFE51, 1⟩, ⟨0xFE54, 0xFE55, 1⟩, ⟨0xFE58, 0xFE58, 1⟩,
    ⟨0xFE63, 0xFE63, 1⟩, ⟨0xFF0C, 0xFF0D, 1⟩, ⟨0xFF1A, 0xFF1B, 1⟩, ⟨0xFF64, 0xFF64, 1⟩ ]

def paragraphEnd : CharClass := fun c ↦ c.toNat == 0x85 || between 0x2028 0x2029 c

def sentenceExtension : CharClass := fun c ↦
  graphemeExtend c || inRuns spacingMarks c.toNat || c.toNat == 0x200D

def sentenceFormat : CharClass := fun c ↦
  inRuns formatCharacters c.toNat && !joinControl c && !graphemeExtend c &&
    !inRuns prependedMarks c.toNat

/-- The letters that tell that a sentence goes on.  Georgian letters tell nothing: a sentence
starts with the same letters. -/
def sentenceLower : CharClass := fun c ↦
  lowercaseCharacter c && !graphemeExtend c && !between 0x10D0 0x10FA c &&
    !between 0x10FD 0x10FF c

/-- The letters with which a sentence may start. -/
def sentenceUpper : CharClass := fun c ↦
  (uppercaseCharacter c || inRuns titlecaseLetters c.toNat) && !between 0x1C90 0x1CBA c &&
    !between 0x1CBD 0x1CBF c

def sentenceLetter : CharClass := fun c ↦
  (alphabetic c || c.toNat == 0x5F3 || c.toNat == 0x70F) && !sentenceLower c &&
    !sentenceUpper c && !sentenceExtension c

/-- Full stops that may also mark an abbreviation. -/
def ambiguousStop : CharClass := fun c ↦
  c == '.' || c.toNat == 0x2024 || c.toNat == 0xFE52 || c.toNat == 0xFF0E

def sentenceRoles : List BreakRole :=
  [
    ⟨["cr"], only '\r'⟩,
    ⟨["lf"], only '\n'⟩,
    ⟨["extend", "ex"], sentenceExtension⟩,
    ⟨["sep", "se"], paragraphEnd⟩,
    ⟨["format", "fo"], sentenceFormat⟩,
    ⟨["sp"], fun c ↦ whiteSpace c && !paragraphEnd c && c != '\r' && c != '\n'⟩,
    ⟨["lower", "lo"], sentenceLower⟩,
    ⟨["upper", "up"], sentenceUpper⟩,
    ⟨["oletter", "le"], sentenceLetter⟩,
    ⟨["numeric", "nu"], fun c ↦ decimalDigit c || between 0x66B 0x66C c || prependedNumberSign c⟩,
    ⟨["aterm", "at"], ambiguousStop⟩,
    ⟨["sterm", "st"], fun c ↦ inRuns sentenceTerminals c.toNat && !ambiguousStop c⟩,
    ⟨["scontinue", "sc"], ofRuns continuations⟩,
    ⟨["close", "cl"], fun c ↦ inRuns ornamentalQuotes c.toNat || ofCategories
      [.openPunctuation, .closePunctuation, .initialPunctuation, .finalPunctuation] c⟩ ]

def BreakRole.named? (name : String) (roles : List BreakRole) : Option CharClass :=
  (roles.find? fun role ↦ role.names.contains name).map BreakRole.members

end RecordSearch.Unicode
