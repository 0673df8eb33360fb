import RecordSearch.Unicode.Age
import RecordSearch.Unicode.CaseChange
import RecordSearch.Unicode.ScriptExtension
import RecordSearch.Unicode.Segmentation

/-!
# Properties by name

A class of characters can be asked for by the name of a property, a general category or a script,
and by a property together with its value.  Names are compared loosely: case, spaces, hyphens,
underscores and a leading `is` make no difference.  The classes are those of Unicode 16.
-/

namespace RecordSearch.Unicode

/-- The letters and other ASCII characters of a name that a comparison of names looks at. -/
def essentialPart (name : List Char) : List Char :=
  (name.filter fun c ↦ c.toNat < 0x80 && c != ' ' && c != '_' && c != '-').map Char.toLower

/-- The loose form of a name.  A leading `is` is dropped, except where only `c` would remain. -/
def looseName (name : List Char) : String :=
  match name with
  | i :: s :: rest =>
    if i.toLower = 'i' && s.toLower = 's' && essentialPart rest != ['c'] then
      String.ofList (essentialPart rest)
    else
      String.ofList (essentialPart name)
  | _ => String.ofList (essentialPart name)

/-- A property that holds or fails of each character, under its names in loose form. -/
structure BinaryProperty where
  names : List String
  members : CharClass

namespace BinaryProperty

def ofLetters : List BinaryProperty :=
  [
    ⟨["alphabetic", "alpha"], alphabetic⟩,
    ⟨["lowercase", "lower"], lowercaseCharacter⟩,
    ⟨["uppercase", "upper"], uppercaseCharacter⟩,
    ⟨["cased"], cased⟩,
    ⟨["caseignorable", "ci"], caseIgnorable⟩,
    ⟨["changeswhenlowercased", "cwl"], ofRuns lowered⟩,
    ⟨["changeswhenuppercased", "cwu"], ofRuns raised⟩,
    ⟨["changeswhentitlecased", "cwt"], changesInTitles⟩,
    ⟨["changeswhencasefolded", "cwcf"], changesWhenFolded⟩,
    ⟨["changeswhencasemapped", "cwcm"], changesWithCase⟩,
    ⟨["softdotted", "sd"], ofRuns softDotted⟩,
    ⟨["idstart", "ids"], idStart⟩,
    ⟨["idcontinue", "idc"], idContinue⟩,
    ⟨["xidstart", "xids"], normalizedIdStart⟩,
    ⟨["xidcontinue", "xidc"], normalizedIdContinue⟩,
    ⟨["idcompatmathstart"], ofRuns compatMathStart⟩,
    ⟨["idcompatmathcontinue"], ofRuns compatMathContinue⟩,
    ⟨["ideographic", "ideo"], ofRuns ideographs⟩,
    ⟨["unifiedideograph", "uideo"], ofRuns unifiedIdeographs⟩,
    ⟨["radical"], ofRuns radicals⟩,
    ⟨["logicalorderexception", "loe"], ofRuns logicalOrderExceptions⟩ ]

def ofSigns : List BinaryProperty :=
  [
    ⟨["asciihexdigit", "ahex"], asciiHexDigit⟩,
    ⟨["hexdigit", "hex"], ofRuns hexDigits⟩,
    ⟨["math"], mathematical⟩,
    ⟨["bidimirrored", "bidim"], ofRuns bidiMirrored⟩,
    ⟨["dash"], ofRuns dashes⟩,
    ⟨["hyphen"], ofRuns hyphens⟩,
    ⟨["quotationmark", "qmark"], ofRuns quotationMarks⟩,
    ⟨["terminalpunctuation", "term"], ofRuns terminalPunctuation⟩,
    ⟨["sentenceterminal", "sterm"], ofRuns sentenceTerminals⟩,
    ⟨["patternsyntax", "patsyn"], ofRuns patternSyntax⟩,
    ⟨["patternwhitespace", "patws"], ofRuns patternWhiteSpace⟩,
    ⟨["whitespace", "wspace", "space"], whiteSpace⟩,
    ⟨["idsunaryoperator", "idsu"], ofRuns unaryOperators⟩,
    ⟨["idsbinaryoperator", "idsb"], ofRuns binaryOperators⟩,
    ⟨["idstrinaryoperator", "idst"], ofRuns trinaryOperators⟩,
    ⟨["emoji"], ofRuns emoji⟩,
    ⟨["emojicomponent", "ecomp"], ofRuns emojiComponents⟩,
    ⟨["emojimodifier", "emod"], ofRuns emojiModifiers⟩,
    ⟨["emojimodifierbase", "ebase"], ofRuns emojiModifierBases⟩,
    ⟨["emojipresentation", "epres"], ofRuns emojiPresentation⟩,
    ⟨["extendedpictographic", "extpict"], ofRuns pictographs⟩,
    ⟨["regionalindicator", "ri"], ofRuns regionalIndicators⟩ ]

def ofMarks : List BinaryProperty :=
  [
    ⟨["diacritic", "dia"], ofRuns diacritics⟩,
    ⟨["extender", "ext"], ofRuns extenders⟩,
    ⟨["graphemebase", "grbase"], graphemeBase⟩,
    ⟨["graphemeextend", "grext"], graphemeExtend⟩,
    ⟨["graphemelink", "grlink"], ofRuns graphemeLinks⟩,
    ⟨["modifiercombiningmark", "mcm"], ofRuns modifierCombiningMarks⟩,
    ⟨["prependedconcatenationmark", "pcm"], ofRuns prependedMarks⟩,
    ⟨["variationselector", "vs"], ofRuns variationSelectors⟩,
    ⟨["bidicontrol", "bidic"], ofRuns bidiControls⟩,
    ⟨["joincontrol", "joinc"], joinControl⟩,
    ⟨["defaultignorablecodepoint", "di"], defaultIgnorable⟩,
    ⟨["deprecated", "dep"], ofRuns deprecated⟩,
    ⟨["noncharactercodepoint", "nchar"], noncharacter⟩ ]

def ofSupplements : List BinaryProperty :=
  [
    ⟨["otheralphabetic", "oalpha"], ofRuns otherAlphabetic⟩,
    ⟨["otherlowercase", "olower"], ofRuns otherLowercase⟩,
    ⟨["otheruppercase", "oupper"], ofRuns otherUppercase⟩,
    ⟨["othermath", "omath"], ofRuns otherMath⟩,
    ⟨["othergraphemeextend", "ogrext"], ofRuns otherGraphemeExtend⟩,
    ⟨["otherdefaultignorablecodepoint", "odi"], ofRuns otherDefaultIgnorable⟩,
    ⟨["otheridstart", "oids"], ofRuns otherIdStart⟩,
    ⟨["otheridcontinue", "oidc"], ofRuns otherIdContinue⟩ ]

def all : List BinaryProperty := ofLetters ++ ofSigns ++ ofMarks ++ ofSupplements

/-- The characters of the property with the given loose name. -/
def named? (name : String) : Option CharClass :=
  (all.find? fun property ↦ property.names.contains name).map members

end BinaryProperty

def category? (name : String) : Option CharClass :=
  if name = "ascii" then some fun c ↦ c.toNat < 0x80
  else (GeneralCategory.named? name).map ofCategories

def script? (name : String) : Option CharClass :=
  (Script.named? name).map fun script c ↦ script.contains c.toNat

/-- The characters that are used with a script. -/
def usedWithScript? (name : String) : Option CharClass :=
  (Script.named? name).map fun script c ↦ script.isUsedWith c.toNat

/-- The characters that were assigned at the time of an edition of the standard. -/
def assignedBy? (name : String) : Option CharClass :=
  (Age.upTo? name Age.all).map fun ages c ↦ ages.any fun age ↦ age.contains c.toNat

/-- The class with the given name: a property, else a category, else a script. -/
def property? (name : List Char) : Option CharClass :=
  let name := looseName name
  BinaryProperty.named? name <|> category? name <|> script? name

/-- The class of the characters that have the given value of the given property. -/
def propertyValue? (name value : List Char) : Option CharClass :=
  let value := looseName value
  match looseName name with
  | "generalcategory" | "gc" => category? value
  | "script" | "sc" => script? value
  | "scriptextensions" | "scx" => usedWithScript? value
  | "age" => assignedBy? value
  | "graphemeclusterbreak" | "gcb" => BreakRole.named? value graphemeRoles
  | "wordbreak" | "wb" => BreakRole.named? value wordRoles
  | "sentencebreak" | "sb" => BreakRole.named? value sentenceRoles
  | _ => none

end RecordSearch.Unicode
