import RecordSearch.Unicode.Letter
import RecordSearch.Unicode.Mark
import RecordSearch.Unicode.Number
import RecordSearch.Unicode.Punctuation
import RecordSearch.Unicode.Symbol
import RecordSearch.Unicode.Separator

/-!
# General categories

Each character has one general category, and the standard gives short and long names to the
categories and to their groups.  Surrogates are left out: they are no characters.
-/

namespace RecordSearch.Unicode

inductive GeneralCategory
  | uppercaseLetter | lowercaseLetter | titlecaseLetter | modifierLetter | otherLetter
  | nonspacingMark | spacingMark | enclosingMark
  | decimalDigit | letterNumber | otherNumber
  | connectorPunctuation | dashPunctuation | openPunctuation | closePunctuation
  | initialPunctuation | finalPunctuation | otherPunctuation
  | mathSymbol | currencySymbol | modifierSymbol | otherSymbol
  | spaceSeparator | lineSeparator | paragraphSeparator
  | control | format | privateUse | unassigned
deriving Repr, DecidableEq

namespace GeneralCategory

def letters : List GeneralCategory :=
  [uppercaseLetter, lowercaseLetter, titlecaseLetter, modifierLetter, otherLetter]

/-- The letters that have a case of their own. -/
def casedLetters : List GeneralCategory := [uppercaseLetter, lowercaseLetter, titlecaseLetter]

def marks : List GeneralCategory := [nonspacingMark, spacingMark, enclosingMark]

def numbers : List GeneralCategory := [decimalDigit, letterNumber, otherNumber]

def punctuation : List GeneralCategory :=
  [connectorPunctuation, dashPunctuation, openPunctuation, closePunctuation, initialPunctuation,
    finalPunctuation, otherPunctuation]

def symbols : List GeneralCategory := [mathSymbol, currencySymbol, modifierSymbol, otherSymbol]

def separators : List GeneralCategory := [spaceSeparator, lineSeparator, paragraphSeparator]

/-- The categories that stand for no visible character. -/
def others : List GeneralCategory := [control, format, privateUse, unassigned]

def assigned : List GeneralCategory :=
  letters ++ marks ++ numbers ++ punctuation ++ symbols ++ separators ++
    [control, format, privateUse]

def runs : GeneralCategory → List Run
  | uppercaseLetter => uppercaseLetters
  | lowercaseLetter => lowercaseLetters
  | titlecaseLetter => titlecaseLetters
  | modifierLetter => modifierLetters
  | otherLetter => otherLetters
  | nonspacingMark => nonspacingMarks
  | spacingMark => spacingMarks
  | enclosingMark => enclosingMarks
  | decimalDigit => decimalDigits
  | letterNumber => letterNumbers
  | otherNumber => otherNumbers
  | connectorPunctuation => Unicode.connectorPunctuation
  | dashPunctuation => Unicode.dashPunctuation
  | openPunctuation => Unicode.openPunctuation
  | closePunctuation => Unicode.closePunctuation
  | initialPunctuation => Unicode.initialPunctuation
  | finalPunctuation => Unicode.finalPunctuation
  | otherPunctuation => Unicode.otherPunctuation
  | mathSymbol => mathSymbols
  | currencySymbol => currencySymbols
  | modifierSymbol => modifierSymbols
  | otherSymbol => otherSymbols
  | spaceSeparator => spaceSeparators
  | lineSeparator => lineSeparators
  | paragraphSeparator => paragraphSeparators
  | control => controlCharacters
  | format => formatCharacters
  | privateUse => Unicode.privateUse
  | unassigned => []

/-- Membership of a code point in a category; what no table holds is unassigned. -/
def contains (category : GeneralCategory) (code : Nat) : Bool :=
  match category with
  | unassigned => !assigned.any fun other ↦ inRuns other.runs code
  | _ => inRuns category.runs code

/-- The names of categories and of their groups, in loose form: lower case, without spaces, hyphens
and underscores. -/
def names : List (List String × List GeneralCategory) :=
  [
    (["l", "letter"], letters),
    (["lc", "casedletter"], casedLetters),
    (["lu", "uppercaseletter"], [uppercaseLetter]),
    (["ll", "lowercaseletter"], [lowercaseLetter]),
    (["lt", "titlecaseletter"], [titlecaseLetter]),
    (["lm", "modifierletter"], [modifierLetter]),
    (["lo", "otherletter"], [otherLetter]),
    (["m", "mark", "combiningmark"], marks),
    (["mn", "nonspacingmark"], [nonspacingMark]),
    (["mc", "spacingmark"], [spacingMark]),
    (["me", "enclosingmark"], [enclosingMark]),
    (["n", "number"], numbers),
    (["nd", "decimalnumber", "digit"], [decimalDigit]),
    (["nl", "letternumber"], [letterNumber]),
    (["no", "othernumber"], [otherNumber]),
    (["p", "punctuation", "punct"], punctuation),
    (["pc", "connectorpunctuation"], [connectorPunctuation]),
    (["pd", "dashpunctuation"], [dashPunctuation]),
    (["ps", "openpunctuation"], [openPunctuation]),
    (["pe", "closepunctuation"], [closePunctuation]),
    (["pi", "initialpunctuation"], [initialPunctuation]),
    (["pf", "finalpunctuation"], [finalPunctuation]),
    (["po", "otherpunctuation"], [otherPunctuation]),
    (["s", "symbol"], symbols),
    (["sm", "mathsymbol"], [mathSymbol]),
    (["sc", "currencysymbol"], [currencySymbol]),
    (["sk", "modifiersymbol"], [modifierSymbol]),
    (["so", "othersymbol"], [otherSymbol]),
    (["z", "separator"], separators),
    (["zs", "spaceseparator"], [spaceSeparator]),
    (["zl", "lineseparator"], [lineSeparator]),
    (["zp", "paragraphseparator"], [paragraphSeparator]),
    (["c", "other"], others),
    (["cc", "control", "cntrl"], [control]),
    (["cf", "format"], [format]),
    (["co", "privateuse"], [privateUse]),
    (["cn", "unassigned"], [unassigned]),
    (["any"], assigned ++ [unassigned]),
    (["assigned"], assigned) ]

/-- The categories that a loose name stands for. -/
def named? (name : String) : Option (List GeneralCategory) :=
  (names.find? fun entry ↦ entry.1.contains name).map Prod.snd

end GeneralCategory

end RecordSearch.Unicode
