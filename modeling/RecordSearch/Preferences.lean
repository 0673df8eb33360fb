import RecordSearch.Options

/-!
# Preferences

Preferences are the search options and the character between keywords.  They are loaded from a
settings document and saved to one.  Missing settings have their defaults and unknown ones are
passed over, but a known setting of the wrong kind makes the document unreadable.
-/

namespace RecordSearch

/-- A settings document. -/
inductive Document
  | null
  | bool (value : Bool)
  /-- The number `mantissa` divided by ten to the power of `places`. -/
  | number (mantissa : Int) (places : Nat)
  | string (text : String)
  | array (items : List Document)
  | object (entries : List (String × Document))
deriving Inhabited

/-- Settings that outlast a search. -/
structure Preferences where
  options : SearchOptions := { }
  delimiter : Char := defaultDelimiter
deriving Repr, DecidableEq

namespace Preferences

def caseKey : String := "case_sensitive"

def modeKey : String := "regular_expression"

def delimiterKey : String := "keyword_delimiter"

/-- A switch among the settings; it is off unless it is set. -/
def readSwitch? (entries : List (String × Document)) (key : String) : Option Bool :=
  match entries.lookup key with
  | none => some false
  | some (.bool value) => some value
  | some _ => none

/-- The delimiter among the settings. -/
def readDelimiter? (entries : List (String × Document)) : Option Char :=
  match entries.lookup delimiterKey with
  | none => some defaultDelimiter
  | some (.string text) =>
    match text.toList with
    | [c] => some c
    | _ => none
  | some _ => none

def load? : Document → Option Preferences
  | .object entries => do
    let caseSensitive ← readSwitch? entries caseKey
    let regularExpression ← readSwitch? entries modeKey
    let delimiter ← readDelimiter? entries
    some { options := { caseSensitive, regularExpression }, delimiter }
  | _ => none

def optionEntries (options : SearchOptions) : List (String × Document) :=
  [(caseKey, .bool options.caseSensitive), (modeKey, .bool options.regularExpression)]

def save (preferences : Preferences) : Document :=
  .object (optionEntries preferences.options ++
    [(delimiterKey, .string (String.ofList [preferences.delimiter]))])

end Preferences

end RecordSearch
