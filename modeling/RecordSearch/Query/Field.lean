import RecordSearch.Unicode.Lowercase

/-!
# Field names

The left side of a field term names a field of a record or one of three parts that every record has.
Names are compared in lower case.
-/

namespace RecordSearch

/-- What a field term looks at. -/
inductive Field
  /-- Every field of the record. -/
  | anyField
  /-- Each keyword of the record, one at a time. -/
  | anyKeyword
  /-- The type of the record. -/
  | entryType
  /-- The field with the given lower case name. -/
  | named (name : String)
deriving Repr, DecidableEq

namespace Field

/-- The field that a typed name stands for. -/
def ofName (typed : String) : Field :=
  match Unicode.lowercase typed with
  | "anyfield" => anyField
  | "anykeyword" => anyKeyword
  | "entrytype" => entryType
  | name => named name

def name : Field → String
  | anyField => "anyfield"
  | anyKeyword => "anykeyword"
  | entryType => "entrytype"
  | named name => name

/-- A character that may follow the first one of a field name. -/
def isNameCharacter (c : Char) : Bool :=
  Unicode.isAlphanumeric c || c == '_' || c == '-' || c == '.'

/-- A word that may stand on the left of a comparison: it starts with a letter or an underscore and
goes on with letters, digits, underscores, hyphens and dots. -/
def isName (word : String) : Bool :=
  match word.toList with
  | [] => false
  | first :: rest => (Unicode.isAlphabetic first || first == '_') && rest.all isNameCharacter

end Field

end RecordSearch
