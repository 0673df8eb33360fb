import RecordSearch.Record.Fields
import RecordSearch.Record.Keywords
import RecordSearch.Unicode.Lowercase

/-!
# Records

A search sees a record through its type, its fields and its keywords.  Most records are entries,
which keep their keywords in a field; other records may have a keyword list of another kind.
-/

namespace RecordSearch

/-- What a search can see of a record. -/
structure Record where
  entryType : String
  /-- All fields. -/
  fields : Fields
  /-- The value of the field with exactly the given name.  A record of another kind than an entry
  may answer this in its own way. -/
  field? : String → Option String
  /-- The keywords, which may depend on the character that delimits them. -/
  keywords : Char → List String

/-- A record that consists of a type and fields. -/
structure Entry where
  entryType : String
  fields : Fields
deriving DecidableEq

namespace Entry

def keywordsField : String := "keywords"

def ofType (entryType : String) : Entry := ⟨entryType, .empty⟩

/-- Sets a field under the lower case of its name. -/
def setField (entry : Entry) (name value : String) : Entry :=
  { entry with fields := entry.fields.set (Unicode.lowercase name) value }

/-- The value of the field with exactly the given name. -/
def field? (entry : Entry) (name : String) : Option String := entry.fields.get? name

def keywords (entry : Entry) (delimiter : Char) : List String :=
  match entry.field? keywordsField with
  | none => []
  | some text => Keywords.split delimiter text

/-- Adds a keyword at the end, unless it is blank or among the keywords already. -/
def addKeyword (entry : Entry) (keyword : String) (delimiter : Char) : Entry :=
  let keyword := Text.trimString keyword
  let present := entry.keywords delimiter
  if keyword.isEmpty || present.contains keyword then entry
  else
    { entry with
      fields := entry.fields.set keywordsField (Keywords.join delimiter (present ++ [keyword])) }

def toRecord (entry : Entry) : Record :=
  ⟨entry.entryType, entry.fields, entry.field?, entry.keywords⟩

def withKeywords (entry : Entry) (keywords : List String) : Record :=
  ⟨entry.entryType, entry.fields, entry.field?, fun _ ↦ keywords⟩

end Entry

end RecordSearch
