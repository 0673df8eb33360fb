import RecordSearch.Highlight.Pattern
import RecordSearch.Match.Condition
import RecordSearch.Preferences
import RecordSearch.Query.Parse

/-!
# Queries

A query is the text that a user typed with the options in force.  It never fails: a text that the
grammar refuses is searched for as a single term without the white space around it, so that a blank
query finds everything.  `check` says what is wrong with a query.
-/

namespace RecordSearch

structure Query where
  text : String
  options : SearchOptions
  delimiter : Char := defaultDelimiter
deriving Repr, DecidableEq

/-- What a query searches for. -/
structure Interpretation where
  expression : Expression
  /-- The text follows the grammar. -/
  isGrammatical : Bool
  condition : Condition

/-- How a text is searched for: as the expression that it writes, or as a single term. -/
def Interpretation.ofText (text : String) (options : SearchOptions) : Interpretation :=
  match Expression.parse text with
  | .ok expression => ⟨expression, true, Condition.ofExpression options expression⟩
  | .error _ =>
    let expression := Expression.term (Text.trimString text)
    ⟨expression, false, Condition.ofExpression options expression⟩

namespace Query

def ofPreferences (text : String) (preferences : Preferences) : Query :=
  ⟨text, preferences.options, preferences.delimiter⟩

def withDelimiter (query : Query) (delimiter : Char) : Query := { query with delimiter }

def interpretation (query : Query) : Interpretation :=
  Interpretation.ofText query.text query.options

def isGrammatical (query : Query) : Bool := query.interpretation.isGrammatical

def expression (query : Query) : Expression := query.interpretation.expression

/-- The first of some values that should be a regular expression and is none. -/
def invalidValue? (options : SearchOptions) (values : List String) : Option String :=
  values.find? fun value ↦ (Needle.ofValue? value options).isNone

/-- What is wrong with a query, if anything. -/
def check (query : Query) : Except Failure Unit := do
  let expression ← Expression.parse query.text
  match invalidValue? query.options expression.values with
  | some value => .error (.invalidPattern value)
  | none => .ok ()

def describe (query : Query) : String :=
  "\"" ++ query.text ++ "\" (" ++ query.options.caseLabel ++ ", " ++ query.options.modeLabel ++ ")"

def words (query : Query) : List String := Highlight.wordsOf query.text query.options

/-- The pattern to highlight; a blank query has none. -/
def pattern? (query : Query) (dialect : Highlight.Dialect) : Option Highlight.Alternation :=
  Highlight.Alternation.ofWords? query.words query.options dialect

def isMatch (query : Query) (record : Record) : Bool :=
  query.interpretation.condition.holds record query.delimiter

/-- The items whose records match, in order. -/
def filter {α : Type} (query : Query) (view : α → Record) (items : List α) : List α :=
  items.filter fun item ↦ query.isMatch (view item)

def count {α : Type} (query : Query) (view : α → Record) (items : List α) : Nat :=
  items.countP fun item ↦ query.isMatch (view item)

/-- The record of some item matches. -/
def any {α : Type} (query : Query) (view : α → Record) (items : List α) : Bool :=
  items.any fun item ↦ query.isMatch (view item)

/-- The first item whose record matches. -/
def find? {α : Type} (query : Query) (view : α → Record) (items : List α) : Option α :=
  items.find? fun item ↦ query.isMatch (view item)

end Query

end RecordSearch
