import RecordSearch.Options
import RecordSearch.Query.Comparison
import RecordSearch.Regex.Pattern
import RecordSearch.Unicode.Lowercase

/-!
# Needles

A needle is a value of a query, prepared for the search options, and is compared with many texts.
Plain text is compared in lower case unless case matters.  A regular expression is prepared twice,
to be found anywhere and to match a whole text; if either fails, no comparison with the needle
succeeds.
-/

namespace RecordSearch

/-- A value of a query, prepared for comparison. -/
inductive Needle
  /-- Plain text, in lower case unless case matters. -/
  | plain (text : String) (caseSensitive : Bool)
  /-- A regular expression, as it is found in a text and as it matches a whole text. -/
  | pattern (anywhere whole : Pattern)
  /-- What should be a regular expression and is none. -/
  | invalid

namespace Needle

/-- The text of a pattern that matches whole texts. -/
def wholeSource (value : String) : String := "\\A(?:" ++ value ++ ")\\z"

/-- Prepares a value; fails if it should be a regular expression and is none. -/
def ofValue? (value : String) (options : SearchOptions) : Option Needle :=
  if options.regularExpression then do
    let anywhere ← Pattern.compile? value (!options.caseSensitive)
    let whole ← Pattern.compile? (wholeSource value) (!options.caseSensitive)
    some (pattern anywhere whole)
  else if options.caseSensitive then some (plain value true)
  else some (plain (Unicode.lowercase value) false)

def ofValue (value : String) (options : SearchOptions) : Needle :=
  (ofValue? value options).getD invalid

def occursIn (needle : Needle) (text : String) : Bool :=
  match needle with
  | plain value true => Text.occursIn value.toList text.toList
  | plain value false => Text.occursIn value.toList (Unicode.lowercase text).toList
  | pattern anywhere _ => anywhere.isMatch text
  | invalid => false

def isWhole (needle : Needle) (text : String) : Bool :=
  match needle with
  | plain value true => text == value
  | plain value false => Unicode.lowercase text == value
  | pattern _ whole => whole.isMatch text
  | invalid => false

def compare (needle : Needle) (comparison : Comparison) (text : String) : Bool :=
  match needle, comparison with
  | invalid, _ => false
  | _, .contains => needle.occursIn text
  | _, .exact => needle.isWhole text
  | _, .excludes => !needle.occursIn text

end Needle

end RecordSearch
