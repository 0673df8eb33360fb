import RecordSearch.Query.Basic

/-!
# Queries that remember

Interpreting a query and compiling its patterns takes work that need not be done twice.  A memo
keeps a query with the results found so far.  Each question is answered together with the memo that
has the answer filled in.  No result depends on the character between keywords, so all of them
outlast a change of it.
-/

namespace RecordSearch.Query

/-- A query with what is known about it. -/
structure Memo where
  query : Query
  interpretation? : Option Interpretation
  blockPattern? : Option (Option Highlight.Alternation)
  escapePattern? : Option (Option Highlight.Alternation)

namespace Memo

def ofQuery (query : Query) : Memo := ⟨query, none, none, none⟩

def interpretation (memo : Memo) : Interpretation × Memo :=
  match memo.interpretation? with
  | some interpretation => (interpretation, memo)
  | none =>
    let interpretation := memo.query.interpretation
    (interpretation, { memo with interpretation? := some interpretation })

def isGrammatical (memo : Memo) : Bool × Memo :=
  let (interpretation, memo) := memo.interpretation
  (interpretation.isGrammatical, memo)

def expression (memo : Memo) : Expression × Memo :=
  let (interpretation, memo) := memo.interpretation
  (interpretation.expression, memo)

/-- The test for a match, with the query interpreted. -/
def matcher (memo : Memo) : (Record → Bool) × Memo :=
  let (interpretation, memo) := memo.interpretation
  (fun record ↦ interpretation.condition.holds record memo.query.delimiter, memo)

def isMatch (memo : Memo) (record : Record) : Bool × Memo :=
  let (matcher, memo) := memo.matcher
  (matcher record, memo)

/-- The items whose records match, in order.  Without items nothing is asked, so the query is not
interpreted. -/
def filter {α : Type} (memo : Memo) (view : α → Record) : List α → List α × Memo
  | [] => ([], memo)
  | item :: items =>
    let (kept, memo) := memo.isMatch (view item)
    let (others, memo) := memo.filter view items
    (if kept then item :: others else others, memo)

def count {α : Type} (memo : Memo) (view : α → Record) (items : List α) : Nat × Memo :=
  let (kept, memo) := memo.filter view items
  (kept.length, memo)

/-- The first item whose record matches.  Nothing is asked about the items behind it. -/
def find? {α : Type} (memo : Memo) (view : α → Record) : List α → Option α × Memo
  | [] => (none, memo)
  | item :: items =>
    let (found, memo) := memo.isMatch (view item)
    if found then (some item, memo) else memo.find? view items

def any {α : Type} (memo : Memo) (view : α → Record) (items : List α) : Bool × Memo :=
  let (found?, memo) := memo.find? view items
  (found?.isSome, memo)

/-- The pattern to highlight in a dialect; a blank query has none. -/
def pattern? (memo : Memo) (dialect : Highlight.Dialect) :
    Option Highlight.Alternation × Memo :=
  match dialect with
  | .blockQuotes =>
    match memo.blockPattern? with
    | some pattern => (pattern, memo)
    | none =>
      let pattern := memo.query.pattern? .blockQuotes
      (pattern, { memo with blockPattern? := some pattern })
  | .escapes =>
    match memo.escapePattern? with
    | some pattern => (pattern, memo)
    | none =>
      let pattern := memo.query.pattern? .escapes
      (pattern, { memo with escapePattern? := some pattern })

def withDelimiter (memo : Memo) (delimiter : Char) : Memo :=
  { memo with query := memo.query.withDelimiter delimiter }

end Memo

end RecordSearch.Query
