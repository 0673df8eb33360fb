import RecordSearch.Query.Failure

/-!
# Reading tokens

A text is cut into tokens from left to right.  White space separates words and is otherwise without
meaning.  A word ends at white space, at a parenthesis, at a quote, at `=` and at a `!` that `=`
follows; any other `!` belongs to the word.  In a phrase a backslash keeps a quote or another
backslash from its special meaning, and stands for itself before all other characters.  The only
texts without tokens are those with a phrase that is never closed.
-/

namespace RecordSearch.Token

open Unicode (isBlank)

/-- A character that ends a word before it, given what follows the character. -/
def endsWord (c : Char) (rest : List Char) : Bool :=
  isBlank c || c == '(' || c == ')' || c == '"' || c == '=' || (c == '!' && rest.head? == some '=')

/-- Splits a text at the end of the word that it begins with. -/
def splitWord : List Char → List Char × List Char
  | [] => ([], [])
  | c :: rest =>
    if endsWord c rest then ([], c :: rest)
    else
      let (run, rest) := splitWord rest
      (c :: run, rest)

def unescape (c : Char) : List Char := if c = '"' ∨ c = '\\' then [c] else ['\\', c]

/-- The content of a phrase and the text behind its closing quote, if it is closed. -/
def readPhrase : List Char → Option (List Char × List Char)
  | [] => none
  | '"' :: rest => some ([], rest)
  | '\\' :: c :: rest => (readPhrase rest).map fun (content, rest) ↦ (unescape c ++ content, rest)
  | c :: rest => (readPhrase rest).map fun (content, rest) ↦ (c :: content, rest)

/-- The comparison symbol that a text begins with; the longest one wins. -/
def readComparison : List Char → Option (Comparison × List Char)
  | '=' :: '=' :: rest => some (.exact, rest)
  | '!' :: '=' :: rest => some (.excludes, rest)
  | '=' :: rest => some (.contains, rest)
  | _ => none

/-- The token at the start of a text that begins with the character `c`, no white space, and goes on
with `rest`.  There is none when a phrase is not closed. -/
def read (c : Char) (rest : List Char) : Option (Token × List Char) :=
  if c = '(' then some (leftParen, rest)
  else if c = ')' then some (rightParen, rest)
  else if c = '"' then
    (readPhrase rest).map fun (content, rest) ↦ (phrase (String.ofList content), rest)
  else match readComparison (c :: rest) with
    | some (comparison, rest) => some (compare comparison, rest)
    | none =>
      let (run, rest) := splitWord rest
      some (ofWord (String.ofList (c :: run)), rest)

theorem splitWord_length_le (text : List Char) : (splitWord text).2.length ≤ text.length := by
  induction text with
  | nil => simp [splitWord]
  | cons c rest ih =>
    simp only [splitWord]
    split
    · simp
    · simp only [List.length_cons]
      omega

theorem readPhrase_length_lt {text content rest : List Char}
    (h : readPhrase text = some (content, rest)) : rest.length < text.length := by
  fun_induction readPhrase text generalizing content rest with
  | case1 => simp at h
  | case2 tail => simp_all
  | case3 c tail ih =>
    obtain ⟨⟨inner, after⟩, found, equal⟩ := Option.map_eq_some_iff.1 h
    have := ih found
    simp_all; omega
  | case4 c tail _ _ ih =>
    obtain ⟨⟨inner, after⟩, found, equal⟩ := Option.map_eq_some_iff.1 h
    have := ih found
    simp_all; omega

theorem readComparison_length_le {c : Char} {text rest : List Char} {comparison : Comparison}
    (h : readComparison (c :: text) = some (comparison, rest)) : rest.length ≤ text.length := by
  unfold readComparison at h
  split at h <;> simp_all

theorem read_length_le {c : Char} {rest rest' : List Char} {token : Token}
    (h : read c rest = some (token, rest')) : rest'.length ≤ rest.length := by
  unfold read at h
  split at h
  · simp_all
  split at h
  · simp_all
  split at h
  · obtain ⟨⟨inner, after⟩, found, equal⟩ := Option.map_eq_some_iff.1 h
    have := readPhrase_length_lt found
    simp_all; omega
  split at h
  · rename_i found
    have := readComparison_length_le found
    simp_all
  · have := splitWord_length_le rest
    simp_all

/-- The tokens of a text.  If a phrase is never closed, the part of the text from its quote on. -/
def scan : List Char → Except (List Char) (List Token)
  | [] => .ok []
  | c :: rest =>
    if isBlank c then scan rest
    else match _h : read c rest with
      | none => .error (c :: rest)
      | some (token, rest') => (scan rest').map (token :: ·)
termination_by text => text.length
decreasing_by
  · simp
  · have := read_length_le _h
    simp only [List.length_cons]
    omega

def tokenize (text : String) : Except Failure (List Token) :=
  match scan text.toList with
  | .ok tokens => .ok tokens
  | .error rest => .error (.unterminatedQuote (Text.utf8Size text.toList - Text.utf8Size rest))

end RecordSearch.Token
