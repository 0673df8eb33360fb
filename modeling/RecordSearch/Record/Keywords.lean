import RecordSearch.Text

/-!
# Keyword lists

A keyword list is kept as one text, with a delimiter between the keywords.
-/

namespace RecordSearch.Keywords

/-- The keywords of a text: what stands between delimiters, trimmed, if anything remains. -/
def split (delimiter : Char) (text : String) : List String :=
  (((text.toList.splitOn delimiter).map Text.trim).filter fun keyword ↦ !keyword.isEmpty).map
    String.ofList

/-- The text of a keyword list: a delimiter and a space stand between two keywords. -/
def join (delimiter : Char) (keywords : List String) : String :=
  String.ofList ([delimiter, ' '].intercalate (keywords.map String.toList))

end RecordSearch.Keywords
