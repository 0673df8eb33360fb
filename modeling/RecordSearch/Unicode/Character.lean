import RecordSearch.Unicode.Derived

/-!
# Characters of texts

The classes of characters on which words, field names and case conversion rest.  Texts are read by
edition 17 of the Unicode standard, patterns by edition 16.  A class of edition 17 is the class of
edition 16 together with the characters that the later edition adds to it.
-/

namespace RecordSearch.Unicode

def newAlphabetic : List Run :=
  [
    ⟨0x088F, 0x088F, 1⟩, ⟨0x0C5C, 0x0C5C, 1⟩, ⟨0x0CDC, 0x0CDC, 1⟩, ⟨0xA7CE, 0xA7CF, 1⟩,
    ⟨0xA7D2, 0xA7D2, 1⟩, ⟨0xA7D4, 0xA7D4, 1⟩, ⟨0xA7F1, 0xA7F1, 1⟩, ⟨0x10940, 0x10959, 1⟩,
    ⟨0x10EC5, 0x10EC7, 1⟩, ⟨0x10EFA, 0x10EFB, 1⟩, ⟨0x11B60, 0x11B67, 1⟩, ⟨0x11DB0, 0x11DDB, 1⟩,
    ⟨0x16EA0, 0x16EB8, 1⟩, ⟨0x16EBB, 0x16ED3, 1⟩, ⟨0x16FF2, 0x16FF6, 1⟩, ⟨0x187F8, 0x187FF, 1⟩,
    ⟨0x18D09, 0x18D1E, 1⟩, ⟨0x18D80, 0x18DF2, 1⟩, ⟨0x1E6C0, 0x1E6DE, 1⟩, ⟨0x1E6E0, 0x1E6F5, 1⟩,
    ⟨0x1E6FE, 0x1E6FF, 1⟩, ⟨0x2B73A, 0x2B73F, 1⟩, ⟨0x2CEA2, 0x2CEAD, 1⟩, ⟨0x323B0, 0x33479, 1⟩ ]

def newNumbers : List Run :=
  [⟨0x11DE0, 0x11DE9, 1⟩, ⟨0x16FF4, 0x16FF6, 1⟩]

def newCased : List Run :=
  [
    ⟨0xA7CE, 0xA7CF, 1⟩, ⟨0xA7D2, 0xA7D2, 1⟩, ⟨0xA7D4, 0xA7D4, 1⟩, ⟨0xA7F1, 0xA7F1, 1⟩,
    ⟨0x16EA0, 0x16EB8, 1⟩, ⟨0x16EBB, 0x16ED3, 1⟩ ]

/-- The characters that edition 17 adds to those that are passed over when the case of a letter
depends on its neighbours. -/
def newCaseIgnorable : List Run :=
  [
    ⟨0x1ACF, 0x1ADD, 1⟩, ⟨0x1AE0, 0x1AEB, 1⟩, ⟨0xA7F1, 0xA7F1, 1⟩, ⟨0x10EC5, 0x10EC5, 1⟩,
    ⟨0x10EFA, 0x10EFB, 1⟩, ⟨0x11B60, 0x11B60, 1⟩, ⟨0x11B62, 0x11B64, 1⟩, ⟨0x11B66, 0x11B66, 1⟩,
    ⟨0x11DD9, 0x11DD9, 1⟩, ⟨0x16FF2, 0x16FF3, 1⟩, ⟨0x1E6E3, 0x1E6E3, 1⟩, ⟨0x1E6E6, 0x1E6E6, 1⟩,
    ⟨0x1E6EE, 0x1E6EF, 1⟩, ⟨0x1E6F5, 0x1E6F5, 1⟩, ⟨0x1E6FF, 0x1E6FF, 1⟩ ]

/-- White space: the characters that separate words and that trimming removes.  Both editions have
the same. -/
def isBlank (c : Char) : Bool := whiteSpace c

def isAlphabetic (c : Char) : Bool := alphabetic c || inRuns newAlphabetic c.toNat

def isNumeric (c : Char) : Bool :=
  inRuns decimalDigits c.toNat || inRuns letterNumbers c.toNat || inRuns otherNumbers c.toNat ||
    inRuns newNumbers c.toNat

def isAlphanumeric (c : Char) : Bool := isAlphabetic c || isNumeric c

/-- A character of upper, lower or title case.  Edition 17 takes `ʕ` for a letter without case. -/
def isCased (c : Char) : Bool := (cased c && c != 'ʕ') || inRuns newCased c.toNat

/-- A character that is passed over when the case of a letter depends on its neighbours. -/
def isCaseIgnorable (c : Char) : Bool := caseIgnorable c || inRuns newCaseIgnorable c.toNat

end RecordSearch.Unicode
