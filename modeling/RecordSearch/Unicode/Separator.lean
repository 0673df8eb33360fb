import RecordSearch.Unicode.Run

/-!
# Separators and other characters

The separator categories of Unicode 16, and the assigned categories that are neither letters,
marks, numbers, punctuation nor symbols.
-/

namespace RecordSearch.Unicode

def spaceSeparators : List Run :=
  [
    ⟨0x0020, 0x0020, 1⟩, ⟨0x00A0, 0x00A0, 1⟩, ⟨0x1680, 0x1680, 1⟩, ⟨0x2000, 0x200A, 1⟩,
    ⟨0x202F, 0x202F, 1⟩, ⟨0x205F, 0x205F, 1⟩, ⟨0x3000, 0x3000, 1⟩ ]

def lineSeparators : List Run :=
  [⟨0x2028, 0x2028, 1⟩]

def paragraphSeparators : List Run :=
  [⟨0x2029, 0x2029, 1⟩]

def controlCharacters : List Run :=
  [⟨0x0000, 0x001F, 1⟩, ⟨0x007F, 0x009F, 1⟩]

def formatCharacters : List Run :=
  [
    ⟨0x00AD, 0x00AD, 1⟩, ⟨0x0600, 0x0605, 1⟩, ⟨0x061C, 0x061C, 1⟩, ⟨0x06DD, 0x06DD, 1⟩,
    ⟨0x070F, 0x070F, 1⟩, ⟨0x0890, 0x0891, 1⟩, ⟨0x08E2, 0x08E2, 1⟩, ⟨0x180E, 0x180E, 1⟩,
    ⟨0x200B, 0x200F, 1⟩, ⟨0x202A, 0x202E, 1⟩, ⟨0x2060, 0x2064, 1⟩, ⟨0x2066, 0x206F, 1⟩,
    ⟨0xFEFF, 0xFEFF, 1⟩, ⟨0xFFF9, 0xFFFB, 1⟩, ⟨0x110BD, 0x110BD, 1⟩, ⟨0x110CD, 0x110CD, 1⟩,
    ⟨0x13430, 0x1343F, 1⟩, ⟨0x1BCA0, 0x1BCA3, 1⟩, ⟨0x1D173, 0x1D17A, 1⟩, ⟨0xE0001, 0xE0001, 1⟩,
    ⟨0xE0020, 0xE007F, 1⟩ ]

def privateUse : List Run :=
  [⟨0xE000, 0xF8FF, 1⟩, ⟨0xF0000, 0xFFFFD, 1⟩, ⟨0x100000, 0x10FFFD, 1⟩]

end RecordSearch.Unicode
