import RecordSearch.Query.Field

/-!
# Lower case is settled

No lower case letter of the table has a lower case of its own.  So the lower case of a text stays
as it is when it is taken once more, and a field name in lower case names the same field.  Nor does
lower case bring a character into a name that would end the word.
-/

namespace RecordSearch.Unicode

/-- The number whose bits are the given code points.  Two large sets are compared at once in this
form. -/
def codeBits : List Nat → Nat
  | [] => 0
  | code :: codes => Nat.lor (Nat.shiftLeft 1 code) (codeBits codes)

/-- The bits of a list of codes are its members. -/
theorem testBit_codeBits (codes : List Nat) (code : Nat) :
    (codeBits codes).testBit code = true ↔ code ∈ codes := by
  induction codes with
  | nil => simp [codeBits]
  | cons first codes ih =>
    have bits : codeBits (first :: codes) = 1 <<< first ||| codeBits codes := rfl
    rw [bits, Nat.testBit_or, Bool.or_eq_true, ih, Nat.one_shiftLeft, Nat.testBit_two_pow,
      decide_eq_true_eq, List.mem_cons, eq_comm]

/-- Lists of codes without a common bit have no common member. -/
theorem not_mem_of_land_codeBits {left right : List Nat}
    (disjoint : Nat.land (codeBits left) (codeBits right) = 0) {code : Nat} (member : code ∈ left) :
    code ∉ right := by
  intro other
  have both : (codeBits left &&& codeBits right).testBit code = true := by
    rw [Nat.testBit_and, (testBit_codeBits left code).2 member,
      (testBit_codeBits right code).2 other]
    rfl
  rw [show codeBits left &&& codeBits right = 0 from disjoint, Nat.zero_testBit] at both
  cases both

namespace Shift

def count (shift : Shift) : Nat := (shift.last - shift.first) / shift.step + 1

def sources (shift : Shift) : List Nat :=
  (List.range shift.count).map fun index ↦ shift.first + shift.step * index

def images (shift : Shift) : List Nat :=
  (List.range shift.count).map fun index ↦ shift.target + shift.step * index

variable {shift : Shift} {code image : Nat}

theorem mem_of_image? (h : shift.image? code = some image) :
    code ∈ shift.sources ∧ image ∈ shift.images := by
  unfold image? at h
  split at h
  · rename_i inside
    simp only [Bool.and_eq_true, decide_eq_true_eq, beq_iff_eq] at inside
    obtain ⟨⟨first_le, le_last⟩, divides⟩ := inside
    cases h
    have index_lt : (code - shift.first) / shift.step < shift.count := by
      have := Nat.div_le_div_right (c := shift.step) (Nat.sub_le_sub_right le_last shift.first)
      simp only [count]
      omega
    have exact_step := Nat.mul_div_cancel' (Nat.dvd_of_mod_eq_zero divides)
    constructor
    · refine List.mem_map.2 ⟨_, List.mem_range.2 index_lt, ?_⟩
      omega
    · refine List.mem_map.2 ⟨_, List.mem_range.2 index_lt, ?_⟩
      omega
  · cases h

theorem applyFirst_eq_self {shifts : List Shift} (h : code ∉ shifts.flatMap sources) :
    applyFirst shifts code = code := by
  induction shifts with
  | nil => rfl
  | cons shift shifts ih =>
    simp only [List.flatMap_cons, List.mem_append, not_or] at h
    unfold applyFirst
    split
    · rfl
    · split
      · rename_i found
        exact absurd (mem_of_image? found).1 h.1
      · exact ih h.2

/-- A table leaves a code point alone, or one of its shifts moves it. -/
theorem applyFirst_eq_self_or (shifts : List Shift) (code : Nat) :
    applyFirst shifts code = code ∨
      ∃ shift ∈ shifts, shift.image? code = some (applyFirst shifts code) := by
  induction shifts with
  | nil => exact .inl rfl
  | cons shift shifts ih =>
    unfold applyFirst
    split
    · exact .inl rfl
    · split
      · rename_i found
        exact .inr ⟨shift, List.mem_cons_self, found⟩
      · exact ih.imp_right fun ⟨other, member, found⟩ ↦
          ⟨other, List.mem_cons_of_mem _ member, found⟩

/-- A code that is changed becomes an image of one of the shifts. -/
theorem applyFirst_eq_or (shifts : List Shift) (code : Nat) :
    applyFirst shifts code = code ∨ applyFirst shifts code ∈ shifts.flatMap images :=
  (applyFirst_eq_self_or shifts code).imp_right fun ⟨shift, member, found⟩ ↦
    List.mem_flatMap.2 ⟨shift, member, (mem_of_image? found).2⟩

end Shift

/-- White space, and the signs that stand between words. -/
def breakCodes : List Nat :=
  List.range' 0x9 5 ++ List.range' 0x2000 11 ++
    [0x20, 0x85, 0xA0, 0x1680, 0x2028, 0x2029, 0x202F, 0x205F, 0x3000] ++
    ['('.toNat, ')'.toNat, '"'.toNat, '='.toNat, '!'.toNat]

/-- A character that words in their written form do not have. -/
def BreaksWord (c : Char) : Prop := isBlank c ∨ c ∈ ['(', ')', '"', '=', '!']

theorem BreaksWord.mem_breakCodes {c : Char} (h : BreaksWord c) : c.toNat ∈ breakCodes := by
  rcases h with blank | sign
  · simp only [isBlank, whiteSpace, Bool.or_eq_true, Bool.and_eq_true, decide_eq_true_eq,
      beq_iff_eq] at blank
    refine List.mem_append_left _ ?_
    simp only [List.mem_append, List.mem_range'_1, List.mem_cons, List.not_mem_nil, or_false]
    omega
  · simp only [List.mem_cons, List.not_mem_nil, or_false] at sign
    rcases sign with rfl | rfl | rfl | rfl | rfl <;> decide

theorem isNameCharacter_of_mem_breakCodes :
    ∀ code ∈ breakCodes, Field.isNameCharacter (Char.ofNat code) = false := by
  decide +kernel

theorem not_breaksWord_of_isNameCharacter {c : Char} (h : Field.isNameCharacter c) :
    ¬ BreaksWord c := by
  intro breaks
  have := isNameCharacter_of_mem_breakCodes c.toNat breaks.mem_breakCodes
  rw [Char.ofNat_toNat, h] at this
  cases this

/-- A lower case letter has no lower case but itself, and it breaks no word. -/
theorem lowercaseImages_disjoint :
    Nat.land (codeBits (lowercaseShifts.flatMap Shift.images))
      (codeBits (lowercaseShifts.flatMap Shift.sources ++ 'İ'.toNat :: breakCodes)) = 0 := by
  decide +kernel

theorem lowercaseImages_valid :
    ∀ code ∈ lowercaseShifts.flatMap Shift.images, code.isValidChar := by
  decide +kernel

/-- A character that is its own lower case wherever it stands. -/
structure Settled (c : Char) : Prop where
  lowercaseLetter_eq : lowercaseLetter c = c
  ne_sigma : c ≠ 'Σ'
  ne_dotted : c ≠ 'İ'

theorem toNat_ofNat {code : Nat} (valid : code.isValidChar) : (Char.ofNat code).toNat = code := by
  rw [Char.ofNat, dif_pos valid]
  rfl

/-- A letter that the table leaves alone, or one that it gives to another. -/
theorem lowercaseLetter_eq_or (c : Char) :
    lowercaseLetter c = c ∨ (lowercaseLetter c).toNat ∈ lowercaseShifts.flatMap Shift.images := by
  rcases Shift.applyFirst_eq_or lowercaseShifts c.toNat with same | image
  · left
    rw [lowercaseLetter, same, Char.ofNat_toNat]
  · right
    rwa [lowercaseLetter, toNat_ofNat (lowercaseImages_valid _ image)]

theorem settled_of_mem_images {c : Char} (h : c.toNat ∈ lowercaseShifts.flatMap Shift.images) :
    Settled c ∧ c.toNat ∉ breakCodes := by
  have other := not_mem_of_land_codeBits lowercaseImages_disjoint h
  simp only [List.mem_append, List.mem_cons, not_or] at other
  obtain ⟨notSource, notDotted, notBreak⟩ := other
  refine ⟨⟨?_, ?_, ?_⟩, notBreak⟩
  · rw [lowercaseLetter, Shift.applyFirst_eq_self notSource, Char.ofNat_toNat]
  · rintro rfl
    exact notSource (by decide +kernel)
  · rintro rfl
    exact notDotted rfl

theorem settled_of_mem_lowercaseBetween {before after : List Char} {c d : Char}
    (h : d ∈ lowercaseBetween before c after) : Settled d := by
  unfold lowercaseBetween at h
  split at h
  · split at h
    · cases List.mem_singleton.1 h
      exact ⟨by decide +kernel, by decide, by decide⟩
    · cases List.mem_singleton.1 h
      exact ⟨by decide +kernel, by decide, by decide⟩
  · rename_i notSigma
    split at h
    · simp only [List.mem_cons, List.not_mem_nil, or_false] at h
      rcases h with rfl | rfl
      · exact ⟨by decide +kernel, by decide, by decide⟩
      · exact ⟨by decide +kernel, by decide, by decide⟩
    · rename_i notDotted
      cases List.mem_singleton.1 h
      rcases lowercaseLetter_eq_or c with same | image
      · rw [same]
        exact ⟨same, notSigma, notDotted⟩
      · exact (settled_of_mem_images image).1

theorem settled_of_mem_lowercaseFrom {before text : List Char} {d : Char}
    (h : d ∈ lowercaseFrom before text) : Settled d := by
  induction text generalizing before with
  | nil => cases h
  | cons c after ih =>
    rcases List.mem_append.1 h with here | later
    · exact settled_of_mem_lowercaseBetween here
    · exact ih later

theorem lowercaseFrom_eq_self {before text : List Char} (h : ∀ d ∈ text, Settled d) :
    lowercaseFrom before text = text := by
  induction text generalizing before with
  | nil => rfl
  | cons c after ih =>
    obtain ⟨settled, rest⟩ := List.forall_mem_cons.1 h
    rw [lowercaseFrom, ih rest, lowercaseBetween, if_neg settled.ne_sigma,
      if_neg settled.ne_dotted, settled.lowercaseLetter_eq, List.singleton_append]

/-- Every character of a text in lower case is settled. -/
theorem settled_of_mem_lowercase {text : String} {d : Char} (h : d ∈ (lowercase text).toList) :
    Settled d := by
  rw [lowercase, String.toList_ofList] at h
  exact settled_of_mem_lowercaseFrom h

theorem lowercase_eq_self {text : String} (h : ∀ d ∈ text.toList, Settled d) :
    lowercase text = text := by
  rw [lowercase, lowercaseFrom_eq_self h, String.ofList_toList]

/-- The lower case of a text is its own lower case. -/
@[simp]
theorem lowercase_lowercase (text : String) : lowercase (lowercase text) = lowercase text :=
  lowercase_eq_self fun _ ↦ settled_of_mem_lowercase

theorem lowercaseBetween_ne_nil (before after : List Char) (c : Char) :
    lowercaseBetween before c after ≠ [] := by
  unfold lowercaseBetween
  split
  · exact List.cons_ne_nil _ _
  · split <;> exact List.cons_ne_nil _ _

theorem lowercaseFrom_ne_nil {before text : List Char} (h : text ≠ []) :
    lowercaseFrom before text ≠ [] := by
  cases text with
  | nil => exact absurd rfl h
  | cons c after =>
    rw [lowercaseFrom, ne_eq, List.append_eq_nil_iff, not_and]
    intro nothing
    exact absurd nothing (lowercaseBetween_ne_nil before after c)

/-- Lower case changes no letter of a name into a sign that ends a word. -/
theorem not_breaksWord_of_mem_lowercaseBetween {before after : List Char} {c d : Char}
    (name : Field.isNameCharacter c) (h : d ∈ lowercaseBetween before c after) :
    ¬ BreaksWord d := by
  intro breaks
  have code := breaks.mem_breakCodes
  unfold lowercaseBetween at h
  split at h
  · split at h
    · cases List.mem_singleton.1 h
      revert code
      decide
    · cases List.mem_singleton.1 h
      revert code
      decide
  · split at h
    · simp only [List.mem_cons, List.not_mem_nil, or_false] at h
      rcases h with rfl | rfl
      · revert code
        decide
      · revert code
        decide
    · cases List.mem_singleton.1 h
      rcases lowercaseLetter_eq_or c with same | image
      · rw [same] at breaks
        exact not_breaksWord_of_isNameCharacter name breaks
      · exact (settled_of_mem_images image).2 code

theorem not_breaksWord_of_mem_lowercaseFrom {before text : List Char} {d : Char}
    (name : ∀ c ∈ text, Field.isNameCharacter c) (h : d ∈ lowercaseFrom before text) :
    ¬ BreaksWord d := by
  induction text generalizing before with
  | nil => cases h
  | cons c after ih =>
    obtain ⟨first, rest⟩ := List.forall_mem_cons.1 name
    rcases List.mem_append.1 h with here | later
    · exact not_breaksWord_of_mem_lowercaseBetween first here
    · exact ih rest later

end RecordSearch.Unicode

namespace RecordSearch.Field

open Unicode (lowercase BreaksWord)

variable {typed word : String}

theorem forall_isNameCharacter (h : isName word) :
    word.toList ≠ [] ∧ ∀ c ∈ word.toList, isNameCharacter c := by
  unfold isName at h
  split at h
  · cases h
  · rename_i first rest word_eq
    rw [word_eq]
    simp only [Bool.and_eq_true, Bool.or_eq_true, List.all_eq_true] at h
    refine ⟨List.cons_ne_nil _ _, List.forall_mem_cons.2 ⟨?_, h.2⟩⟩
    rcases h.1 with letter | underscore
    · simp [isNameCharacter, Unicode.isAlphanumeric, letter]
    · simp [isNameCharacter, underscore]

/-- A character sequence without the signs that end a word. -/
def IsUnbroken (word : String) : Prop := word.toList ≠ [] ∧ ∀ c ∈ word.toList, ¬ BreaksWord c

theorem isUnbroken_of_isName (h : isName word) : IsUnbroken word := by
  obtain ⟨nonempty, characters⟩ := forall_isNameCharacter h
  exact ⟨nonempty, fun c member ↦ Unicode.not_breaksWord_of_isNameCharacter (characters c member)⟩

/-- The lower case of a name is unbroken. -/
theorem isUnbroken_lowercase (h : isName typed) : IsUnbroken (lowercase typed) := by
  obtain ⟨nonempty, characters⟩ := forall_isNameCharacter h
  rw [IsUnbroken, lowercase, String.toList_ofList]
  exact ⟨Unicode.lowercaseFrom_ne_nil nonempty,
    fun c ↦ Unicode.not_breaksWord_of_mem_lowercaseFrom characters⟩

@[simp]
theorem name_ofName (typed : String) : (ofName typed).name = lowercase typed := by
  unfold ofName
  split <;> simp_all [name]

/-- A field is named by its own name. -/
@[simp]
theorem ofName_lowercase (typed : String) : ofName (lowercase typed) = ofName typed := by
  simp only [ofName, Unicode.lowercase_lowercase]

end RecordSearch.Field
