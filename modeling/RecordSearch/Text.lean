import RecordSearch.Unicode.Character

/-!
# Texts

Texts are read as lists of characters.  Here are the few operations that words, values and
keywords share: trimming, occurrence, comparison without regard to ASCII case, and the size in
UTF-8, in which all positions are counted that are shown to a user.
-/

namespace RecordSearch.Text

open Unicode (isBlank)

def trim (text : List Char) : List Char :=
  ((text.dropWhile isBlank).reverse.dropWhile isBlank).reverse

def trimString (text : String) : String := String.ofList (trim text.toList)

/-- White space around a text is trimmed with it. -/
theorem trim_surround {before after : List Char} (blankBefore : ∀ c ∈ before, isBlank c)
    (blankAfter : ∀ c ∈ after, isBlank c) (text : List Char) :
    trim (before ++ (text ++ after)) = trim text := by
  have front : (before ++ (text ++ after)).dropWhile isBlank = (text ++ after).dropWhile isBlank :=
    List.dropWhile_append_of_pos blankBefore
  rw [trim, front, List.dropWhile_append]
  split
  · rename_i nothing
    have behind : after.dropWhile isBlank = [] := by
      rw [← List.append_nil after, List.dropWhile_append_of_pos blankAfter, List.dropWhile_nil]
    rw [trim, List.isEmpty_iff.1 nothing, behind]
  · have back : ∀ c ∈ after.reverse, isBlank c := fun c member ↦
      blankAfter c (List.mem_reverse.1 member)
    rw [List.reverse_append, List.dropWhile_append_of_pos back]
    rfl

/-- Trimming takes away nothing but white space. -/
theorem exists_surround_trim (text : List Char) : ∃ before after, (∀ c ∈ before, isBlank c) ∧
    (∀ c ∈ after, isBlank c) ∧ text = before ++ (trim text ++ after) := by
  have front := List.takeWhile_append_dropWhile (p := isBlank) (l := text)
  have back := List.takeWhile_append_dropWhile (p := isBlank)
    (l := (text.dropWhile isBlank).reverse)
  refine ⟨text.takeWhile isBlank, ((text.dropWhile isBlank).reverse.takeWhile isBlank).reverse,
    ?_, ?_, ?_⟩
  · exact List.all_eq_true.1 List.all_takeWhile
  · intro c member
    exact List.all_eq_true.1 List.all_takeWhile c (List.mem_reverse.1 member)
  · rw [trim, ← List.reverse_append, back, List.reverse_reverse, front]

theorem trim_infix (text : List Char) : trim text <:+: text := by
  obtain ⟨before, after, _, _, text_eq⟩ := exists_surround_trim text
  exact ⟨before, after, by rw [List.append_assoc, ← text_eq]⟩

@[simp]
theorem trim_trim (text : List Char) : trim (trim text) = trim text := by
  obtain ⟨before, after, blankBefore, blankAfter, text_eq⟩ := exists_surround_trim text
  calc
    trim (trim text) = trim (before ++ (trim text ++ after)) :=
      (trim_surround blankBefore blankAfter (trim text)).symm
    _ = trim text := by rw [← text_eq]

def occursIn (needle : List Char) : List Char → Bool
  | [] => needle.isEmpty
  | c :: text => needle.isPrefixOf (c :: text) || occursIn needle text

/-- Equality that ignores the case of ASCII letters and of no others. -/
def sameLetters (left right : String) : Bool :=
  left.toList.map Char.toLower == right.toList.map Char.toLower

def utf8Size : List Char → Nat
  | [] => 0
  | c :: text => c.utf8Size + utf8Size text

theorem utf8Size_append (before after : List Char) :
    utf8Size (before ++ after) = utf8Size before + utf8Size after := by
  induction before with
  | nil => rw [List.nil_append, utf8Size, Nat.zero_add]
  | cons c before ih => rw [List.cons_append, utf8Size, utf8Size, ih, Nat.add_assoc]

theorem utf8ByteSize_ofList (text : List Char) :
    (String.ofList text).utf8ByteSize = utf8Size text := by
  induction text with
  | nil => rfl
  | cons c text ih =>
    rw [String.ofList_cons, String.utf8ByteSize_append, String.utf8ByteSize_singleton, ih, utf8Size]

end RecordSearch.Text
