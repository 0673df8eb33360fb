import RecordSearch.Proofs.Lowercase

/-!
# Lower case inside other texts

The lower case of `Σ` depends on the characters around it, so a text may have another lower case
inside a longer text than alone.  Here are the texts that have not: in these, the characters of the
text itself decide the form of each `Σ`.  Such a text is found in lower case wherever it is found,
and no other text is.
-/

namespace RecordSearch.Unicode

variable {c : Char} {text before after other rest : List Char}

/-- A `Σ` with these neighbours, nearest first, has the same form whatever stands around them. -/
def decidesSigma (before after : List Char) : Bool :=
  startsCased after ||
    !before.all isCaseIgnorable && (!startsCased before || !after.all isCaseIgnorable)

/-- Each `Σ` of a text that follows `before` has the same form in all surroundings. -/
def decidesFrom (before : List Char) : List Char → Bool
  | [] => true
  | c :: after => (c != 'Σ' || decidesSigma before after) && decidesFrom (c :: before) after

/-- The lower case of the text is the same in all surroundings. -/
def isContextFree (text : String) : Bool := decidesFrom [] text.toList

theorem startsCased_cons (c : Char) (text : List Char) :
    startsCased (c :: text) = if isCaseIgnorable c then startsCased text else isCased c := by
  unfold startsCased
  rw [List.dropWhile_cons]
  cases isCaseIgnorable c with
  | false => rfl
  | true => rfl

theorem all_isCaseIgnorable_of_startsCased (h : startsCased text) :
    text.all isCaseIgnorable = false := by
  induction text with
  | nil => cases h
  | cons c text ih =>
    rw [startsCased_cons] at h
    rw [List.all_cons, Bool.and_eq_false_iff]
    split at h
    · exact .inr (ih h)
    · rename_i visible
      exact .inl (Bool.eq_false_iff.2 visible)

/-- The first character that is not passed over hides all behind it. -/
theorem startsCased_append (h : text.all isCaseIgnorable = false) (rest : List Char) :
    startsCased (text ++ rest) = startsCased text := by
  induction text with
  | nil => cases h
  | cons c text ih =>
    rw [List.cons_append, startsCased_cons, startsCased_cons]
    split
    · rename_i ignorable
      rw [List.all_cons, ignorable, Bool.true_and] at h
      exact ih h
    · rfl

theorem startsCased_append_of_all (h : text.all isCaseIgnorable) (rest : List Char) :
    startsCased (text ++ rest) = startsCased rest := by
  induction text with
  | nil => rfl
  | cons c text ih =>
    rw [List.all_cons, Bool.and_eq_true] at h
    rw [List.cons_append, startsCased_cons, if_pos h.1, ih h.2]

theorem isFinal_append (h : decidesSigma before after) (outer rest : List Char) :
    (startsCased (before ++ outer) && !startsCased (after ++ rest)) =
      (startsCased before && !startsCased after) := by
  rw [decidesSigma, Bool.or_eq_true, Bool.and_eq_true, Bool.or_eq_true] at h
  simp only [Bool.not_eq_true'] at h
  rcases h with followed | ⟨preceded, uncased | followed⟩
  · rw [startsCased_append (all_isCaseIgnorable_of_startsCased followed), followed]
    simp
  · rw [startsCased_append preceded, uncased]
    simp
  · rw [startsCased_append preceded, startsCased_append followed]

theorem lowercaseBetween_append (h : (c != 'Σ' || decidesSigma before after) = true)
    (outer rest : List Char) :
    lowercaseBetween (before ++ outer) c (after ++ rest) = lowercaseBetween before c after := by
  unfold lowercaseBetween
  split
  · rename_i sigma
    subst sigma
    rw [isFinal_append (by simpa using h)]
  · rfl

/-- The surroundings change the form of a lower case letter but not the length. -/
theorem length_lowercaseBetween (c : Char) (before after other rest : List Char) :
    (lowercaseBetween before c after).length = (lowercaseBetween other c rest).length := by
  unfold lowercaseBetween
  split
  · rfl
  · rfl

/-- The lower case of a `Σ` tells whether it is final. -/
theorem isFinal_of_lowercaseBetween
    (h : lowercaseBetween before 'Σ' after = lowercaseBetween other 'Σ' rest) :
    (startsCased before && !startsCased after) = (startsCased other && !startsCased rest) := by
  rw [lowercaseBetween, lowercaseBetween, if_pos rfl, if_pos rfl, List.singleton_inj] at h
  cases first : startsCased before && !startsCased after <;>
    cases second : startsCased other && !startsCased rest <;> simp_all

/-- A text that decides its own sigmas has the same lower case within a longer text. -/
theorem lowercaseFrom_append (h : decidesFrom before text) (outer rest : List Char) :
    lowercaseFrom (before ++ outer) (text ++ rest) =
      lowercaseFrom before text ++ lowercaseFrom (text.reverse ++ (before ++ outer)) rest := by
  induction text generalizing before with
  | nil => rfl
  | cons c after ih =>
    rw [decidesFrom, Bool.and_eq_true] at h
    obtain ⟨here, later⟩ := h
    have behind := ih later
    rw [List.cons_append] at behind
    rw [List.cons_append, lowercaseFrom, lowercaseBetween_append here, behind, lowercaseFrom]
    simp

theorem length_lowercaseFrom (text before other : List Char) :
    (lowercaseFrom before text).length = (lowercaseFrom other text).length := by
  induction text generalizing before other with
  | nil => rfl
  | cons c after ih =>
    rw [lowercaseFrom, lowercaseFrom, List.length_append, List.length_append,
      ih (c :: before) (c :: other), length_lowercaseBetween c before after other after]

/-- What stands behind a text changes its lower case, but not the length of that. -/
theorem exists_lowercaseFrom_append (before text rest : List Char) :
    ∃ start, start.length = (lowercaseFrom before text).length ∧
      lowercaseFrom before (text ++ rest) =
        start ++ lowercaseFrom (text.reverse ++ before) rest := by
  induction text generalizing before with
  | nil => exact ⟨[], rfl, rfl⟩
  | cons c after ih =>
    obtain ⟨start, same_length, start_eq⟩ := ih (c :: before)
    refine ⟨lowercaseBetween before c (after ++ rest) ++ start, ?_, ?_⟩
    · rw [lowercaseFrom, List.length_append, List.length_append, same_length,
        length_lowercaseBetween c before (after ++ rest) before after]
    · rw [List.cons_append, lowercaseFrom, start_eq]
      simp

/-- A text that is the same in all surroundings is found in lower case wherever it is found. -/
theorem lowercase_infix {value text : String} (free : isContextFree value)
    (h : value.toList <:+: text.toList) :
    (lowercase value).toList <:+: (lowercase text).toList := by
  obtain ⟨before, rest, text_eq⟩ := h
  rw [List.append_assoc] at text_eq
  obtain ⟨start, _, start_eq⟩ := exists_lowercaseFrom_append [] before (value.toList ++ rest)
  have value_eq := lowercaseFrom_append free (before.reverse ++ []) rest
  rw [List.nil_append] at value_eq
  rw [lowercase, lowercase, String.toList_ofList, String.toList_ofList, ← text_eq, start_eq,
    value_eq, ← List.append_assoc]
  exact List.infix_append _ _ _

/-! ## Letters next to a text -/

/-- A cased letter in lower case.  At one end of a text, it changes the form of a `Σ` in the text
unless the text itself decides that form. -/
structure IsCasedLetter (c : Char) : Prop extends Settled c where
  cased : isCased c = true
  visible : isCaseIgnorable c = false

theorem exists_isCasedLetter_ne (c : Option Char) :
    ∃ letter, IsCasedLetter letter ∧ c ≠ some letter := by
  have first : IsCasedLetter 'a' := by
    refine ⟨⟨?_, by decide, by decide⟩, ?_, ?_⟩ <;> decide +kernel
  have second : IsCasedLetter 'b' := by
    refine ⟨⟨?_, by decide, by decide⟩, ?_, ?_⟩ <;> decide +kernel
  by_cases same : c = some 'a'
  · refine ⟨'b', second, ?_⟩
    rw [same]
    decide
  · exact ⟨'a', first, same⟩

variable {left right : Char}

theorem IsCasedLetter.startsCased (h : IsCasedLetter left) (rest : List Char) :
    startsCased (left :: rest) = true := by
  rw [startsCased_cons, if_neg (Bool.eq_false_iff.1 h.visible), h.cased]

theorem IsCasedLetter.lowercaseFrom (h : IsCasedLetter left) (before rest : List Char) :
    lowercaseFrom before (left :: rest) = left :: lowercaseFrom (left :: before) rest := by
  rw [Unicode.lowercaseFrom, lowercaseBetween, if_neg h.ne_sigma, if_neg h.ne_dotted,
    h.lowercaseLetter_eq, List.singleton_append]

/-- If a letter on either side leaves a `Σ` as it is, then all surroundings do. -/
theorem decidesSigma_of_isFinal (leftLetter : IsCasedLetter left)
    (rightLetter : IsCasedLetter right)
    (leftKeeps : (startsCased (before ++ [left]) && !startsCased after) =
      (startsCased before && !startsCased after))
    (rightKeeps : (startsCased before && !startsCased (after ++ [right])) =
      (startsCased before && !startsCased after)) :
    decidesSigma before after = true := by
  unfold decidesSigma
  cases followed : startsCased after with
  | true => rfl
  | false =>
    rw [followed, Bool.not_false, Bool.and_true, Bool.and_true] at leftKeeps
    rw [followed, Bool.not_false, Bool.and_true] at rightKeeps
    have preceded : before.all isCaseIgnorable = false := by
      rw [Bool.eq_false_iff]
      intro all
      rw [startsCased_append_of_all all, leftLetter.startsCased] at leftKeeps
      rw [all_isCaseIgnorable_of_startsCased leftKeeps.symm] at all
      cases all
    cases cased : startsCased before with
    | false =>
      rw [preceded]
      rfl
    | true =>
      have behind : after.all isCaseIgnorable = false := by
        rw [Bool.eq_false_iff]
        intro all
        rw [startsCased_append_of_all all, rightLetter.startsCased, cased] at rightKeeps
        cases rightKeeps
      rw [preceded, behind]
      rfl

theorem lowercaseFrom_cons_prefix
    (h : lowercaseFrom before (c :: after) <+: lowercaseFrom other (c :: rest)) :
    lowercaseBetween before c after = lowercaseBetween other c rest ∧
      lowercaseFrom (c :: before) after <+: lowercaseFrom (c :: other) rest := by
  obtain ⟨more, same⟩ := h
  rw [lowercaseFrom, lowercaseFrom, List.append_assoc] at same
  obtain ⟨here, later⟩ := List.append_inj same (length_lowercaseBetween c before after other rest)
  exact ⟨here, more, later⟩

/-- A text decides its own sigmas if its lower case is the same next to letters on both sides. -/
theorem decidesFrom_of_prefix (leftLetter : IsCasedLetter left) (rightLetter : IsCasedLetter right)
    (leftKeeps : lowercaseFrom before text <+: lowercaseFrom (before ++ [left]) text)
    (rightKeeps : lowercaseFrom before text <+: lowercaseFrom before (text ++ [right])) :
    decidesFrom before text = true := by
  induction text generalizing before with
  | nil => rfl
  | cons c after ih =>
    obtain ⟨leftHere, leftLater⟩ := lowercaseFrom_cons_prefix leftKeeps
    obtain ⟨rightHere, rightLater⟩ := lowercaseFrom_cons_prefix rightKeeps
    rw [decidesFrom, ih leftLater rightLater, Bool.and_true, Bool.or_eq_true, bne_iff_ne]
    by_cases sigma : c = 'Σ'
    · subst sigma
      have leftFinal := isFinal_of_lowercaseBetween leftHere
      have rightFinal := isFinal_of_lowercaseBetween rightHere
      exact .inr (decidesSigma_of_isFinal leftLetter rightLetter leftFinal.symm rightFinal.symm)
    · exact .inl sigma

/-- A text found behind a letter that it does not begin with keeps its lower case there. -/
theorem eq_of_infix_left (letter : IsCasedLetter left)
    (notHead : (lowercaseFrom [] text).head? ≠ some left)
    (found : lowercaseFrom [] text <:+: lowercaseFrom [] (left :: text)) :
    lowercaseFrom [] text = lowercaseFrom [left] text := by
  have same_length := length_lowercaseFrom text [] [left]
  rw [letter.lowercaseFrom, List.infix_cons_iff, List.prefix_cons_iff] at found
  rcases found with (empty | ⟨rest, text_eq, _⟩) | inside
  · rw [empty] at same_length ⊢
    exact (List.length_eq_zero_iff.1 same_length.symm).symm
  · rw [text_eq] at notHead
    exact absurd rfl notHead
  · exact inside.eq_of_length same_length

/-- A text found before a letter that it does not end with keeps its lower case there. -/
theorem prefix_of_infix_right (letter : IsCasedLetter right)
    (notLast : (lowercaseFrom [] text).getLast? ≠ some right)
    (found : lowercaseFrom [] text <:+: lowercaseFrom [] (text ++ [right])) :
    lowercaseFrom [] text <+: lowercaseFrom [] (text ++ [right]) := by
  obtain ⟨start, same_length, start_eq⟩ := exists_lowercaseFrom_append [] text [right]
  rw [letter.lowercaseFrom, lowercaseFrom] at start_eq
  rw [start_eq] at found ⊢
  rw [List.infix_concat_iff, List.suffix_concat_iff] at found
  rcases found with (empty | ⟨rest, text_eq, _⟩) | inside
  · rw [empty]
    exact List.nil_prefix
  · rw [text_eq] at notLast
    exact absurd List.getLast?_concat notLast
  · rw [inside.eq_of_length same_length.symm]
    exact List.prefix_append _ _

/-- These texts, and no others, are found in lower case wherever they are found. -/
theorem isContextFree_iff (value : String) : isContextFree value = true ↔
    ∀ text : String, value.toList <:+: text.toList →
      (lowercase value).toList <:+: (lowercase text).toList := by
  constructor
  · exact fun free text ↦ lowercase_infix free
  · intro found
    -- Next to a letter that it does not have at that end, the value is found in its own place only.
    obtain ⟨left, leftLetter, notHead⟩ :=
      exists_isCasedLetter_ne (lowercaseFrom [] value.toList).head?
    obtain ⟨right, rightLetter, notLast⟩ :=
      exists_isCasedLetter_ne (lowercaseFrom [] value.toList).getLast?
    have leftFound := found (String.ofList (left :: value.toList))
    have rightFound := found (String.ofList (value.toList ++ [right]))
    simp only [lowercase, String.toList_ofList] at leftFound rightFound
    have inLeft : value.toList <:+: left :: value.toList := List.infix_cons List.infix_rfl
    have inRight : value.toList <:+: value.toList ++ [right] := (List.prefix_append _ _).isInfix
    apply decidesFrom_of_prefix leftLetter rightLetter
    · rw [eq_of_infix_left leftLetter notHead (leftFound inLeft)]
      exact List.prefix_rfl
    · exact prefix_of_infix_right rightLetter notLast (rightFound inRight)

end RecordSearch.Unicode
