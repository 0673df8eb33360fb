import RecordSearch.Proofs.Blame
import RecordSearch.Proofs.Spacing
import RecordSearch.Proofs.Writing

/-!
# Writing what was read

An expression that was read from a text is written in a form that is read as the same expression or
not at all.  Two things can stand in the way: the chains of a text become parentheses in its written
form, which may nest too deeply, and a name is written in lower case, where it may be no name any
more.  A keyword it never becomes, and the terms are as many as they were.
-/

namespace RecordSearch.Unicode

theorem Shift.preimage?_eq_some {shift : Shift} {code image : Nat}
    (h : shift.image? code = some image) : shift.preimage? image = some code := by
  unfold image? at h
  split at h
  · rename_i inside
    simp only [Bool.and_eq_true, decide_eq_true_eq, beq_iff_eq] at inside
    obtain ⟨⟨first_le, le_last⟩, divides⟩ := inside
    cases h
    have moved : shift.target + (code - shift.first) - shift.target = code - shift.first :=
      Nat.add_sub_cancel_left _ _
    have le_image : code - shift.first ≤ shift.last - shift.first := by omega
    simp [preimage?, moved, divides, le_image, Nat.add_sub_cancel' first_le]
  · cases h

def keywordLetters : List Char := ['a', 'd', 'n', 'o', 'r', 't']

-- The letters are looked at one by one as a list, because otherwise all characters would be.
/-- Only its capital has a letter of a keyword as lower case. -/
theorem keywordLetters_preimages : ∀ letter ∈ keywordLetters,
    lowercaseShifts.filterMap (·.preimage? letter.toNat) = [letter.toUpper.toNat] := by
  have all : keywordLetters.all fun letter ↦
      lowercaseShifts.filterMap (·.preimage? letter.toNat) == [letter.toUpper.toNat] := by
    decide +kernel
  simpa only [List.all_eq_true, beq_iff_eq] using all

theorem toLower_keywordLetters : ∀ letter ∈ keywordLetters,
    letter.toLower = letter ∧ letter.toUpper.toLower = letter := by
  have all : keywordLetters.all fun letter ↦
      letter.toLower == letter && letter.toUpper.toLower == letter := by
    decide
  simpa only [List.all_eq_true, Bool.and_eq_true, beq_iff_eq] using all

/-- Only ASCII letters become letters of keywords. -/
theorem toLower_of_lowercaseLetter {c : Char} (h : lowercaseLetter c ∈ keywordLetters) :
    c.toLower = lowercaseLetter c := by
  rcases Shift.applyFirst_eq_self_or lowercaseShifts c.toNat with same | ⟨shift, member, found⟩
  · have letter_eq : lowercaseLetter c = c := by rw [lowercaseLetter, same, Char.ofNat_toNat]
    rw [letter_eq] at h ⊢
    exact (toLower_keywordLetters c h).1
  · have image := List.mem_flatMap.2 ⟨shift, member, (Shift.mem_of_image? found).2⟩
    have letter_eq : (lowercaseLetter c).toNat = Shift.applyFirst lowercaseShifts c.toNat :=
      toNat_ofNat (lowercaseImages_valid _ image)
    rw [← letter_eq] at found
    have source : c.toNat ∈ lowercaseShifts.filterMap (·.preimage? (lowercaseLetter c).toNat) :=
      List.mem_filterMap.2 ⟨shift, member, Shift.preimage?_eq_some found⟩
    rw [keywordLetters_preimages _ h, List.mem_singleton] at source
    have upper : c = (lowercaseLetter c).toUpper := Char.toNat_inj.1 source
    calc
      c.toLower = (lowercaseLetter c).toUpper.toLower := congrArg Char.toLower upper
      _ = lowercaseLetter c := (toLower_keywordLetters _ h).2

/-- A character whose lower case is made of letters of keywords is such a letter or its capital. -/
theorem lowercaseBetween_keyword {before after : List Char} {c : Char}
    (h : ∀ letter ∈ lowercaseBetween before c after, letter ∈ keywordLetters) :
    lowercaseBetween before c after = [c.toLower] := by
  unfold lowercaseBetween at h ⊢
  split
  · rename_i sigma
    rw [if_pos sigma, List.forall_mem_singleton] at h
    split at h
    · exact absurd h (by decide)
    · exact absurd h (by decide)
  rename_i notSigma
  rw [if_neg notSigma] at h
  split
  · rename_i dotted
    rw [if_pos dotted] at h
    exact absurd (h 'i' List.mem_cons_self) (by decide)
  · rename_i notDotted
    rw [if_neg notDotted, List.forall_mem_singleton] at h
    rw [toLower_of_lowercaseLetter h]

/-- A text whose lower case has only letters of keywords is in ASCII. -/
theorem lowercaseFrom_keyword {before text : List Char}
    (h : ∀ letter ∈ lowercaseFrom before text, letter ∈ keywordLetters) :
    lowercaseFrom before text = text.map Char.toLower := by
  induction text generalizing before with
  | nil => rfl
  | cons c after ih =>
    rw [lowercaseFrom, List.forall_mem_append] at h
    rw [lowercaseFrom, lowercaseBetween_keyword h.1, ih h.2]
    rfl

theorem keywords_letters : ∀ keyword ∈ ["and", "or", "not"],
    (∀ letter ∈ keyword.toList, letter ∈ keywordLetters) ∧
      keyword.toList.map Char.toLower = keyword.toList := by
  have all : ["and", "or", "not"].all fun keyword ↦
      keyword.toList.all keywordLetters.contains &&
        keyword.toList.map Char.toLower == keyword.toList := by
    decide
  simpa only [List.all_eq_true, Bool.and_eq_true, List.contains_iff_mem, beq_iff_eq] using all

/-- Only the letters of a keyword become a keyword. -/
theorem sameLetters_of_lowercase {typed keyword : String} (h : lowercase typed = keyword)
    (member : keyword ∈ ["and", "or", "not"]) : Text.sameLetters typed keyword := by
  obtain ⟨letters, lower⟩ := keywords_letters keyword member
  subst h
  rw [lowercase, String.toList_ofList] at letters lower
  rw [Text.sameLetters, beq_iff_eq, lowercase, String.toList_ofList, lower,
    lowercaseFrom_keyword letters]

end RecordSearch.Unicode

namespace RecordSearch.Token

open Unicode (lowercase)

/-- A word that is no keyword does not become one in lower case. -/
theorem lowercase_not_keyword {typed : String} (h : ofWord typed = word typed) :
    lowercase typed ∉ ["and", "or", "not"] := by
  intro keyword
  have same := Unicode.sameLetters_of_lowercase rfl keyword
  simp only [List.mem_cons, List.not_mem_nil, or_false] at keyword
  rcases keyword with isAnd | isOr | isNot
  · have token_eq : ofWord typed = .and := ofWord_eq_of_sameLetters rfl (isAnd ▸ same)
    cases h.symm.trans token_eq
  · have token_eq : ofWord typed = .or := ofWord_eq_of_sameLetters rfl (isOr ▸ same)
    cases h.symm.trans token_eq
  · have token_eq : ofWord typed = .not := ofWord_eq_of_sameLetters rfl (isNot ▸ same)
    cases h.symm.trans token_eq

end RecordSearch.Token

namespace RecordSearch.Rule

open Grammar

/-! ## Rules that may fail -/

/-- The expected result, or a failure of a kind that is allowed. -/
inductive Gives {α : Type} (allowed : Failure → Prop) (expected : α) : Except Failure α → Prop
  | value : Gives allowed expected (.ok expected)
  | failure {failure : Failure} (h : allowed failure) : Gives allowed expected (.error failure)

section

variable {α β : Type} {allowed other : Failure → Prop} {first : α} {second : β}
  {result : Except Failure α}

/-- A failure that is allowed passes through the steps behind it. -/
theorem Gives.bind {f : α → Except Failure β} (h : Gives allowed first result)
    (next : Gives allowed second (f first)) : Gives allowed second (result >>= f) := by
  cases h with
  | value => exact next
  | failure h => exact .failure h

theorem Gives.imp (h : Gives allowed first result)
    (weaker : ∀ failure, allowed failure → other failure) : Gives other first result := by
  cases h with
  | value => exact .value
  | failure h => exact .failure (weaker _ h)

end

variable {allowed : Failure → Prop} {depth : Nat} {start middle cursor stop : Cursor}
  {left right e : Expression} {tail : List Token}

theorem gives_moreOperands (ends : EndsChain stop.rest) :
    Gives allowed (e, stop) (moreOperands (operand depth) e stop) := by
  rw [moreOperands_eq_ok ends]
  exact .value

theorem gives_moreConjunctions (other : ∀ tail, stop.rest ≠ .or :: tail) :
    Gives allowed (e, stop) (moreConjunctions (operand depth) e stop) := by
  rw [moreConjunctions_eq_ok other]
  exact .value

/-- An operand with no other behind it is a conjunction. -/
theorem Gives.conjunction (h : Gives allowed (e, stop) (operand depth start))
    (ends : EndsChain stop.rest) :
    Gives allowed (e, stop) (Rule.conjunction (operand depth) start) :=
  h.bind (gives_moreOperands ends)

/-- A conjunction with no other behind it is a disjunction. -/
theorem Gives.disjunction (h : Gives allowed (e, stop) (Rule.conjunction (operand depth) start))
    (other : ∀ tail, stop.rest ≠ .or :: tail) :
    Gives allowed (e, stop) (Rule.disjunction (operand depth) start) :=
  h.bind (gives_moreConjunctions other)

/-- Two operands with `AND` between them. -/
theorem Gives.and (first : Gives allowed (left, middle) (operand depth start))
    (rest_eq : middle.rest = .and :: tail)
    (second : Gives allowed (right, stop) (operand depth middle.advance))
    (ends : EndsChain stop.rest) :
    Gives allowed (.and left right, stop) (Rule.conjunction (operand depth) start) := by
  have more : Gives allowed (.and left right, stop) (moreOperands (operand depth) left middle) := by
    rw [moreOperands_eq_bind rest_eq (.inl rfl), if_pos rfl]
    exact second.bind (gives_moreOperands ends)
  exact first.bind more

/-- Two operands with `OR` between them. -/
theorem Gives.or (first : Gives allowed (left, middle) (operand depth start))
    (rest_eq : middle.rest = .or :: tail)
    (second : Gives allowed (right, stop) (operand depth middle.advance))
    (ends : EndsDisjunction stop.rest) :
    Gives allowed (.or left right, stop) (Rule.disjunction (operand depth) start) := by
  have more : Gives allowed (.or left right, stop)
      (moreConjunctions (operand depth) left middle) := by
    rw [moreConjunctions_eq_bind rest_eq]
    exact (second.conjunction ends.1).bind (gives_moreConjunctions ends.2)
  exact (first.conjunction (rest_eq ▸ endsChain_or tail)).bind more

/-- A disjunction in parentheses. -/
theorem Gives.group {rest : List Token} {terms : Nat} (rest_eq : cursor.rest = .leftParen :: tail)
    (shorter : rest.length < tail.length)
    (h : Gives allowed (e, cursor.advance.past (.rightParen :: rest) terms)
      (Rule.disjunction (operand depth) cursor.advance)) :
    Gives allowed (e, cursor.past rest terms) (operand (depth + 1) cursor) := by
  have notNot : cursor.rest.head? ≠ some .not := by simp [rest_eq]
  have enclosed : operand (depth + 1) cursor =
      Rule.disjunction (operand depth) cursor.advance >>= fun read ↦ closeGroup read.1 read.2 := by
    rw [operand_eq_atom notNot, atom.eq_def]
    simp only [rest_eq]
    rfl
  have inside : rest.length + 1 < cursor.rest.length := by
    rw [rest_eq, List.length_cons]
    exact Nat.succ_lt_succ shorter
  have closed : closeGroup e (cursor.advance.past (.rightParen :: rest) terms) =
      .ok (e, cursor.past rest terms) := by
    simp only [closeGroup, Cursor.past_rest, advance_past_rightParen inside]
  have last : Gives allowed (e, cursor.past rest terms)
      (closeGroup e (cursor.advance.past (.rightParen :: rest) terms)) := by
    rw [closed]
    exact .value
  rw [enclosed]
  exact h.bind last

end RecordSearch.Rule

namespace RecordSearch.Expression

open Grammar
open Rule (Gives)
open Token (ofWord)

/-! ## What can keep an expression from being read -/

variable {depth terms before : Nat} {e part : Expression} {failure : Failure}

/-- What can keep the tokens of an expression from being read back, where operators may nest to a
depth and so many terms stand before it. -/
inductive Obstructs (depth terms : Nat) (e : Expression) : Failure → Prop
  | tooDeep (height_gt : depth < e.height) : Obstructs depth terms e .tooDeep
  | tooManyTerms (terms_gt : maxTerms < terms + e.leaves) : Obstructs depth terms e .tooManyTerms
  | invalidFieldName {target : Field} (member : target ∈ e.fields)
    (notName : Field.isName target.name = false) :
    Obstructs depth terms e (.invalidFieldName target.name)

/-- What obstructs a part obstructs the whole. -/
theorem Obstructs.within (h : Obstructs depth before part failure)
    (height_lt : part.height < e.height) (leaves_le : before + part.leaves ≤ terms + e.leaves)
    (fields_subset : part.fields ⊆ e.fields) : Obstructs (depth + 1) terms e failure := by
  cases h with
  | tooDeep height_gt => exact .tooDeep (Nat.lt_of_le_of_lt height_gt height_lt)
  | tooManyTerms terms_gt => exact .tooManyTerms (Nat.lt_of_lt_of_le terms_gt leaves_le)
  | invalidFieldName member notName => exact .invalidFieldName (fields_subset member) notName

/-- The name of the field is written as a word, and it names the field where it is a name at all. -/
structure IsSpelled (target : Field) : Prop where
  ofWord_name : ofWord target.name = .word target.name
  ofName_name : Field.ofName target.name = target

variable {cursor : Cursor} {tokens rest : List Token}

/-- Reading a single term fails at most for the number of terms. -/
theorem gives_of_verdict {α : Type} {expected : α} {result outcome : Except Failure α}
    (h : Rule.Verdict depth 0 (terms + e.leaves) outcome result)
    (gives : Gives (Obstructs depth terms e) expected outcome) :
    Gives (Obstructs depth terms e) expected result := by
  cases h with
  | accepted => exact gives
  | tooDeep gt => exact absurd gt (Nat.not_lt_zero _)
  | tooManyTerms gt => exact .failure (.tooManyTerms gt)

/-- Tokens that write an operand are read as it, unless something obstructs it. -/
theorem gives_of_derives (derives : Derives .operand 0 tokens e rest)
    (rest_eq : cursor.rest = tokens) :
    Gives (Obstructs depth cursor.terms e) (e, cursor.past rest e.leaves)
      (Rule.operand depth cursor) :=
  gives_of_verdict (Rule.complete derives depth cursor rest_eq trivial) .value

/-- A field whose name is no name is refused for it, unless there are too many terms before. -/
theorem gives_of_not_isName {target : Field} {comparison : Comparison} {value : String}
    (notName : Field.isName target.name = false)
    (rest_eq : cursor.rest = .word target.name :: .compare comparison :: tokens) :
    Gives (Obstructs depth cursor.terms (field target comparison value))
      (field target comparison value, cursor.past rest 1) (Rule.operand depth cursor) := by
  have notNot : cursor.rest.head? ≠ some .not := by simp [rest_eq]
  have read : Rule.Verdict depth 0 (cursor.terms + 1) (.error (.invalidFieldName target.name))
      (Rule.operand depth cursor) := by
    rw [Rule.operand_eq_atom notNot]
    simp only [Rule.atom, rest_eq, Rule.afterWord]
    refine Rule.Verdict.of_countTerm rfl ?_
    simp only [Cursor.advance_rest, rest_eq, List.tail_cons, Rule.comparison?, Rule.fieldValue,
      notName]
    rfl
  exact gives_of_verdict read (.failure (.invalidFieldName (List.mem_singleton_self _) notName))

/-- Wherever the tokens of the expression stand, they are read back unless something obstructs
it. -/
def Rereads (e : Expression) : Prop :=
  ∀ (depth : Nat) (cursor : Cursor) {rest : List Token}, cursor.rest = e.tokens ++ rest →
    EndsPart rest → Gives (Obstructs depth cursor.terms e) (e, cursor.past rest e.leaves)
      (Rule.operand depth cursor)

/-- A negation is read again if its operand is. -/
theorem rereads_not {inner : Expression} (h : Rereads inner) : Rereads (not inner) := by
  intro depth cursor rest rest_eq ends
  have height_lt : inner.height < (not inner).height := Nat.lt_succ_self _
  have shorter : rest.length < cursor.rest.length := by
    rw [rest_eq, tokens, List.cons_append, List.length_cons, List.length_append]
    omega
  rw [Rule.operand_eq_operandOver, Rule.operandOver.eq_def]
  simp only [rest_eq, tokens, List.cons_append]
  cases depth with
  | zero => exact .failure (.tooDeep (Nat.succ_pos _))
  | succ depth =>
    have advanced : cursor.advance.rest = inner.tokens ++ rest := by simp [rest_eq, tokens]
    have read := h depth cursor.advance advanced ends
    rw [cursor.advance_past shorter] at read
    have within := read.imp fun _ obstructs ↦
      obstructs.within height_lt (Nat.le_refl _) (List.Subset.refl _)
    exact within.bind .value

/-- In a parenthesis both operands are read back, one after the other. -/
theorem gives_operands (depth : Nat) {left right : Expression} {keyword : Token}
    (isKeyword : keyword ∈ [.and, .or, .rightParen]) (readsLeft : Rereads left)
    (readsRight : Rereads right) (height_eq : e.height = max left.height right.height + 1)
    (leaves_eq : e.leaves = left.leaves + right.leaves)
    (fields_eq : e.fields = left.fields ++ right.fields)
    (rest_eq : cursor.rest = left.tokens ++ keyword :: (right.tokens ++ .rightParen :: rest)) :
    ∃ middle, middle.rest = keyword :: (right.tokens ++ .rightParen :: rest) ∧
      Gives (Obstructs (depth + 1) cursor.terms e) (left, middle) (Rule.operand depth cursor) ∧
      Gives (Obstructs (depth + 1) cursor.terms e)
        (right, cursor.past (.rightParen :: rest) e.leaves)
        (Rule.operand depth middle.advance) := by
  let behind := right.tokens ++ .rightParen :: rest
  let middle := cursor.past (keyword :: behind) left.leaves
  have stop_eq : middle.advance.past (.rightParen :: rest) right.leaves =
      cursor.past (.rightParen :: rest) e.leaves := by
    rw [leaves_eq]
    apply cursor.past_advance_past
    · simp [rest_eq, behind]
    · simp [behind]
  have first := readsLeft depth cursor rest_eq (endsPart_cons keyword behind isKeyword)
  have second := readsRight depth middle.advance rfl (endsPart_cons .rightParen rest (by simp))
  rw [stop_eq] at second
  -- The parenthesis takes one level, and the operator adds one to the height.
  refine ⟨middle, rfl, first.imp fun _ obstructs ↦ ?_, second.imp fun _ obstructs ↦ ?_⟩
  · apply obstructs.within
    · omega
    · omega
    · rw [fields_eq]
      exact List.subset_append_left _ _
  · apply obstructs.within
    · omega
    · rw [leaves_eq, ← Nat.add_assoc]
      exact Nat.le_refl _
    · rw [fields_eq]
      exact List.subset_append_right _ _

/-- Where no parenthesis can be opened, the expression nests too deeply. -/
theorem gives_tooDeep (nests : 0 < e.height) (rest_eq : cursor.rest = .leftParen :: tokens) :
    Gives (Obstructs 0 cursor.terms e) (e, cursor.past rest e.leaves) (Rule.operand 0 cursor) := by
  have refused : Rule.operand 0 cursor = .error .tooDeep := by
    simp only [Rule.operand, Rule.operandOver, Rule.atom, rest_eq]
  rw [refused]
  exact .failure (.tooDeep nests)

theorem rereads_and {left right : Expression} (readsLeft : Rereads left)
    (readsRight : Rereads right) : Rereads (and left right) := by
  intro depth cursor rest rest_eq _
  have inside : cursor.rest =
      .leftParen :: (left.tokens ++ .and :: (right.tokens ++ .rightParen :: rest)) := by
    simp [rest_eq, tokens]
  cases depth with
  | zero => exact gives_tooDeep (Nat.succ_pos _) inside
  | succ depth =>
    have advanced : cursor.advance.rest =
        left.tokens ++ .and :: (right.tokens ++ .rightParen :: rest) := congrArg List.tail inside
    obtain ⟨middle, middle_eq, first, second⟩ := gives_operands (e := and left right) depth
      (by simp) readsLeft readsRight rfl rfl rfl advanced
    have chain := first.and middle_eq second (endsChain_rightParen rest)
    exact (chain.disjunction (by simp)).group inside (by simp; omega)

theorem rereads_or {left right : Expression} (readsLeft : Rereads left)
    (readsRight : Rereads right) : Rereads (or left right) := by
  intro depth cursor rest rest_eq _
  have inside : cursor.rest =
      .leftParen :: (left.tokens ++ .or :: (right.tokens ++ .rightParen :: rest)) := by
    simp [rest_eq, tokens]
  cases depth with
  | zero => exact gives_tooDeep (Nat.succ_pos _) inside
  | succ depth =>
    have advanced : cursor.advance.rest =
        left.tokens ++ .or :: (right.tokens ++ .rightParen :: rest) := congrArg List.tail inside
    obtain ⟨middle, middle_eq, first, second⟩ := gives_operands (e := or left right) depth
      (by simp) readsLeft readsRight rfl rfl rfl advanced
    have chain := first.or middle_eq second ⟨endsChain_rightParen rest, by simp⟩
    exact chain.group inside (by simp; omega)

/-- The tokens of an expression are read back unless something obstructs it. -/
theorem rereads (spelled : ∀ target ∈ e.fields, IsSpelled target) : Rereads e := by
  induction e with
  | term text =>
    intro depth cursor rest rest_eq ends
    exact gives_of_derives (.atom (derives_value text ends)) rest_eq
  | field target comparison value =>
    intro depth cursor rest rest_eq ends
    obtain ⟨ofWord_name, ofName_name⟩ := spelled target (List.mem_singleton_self _)
    cases isName : Field.isName target.name with
    | true =>
      have derives := derives_field ⟨isName, ofWord_name, ofName_name⟩ comparison value rest
      exact gives_of_derives (.atom derives) rest_eq
    | false =>
      rw [tokens, ofWord_name] at rest_eq
      exact gives_of_not_isName isName rest_eq
  | not inner ih => exact rereads_not (ih spelled)
  | and left right ihLeft ihRight =>
    rw [fields, List.forall_mem_append] at spelled
    exact rereads_and (ihLeft spelled.1) (ihRight spelled.2)
  | or left right ihLeft ihRight =>
    rw [fields, List.forall_mem_append] at spelled
    exact rereads_or (ihLeft spelled.1) (ihRight spelled.2)

/-- The written form of an expression is read as it, unless something obstructs it. -/
theorem gives_parse_write (unbroken : ∀ target ∈ e.fields, Field.IsUnbroken target.name)
    (spelled : ∀ target ∈ e.fields, IsSpelled target) :
    Gives (Obstructs maxDepth 0 e) e (parse e.write) := by
  have operand := rereads spelled maxDepth ⟨e.tokens, 0, 0⟩ (List.append_nil _).symm endsPart_nil
  have whole := (operand.conjunction endsChain_nil).disjunction (by simp)
  rw [parse, tokenize_write unbroken]
  exact whole.bind .value

/-- A name that was typed is spelled in lower case. -/
theorem isSpelled_ofName {typed : String} (h : ofWord typed = .word typed) :
    IsSpelled (Field.ofName typed) := by
  constructor
  · rw [Field.name_ofName]
    exact Token.ofWord_lowercase (Token.lowercase_not_keyword h)
  · rw [Field.name_ofName, Field.ofName_lowercase]

/-- The written form of an expression that was read is read as that expression, or not at all.  It
is refused only where more operators are above each other than may nest, or where a name that was
typed is no name in lower case. -/
theorem parse_write_of_parse {text : String} (h : parse text = .ok e) :
    (parse e.write = .ok e ∨ parse e.write = .error .tooDeep ∨
      ∃ name, parse e.write = .error (.invalidFieldName name)) ∧
    (parse e.write = .error .tooDeep → maxDepth < e.height) ∧
    ∀ name, parse e.write = .error (.invalidFieldName name) →
      Field.isName name = false ∧ ∃ target ∈ e.fields, target.name = name ∧
        ∃ typed, Field.isName typed ∧ target = Field.ofName typed ∧
          name = Unicode.lowercase typed := by
  obtain ⟨tokens, cut, read⟩ := Rule.bind_eq_ok h
  obtain ⟨⟨_, _, derives⟩, leaves_le⟩ := writes_of_ofTokens read
  have unbroken : ∀ target ∈ e.fields, Field.IsUnbroken target.name := by
    intro target member
    obtain ⟨typed, _, isName, rfl⟩ := mem_fields_of_derives derives target member
    rw [Field.name_ofName]
    exact Field.isUnbroken_lowercase isName
  have spelled : ∀ target ∈ e.fields, IsSpelled target := by
    intro target member
    obtain ⟨typed, inside, _, rfl⟩ := mem_fields_of_derives derives target member
    exact isSpelled_ofName (Token.ofWord_of_mem_scan (Token.scan_of_tokenize cut) inside)
  have outcome := gives_parse_write unbroken spelled
  generalize parse e.write = result at outcome ⊢
  cases outcome with
  | value => exact ⟨.inl rfl, nofun, nofun⟩
  | failure obstructs =>
    cases obstructs with
    | tooDeep height_gt =>
      exact ⟨.inr (.inl rfl), fun _ ↦ height_gt, nofun⟩
    | tooManyTerms terms_gt =>
      rw [Nat.zero_add] at terms_gt
      exact absurd leaves_le (Nat.not_le_of_gt terms_gt)
    | @invalidFieldName target member notName =>
      refine ⟨.inr (.inr ⟨_, rfl⟩), nofun, fun name same ↦ ?_⟩
      cases same
      obtain ⟨typed, _, isName, target_eq⟩ := mem_fields_of_derives derives target member
      refine ⟨notName, target, member, rfl, typed, isName, target_eq, ?_⟩
      rw [target_eq, Field.name_ofName]

/-- The lower case of a dotted capital has a mark in it, which no name has. -/
theorem parse_write_of_parse_dotted :
    parse "İ.1==x OR y" = .ok (or (field (.named "i̇.1") .exact "x") (term "y")) ∧
      parse "(i̇.1==x OR y)" = .error (.invalidFieldName "i̇.1") ∧
      Field.isName "i̇.1" = false ∧
      ∃ target ∈ (or (field (.named "i̇.1") .exact "x") (term "y")).fields, target.name = "i̇.1" ∧
        ∃ typed, Field.isName typed ∧ target = Field.ofName typed ∧
          "i̇.1" = Unicode.lowercase typed := by
  have read : parse "İ.1==x OR y" = .ok (or (field (.named "i̇.1") .exact "x") (term "y")) := by
    decide +kernel
  have refused : parse (or (field (.named "i̇.1") .exact "x") (term "y")).write =
      .error (.invalidFieldName "i̇.1") := by
    decide +kernel
  exact ⟨read, refused, (parse_write_of_parse read).2.2 "i̇.1" refused⟩

end RecordSearch.Expression
