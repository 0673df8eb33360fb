import RecordSearch.Proofs.Lookahead

/-!
# What failures tell

A reading rule that fails for another reason than a limit tells how far the tokens could have been
read.  It goes from left to right and looks ahead by two tokens at most.  So it fails in the same
way with anything behind the tokens that it has seen, and the tokens before one that it refuses can
be completed to a phrase.  Where a rule goes on with another one, it takes over what that one tells.
-/

namespace RecordSearch

namespace Grammar

/-- The tokens seen can be completed to a phrase, whatever follows that binds nothing.  The phrase
may stand wherever `rest` stands. -/
def Completable (category : Category) (rest seen : List Token) : Prop :=
  ∃ more, ∀ other, Detached other →
    Admits rest (seen ++ (more ++ other)) ∧
      ∃ nesting e, Derives category nesting (seen ++ (more ++ other)) e other

variable {category : Category} {tokens rest other : List Token}

/-- Where an atom is missing, one in parentheses can stand whatever comes before it. -/
theorem completable_nil (rest : List Token) : Completable .atom rest [] := by
  refine ⟨[.leftParen, .word "x", .rightParen], fun other _ ↦
    ⟨(detached_leftParen _).admits rest, 1, .term "x", ?_⟩⟩
  have word : Derives .atom 0 (.word "x" :: .rightParen :: other) (.term "x")
      (.rightParen :: other) := by
    refine .term fun comparison behind compares ↦ ?_
    cases compares
  exact .group (.conjunction (.operand (.atom word)))

/-- A name and a comparison symbol wait for a value. -/
theorem completable_symbol {name : String} (isName : Field.isName name) (comparison : Comparison)
    (tail : List Token) :
    Completable .atom (.word name :: .compare comparison :: tail)
      [.word name, .compare comparison] :=
  ⟨[.word "x"], fun _ _ ↦ ⟨admits_cons_cons _ _ _ _, 0, _,
    .field isName (.symbol comparison _) (.inl rfl)⟩⟩

end Grammar

namespace Rule

open Grammar

/-- The rule fails in the same way whatever is behind the tokens seen. -/
def Persists (depth : Nat) (category : Category) (cursor : Cursor) (seen : List Token)
    (failure : Failure) : Prop :=
  ∀ unseen, Resembles cursor.rest (seen ++ unseen) ∧
    ofCategory depth category { cursor with rest := seen ++ unseen } = .error failure

/-- What a failure tells about the tokens from a place on, where a phrase was looked for. -/
inductive Blames (depth : Nat) (category : Category) (cursor : Cursor) : Failure → Prop
  | unexpectedToken {index : Nat} {seen unseen : List Token} {token : Token}
    (rest_eq : cursor.rest = seen ++ token :: unseen)
    (index_eq : index = cursor.index + seen.length)
    (completable : Completable category cursor.rest seen)
    (persists : Persists depth category cursor (seen ++ [token]) (.unexpectedToken index token)) :
    Blames depth category cursor (.unexpectedToken index token)
  | unexpectedEnd {expected : Expectation}
    (completable : Completable category cursor.rest cursor.rest) :
    Blames depth category cursor (.unexpectedEnd expected)
  | missingValue {name : String} (completable : Completable category cursor.rest cursor.rest) :
    Blames depth category cursor (.missingValue name)
  | invalidFieldName {name : String}
    (member : .word name ∈ cursor.rest ∨ .phrase name ∈ cursor.rest)
    (persists : Persists depth category cursor cursor.rest (.invalidFieldName name)) :
    Blames depth category cursor (.invalidFieldName name)
  | tooDeep : Blames depth category cursor .tooDeep
  | tooManyTerms : Blames depth category cursor .tooManyTerms

/-- Every failure to read a phrase of the category tells the truth. -/
def Blaming (depth : Nat) (category : Category) : Prop :=
  ∀ {cursor : Cursor} {failure : Failure}, ofCategory depth category cursor = .error failure →
    Blames depth category cursor failure

variable {depth level : Nat} {rule : Rule} {outer inside : Category}
  {start next cursor stop : Cursor} {front closers rest seen : List Token} {left e : Expression}
  {failure : Failure}

/-- A rule goes on at `next`, behind the tokens `front`, with the rule of another category.  Of a
phrase of that category it makes one of its own, which ends with the closing tokens. -/
structure Uses (depth : Nat) (outer : Category) (start : Cursor) (level : Nat) (inside : Category)
    (next : Cursor) (front closers : List Token) : Prop where
  rest_eq : start.rest = front ++ next.rest
  index_eq : next.index = start.index + front.length
  fails : ∀ {other failure}, Resembles next.rest other →
    ofCategory level inside { next with rest := other } = .error failure →
    ofCategory depth outer { start with rest := front ++ other } = .error failure
  detached : ∀ {other}, Detached other → Detached (closers ++ other)
  derives : ∀ {nesting tokens e other}, Admits next.rest tokens →
    Derives inside nesting tokens e (closers ++ other) →
    ∃ nesting e, Derives outer nesting (front ++ tokens) e other

namespace Uses

/-- What completes the inner phrase completes the outer one when the closing tokens follow. -/
theorem completable (h : Uses depth outer start level inside next front closers)
    (completable : Completable inside next.rest seen) :
    Completable outer start.rest (front ++ seen) := by
  obtain ⟨more, completes⟩ := completable
  refine ⟨more ++ closers, fun other detached ↦ ?_⟩
  obtain ⟨admits, nesting, e, derives⟩ := completes (closers ++ other) (h.detached detached)
  have regroup : front ++ seen ++ (more ++ closers ++ other) =
      front ++ (seen ++ (more ++ (closers ++ other))) := by
    simp only [List.append_assoc]
  rw [regroup, h.rest_eq]
  exact ⟨admits.append front, h.derives admits derives⟩

/-- The outer rule fails as the inner one does, whatever is behind the tokens seen. -/
theorem persists (h : Uses depth outer start level inside next front closers)
    (persists : Persists level inside next seen failure) :
    Persists depth outer start (front ++ seen) failure := by
  intro unseen
  obtain ⟨resembles, fails⟩ := persists unseen
  rw [List.append_assoc, h.rest_eq]
  exact ⟨resembles.append front, h.fails resembles fails⟩

/-- What the inner rule blames, the outer rule blames rightly. -/
theorem blames (h : Uses depth outer start level inside next front closers)
    (blames : Blames level inside next failure) : Blames depth outer start failure := by
  cases blames with
  | @unexpectedToken index seen unseen token rest_eq index_eq completable persists =>
    have start_eq : start.rest = (front ++ seen) ++ token :: unseen := by
      rw [h.rest_eq, rest_eq, List.append_assoc]
    refine .unexpectedToken start_eq ?_ (h.completable completable) ?_
    · rw [index_eq, h.index_eq, List.length_append, Nat.add_assoc]
    · rw [List.append_assoc]
      exact h.persists persists
  | unexpectedEnd completable =>
    have whole := h.completable completable
    rw [← h.rest_eq] at whole
    exact .unexpectedEnd whole
  | missingValue completable =>
    have whole := h.completable completable
    rw [← h.rest_eq] at whole
    exact .missingValue whole
  | invalidFieldName member persists =>
    have whole := h.persists persists
    rw [← h.rest_eq] at whole
    refine .invalidFieldName ?_ whole
    rw [h.rest_eq, List.mem_append, List.mem_append]
    exact member.imp .inr .inr
  | tooDeep => exact .tooDeep
  | tooManyTerms => exact .tooManyTerms

end Uses

theorem bind_eq_error {α β : Type} {x : Except Failure α} {f : α → Except Failure β}
    (h : x >>= f = .error failure) :
    x = .error failure ∨ ∃ a, x = .ok a ∧ f a = .error failure := by
  cases x with
  | error other =>
    cases h
    exact .inl rfl
  | ok a => exact .inr ⟨a, rfl, h⟩

/-- To count a term fails only at the limit. -/
theorem countTerm_eq_error (h : cursor.countTerm = .error failure) : failure = .tooManyTerms := by
  unfold Cursor.countTerm at h
  split at h
  · cases h
  · cases h
    rfl

/-- A token that can stand at no beginning of an atom. -/
theorem blames_unexpected {token : Token} {tail : List Token}
    (rest_eq : cursor.rest = [] ++ token :: tail) (notValue : token.isValue = false)
    (notParen : token ≠ .leftParen) :
    Blames depth .atom cursor (cursor.unexpected token) := by
  refine .unexpectedToken rest_eq rfl (completable_nil _) fun unseen ↦ ?_
  rw [rest_eq]
  refine ⟨resembles_cons_of_not_value notValue _ _, ?_⟩
  cases token with
  | word => cases notValue
  | phrase => cases notValue
  | leftParen => exact absurd rfl notParen
  | rightParen => rfl
  | and => rfl
  | or => rfl
  | not => rfl
  | compare => rfl

section FieldTerms

variable {name : String} {comparison : Comparison} {tokens behind unseen : List Token}
  {token : Token} {index terms : Nat}

/-- A word with a comparison behind it is taken for a name. -/
theorem atom_eq_fieldValue (compares : Compares tokens comparison behind)
    (counts : terms < maxTerms) :
    ofCategory depth .atom ⟨.word name :: tokens, index, terms⟩ =
      fieldValue name comparison ⟨behind, index + 2, terms + 1⟩ := by
  obtain rfl := compares.eq_tail
  have found := comparison?_eq_some_iff.2 compares
  have counted : Cursor.countTerm ⟨tokens, index + 1, terms⟩ =
      .ok ⟨tokens, index + 1, terms + 1⟩ := if_pos counts
  calc
    afterWord name ⟨tokens, index + 1, terms⟩ =
        fieldValue name comparison (Cursor.advance ⟨tokens, index + 1, terms + 1⟩) := by
      simp only [afterWord, counted, bind, Except.bind, found]
    _ = fieldValue name comparison ⟨tokens.tail, index + 2, terms + 1⟩ := rfl

/-- A word that is no name is refused when a comparison follows it, whatever comes then. -/
theorem blames_invalidFieldName (notName : Field.isName name = false)
    (compares : Compares tokens comparison behind) (counts : terms < maxTerms) :
    Blames depth .atom ⟨.word name :: tokens, index, terms⟩ (.invalidFieldName name) := by
  refine .invalidFieldName (.inl List.mem_cons_self) fun unseen ↦ ⟨?_, ?_⟩
  · cases compares with
    | symbol => exact resembles_cons_cons _ _ _ _
    | word => exact resembles_cons_cons _ _ _ _
  · calc
      ofCategory depth .atom ⟨.word name :: (tokens ++ unseen), index, terms⟩ =
          fieldValue name comparison ⟨behind ++ unseen, index + 2, terms + 1⟩ :=
        atom_eq_fieldValue (compares.append unseen) counts
      _ = .error (.invalidFieldName name) := by simp [fieldValue, notName]

theorem fieldValue_eq_error (isName : Field.isName name) (notValue : token.isValue = false) :
    fieldValue name comparison ⟨token :: unseen, index, terms⟩ =
      .error (.unexpectedToken index token) := by
  rw [fieldValue, if_pos isName]
  cases token with
  | word => cases notValue
  | phrase => cases notValue
  | _ => rfl

/-- Behind a name and a symbol a token that is no value is unexpected. -/
theorem blames_noValue (isName : Field.isName name) (notValue : token.isValue = false)
    (counts : terms < maxTerms) :
    Blames depth .atom ⟨.word name :: .compare comparison :: token :: unseen, index, terms⟩
      (.unexpectedToken (index + 2) token) := by
  have symbol := completable_symbol isName comparison (token :: unseen)
  refine .unexpectedToken rfl rfl symbol fun unseen ↦ ⟨resembles_cons_cons _ _ _ _, ?_⟩
  calc
    ofCategory depth .atom ⟨.word name :: .compare comparison :: token :: unseen, index, terms⟩ =
        fieldValue name comparison ⟨token :: unseen, index + 2, terms + 1⟩ :=
      atom_eq_fieldValue (.symbol comparison _) counts
    _ = .error (.unexpectedToken (index + 2) token) := fieldValue_eq_error isName notValue

theorem blames_fieldValue (compares : Compares tokens comparison behind) (counts : terms < maxTerms)
    (h : fieldValue name comparison ⟨behind, index + 2, terms + 1⟩ = .error failure) :
    Blames depth .atom ⟨.word name :: tokens, index, terms⟩ failure := by
  cases isName : Field.isName name with
  | false =>
    rw [fieldValue, isName, if_neg Bool.false_ne_true] at h
    cases h
    exact blames_invalidFieldName isName compares counts
  | true =>
    cases compares with
    | symbol =>
      cases behind with
      | nil =>
        rw [fieldValue, if_pos isName] at h
        cases h
        exact .missingValue (completable_symbol isName comparison [])
      | cons token unseen =>
        cases isValue : token.isValue with
        | false =>
          rw [fieldValue_eq_error isName isValue] at h
          cases h
          exact blames_noValue isName isValue counts
        | true =>
          rw [fieldValue, if_pos isName] at h
          cases token <;> cases isValue <;> cases h
    | word named isValue =>
      rename_i value tail
      rw [fieldValue, if_pos isName] at h
      cases value <;> cases isValue <;> cases h

end FieldTerms

theorem blames_word {name : String} {tail : List Token} (rest_eq : cursor.rest = .word name :: tail)
    (h : afterWord name cursor.advance = .error failure) : Blames depth .atom cursor failure := by
  obtain ⟨rest, index, terms⟩ := cursor
  cases rest_eq
  obtain countless | ⟨counted, counts, h⟩ := bind_eq_error h
  · cases countTerm_eq_error countless
    exact .tooManyTerms
  · obtain ⟨rfl, terms_le⟩ := countTerm_eq_ok counts
    dsimp only [Cursor.advance, List.tail_cons] at h terms_le
    split at h
    · rename_i comparison found
      exact blames_fieldValue (comparison?_eq_some_iff.1 found) terms_le h
    · cases h

theorem blames_phrase {text : String} {tail : List Token}
    (rest_eq : cursor.rest = .phrase text :: tail)
    (h : afterPhrase text cursor.advance = .error failure) : Blames depth .atom cursor failure := by
  obtain ⟨rest, index, terms⟩ := cursor
  cases rest_eq
  unfold afterPhrase at h
  split at h
  · rename_i comparison behind tail_eq
    cases h
    cases tail_eq
    exact .invalidFieldName (.inr List.mem_cons_self) fun unseen ↦
      ⟨resembles_cons_cons _ _ _ _, rfl⟩
  · obtain countless | ⟨counted, _, h⟩ := bind_eq_error h
    · cases countTerm_eq_error countless
      exact .tooManyTerms
    · cases h

/-! ## Rules within rules -/

theorem uses_operand (depth : Nat) (cursor : Cursor) :
    Uses depth .conjunction cursor depth .operand cursor [] [] where
  rest_eq := rfl
  index_eq := rfl
  fails := by
    intro other failure _ (h : operand depth _ = _)
    simp only [ofCategory, conjunction, List.nil_append, h]
    rfl
  detached := id
  derives := fun _ derives ↦ ⟨_, _, .operand derives⟩

theorem uses_conjunction (depth : Nat) (cursor : Cursor) :
    Uses depth .disjunction cursor depth .conjunction cursor [] [] where
  rest_eq := rfl
  index_eq := rfl
  fails := by
    intro other failure _ (h : conjunction (operand depth) _ = _)
    simp only [ofCategory, disjunction, List.nil_append, h]
    rfl
  detached := id
  derives := fun _ derives ↦ ⟨_, _, .conjunction derives⟩

/-- An operand that does not begin with `NOT` is an atom. -/
theorem operand_eq_atom (free : cursor.rest.head? ≠ some .not) :
    operand depth cursor = atom (inner depth) cursor := by
  rw [operand_eq_operandOver]
  unfold operandOver
  split
  · rename_i tail rest_eq
    rw [rest_eq] at free
    exact absurd rfl free
  · rfl

theorem uses_atom (depth : Nat) (free : cursor.rest.head? ≠ some .not) :
    Uses depth .operand cursor depth .atom cursor [] [] where
  rest_eq := rfl
  index_eq := rfl
  fails := by
    intro other failure resembles h
    rw [ofCategory, operand_eq_atom (by rwa [List.nil_append, resembles.head?_eq])]
    exact h
  detached := id
  derives := fun _ derives ↦ ⟨_, _, .atom derives⟩

theorem uses_not {tail : List Token} (rest_eq : cursor.rest = .not :: tail) :
    Uses (level + 1) .operand cursor level .operand cursor.advance [.not] [] where
  rest_eq := by simp [rest_eq]
  index_eq := rfl
  fails := by
    intro other failure _ (h : operand level _ = _)
    change operand level { cursor.advance with rest := other } >>= _ = _
    rw [h]
    rfl
  detached := id
  derives := fun _ derives ↦ ⟨_, _, .not derives⟩

/-- A parenthesis goes on with a disjunction one level deeper, and a parenthesis closes it. -/
theorem uses_group {tail : List Token} (rest_eq : cursor.rest = .leftParen :: tail) :
    Uses (level + 1) .atom cursor level .disjunction cursor.advance [.leftParen] [.rightParen] where
  rest_eq := by simp [rest_eq]
  index_eq := rfl
  fails := by
    intro other failure _ (h : disjunction (operand level) _ = _)
    change disjunction (operand level) { cursor.advance with rest := other } >>= _ = _
    rw [h]
    rfl
  detached := fun _ ↦ detached_rightParen _
  derives := fun _ derives ↦ ⟨_, _, .group derives⟩

theorem moreOperands_eq_error {token : Token} {tail : List Token}
    (rest_eq : cursor.rest = token :: tail) (starts : token = .and ∨ token.startsOperand)
    (h : rule (if token = .and then cursor.advance else cursor) = .error failure) :
    moreOperands rule left cursor = .error failure := by
  rw [moreOperands.eq_def]
  simp only [rest_eq, starts, if_true, h]

theorem moreConjunctions_eq_error {tail : List Token} (rest_eq : cursor.rest = .or :: tail)
    (h : conjunction rule cursor.advance = .error failure) :
    moreConjunctions rule left cursor = .error failure := by
  rw [moreConjunctions.eq_def]
  simp only [rest_eq, h]

/-- Behind a phrase and a keyword a chain goes on with its next member. -/
theorem uses_keyword {keyword : Token} {tail : List Token} (notValue : keyword.isValue = false)
    (before : Spans outer depth start left cursor) (rest_eq : cursor.rest = keyword :: tail)
    (fails : ∀ {start other failure},
      Spans outer depth start left { cursor with rest := keyword :: other } →
      ofCategory level inside { cursor.advance with rest := other } = .error failure →
      ofCategory depth outer start = .error failure)
    (joins : ∀ {m n tokens middle right other}, Derives outer m tokens left (keyword :: middle) →
      Derives inside n middle right other → ∃ nesting e, Derives outer nesting tokens e other) :
    ∃ front, Uses depth outer start level inside cursor.advance front [] := by
  obtain ⟨consumed, start_eq, index_eq, replace⟩ := before.replace
  rw [rest_eq] at start_eq replace
  have spans : ∀ other, Spans outer depth { start with rest := consumed ++ [keyword] ++ other } left
      { cursor with rest := keyword :: other } := by
    intro other
    rw [List.append_assoc, List.singleton_append]
    exact replace (keyword :: other) (admits_cons_of_not_value notValue tail other)
  refine ⟨consumed ++ [keyword], ?_, ?_, ?_, id, ?_⟩
  · simp [start_eq, rest_eq]
  · simp [Cursor.advance, index_eq, Nat.add_assoc]
  · intro other failure _ h
    exact fails (spans other) h
  · intro nesting tokens e other _ derives
    obtain ⟨n, _, derivesLeft⟩ := (spans tokens).derives
    exact joins derivesLeft derives

theorem uses_and {tail : List Token} (before : Spans .conjunction depth start left cursor)
    (rest_eq : cursor.rest = .and :: tail) :
    ∃ front, Uses depth .conjunction start depth .operand cursor.advance front [] := by
  refine uses_keyword rfl before rest_eq (fun spans h ↦ ?_) fun first second ↦
    ⟨_, _, .and first second⟩
  rw [spans.ofCategory_eq trivial]
  exact moreOperands_eq_error rfl (.inl rfl) h

theorem uses_juxtaposed {token : Token} {tail : List Token}
    (before : Spans .conjunction depth start left cursor) (rest_eq : cursor.rest = token :: tail)
    (starts : token.startsOperand) :
    ∃ front, Uses depth .conjunction start depth .operand cursor front [] := by
  obtain ⟨consumed, start_eq, index_eq, replace⟩ := before.replace
  have notAnd : token ≠ .and := by
    rintro rfl
    cases starts
  refine ⟨consumed, start_eq, index_eq, ?_, id, ?_⟩
  · intro other failure resembles h
    obtain ⟨tail, rfl⟩ : ∃ tail, other = token :: tail := by
      rw [← List.head?_eq_some_iff, resembles.head?_eq, rest_eq, List.head?_cons]
    have spans := replace _ resembles.toAdmits
    rw [spans.ofCategory_eq trivial]
    exact moreOperands_eq_error rfl (.inr starts) (by rwa [if_neg notAnd])
  · intro nesting tokens e other admits derives
    have spans := replace tokens admits
    obtain ⟨n, _, derivesLeft⟩ := spans.derives
    exact ⟨_, _, .juxtaposed derivesLeft derives⟩

theorem uses_or {tail : List Token} (before : Spans .disjunction depth start left cursor)
    (rest_eq : cursor.rest = .or :: tail) :
    ∃ front, Uses depth .disjunction start depth .conjunction cursor.advance front [] := by
  refine uses_keyword rfl before rest_eq (fun spans h ↦ ?_) fun first second ↦
    ⟨_, _, .or first second⟩
  rw [spans.ofCategory_eq (endsChain_or _)]
  exact moreConjunctions_eq_error rfl h

/-! ## The whole grammar -/

/-- A chain of operands that fails is blamed from the start of its conjunction. -/
theorem moreOperands_blames (blaming : Blaming depth .operand)
    (before : Spans .conjunction depth start left cursor)
    (h : moreOperands (operand depth) left cursor = .error failure) :
    Blames depth .conjunction start failure := by
  fun_induction moreOperands (operand depth) left cursor with
  | case1 => cases h
  | case2 left cursor token tail rest_eq starts other found =>
    cases h
    split at found
    · rename_i isAnd
      subst isAnd
      obtain ⟨front, uses⟩ := uses_and before rest_eq
      exact uses.blames (blaming found)
    · rename_i notAnd
      obtain ⟨front, uses⟩ := uses_juxtaposed before rest_eq (starts.resolve_left notAnd)
      exact uses.blames (blaming found)
  | case3 left cursor token tail rest_eq starts right next found shorter ih =>
    exact ih (before.extend (operand_sound depth) rest_eq found) h
  | case4 => cases h
  | case5 => cases h

theorem blaming_conjunction (blaming : Blaming depth .operand) : Blaming depth .conjunction := by
  intro cursor failure h
  obtain first | ⟨⟨left, next⟩, found, more⟩ := bind_eq_error h
  · exact (uses_operand depth cursor).blames (blaming first)
  · obtain ⟨⟨n, n_le, derives⟩, stop_eq, terms_le⟩ := operand_sound depth found
    exact moreOperands_blames blaming ⟨⟨n, n_le, .operand derives⟩, stop_eq, terms_le⟩ more

theorem moreConjunctions_blames (blaming : Blaming depth .conjunction)
    (before : Spans .disjunction depth start left cursor)
    (h : moreConjunctions (operand depth) left cursor = .error failure) :
    Blames depth .disjunction start failure := by
  fun_induction moreConjunctions (operand depth) left cursor with
  | case1 left cursor tail rest_eq other found =>
    cases h
    obtain ⟨front, uses⟩ := uses_or before rest_eq
    exact uses.blames (blaming found)
  | case2 left cursor tail rest_eq right next found shorter ih =>
    exact ih (before.or rest_eq (conjunction_sound (operand_sound depth) found)) h
  | case3 => cases h
  | case4 => cases h

theorem blaming_disjunction (blaming : Blaming depth .operand) : Blaming depth .disjunction := by
  intro cursor failure h
  have chain : Blaming depth .conjunction := blaming_conjunction blaming
  obtain first | ⟨⟨left, next⟩, found, more⟩ := bind_eq_error h
  · exact (uses_conjunction depth cursor).blames (chain first)
  · obtain ⟨⟨n, n_le, derives⟩, stop_eq, terms_le⟩ :=
      conjunction_sound (operand_sound depth) found
    exact moreConjunctions_blames chain ⟨⟨n, n_le, .conjunction derives⟩, stop_eq, terms_le⟩ more

theorem closeGroup_eq_error {token : Token} {tail : List Token}
    (rest_eq : cursor.rest = token :: tail) (other : token ≠ .rightParen) :
    closeGroup e cursor = .error (cursor.unexpected token) := by
  unfold closeGroup
  cases token with
  | rightParen => exact absurd rfl other
  | _ => simp only [rest_eq]

/-- A group that is not closed fails behind its disjunction. -/
theorem blames_closeGroup {tail : List Token} (rest_eq : cursor.rest = .leftParen :: tail)
    (before : Spans .disjunction level cursor.advance e stop) (ends : EndsDisjunction stop.rest)
    (h : closeGroup e stop = .error failure) : Blames (level + 1) .atom cursor failure := by
  obtain ⟨consumed, tail_eq, index_eq, replace⟩ := before.replace
  rw [Cursor.advance_rest, rest_eq, List.tail_cons] at tail_eq
  subst tail_eq
  have completable : Completable .atom cursor.rest (.leftParen :: consumed) := by
    refine ⟨[.rightParen], fun other _ ↦ ⟨(detached_leftParen _).admits _, ?_⟩⟩
    have closed := replace (.rightParen :: other) ((detached_rightParen other).admits _)
    obtain ⟨n, _, derives⟩ := closed.derives
    exact ⟨n + 1, e, .group derives⟩
  cases stop_eq : stop.rest with
  | nil =>
    rw [closeGroup, stop_eq] at h
    cases h
    rw [stop_eq, List.append_nil] at rest_eq
    rw [← rest_eq] at completable
    exact .unexpectedEnd completable
  | cons token unseen =>
    rw [stop_eq] at rest_eq ends replace
    by_cases closes : token = .rightParen
    · rw [closeGroup, stop_eq, closes] at h
      cases h
    · rw [closeGroup_eq_error stop_eq closes] at h
      cases h
      refine .unexpectedToken rest_eq ?_ completable fun unseen' ↦ ⟨?_, ?_⟩
      · rw [index_eq, Cursor.advance, List.length_cons, Nat.add_assoc, Nat.add_comm 1]
      · rw [rest_eq, List.append_assoc]
        exact (resembles_cons_of_not_value ends.isValue_eq_false unseen unseen').append
          (.leftParen :: consumed)
      · have spans := replace (token :: unseen')
          (admits_cons_of_not_value ends.isValue_eq_false unseen unseen')
        have read := spans.disjunction_eq (ends.replace unseen')
        rw [List.append_assoc]
        change disjunction (operand level)
          { cursor.advance with rest := consumed ++ token :: unseen' } >>= _ = _
        rw [read]
        exact closeGroup_eq_error rfl closes

/-- Atoms tell the truth if operands one level deeper do. -/
theorem blaming_atom (deeper : ∀ {level}, depth = level + 1 → Blaming level .operand) :
    Blaming depth .atom := by
  intro cursor failure h
  cases rest_eq : cursor.rest with
  | nil =>
    simp only [ofCategory, atom, rest_eq] at h
    cases h
    refine .unexpectedEnd ?_
    rw [rest_eq]
    exact completable_nil []
  | cons token tail =>
    simp only [ofCategory, atom, rest_eq] at h
    cases token with
    | word name => exact blames_word rest_eq h
    | phrase text => exact blames_phrase rest_eq h
    | leftParen =>
      cases depth with
      | zero =>
        cases h
        exact .tooDeep
      | succ level =>
        have inside : Blaming level .disjunction := blaming_disjunction (deeper rfl)
        obtain group | ⟨⟨e, stop⟩, found, close⟩ := bind_eq_error h
        · exact (uses_group rest_eq).blames (inside group)
        · have sound : Sound .operand level (operand level) := operand_sound level
          exact blames_closeGroup rest_eq (disjunction_sound sound found)
            (disjunction_stops sound found) close
    | _ =>
      cases h
      exact blames_unexpected rest_eq rfl Token.noConfusion

theorem blaming_operand_of_deeper
    (deeper : ∀ {level}, depth = level + 1 → Blaming level .operand) : Blaming depth .operand := by
  intro cursor failure h
  by_cases negated : cursor.rest.head? = some .not
  · obtain ⟨tail, rest_eq⟩ := List.head?_eq_some_iff.1 negated
    simp only [ofCategory, operand_eq_operandOver, operandOver, rest_eq] at h
    cases depth with
    | zero =>
      cases h
      exact .tooDeep
    | succ level =>
      obtain inside | ⟨⟨e, stop⟩, _, h⟩ := bind_eq_error h
      · exact (uses_not rest_eq).blames (deeper rfl inside)
      · cases h
  · rw [ofCategory, operand_eq_atom negated] at h
    exact (uses_atom depth negated).blames (blaming_atom deeper h)

/-- Operands tell the truth at every depth, by induction on it. -/
theorem blaming_operand (depth : Nat) : Blaming depth .operand := by
  induction depth with
  | zero => exact blaming_operand_of_deeper fun h ↦ absurd h.symm (Nat.succ_ne_zero _)
  | succ depth ih =>
    refine blaming_operand_of_deeper fun {level} h ↦ ?_
    cases h
    exact ih

end Rule

end RecordSearch
