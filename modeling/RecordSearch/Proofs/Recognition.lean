import RecordSearch.Proofs.Grammar

/-!
# The rules read the grammar

A reading rule succeeds exactly on the phrases of its category that respect the limits, and then
stops where the phrase stops, having counted its terms.  On a phrase that breaks a limit the rule
fails, and the failure names a limit that is indeed broken.  The main statement is that a query text
is read as an expression if and only if its tokens write that expression.
-/

namespace RecordSearch

open Grammar

namespace Cursor

/-- The place at which `rest` begins, so many terms later. -/
def past (cursor : Cursor) (rest : List Token) (terms : Nat) : Cursor :=
  ⟨rest, cursor.index + (cursor.rest.length - rest.length), cursor.terms + terms⟩

@[simp]
theorem past_rest (cursor : Cursor) (rest : List Token) (terms : Nat) :
    (cursor.past rest terms).rest = rest := rfl

@[simp]
theorem past_terms (cursor : Cursor) (rest : List Token) (terms : Nat) :
    (cursor.past rest terms).terms = cursor.terms + terms := rfl

@[simp]
theorem advance_rest (cursor : Cursor) : cursor.advance.rest = cursor.rest.tail := rfl

@[simp]
theorem advance_terms (cursor : Cursor) : cursor.advance.terms = cursor.terms := rfl

/-- To pass tokens twice is to pass them all at once. -/
theorem past_past (cursor : Cursor) {middle rest : List Token} {n m : Nat}
    (before : middle.length ≤ cursor.rest.length) (behind : rest.length ≤ middle.length) :
    (cursor.past middle n).past rest m = cursor.past rest (n + m) := by
  simp only [past, Cursor.mk.injEq, true_and]
  omega

theorem advance_past (cursor : Cursor) {rest : List Token} {terms : Nat}
    (behind : rest.length < cursor.rest.length) :
    cursor.advance.past rest terms = cursor.past rest terms := by
  simp only [past, advance, List.length_tail, Cursor.mk.injEq, true_and, and_true]
  omega

/-- Past one phrase, past a keyword and past another phrase. -/
theorem past_advance_past (cursor : Cursor) {keyword : Token} {middle rest : List Token} {n m : Nat}
    (before : (keyword :: middle).length ≤ cursor.rest.length)
    (behind : rest.length ≤ middle.length) :
    (cursor.past (keyword :: middle) n).advance.past rest m = cursor.past rest (n + m) := by
  have shorter : rest.length < (keyword :: middle).length := Nat.lt_succ_of_le behind
  calc
    _ = (cursor.past (keyword :: middle) n).past rest m := advance_past _ shorter
    _ = cursor.past rest (n + m) := cursor.past_past before (Nat.le_of_lt shorter)

end Cursor

namespace Rule

def inner : Nat → Option Rule
  | 0 => none
  | depth + 1 => some (operand depth)

theorem operand_eq_operandOver (depth : Nat) : operand depth = operandOver (inner depth) := by
  cases depth with
  | zero => rfl
  | succ depth => rfl

/-! ## What the rules read is a phrase -/

/-- Between two places stands a phrase that respects the limits. -/
structure Spans (category : Category) (depth : Nat) (start : Cursor) (e : Expression)
    (stop : Cursor) : Prop where
  derives : ∃ nesting ≤ depth, Derives category nesting start.rest e stop.rest
  stop_eq : stop = start.past stop.rest e.leaves
  terms_le : stop.terms ≤ maxTerms

/-- The rule reads nothing but phrases that respect the limits. -/
def Sound (category : Category) (depth : Nat) (rule : Rule) : Prop :=
  ∀ {start : Cursor} {e : Expression} {stop : Cursor}, rule start = .ok (e, stop) →
    Spans category depth start e stop

variable {depth : Nat} {rule : Rule} {start cursor middle stop : Cursor}
  {left right e : Expression} {first second : Category}

/-- Every phrase has a token. -/
theorem Spans.length_lt (h : Spans first depth start e stop) :
    stop.rest.length < start.rest.length := by
  obtain ⟨_, _, derives⟩ := h.derives
  exact derives.length_lt

/-- Two phrases in a row count together. -/
theorem Spans.past_append (before : Spans first depth start left middle)
    (last : stop = middle.past stop.rest right.leaves)
    (behind : stop.rest.length < middle.rest.length) :
    stop = start.past stop.rest (left.leaves + right.leaves) := by
  calc
    stop = middle.past stop.rest right.leaves := last
    _ = (start.past middle.rest left.leaves).past stop.rest right.leaves := by
      rw [← before.stop_eq]
    _ = start.past stop.rest (left.leaves + right.leaves) :=
      start.past_past (Nat.le_of_lt before.length_lt) (Nat.le_of_lt behind)

/-- A phrase behind a single token, seen from before that token. -/
theorem Spans.from_token {token : Token} {tail : List Token} (rest_eq : cursor.rest = token :: tail)
    (h : Spans first depth cursor.advance e stop) :
    stop = cursor.past stop.rest e.leaves ∧ stop.rest.length < cursor.rest.length := by
  have behind : stop.rest.length < cursor.rest.length := by
    have := h.length_lt
    simp only [Cursor.advance_rest, rest_eq, List.tail_cons, List.length_cons] at this ⊢
    omega
  refine ⟨?_, behind⟩
  rw [← cursor.advance_past behind]
  exact h.stop_eq

theorem Spans.and {tail : List Token} (before : Spans .conjunction depth start left middle)
    (rest_eq : middle.rest = .and :: tail) (last : Spans .operand depth middle.advance right stop) :
    Spans .conjunction depth start (.and left right) stop := by
  obtain ⟨n, n_le, derivesLeft⟩ := before.derives
  obtain ⟨m, m_le, derivesRight⟩ := last.derives
  obtain ⟨stop_eq, behind⟩ := last.from_token rest_eq
  rw [rest_eq] at derivesLeft
  rw [Cursor.advance_rest, rest_eq, List.tail_cons] at derivesRight
  exact ⟨⟨max n m, Nat.max_le.2 ⟨n_le, m_le⟩, .and derivesLeft derivesRight⟩,
    before.past_append stop_eq behind, last.terms_le⟩

theorem Spans.juxtaposed (before : Spans .conjunction depth start left middle)
    (last : Spans .operand depth middle right stop) :
    Spans .conjunction depth start (.and left right) stop := by
  obtain ⟨n, n_le, derivesLeft⟩ := before.derives
  obtain ⟨m, m_le, derivesRight⟩ := last.derives
  exact ⟨⟨max n m, Nat.max_le.2 ⟨n_le, m_le⟩, .juxtaposed derivesLeft derivesRight⟩,
    before.past_append last.stop_eq last.length_lt, last.terms_le⟩

theorem Spans.or {tail : List Token} (before : Spans .disjunction depth start left middle)
    (rest_eq : middle.rest = .or :: tail)
    (last : Spans .conjunction depth middle.advance right stop) :
    Spans .disjunction depth start (.or left right) stop := by
  obtain ⟨n, n_le, derivesLeft⟩ := before.derives
  obtain ⟨m, m_le, derivesRight⟩ := last.derives
  obtain ⟨stop_eq, behind⟩ := last.from_token rest_eq
  rw [rest_eq] at derivesLeft
  rw [Cursor.advance_rest, rest_eq, List.tail_cons] at derivesRight
  exact ⟨⟨max n m, Nat.max_le.2 ⟨n_le, m_le⟩, .or derivesLeft derivesRight⟩,
    before.past_append stop_eq behind, last.terms_le⟩

/-- One more operand, with `AND` or nothing before it. -/
theorem Spans.extend (sound : Sound .operand depth rule) {token : Token} {tail : List Token}
    (before : Spans .conjunction depth start left cursor) (rest_eq : cursor.rest = token :: tail)
    (h : rule (if token = .and then cursor.advance else cursor) = .ok (right, stop)) :
    Spans .conjunction depth start (.and left right) stop := by
  split at h
  · rename_i isAnd
    subst isAnd
    exact before.and rest_eq (sound h)
  · exact before.juxtaposed (sound h)

/-- A conjunction that is continued by the rule remains a conjunction. -/
theorem moreOperands_sound (sound : Sound .operand depth rule)
    (before : Spans .conjunction depth start left cursor)
    (h : moreOperands rule left cursor = .ok (e, stop)) :
    Spans .conjunction depth start e stop := by
  fun_induction moreOperands rule left cursor with
  | case1 =>
    cases h
    exact before
  | case2 => cases h
  | case3 left cursor token tail rest_eq starts right next found shorter ih =>
    exact ih (before.extend sound rest_eq found) h
  | case4 left cursor token tail rest_eq starts right next found =>
    cases h
    exact before.extend sound rest_eq found
  | case5 =>
    cases h
    exact before

/-- A bound computation that succeeds has a first result. -/
theorem bind_eq_ok {α β : Type} {x : Except Failure α} {f : α → Except Failure β} {b : β}
    (h : x >>= f = .ok b) : ∃ a, x = .ok a ∧ f a = .ok b := by
  cases x with
  | error failure => cases h
  | ok a => exact ⟨a, rfl, h⟩

theorem conjunction_sound (sound : Sound .operand depth rule) :
    Sound .conjunction depth (conjunction rule) := by
  intro start e stop h
  obtain ⟨⟨first, cursor⟩, found, more⟩ := bind_eq_ok h
  obtain ⟨⟨n, n_le, derives⟩, stop_eq, terms_le⟩ := sound found
  exact moreOperands_sound sound ⟨⟨n, n_le, .operand derives⟩, stop_eq, terms_le⟩ more

/-- A disjunction that is continued by the rule remains a disjunction. -/
theorem moreConjunctions_sound (sound : Sound .operand depth rule)
    (before : Spans .disjunction depth start left cursor)
    (h : moreConjunctions rule left cursor = .ok (e, stop)) :
    Spans .disjunction depth start e stop := by
  fun_induction moreConjunctions rule left cursor with
  | case1 => cases h
  | case2 left cursor tail rest_eq right next found shorter ih =>
    exact ih (before.or rest_eq (conjunction_sound sound found)) h
  | case3 left cursor tail rest_eq right next found =>
    cases h
    exact before.or rest_eq (conjunction_sound sound found)
  | case4 =>
    cases h
    exact before

theorem disjunction_sound (sound : Sound .operand depth rule) :
    Sound .disjunction depth (disjunction rule) := by
  intro start e stop h
  obtain ⟨⟨first, cursor⟩, found, more⟩ := bind_eq_ok h
  obtain ⟨⟨n, n_le, derives⟩, stop_eq, terms_le⟩ := conjunction_sound sound found
  exact moreConjunctions_sound sound ⟨⟨n, n_le, .conjunction derives⟩, stop_eq, terms_le⟩ more

theorem countTerm_eq_ok {counted : Cursor} (h : cursor.countTerm = .ok counted) :
    counted = { cursor with terms := cursor.terms + 1 } ∧ cursor.terms + 1 ≤ maxTerms := by
  unfold Cursor.countTerm at h
  split at h
  · cases h
    exact ⟨rfl, ‹_›⟩
  · cases h

/-- A value behind a comparison is a word or a phrase. -/
theorem fieldValue_eq_ok {name : String} {comparison : Comparison}
    (h : fieldValue name comparison cursor = .ok (e, stop)) :
    Field.isName name ∧ stop = cursor.advance ∧ ∃ value text tail, cursor.rest = value :: tail ∧
      (value = .word text ∨ value = .phrase text) ∧
      e = .field (Field.ofName name) comparison text := by
  unfold fieldValue at h
  split at h
  · rename_i isName
    split at h
    · cases h
    · cases h
      exact ⟨isName, rfl, _, _, _, ‹_›, .inl rfl, rfl⟩
    · cases h
      exact ⟨isName, rfl, _, _, _, ‹_›, .inr rfl, rfl⟩
    · cases h
  · cases h

theorem afterWord_sound {text : String} {tail : List Token}
    (rest_eq : cursor.rest = .word text :: tail)
    (h : afterWord text cursor.advance = .ok (e, stop)) : Spans .atom depth cursor e stop := by
  obtain ⟨counted, counts, h⟩ := bind_eq_ok h
  obtain ⟨rfl, terms_le⟩ := countTerm_eq_ok counts
  simp only [Cursor.advance_rest, rest_eq, List.tail_cons] at h
  split at h
  · rename_i comparison found
    obtain ⟨isName, rfl, value, text, rest, value_eq, holds, rfl⟩ := fieldValue_eq_ok h
    have compares := comparison?_eq_some_iff.1 found
    rw [Cursor.advance_rest] at value_eq
    refine ⟨⟨0, Nat.zero_le _, ?_⟩, ?_, terms_le⟩
    · simp only [rest_eq, Cursor.advance_rest, List.tail_cons, value_eq]
      exact .field isName (value_eq ▸ compares) holds
    · have tail_length := congrArg List.length value_eq
      simp only [List.length_tail, List.length_cons] at tail_length
      simp [Cursor.advance, Cursor.past, rest_eq, value_eq, Expression.leaves]
      omega
  · rename_i found
    cases h
    refine ⟨⟨0, Nat.zero_le _, ?_⟩, ?_, terms_le⟩
    · rw [rest_eq]
      exact .term (comparison?_eq_none_iff.1 found)
    · simp [Cursor.advance, Cursor.past, rest_eq, Expression.leaves]

theorem afterPhrase_sound {text : String} {tail : List Token}
    (rest_eq : cursor.rest = .phrase text :: tail)
    (h : afterPhrase text cursor.advance = .ok (e, stop)) : Spans .atom depth cursor e stop := by
  unfold afterPhrase at h
  split at h
  · cases h
  · rename_i free
    obtain ⟨counted, counts, h⟩ := bind_eq_ok h
    obtain ⟨rfl, terms_le⟩ := countTerm_eq_ok counts
    cases h
    simp only [Cursor.advance_rest, rest_eq, List.tail_cons] at free
    refine ⟨⟨0, Nat.zero_le _, ?_⟩, ?_, terms_le⟩
    · simp only [rest_eq, Cursor.advance_rest, List.tail_cons]
      exact .phrase free
    · simp [Cursor.advance, Cursor.past, rest_eq, Expression.leaves]

theorem closeGroup_eq_ok {group : Expression} (h : closeGroup group cursor = .ok (e, stop)) :
    e = group ∧ stop = cursor.advance ∧ ∃ tail, cursor.rest = .rightParen :: tail := by
  unfold closeGroup at h
  split at h
  · cases h
  · cases h
    exact ⟨rfl, rfl, _, ‹_›⟩
  · cases h

/-- A phrase in parentheses. -/
theorem Spans.group {tail closed : List Token} (rest_eq : cursor.rest = .leftParen :: tail)
    (h : Spans .disjunction depth cursor.advance e middle)
    (closes : middle.rest = .rightParen :: closed) :
    Spans .atom (depth + 1) cursor e middle.advance := by
  obtain ⟨nesting, nesting_le, derives⟩ := h.derives
  obtain ⟨stop_eq, behind⟩ := h.from_token rest_eq
  rw [Cursor.advance_rest, rest_eq, List.tail_cons, closes] at derives
  refine ⟨⟨nesting + 1, Nat.succ_le_succ nesting_le, ?_⟩, ?_, h.terms_le⟩
  · rw [rest_eq, Cursor.advance_rest, closes, List.tail_cons]
    exact .group derives
  · have index_eq := congrArg Cursor.index stop_eq
    have terms_eq := congrArg Cursor.terms stop_eq
    simp only [Cursor.past, closes, rest_eq, List.length_cons] at index_eq terms_eq behind
    simp only [Cursor.advance, Cursor.past, closes, rest_eq, terms_eq, index_eq, List.tail_cons,
      List.length_cons, Cursor.mk.injEq, true_and, and_true]
    omega

/-- The rule for the next level reads operands, if there is one. -/
def InnerSound (depth : Nat) : Prop :=
  ∀ {level : Nat}, depth = level + 1 → Sound .operand level (operand level)

/-- The rule for atoms reads only atoms, if the rules one level deeper are sound. -/
theorem atom_sound (sound : InnerSound depth) : Sound .atom depth (atom (inner depth)) := by
  intro start e stop h
  unfold atom at h
  split at h
  · cases h
  · exact afterWord_sound ‹_› h
  · exact afterPhrase_sound ‹_› h
  · rename_i tail rest_eq
    cases depth with
    | zero => cases h
    | succ level =>
      obtain ⟨⟨group, middle⟩, found, h⟩ := bind_eq_ok h
      obtain ⟨rfl, rfl, closed, closes⟩ := closeGroup_eq_ok h
      exact .group rest_eq (disjunction_sound (sound rfl) found) closes
  · cases h

/-- A negated operand. -/
theorem Spans.not {tail : List Token} (rest_eq : cursor.rest = .not :: tail)
    (h : Spans .operand depth cursor.advance e stop) :
    Spans .operand (depth + 1) cursor (.not e) stop := by
  obtain ⟨nesting, nesting_le, derives⟩ := h.derives
  rw [Cursor.advance_rest, rest_eq, List.tail_cons] at derives
  refine ⟨⟨nesting + 1, Nat.succ_le_succ nesting_le, ?_⟩, (h.from_token rest_eq).1, h.terms_le⟩
  rw [rest_eq]
  exact .not derives

theorem operandOver_sound (sound : InnerSound depth) :
    Sound .operand depth (operandOver (inner depth)) := by
  intro start e stop h
  unfold operandOver at h
  split at h
  · rename_i tail rest_eq
    cases depth with
    | zero => cases h
    | succ level =>
      obtain ⟨⟨negated, middle⟩, found, h⟩ := bind_eq_ok h
      cases h
      exact .not rest_eq (sound rfl found)
  · obtain ⟨⟨nesting, nesting_le, derives⟩, stop_eq, terms_le⟩ := atom_sound sound h
    exact ⟨⟨nesting, nesting_le, .atom derives⟩, stop_eq, terms_le⟩

/-- The rule for operands reads only operands at every depth, by induction on it. -/
theorem operand_sound (depth : Nat) : Sound .operand depth (operand depth) := by
  induction depth with
  | zero =>
    rw [operand_eq_operandOver]
    exact operandOver_sound fun h ↦ absurd h.symm (Nat.succ_ne_zero _)
  | succ depth ih =>
    rw [operand_eq_operandOver]
    refine operandOver_sound fun {level} h ↦ ?_
    cases h
    exact ih

/-! ## Phrases are read -/

/-- What comes of reading a phrase of known nesting, after which so many terms have been read: the
expected result where the limits are kept, else the failure of a limit that is broken. -/
inductive Verdict {α : Type} (depth nesting terms : Nat) (expected : Except Failure α) :
    Except Failure α → Prop
  | accepted (nesting_le : nesting ≤ depth) (terms_le : terms ≤ maxTerms) :
    Verdict depth nesting terms expected expected
  | tooDeep (nesting_gt : depth < nesting) :
    Verdict depth nesting terms expected (.error .tooDeep)
  | tooManyTerms (terms_gt : maxTerms < terms) :
    Verdict depth nesting terms expected (.error .tooManyTerms)

namespace Verdict

variable {α β : Type} {nesting n m terms before : Nat} {result middle expected : Except Failure α}

/-- A second phrase behind the first. -/
theorem trans (first : Verdict depth n before middle result)
    (second : Verdict depth m terms expected middle) (le : before ≤ terms) :
    Verdict depth (max n m) terms expected result := by
  cases first with
  | accepted n_le _ =>
    cases second with
    | accepted m_le terms_le => exact .accepted (Nat.max_le.2 ⟨n_le, m_le⟩) terms_le
    | tooDeep gt => exact .tooDeep (Nat.lt_of_lt_of_le gt (Nat.le_max_right n m))
    | tooManyTerms gt => exact .tooManyTerms gt
  | tooDeep gt => exact .tooDeep (Nat.lt_of_lt_of_le gt (Nat.le_max_left n m))
  | tooManyTerms gt => exact .tooManyTerms (Nat.lt_of_lt_of_le gt le)

/-- What was read respects the limits. -/
theorem le_of_ok {read : α} (h : Verdict depth nesting terms expected (.ok read)) :
    nesting ≤ depth ∧ terms ≤ maxTerms := by
  cases h with
  | accepted nesting_le terms_le => exact ⟨nesting_le, terms_le⟩

/-- Reading goes on with what was read. -/
theorem bind {read : α} (h : Verdict depth nesting terms (.ok read) result)
    (f : α → Except Failure β) :
    Verdict depth nesting terms (f read) (result >>= f) := by
  cases h with
  | accepted nesting_le terms_le => exact .accepted nesting_le terms_le
  | tooDeep gt => exact .tooDeep gt
  | tooManyTerms gt => exact .tooManyTerms gt

/-- The phrase is enclosed once more. -/
theorem enclosed (h : Verdict depth nesting terms expected result) :
    Verdict (depth + 1) (nesting + 1) terms expected result := by
  cases h with
  | accepted nesting_le terms_le => exact .accepted (Nat.succ_le_succ nesting_le) terms_le
  | tooDeep gt => exact .tooDeep (Nat.succ_lt_succ gt)
  | tooManyTerms gt => exact .tooManyTerms gt

/-- Counting a term can only find that there are too many. -/
theorem of_countTerm {cursor : Cursor} {f : Cursor → Except Failure α}
    (terms_eq : terms = cursor.terms + 1)
    (h : f { cursor with terms := cursor.terms + 1 } = expected) :
    Verdict depth 0 terms expected (cursor.countTerm >>= f) := by
  subst terms_eq
  unfold Cursor.countTerm
  split
  · rename_i terms_lt
    subst h
    exact .accepted (Nat.zero_le _) terms_lt
  · rename_i terms_ge
    exact .tooManyTerms (Nat.lt_succ_of_le (Nat.le_of_not_lt terms_ge))

end Verdict

def ofCategory (depth : Nat) : Category → Rule
  | .atom => atom (inner depth)
  | .operand => operand depth
  | .conjunction => conjunction (operand depth)
  | .disjunction => disjunction (operand depth)

/-- How reading goes on behind a phrase: chains look for more. -/
def behind (depth : Nat) : Category → Expression → Rule
  | .atom, e => fun cursor ↦ .ok (e, cursor)
  | .operand, e => fun cursor ↦ .ok (e, cursor)
  | .conjunction, e => moreOperands (operand depth) e
  | .disjunction, e => moreConjunctions (operand depth) e

/-- What must stand behind a phrase for its rule to stop there. -/
def Ends : Category → List Token → Prop
  | .disjunction, rest => EndsChain rest
  | _, _ => True

/-- The phrases of the category are read, whatever stands before them. -/
def Complete (category : Category) (nesting : Nat) (tokens : List Token) (e : Expression)
    (rest : List Token) : Prop :=
  ∀ (depth : Nat) (cursor : Cursor), cursor.rest = tokens → Ends category rest →
    Verdict depth nesting (cursor.terms + e.leaves)
      (behind depth category e (cursor.past rest e.leaves)) (ofCategory depth category cursor)

variable {nesting terms : Nat} {tokens rest : List Token}

theorem moreOperands_eq_ok (ends : EndsChain cursor.rest) :
    moreOperands rule e cursor = .ok (e, cursor) := by
  unfold moreOperands
  split
  · rfl
  · rename_i token tail rest_eq
    have := ends token (by simp [rest_eq])
    simp [this.1, this.2]

theorem moreConjunctions_eq_ok (other : ∀ tail, cursor.rest ≠ .or :: tail) :
    moreConjunctions rule e cursor = .ok (e, cursor) := by
  unfold moreConjunctions
  split
  · rename_i tail rest_eq
    exact absurd rest_eq (other tail)
  · rfl

/-- A chain goes on with one more operand.  The operand makes the tokens fewer. -/
theorem moreOperands_eq_bind {token : Token} {tail : List Token}
    (rest_eq : cursor.rest = token :: tail) (starts : token = .and ∨ token.startsOperand) :
    moreOperands (operand depth) left cursor =
      operand depth (if token = .and then cursor.advance else cursor) >>= fun read ↦
        moreOperands (operand depth) (.and left read.1) read.2 := by
  rw [moreOperands.eq_def]
  simp only [rest_eq, starts, if_true]
  cases found : operand depth (if token = .and then cursor.advance else cursor) with
  | error => rfl
  | ok read =>
    have behind := (operand_sound depth found).length_lt
    have shorter : read.2.rest.length < cursor.rest.length := by
      split at behind
      · simp only [Cursor.advance_rest, List.length_tail] at behind
        omega
      · exact behind
    rw [rest_eq] at shorter
    exact if_pos shorter

/-- A chain goes on with one more conjunction. -/
theorem moreConjunctions_eq_bind {tail : List Token} (rest_eq : cursor.rest = .or :: tail) :
    moreConjunctions (operand depth) left cursor =
      conjunction (operand depth) cursor.advance >>= fun read ↦
        moreConjunctions (operand depth) (.or left read.1) read.2 := by
  rw [moreConjunctions.eq_def]
  simp only [rest_eq]
  cases found : conjunction (operand depth) cursor.advance with
  | error => rfl
  | ok read =>
    have behind := (conjunction_sound (operand_sound depth) found).length_lt
    simp only [Cursor.advance_rest, rest_eq, List.tail_cons] at behind
    exact if_pos (Nat.lt_succ_of_lt behind)

/-- One more operand in a chain. -/
theorem moreOperands_verdict {token : Token} {tail : List Token} {next : Cursor}
    (rest_eq : cursor.rest = token :: tail) (starts : token = .and ∨ token.startsOperand)
    (shorter : next.rest.length < cursor.rest.length)
    (h : Verdict depth nesting terms (.ok (right, next))
      (rule (if token = .and then cursor.advance else cursor))) :
    Verdict depth nesting terms (moreOperands rule (.and left right) next)
      (moreOperands rule left cursor) := by
  rw [moreOperands.eq_def rule left cursor]
  simp only [rest_eq, starts, if_true]
  generalize rule (if token = .and then cursor.advance else cursor) = result at h ⊢
  cases h with
  | accepted nesting_le terms_le =>
    rw [rest_eq] at shorter
    simp only [shorter, if_true]
    exact .accepted nesting_le terms_le
  | tooDeep gt => exact .tooDeep gt
  | tooManyTerms gt => exact .tooManyTerms gt

/-- One more conjunction in a chain. -/
theorem moreConjunctions_verdict {tail : List Token} {next : Cursor}
    (rest_eq : cursor.rest = .or :: tail) (shorter : next.rest.length < cursor.rest.length)
    (h : Verdict depth nesting terms (.ok (right, next)) (conjunction rule cursor.advance)) :
    Verdict depth nesting terms (moreConjunctions rule (.or left right) next)
      (moreConjunctions rule left cursor) := by
  rw [moreConjunctions.eq_def rule left cursor]
  simp only [rest_eq]
  generalize conjunction rule cursor.advance = result at h ⊢
  cases h with
  | accepted nesting_le terms_le =>
    rw [rest_eq] at shorter
    simp only [shorter, if_true]
    exact .accepted nesting_le terms_le
  | tooDeep gt => exact .tooDeep gt
  | tooManyTerms gt => exact .tooManyTerms gt

theorem complete_term {text : String}
    (free : ∀ comparison behind, ¬ Compares rest comparison behind) :
    Complete .atom 0 (.word text :: rest) (.term text) rest := by
  intro depth cursor rest_eq _
  simp only [ofCategory, atom, rest_eq, afterWord]
  refine Verdict.of_countTerm rfl ?_
  simp only [Cursor.advance_rest, rest_eq, List.tail_cons, comparison?_eq_none_iff.2 free]
  simp [behind, Cursor.past, Cursor.advance, rest_eq, Expression.leaves]

theorem complete_phrase {text : String}
    (free : ∀ comparison behind, rest ≠ .compare comparison :: behind) :
    Complete .atom 0 (.phrase text :: rest) (.term text) rest := by
  intro depth cursor rest_eq _
  simp only [ofCategory, atom, rest_eq, afterPhrase, Cursor.advance_rest, List.tail_cons]
  refine Verdict.of_countTerm rfl ?_
  simp [behind, Cursor.past, Cursor.advance, rest_eq, Expression.leaves]

theorem complete_field {name text : String} {comparison : Comparison} {value : Token}
    (isName : Field.isName name) (compares : Compares tokens comparison (value :: rest))
    (holds : value = .word text ∨ value = .phrase text) :
    Complete .atom 0 (.word name :: tokens) (.field (Field.ofName name) comparison text) rest := by
  intro depth cursor rest_eq _
  have tail_eq := compares.eq_tail
  have found := comparison?_eq_some_iff.2 (tail_eq ▸ compares)
  have tail_length := congrArg List.length tail_eq
  simp only [List.length_tail, List.length_cons] at tail_length
  simp only [ofCategory, atom, rest_eq, afterWord]
  refine Verdict.of_countTerm rfl ?_
  simp only [Cursor.advance_rest, rest_eq, List.tail_cons, found, fieldValue, isName, if_true,
    tail_eq]
  rcases holds with rfl | rfl
  all_goals
    simp [behind, Cursor.past, Cursor.advance, rest_eq, Expression.leaves, tail_eq]
    omega

/-- Behind a group the reader stands where the group ends. -/
theorem advance_past_rightParen (shorter : rest.length + 1 < cursor.rest.length) (terms : Nat) :
    (cursor.advance.past (.rightParen :: rest) terms).advance = cursor.past rest terms := by
  simp only [Cursor.past, Cursor.advance, List.length_tail, List.length_cons, List.tail_cons,
    Cursor.mk.injEq, true_and, and_true]
  omega

/-- A group is read if its disjunction is, one level deeper. -/
theorem complete_group (derives : Derives .disjunction nesting tokens e (.rightParen :: rest))
    (h : Complete .disjunction nesting tokens e (.rightParen :: rest)) :
    Complete .atom (nesting + 1) (.leftParen :: tokens) e rest := by
  intro depth cursor rest_eq _
  have shorter := derives.length_lt
  simp only [ofCategory, atom, rest_eq]
  cases depth with
  | zero => exact .tooDeep (Nat.succ_pos nesting)
  | succ level =>
    have read := h level cursor.advance (by simp [rest_eq]) (endsChain_rightParen rest)
    simp only [behind, Cursor.advance_terms] at read
    rw [moreConjunctions_eq_ok (by simp)] at read
    have closed := (read.bind fun read ↦ closeGroup read.1 read.2).enclosed
    simp only [closeGroup, Cursor.past_rest] at closed
    have inside : rest.length + 1 < cursor.rest.length := by
      simpa only [rest_eq, List.length_cons] using Nat.lt_succ_of_lt shorter
    rw [advance_past_rightParen inside] at closed
    exact closed

theorem complete_not (derives : Derives .operand nesting tokens e rest)
    (h : Complete .operand nesting tokens e rest) :
    Complete .operand (nesting + 1) (.not :: tokens) (.not e) rest := by
  intro depth cursor rest_eq _
  simp only [ofCategory, operand_eq_operandOver, operandOver, rest_eq]
  cases depth with
  | zero => exact .tooDeep (Nat.succ_pos nesting)
  | succ level =>
    have read := h level cursor.advance (by simp [rest_eq]) trivial
    have shorter : rest.length < cursor.rest.length := by
      rw [rest_eq]
      exact Nat.lt_succ_of_lt derives.length_lt
    rw [behind, cursor.advance_past shorter] at read
    exact (read.bind fun read ↦ .ok (Expression.not read.1, read.2)).enclosed

theorem complete_atom (derives : Derives .atom nesting tokens e rest)
    (h : Complete .atom nesting tokens e rest) : Complete .operand nesting tokens e rest := by
  intro depth cursor rest_eq _
  have unfolded : operand depth cursor = atom (inner depth) cursor := by
    simp only [operand_eq_operandOver, operandOver, rest_eq]
    cases derives with
    | term => rfl
    | phrase => rfl
    | field => rfl
    | group => rfl
  rw [ofCategory, unfolded]
  exact h depth cursor rest_eq trivial

theorem complete_operand (h : Complete .operand nesting tokens e rest) :
    Complete .conjunction nesting tokens e rest := by
  intro depth cursor rest_eq _
  exact (h depth cursor rest_eq trivial).bind fun read ↦ moreOperands (operand depth) read.1 read.2

theorem complete_conjunction (h : Complete .conjunction nesting tokens e rest) :
    Complete .disjunction nesting tokens e rest := by
  intro depth cursor rest_eq (ends : EndsChain rest)
  have read := h depth cursor rest_eq trivial
  rw [behind, moreOperands_eq_ok (by exact ends)] at read
  exact read.bind fun read ↦ moreConjunctions (operand depth) read.1 read.2

variable {n m : Nat} {behindLeft tail : List Token} {token : Token}

/-- One more operand, with `AND` or nothing before it. -/
theorem complete_chain (behind_eq : behindLeft = token :: tail)
    (starts : token = .and ∨ token.startsOperand)
    (derivesLeft : Derives .conjunction n tokens left behindLeft)
    (derivesRight : Derives .operand m (if token = .and then tail else behindLeft) right rest)
    (completeLeft : Complete .conjunction n tokens left behindLeft)
    (completeRight : Complete .operand m (if token = .and then tail else behindLeft) right rest) :
    Complete .conjunction (max n m) tokens (.and left right) rest := by
  intro depth cursor rest_eq _
  have first := completeLeft depth cursor rest_eq trivial
  let middle := cursor.past behindLeft left.leaves
  let next := if token = .and then middle.advance else middle
  have next_rest : next.rest = if token = .and then tail else behindLeft := by
    simp only [next, middle]
    split <;> simp [behind_eq]
  have shorter : rest.length < behindLeft.length := by
    have := derivesRight.length_lt
    split at this
    · simp only [behind_eq, List.length_cons]
      omega
    · exact this
  have next_terms : next.terms = cursor.terms + left.leaves := by
    simp only [next, middle]
    split <;> rfl
  have next_past : next.past rest right.leaves =
      cursor.past rest (left.leaves + right.leaves) := by
    calc
      next.past rest right.leaves = middle.past rest right.leaves := by
        simp only [next]
        split
        · exact middle.advance_past shorter
        · rfl
      _ = cursor.past rest (left.leaves + right.leaves) :=
        cursor.past_past (rest_eq ▸ Nat.le_of_lt derivesLeft.length_lt) (Nat.le_of_lt shorter)
  have second := completeRight depth next next_rest trivial
  rw [behind, next_past, next_terms, Nat.add_assoc] at second
  have leaves_le : cursor.terms + left.leaves ≤ cursor.terms + (left.and right).leaves := by
    simp [Expression.leaves]
  exact first.trans (moreOperands_verdict behind_eq starts shorter second) leaves_le

/-- A disjunction is read if both sides of its keyword are. -/
theorem complete_or {middle : List Token}
    (derivesLeft : Derives .disjunction n tokens left (.or :: middle))
    (derivesRight : Derives .conjunction m middle right rest)
    (completeLeft : Complete .disjunction n tokens left (.or :: middle))
    (completeRight : Complete .conjunction m middle right rest) :
    Complete .disjunction (max n m) tokens (.or left right) rest := by
  intro depth cursor rest_eq (ends : EndsChain rest)
  have shorter : rest.length < (Token.or :: middle).length :=
    Nat.lt_succ_of_lt derivesRight.length_lt
  have next_past : (cursor.past (.or :: middle) left.leaves).advance.past rest right.leaves =
      cursor.past rest (left.leaves + right.leaves) :=
    cursor.past_advance_past (rest_eq ▸ Nat.le_of_lt derivesLeft.length_lt)
      (Nat.le_of_lt derivesRight.length_lt)
  have first := completeLeft depth cursor rest_eq (endsChain_or middle)
  have second := completeRight depth (cursor.past (.or :: middle) left.leaves).advance rfl trivial
  rw [behind, next_past, moreOperands_eq_ok (by exact ends), Cursor.advance_terms,
    Cursor.past_terms, Nat.add_assoc] at second
  exact first.trans (moreConjunctions_verdict rfl shorter second) (by simp [Expression.leaves])

/-- Every phrase is read, in any place where its category can end. -/
theorem complete {category : Category} (h : Derives category nesting tokens e rest) :
    Complete category nesting tokens e rest := by
  induction h with
  | term free => exact complete_term free
  | phrase free => exact complete_phrase free
  | field isName compares holds => exact complete_field isName compares holds
  | group inner ih => exact complete_group inner ih
  | atom atom ih => exact complete_atom atom ih
  | not inner ih => exact complete_not inner ih
  | operand _ ih => exact complete_operand ih
  | and before last ihBefore ihLast =>
    exact complete_chain rfl (.inl rfl) before last ihBefore ihLast
  | juxtaposed before last ihBefore ihLast =>
    obtain ⟨token, tail, rfl, starts⟩ := last.starts
    have notAnd : token ≠ .and := by
      rintro rfl
      cases starts
    exact complete_chain rfl (.inr starts) before (by rwa [if_neg notAnd]) ihBefore
      (by rwa [if_neg notAnd])
  | conjunction _ ih => exact complete_conjunction ih
  | or before last ihBefore ihLast => exact complete_or before last ihBefore ihLast

end Rule

namespace Expression

variable {text : String} {tokens : List Token} {e : Expression} {nesting : Nat}

/-- Reading tokens of known nesting gives their expression or names a limit that is broken. -/
theorem ofTokens_verdict (h : Derives .disjunction nesting tokens e []) :
    Rule.Verdict maxDepth nesting e.leaves (.ok e) (ofTokens tokens) := by
  have read := Rule.complete h maxDepth ⟨tokens, 0, 0⟩ rfl endsChain_nil
  rw [Rule.behind, Rule.moreConjunctions_eq_ok (by simp), Nat.zero_add] at read
  change Rule.Verdict _ _ _ _ (Rule.disjunction (Rule.operand maxDepth) ⟨tokens, 0, 0⟩) at read
  unfold ofTokens
  generalize Rule.disjunction (Rule.operand maxDepth) ⟨tokens, 0, 0⟩ = result at read ⊢
  cases read with
  | accepted nesting_le terms_le => exact .accepted nesting_le terms_le
  | tooDeep gt => exact .tooDeep gt
  | tooManyTerms gt => exact .tooManyTerms gt

theorem writes_of_ofTokens (h : ofTokens tokens = .ok e) : Writes tokens e := by
  obtain ⟨⟨read, stop⟩, found, h⟩ := Rule.bind_eq_ok h
  obtain ⟨derives, stop_eq, terms_le⟩ := Rule.disjunction_sound (Rule.operand_sound maxDepth) found
  dsimp only at h
  split at h
  · rename_i rest_eq
    cases h
    rw [rest_eq] at derives
    rw [stop_eq, Cursor.past_terms, Nat.zero_add] at terms_le
    exact ⟨derives, terms_le⟩
  · cases h

/-- Tokens are read as an expression exactly when they write it. -/
theorem ofTokens_eq_ok_iff : ofTokens tokens = .ok e ↔ Writes tokens e := by
  constructor
  · exact writes_of_ofTokens
  · rintro ⟨⟨nesting, nesting_le, derives⟩, leaves_le⟩
    generalize read_eq : ofTokens tokens = read
    have verdict := ofTokens_verdict derives
    rw [read_eq] at verdict
    cases verdict with
    | accepted => rfl
    | tooDeep gt => exact absurd gt (Nat.not_lt.2 nesting_le)
    | tooManyTerms gt => exact absurd gt (Nat.not_lt.2 leaves_le)

/-- A text is read as an expression if and only if its tokens write the expression within the
limits, and they write no other. -/
theorem parse_eq_ok_iff_writes (h : Token.tokenize text = .ok tokens) :
    (∀ e, parse text = .ok e ↔ Writes tokens e) ∧
      ∀ e e', Writes tokens e → Writes tokens e' → e = e' := by
  have parse_eq : parse text = ofTokens tokens := by
    simp only [parse, h]
    rfl
  refine ⟨fun e ↦ ?_, fun e e' writes writes' ↦ ?_⟩
  · rw [parse_eq]
    exact ofTokens_eq_ok_iff
  · rw [← ofTokens_eq_ok_iff] at writes writes'
    exact Except.ok.inj (writes.symm.trans writes')

/-- A chain with a field term under `NOT`. -/
theorem parse_or_not_writes :
    (∀ e, parse "a OR NOT b=c" = .ok e ↔
        Writes [.word "a", .or, .not, .word "b", .compare .contains, .word "c"] e) ∧
      ∀ e e', Writes [.word "a", .or, .not, .word "b", .compare .contains, .word "c"] e →
        Writes [.word "a", .or, .not, .word "b", .compare .contains, .word "c"] e' → e = e' :=
  parse_eq_ok_iff_writes (by decide +kernel)

end Expression

end RecordSearch
