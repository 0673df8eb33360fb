import RecordSearch.Proofs.ReaderRuns

/-!
# Following the grammar

A reader does what the rules of the grammar do.  Its depth stands for the level that the rules are
given: together they make up the limit, and a level that was opened is closed again, so they still
do behind every expression that is read.  A budget of four for each token that is left, and at most
four more, suffices, since no more than four calls are made in a row before a token is passed.
-/

namespace RecordSearch

open Grammar

namespace Reading

section Rules

variable {start reader : Reader} {category : Category} {level offset budget : Nat} {rule : Rule}
  {readings : Nat → Reading Expression} {first : Reading Expression}
  {more : Expression → Reading Expression} {e : Expression} {cursor stop : Cursor}

/-- A reader that is moved to the end of a phrase stands there. -/
theorem cursor_moveTo (spans : Rule.Spans category level reader.cursor e stop) :
    (reader.moveTo stop).cursor = stop := by
  obtain ⟨consumed, rest_eq, index_eq, _⟩ := spans.replace
  have rest_eq' : reader.tokens.drop stop.index = stop.rest := by
    rw [index_eq, ← List.drop_drop]
    change reader.cursor.rest.drop _ = _
    rw [rest_eq, List.drop_left]
  simp [Reader.cursor, Reader.moveTo, rest_eq']

/-- A second rule goes on where the first one ends, with fewer tokens left. -/
theorem Runs.behind (moreRule : Expression → Rule) (sound : Rule.Sound category level rule)
    (reads : Runs start first reader (reader.expects (rule reader.cursor)))
    (goesOn : ∀ e stop, start.Inside (reader.moveTo stop) → (reader.moveTo stop).cursor = stop →
      stop.rest.length < reader.cursor.rest.length →
      Runs start (more e) (reader.moveTo stop) (reader.expects (moreRule e stop))) :
    Runs start (first >>= more) reader
      (reader.expects (rule reader.cursor >>= fun read ↦ moreRule read.1 read.2)) := by
  cases found : rule reader.cursor with
  | error failure =>
    rw [found] at reads
    exact reads.stop
  | ok read =>
    rw [found] at reads
    have spans := sound found
    exact reads.next fun inside ↦ goesOn read.1 read.2 inside (cursor_moveTo spans) spans.length_lt

/-- At a depth under which so many more levels can open, the reading does what the rule does, if
only the budget suffices for the tokens that are left. -/
def Follows (level offset : Nat) (readings : Nat → Reading Expression) (rule : Rule) : Prop :=
  ∀ {start reader : Reader} {cursor : Cursor} {budget : Nat}, start.Inside reader →
    reader.depth + level = maxDepth → reader.cursor = cursor →
    4 * cursor.rest.length + offset ≤ budget →
    Runs start (readings budget) reader (reader.expects (rule cursor))

/-- A call takes one from the budget. -/
theorem Follows.of_call (h : ∀ {start reader : Reader} {budget : Nat}, start.Inside reader →
      reader.depth + level = maxDepth → 4 * reader.cursor.rest.length + offset ≤ budget →
      Runs start (readings (budget + 1)) reader (reader.expects (rule reader.cursor))) :
    Follows level (offset + 1) readings rule := by
  intro start reader cursor budget inside depth_eq cursor_eq enough
  subst cursor_eq
  cases budget with
  | zero => omega
  | succ budget => exact h inside depth_eq (Nat.le_of_succ_le_succ enough)

section Chains

variable (operands : Follows level 2 operand (Rule.operand level)) (left : Expression)
include operands

/- The loop is read by induction on the budget.  Every round reads an operand, and so it leaves at
least one token less, which makes up for what it takes from the budget. -/
theorem follows_moreOperands :
    Follows level 3 (moreOperands · left) (Rule.moreOperands (Rule.operand level) left) := by
  intro start reader cursor budget inside depth_eq cursor_eq enough
  induction budget generalizing reader cursor left with
  | zero => omega
  | succ budget ih =>
    subst cursor_eq
    have round {place : Reader} (inside : start.Inside place)
        (depth_eq : place.depth + level = maxDepth)
        (enough : 4 * place.cursor.rest.length + 2 ≤ budget) :
        Runs start (operand budget >>= fun right ↦ moreOperands budget (.and left right)) place
          (place.expects (Rule.operand level place.cursor >>= fun read ↦
            Rule.moreOperands (Rule.operand level) (.and left read.1) read.2)) :=
      Runs.behind (fun right ↦ Rule.moreOperands (Rule.operand level) (.and left right))
        (Rule.operand_sound level) (operands inside depth_eq rfl enough)
        fun right stop inside cursor_eq shorter ↦
          ih (.and left right) inside depth_eq cursor_eq (by omega)
    by_cases isAnd : reader.cursor.rest.head? = some .and
    · obtain ⟨tail, rest_eq⟩ := List.head?_eq_some_iff.1 isAnd
      have shorter := Reader.length_rest_pass rest_eq
      rw [Rule.moreOperands_eq_bind rest_eq (.inl rfl), if_pos rfl, ← reader.cursor_pass]
      refine (runs_eat inside rest_eq).next fun inside ↦
        (runs_peek? inside rfl).next fun inside ↦ ?_
      rw [Bool.true_or, if_pos rfl]
      exact round inside depth_eq (by omega)
    · refine (runs_eat_other inside isAnd).next fun inside ↦
        (runs_peek? inside rfl).next fun inside ↦ ?_
      rw [Bool.false_or]
      split
      · rename_i starts
        obtain ⟨token, head_eq, starts⟩ := (Option.any_eq_true _ _).1 starts
        obtain ⟨tail, rest_eq⟩ := List.head?_eq_some_iff.1 head_eq
        have other : token ≠ .and := by
          rintro rfl
          exact isAnd head_eq
        rw [Rule.moreOperands_eq_bind rest_eq (.inr starts), if_neg other]
        exact round inside depth_eq (by omega)
      · rename_i ends
        have endsChain : EndsChain reader.cursor.rest := by
          intro token head_eq
          refine ⟨fun same ↦ isAnd (same ▸ head_eq), ?_⟩
          rw [Option.mem_def.1 head_eq] at ends
          exact Bool.eq_false_iff.2 ends
        rw [Rule.moreOperands_eq_ok endsChain]
        exact runs_pure inside left

theorem follows_conjunction :
    Follows level 3 conjunction (Rule.conjunction (Rule.operand level)) :=
  Follows.of_call fun inside depth_eq enough ↦
    Runs.behind (Rule.moreOperands (Rule.operand level)) (Rule.operand_sound level)
      (operands inside depth_eq rfl enough) fun left stop inside cursor_eq shorter ↦
        follows_moreOperands operands left inside depth_eq cursor_eq (by omega)

theorem follows_moreConjunctions :
    Follows level 4 (moreConjunctions · left)
      (Rule.moreConjunctions (Rule.operand level) left) := by
  intro start reader cursor budget inside depth_eq cursor_eq enough
  induction budget generalizing reader cursor left with
  | zero => omega
  | succ budget ih =>
    subst cursor_eq
    by_cases isOr : reader.cursor.rest.head? = some .or
    · obtain ⟨tail, rest_eq⟩ := List.head?_eq_some_iff.1 isOr
      have shorter := Reader.length_rest_pass rest_eq
      rw [Rule.moreConjunctions_eq_bind rest_eq, ← reader.cursor_pass]
      refine (runs_eat inside rest_eq).next fun inside ↦ ?_
      rw [if_pos rfl]
      exact Runs.behind (fun right ↦ Rule.moreConjunctions (Rule.operand level) (.or left right))
        (Rule.conjunction_sound (Rule.operand_sound level))
        (follows_conjunction operands inside depth_eq rfl (by omega))
        fun right stop inside cursor_eq shorter ↦
          ih (.or left right) inside depth_eq cursor_eq (by omega)
    · have other : ∀ tail, reader.cursor.rest ≠ .or :: tail := by
        intro tail rest_eq
        rw [rest_eq] at isOr
        exact isOr rfl
      rw [Rule.moreConjunctions_eq_ok other]
      exact (runs_eat_other inside isOr).next fun inside ↦ runs_pure inside left

theorem follows_disjunction :
    Follows level 4 disjunction (Rule.disjunction (Rule.operand level)) :=
  Follows.of_call fun inside depth_eq enough ↦
    Runs.behind (Rule.moreConjunctions (Rule.operand level))
      (Rule.conjunction_sound (Rule.operand_sound level))
      (follows_conjunction operands inside depth_eq rfl enough)
      fun left stop inside cursor_eq shorter ↦
        follows_moreConjunctions operands left inside depth_eq cursor_eq (by omega)

end Chains

/-- A level is opened, and what is read there leaves the depth as it is, so the level that is closed
is the one that was opened. -/
theorem runs_enclosed (moreRule : Expression → Rule) (sound : Rule.Sound category level rule)
    (follows : Follows level offset readings rule) (inside : start.Inside reader)
    (depth_eq : reader.depth + (level + 1) = maxDepth)
    (enough : 4 * reader.cursor.rest.length + offset ≤ budget)
    (goesOn : ∀ e stop, start.Inside (reader.moveTo stop) → (reader.moveTo stop).cursor = stop →
      Runs start (more e) (reader.moveTo stop) (reader.expects (moreRule e stop))) :
    Runs start (enter >>= fun _ ↦ readings budget >>= fun e ↦ leave >>= fun _ ↦ more e) reader
      (reader.expects (rule reader.cursor >>= fun read ↦ moreRule read.1 read.2)) := by
  have deeper : reader.opened.depth + level = maxDepth := by
    rw [← depth_eq, Nat.add_comm level, ← Nat.add_assoc]
    rfl
  refine (runs_enter inside (by omega)).next fun opened ↦ ?_
  have reads := follows opened deeper rfl enough
  change Runs start _ _ (Reader.expects _ (rule reader.cursor)) at reads
  cases found : rule reader.cursor with
  | error failure =>
    rw [found] at reads
    exact reads.stop
  | ok read =>
    rw [found] at reads
    refine reads.next fun opened ↦ ?_
    have closed : start.Inside (reader.moveTo read.2) := opened.of_opened inside.depth_ge
    exact (runs_leave closed opened).next fun inside ↦
      goesOn read.1 read.2 inside (cursor_moveTo (sound found))

section Deeper

variable (deeper : ∀ {lower}, level = lower + 1 → Follows lower 2 operand (Rule.operand lower))
include deeper

theorem follows_atom : Follows level 1 atom (Rule.atom (Rule.inner level)) := by
  refine Follows.of_call fun {start reader budget} inside depth_eq enough ↦ ?_
  refine (runs_here inside).next fun inside ↦ ?_
  unfold Rule.atom
  cases rest_eq : reader.cursor.rest with
  | nil => exact (runs_advance?_nil inside rest_eq).next fun inside ↦ runs_fail inside _
  | cons token tail =>
    have shorter := Reader.length_rest_pass rest_eq
    refine (runs_advance? inside rest_eq).next fun inside ↦ ?_
    rw [← reader.cursor_pass]
    cases token with
    | leftParen =>
      cases level with
      | zero => exact (runs_enter_tooDeep inside depth_eq).stop
      | succ level =>
        exact runs_enclosed Rule.closeGroup (Rule.disjunction_sound (Rule.operand_sound level))
          (follows_disjunction (deeper rfl)) inside depth_eq (by omega)
          fun group stop inside cursor_eq ↦ cursor_eq ▸ runs_closeGroup inside group
    | word text => exact runs_afterWord inside text
    | phrase text => exact runs_afterPhrase inside text
    | _ => exact runs_fail inside _

theorem follows_operand_of_deeper : Follows level 2 operand (Rule.operand level) := by
  refine Follows.of_call fun {start reader budget} inside depth_eq enough ↦ ?_
  by_cases isNot : reader.cursor.rest.head? = some .not
  · obtain ⟨tail, rest_eq⟩ := List.head?_eq_some_iff.1 isNot
    have shorter := Reader.length_rest_pass rest_eq
    rw [Rule.operand_eq_operandOver]
    unfold Rule.operandOver
    simp only [rest_eq]
    refine (runs_eat inside rest_eq).next fun inside ↦ ?_
    rw [if_pos rfl, ← reader.cursor_pass]
    cases level with
    | zero => exact (runs_enter_tooDeep inside depth_eq).stop
    | succ level =>
      exact runs_enclosed (fun e cursor ↦ .ok (.not e, cursor)) (Rule.operand_sound level)
        (deeper rfl) inside depth_eq (by omega)
        fun e stop inside _ ↦ runs_pure inside (Expression.not e)
  · rw [Rule.operand_eq_atom isNot]
    exact (runs_eat_other inside isNot).next fun inside ↦
      follows_atom deeper inside depth_eq rfl enough

end Deeper

/-- The reading of operands does what the rule does at every level, by induction on it. -/
theorem follows_operand (level : Nat) : Follows level 2 operand (Rule.operand level) := by
  -- An operand that stands inside another one, behind a `NOT` or in a group, is one level deeper.
  induction level with
  | zero => exact follows_operand_of_deeper fun h ↦ absurd h.symm (Nat.succ_ne_zero _)
  | succ level ih =>
    refine follows_operand_of_deeper fun {lower} h ↦ ?_
    cases h
    exact ih

def ofCategory : Category → Nat → Reading Expression
  | .atom => atom
  | .operand => operand
  | .conjunction => conjunction
  | .disjunction => disjunction

/-- The reading of a category does what the rule does, with four calls for each token. -/
theorem follows_ofCategory (level : Nat) (category : Category) :
    Follows level 4 (ofCategory category) (Rule.ofCategory level category) := by
  intro start reader cursor budget inside depth_eq cursor_eq enough
  cases category with
  | atom => exact follows_atom (fun _ ↦ follows_operand _) inside depth_eq cursor_eq (by omega)
  | operand => exact follows_operand level inside depth_eq cursor_eq (by omega)
  | conjunction =>
    exact follows_conjunction (follows_operand level) inside depth_eq cursor_eq (by omega)
  | disjunction =>
    exact follows_disjunction (follows_operand level) inside depth_eq cursor_eq enough

end Rules

end Reading

def Rule.closeQuery (e : Expression) : Rule := fun cursor ↦
  match cursor.rest with
  | [] => .ok (e, cursor)
  | token :: _ => .error (cursor.unexpected token)

theorem Expression.ofTokens_eq_map (tokens : List Token) :
    ofTokens tokens = (Rule.disjunction (Rule.operand maxDepth) ⟨tokens, 0, 0⟩ >>= fun read ↦
      Rule.closeQuery read.1 read.2).map Prod.fst := by
  unfold ofTokens
  cases Rule.disjunction (Rule.operand maxDepth) ⟨tokens, 0, 0⟩ with
  | error => rfl
  | ok read =>
    obtain ⟨e, ⟨rest, index, terms⟩⟩ := read
    cases rest with
    | nil => rfl
    | cons => rfl

namespace Reading

variable {start reader : Reader}

theorem runs_closeQuery (inside : start.Inside reader) (e : Expression) :
    Runs start (closeQuery e) reader (reader.expects (Rule.closeQuery e reader.cursor)) := by
  unfold Rule.closeQuery
  cases rest_eq : reader.cursor.rest with
  | nil => exact (runs_peek? inside rest_eq).next fun inside ↦ runs_pure inside e
  | cons token tail =>
    exact (runs_peek? inside rest_eq).next fun inside ↦
      (runs_here inside).next fun inside ↦ runs_fail inside _

/-- A whole query is read as the rules read it. -/
theorem query_eq_ofTokens (tokens : List Token) {budget : Nat}
    (enough : 4 * (tokens.length + 1) ≤ budget) :
    ((query budget).run ⟨tokens, 0, 0, 0⟩).map Prod.fst =
      some ((Expression.ofTokens tokens).mapError .failure) := by
  have within : Reader.Within ⟨tokens, 0, 0, 0⟩ := ⟨Nat.zero_le _, Nat.zero_le _, Nat.zero_le _⟩
  have reads := follows_disjunction (follows_operand maxDepth) within.inside (Nat.zero_add _) rfl
    enough
  obtain ⟨result, after, visited, ends, answers, _⟩ :=
    Runs.behind Rule.closeQuery (Rule.disjunction_sound (Rule.operand_sound maxDepth)) reads
      (fun e stop inside cursor_eq _ ↦ cursor_eq ▸ runs_closeQuery inside e) []
  change Option.map Prod.fst ((disjunction budget >>= closeQuery) ⟨⟨tokens, 0, 0, 0⟩, []⟩) = _
  rw [ends, Expression.ofTokens_eq_map]
  change Answers (Reader.expects _ (Rule.disjunction _ ⟨tokens, 0, 0⟩ >>= _)) _ _ at answers
  obtain ⟨e, stop, found, rfl, -⟩ | ⟨reason, found, rfl⟩ := answers.of_expects
  · rw [found]
    rfl
  · rw [found]
    rfl

end Reading

end RecordSearch
