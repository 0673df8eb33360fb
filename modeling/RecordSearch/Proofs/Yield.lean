import RecordSearch.Proofs.Checking

/-!
# What an expression keeps of its text

The leaves of an expression stand for the words, phrases and comparisons of the text that writes it:
for all of them, for none twice, and in their order.  Its operators are those of the text, with an
`AND` for every two operands that stand side by side.  Only parentheses leave no trace.

Both limits on a text bound its expression.  A path from the whole expression to a leaf leads under
no more `NOT`s than may nest, and every conjunction and disjunction on it has at least one leaf off
the path.
-/

namespace RecordSearch

open Grammar

namespace Token

/-- The token is part of a leaf. -/
def isContent : Token → Bool
  | word _ | phrase _ | compare _ => true
  | leftParen | rightParen | and | or | not => false

/-- The token is a symbol or a word that stands for the comparison. -/
inductive Signs : Token → Comparison → Prop
  | symbol (comparison : Comparison) : Signs (compare comparison) comparison
  | word {text : String} {comparison : Comparison}
    (named : Comparison.ofWord? text = some comparison) : Signs (word text) comparison

theorem Signs.isContent {sign : Token} {comparison : Comparison} (h : sign.Signs comparison) :
    sign.isContent = true := by
  cases h with
  | symbol => rfl
  | word => rfl

theorem text?_eq_some_iff {token : Token} {text : String} :
    token.text? = some text ↔ token = word text ∨ token = phrase text := by
  cases token <;> simp [text?]

theorem isContent_of_text? {token : Token} {text : String} (hasText : token.text? = some text) :
    token.isContent = true := by
  rcases text?_eq_some_iff.1 hasText with rfl | rfl
  · rfl
  · rfl

end Token

/-- The leaves of an expression stand for these tokens, from left to right: a term for a word or a
phrase, and a field term for its name, its comparison and its value.  Of a name the expression keeps
the lower case only. -/
inductive Expression.Yields : Expression → List Token → Prop
  | word (text : String) : Yields (.term text) [.word text]
  | phrase (text : String) : Yields (.term text) [.phrase text]
  | field (typed : String) {sign value : Token} {comparison : Comparison} {text : String}
    (signs : sign.Signs comparison) (hasText : value.text? = some text) :
    Yields (.field (Field.ofName typed) comparison text) [.word typed, sign, value]
  | not {e : Expression} {tokens : List Token} (inner : Yields e tokens) : Yields (.not e) tokens
  | and {left right : Expression} {before behind : List Token} (first : Yields left before)
    (second : Yields right behind) : Yields (.and left right) (before ++ behind)
  | or {left right : Expression} {before behind : List Token} (first : Yields left before)
    (second : Yields right behind) : Yields (.or left right) (before ++ behind)

variable {category : Category} {nesting : Nat} {tokens rest : List Token} {e : Expression}

/-- A comparison begins with a token that signs it. -/
theorem Grammar.Compares.exists_signs {comparison : Comparison} {behind : List Token}
    (h : Compares tokens comparison behind) :
    ∃ sign, tokens = sign :: behind ∧ sign.Signs comparison := by
  cases h with
  | symbol => exact ⟨_, rfl, .symbol _⟩
  | word named => exact ⟨_, rfl, .word named⟩

namespace Expression

/-- What two phrases of the grammar keep, one behind the other, is kept in this order. -/
theorem filter_isContent_trans {behind before last : List Token}
    (first : tokens.filter Token.isContent = before ++ behind.filter Token.isContent)
    (second : behind.filter Token.isContent = last ++ rest.filter Token.isContent) :
    tokens.filter Token.isContent = before ++ last ++ rest.filter Token.isContent := by
  rw [first, second, List.append_assoc]

/-- A phrase of the grammar has no words, quoted phrases or comparisons but those of its leaves. -/
theorem exists_yields_of_derives (h : Derives category nesting tokens e rest) :
    ∃ said, tokens.filter Token.isContent = said ++ rest.filter Token.isContent ∧
      e.Yields said := by
  induction h with
  | @term text => exact ⟨[.word text], rfl, .word text⟩
  | @phrase text => exact ⟨[.phrase text], rfl, .phrase text⟩
  | @field name text _ rest comparison value _ compares holds =>
    obtain ⟨sign, rfl, signs⟩ := compares.exists_signs
    have hasText := Token.text?_eq_some_iff.2 holds
    refine ⟨[.word name, sign, value], ?_, .field name signs hasText⟩
    rw [List.filter_cons_of_pos rfl, List.filter_cons_of_pos signs.isContent,
      List.filter_cons_of_pos (Token.isContent_of_text? hasText)]
    rfl
  | group _ ih =>
    obtain ⟨said, filter_eq, yields⟩ := ih
    exact ⟨said, filter_eq, yields⟩
  | not _ ih =>
    obtain ⟨said, filter_eq, yields⟩ := ih
    exact ⟨said, filter_eq, .not yields⟩
  | atom _ ih => exact ih
  | operand _ ih => exact ih
  | conjunction _ ih => exact ih
  | and _ _ ihBefore ihLast =>
    obtain ⟨_, first_eq, yieldsFirst⟩ := ihBefore
    obtain ⟨_, second_eq, yieldsSecond⟩ := ihLast
    exact ⟨_, filter_isContent_trans first_eq second_eq, .and yieldsFirst yieldsSecond⟩
  | juxtaposed _ _ ihBefore ihLast =>
    obtain ⟨_, first_eq, yieldsFirst⟩ := ihBefore
    obtain ⟨_, second_eq, yieldsSecond⟩ := ihLast
    exact ⟨_, filter_isContent_trans first_eq second_eq, .and yieldsFirst yieldsSecond⟩
  | or _ _ ihBefore ihLast =>
    obtain ⟨_, first_eq, yieldsFirst⟩ := ihBefore
    obtain ⟨_, second_eq, yieldsSecond⟩ := ihLast
    exact ⟨_, filter_isContent_trans first_eq second_eq, .or yieldsFirst yieldsSecond⟩

end Expression

/-- What negates an expression or joins two. -/
inductive Operator
  | not
  | and
  | or
deriving Repr, DecidableEq

def Operator.token : Operator → Token
  | not => .not
  | and => .and
  | or => .or

namespace Expression

def count (operator : Operator) : Expression → Nat
  | term _ => 0
  | field _ _ _ => 0
  | not inner => inner.count operator + if operator = .not then 1 else 0
  | and left right =>
    left.count operator + right.count operator + if operator = .and then 1 else 0
  | or left right => left.count operator + right.count operator + if operator = .or then 1 else 0

/-- Every expression has a leaf. -/
theorem leaves_pos (e : Expression) : 0 < e.leaves := by
  induction e with
  | term | field => exact Nat.one_pos
  | not _ ih => exact ih
  | and _ _ ihLeft _ | or _ _ ihLeft _ => exact Nat.add_pos_left ihLeft _

/-- Every operator that joins two expressions adds to the leaves. -/
theorem count_and_add_count_or (e : Expression) : e.count .and + e.count .or + 1 = e.leaves := by
  induction e with
  | term | field => rfl
  | not _ ih => exact ih
  | and _ _ ihLeft ihRight | or _ _ ihLeft ihRight =>
    simp only [count, leaves, ← ihLeft, ← ihRight, reduceCtorEq, if_true, if_false]
    omega

end Expression

namespace Operator

theorem count_cons_token (operator other : Operator) (tokens : List Token) :
    (other.token :: tokens).count operator.token =
      tokens.count operator.token + if operator = other then 1 else 0 := by
  rw [List.count_cons]
  cases operator <;> cases other <;> rfl

theorem ne_token (operator : Operator) :
    (∀ token : Token, token.isContent = true → token ≠ operator.token) ∧
      Token.leftParen ≠ operator.token ∧ Token.rightParen ≠ operator.token := by
  cases operator with
  | not | and | or =>
    refine ⟨?_, nofun, nofun⟩
    rintro token content rfl
    cases content

end Operator

namespace Expression

/-- Every operator but `AND` is written wherever it stands in the expression, and nowhere else. -/
theorem count_token_of_derives {operator : Operator} (written : operator ≠ .and)
    (h : Derives category nesting tokens e rest) :
    tokens.count operator.token = e.count operator + rest.count operator.token := by
  obtain ⟨content_ne, leftParen_ne, rightParen_ne⟩ := operator.ne_token
  induction h with
  | term | phrase => rw [List.count_cons_of_ne (content_ne _ rfl), count, Nat.zero_add]
  | @field name text _ rest comparison value _ compares holds =>
    obtain ⟨sign, rfl, signs⟩ := compares.exists_signs
    have isContent := Token.isContent_of_text? (Token.text?_eq_some_iff.2 holds)
    rw [List.count_cons_of_ne (content_ne _ rfl),
      List.count_cons_of_ne (content_ne _ signs.isContent),
      List.count_cons_of_ne (content_ne _ isContent), count, Nat.zero_add]
  | group _ ih =>
    rw [List.count_cons_of_ne leftParen_ne, ih, List.count_cons_of_ne rightParen_ne]
  | not _ ih =>
    have here := operator.count_cons_token .not
    rw [Operator.token] at here
    rw [here, ih, count]
    omega
  | atom _ ih => exact ih
  | operand _ ih => exact ih
  | conjunction _ ih => exact ih
  | and _ _ ihBefore ihLast =>
    have here := operator.count_cons_token .and
    rw [Operator.token, if_neg written] at here
    rw [ihBefore, here, ihLast, count, if_neg written]
    omega
  | juxtaposed _ _ ihBefore ihLast =>
    rw [ihBefore, ihLast, count, if_neg written]
    omega
  | or _ _ ihBefore ihLast =>
    have here := operator.count_cons_token .or
    rw [Operator.token] at here
    rw [ihBefore, here, ihLast, count]
    omega

end Expression

namespace Expression

/-- The operators on each path from the whole expression to a leaf. -/
def paths : Expression → List (List Operator)
  | term _ => [[]]
  | field _ _ _ => [[]]
  | not inner => inner.paths.map (.not :: ·)
  | and left right => (left.paths ++ right.paths).map (.and :: ·)
  | or left right => (left.paths ++ right.paths).map (.or :: ·)

variable {path : List Operator}

/-- Every conjunction and disjunction on a path has a leaf off the path. -/
theorem length_lt_of_mem_paths (h : path ∈ e.paths) :
    path.length < path.count .not + e.leaves := by
  induction e generalizing path with
  | term | field =>
    obtain rfl := List.mem_singleton.1 h
    exact Nat.one_pos
  | not inner ih =>
    obtain ⟨tail, inside, rfl⟩ := List.mem_map.1 h
    have shorter := ih inside
    rw [List.length_cons, List.count_cons_self, leaves]
    omega
  | and left right ihLeft ihRight | or left right ihLeft ihRight =>
    obtain ⟨tail, inside, rfl⟩ := List.mem_map.1 h
    have leftLeaf := left.leaves_pos
    have rightLeaf := right.leaves_pos
    rw [List.length_cons, List.count_cons_of_ne (by decide), leaves]
    rcases List.mem_append.1 inside with inLeft | inRight
    · have shorter := ihLeft inLeft
      omega
    · have shorter := ihRight inRight
      omega

/-- A path leads under no more `NOT`s than nest in the text. -/
theorem count_not_le_of_mem_paths (derives : Derives category nesting tokens e rest)
    (h : path ∈ e.paths) : path.count .not ≤ nesting := by
  induction derives generalizing path with
  | term | phrase | field =>
    obtain rfl := List.mem_singleton.1 h
    exact Nat.le_refl 0
  | group _ ih => exact Nat.le_succ_of_le (ih h)
  | not _ ih =>
    obtain ⟨tail, inside, rfl⟩ := List.mem_map.1 h
    rw [List.count_cons_self]
    exact Nat.succ_le_succ (ih inside)
  | atom _ ih => exact ih h
  | operand _ ih => exact ih h
  | conjunction _ ih => exact ih h
  | and _ _ ihBefore ihLast | juxtaposed _ _ ihBefore ihLast | or _ _ ihBefore ihLast =>
    obtain ⟨tail, inside, rfl⟩ := List.mem_map.1 h
    rw [List.count_cons_of_ne (by decide)]
    rcases List.mem_append.1 inside with inLeft | inRight
    · exact Nat.le_trans (ihBefore inLeft) (Nat.le_max_left _ _)
    · exact Nat.le_trans (ihLast inRight) (Nat.le_max_right _ _)

/-- A text is read as an expression only if its tokens write it. -/
theorem exists_writes_of_parse {text : String} (h : parse text = .ok e) :
    ∃ tokens, Token.tokenize text = .ok tokens ∧ Writes tokens e := by
  obtain ⟨tokens, cut, read⟩ := Rule.bind_eq_ok h
  exact ⟨tokens, cut, writes_of_ofTokens read⟩

/-- The limits on a text bound what it writes. -/
theorem bounded_of_writes (h : Writes tokens e) : e.leaves ≤ 1024 ∧
    ∀ path ∈ e.paths, path.count .not ≤ 128 ∧ path.length ≤ 1151 := by
  obtain ⟨⟨nesting, shallow, derives⟩, few⟩ := h
  refine ⟨few, fun path member ↦ ?_⟩
  have nots : path.count .not ≤ 128 :=
    Nat.le_trans (count_not_le_of_mem_paths derives member) shallow
  have leaves_le : e.leaves ≤ 1024 := few
  have shorter := length_lt_of_mem_paths member
  exact ⟨nots, by omega⟩

end Expression

/-- Every expression that is searched for has at most 1024 leaves, and a path to one of them leads
under at most 128 `NOT`s and through at most 1151 operators.  If it is read from the text, its
leaves stand for the words, phrases and comparisons of the text in their order, it has as many
`NOT`s and `OR`s as the text, and everything else in it is joined by `AND`. -/
theorem Query.expression_keeps (query : Query) :
    (query.expression.leaves ≤ 1024 ∧
      ∀ path ∈ query.expression.paths, path.count .not ≤ 128 ∧ path.length ≤ 1151) ∧
    ∀ e, Expression.parse query.text = .ok e →
      ∃ tokens, Token.tokenize query.text = .ok tokens ∧
        e.Yields (tokens.filter Token.isContent) ∧
        e.count .not = tokens.count .not ∧ e.count .or = tokens.count .or ∧
        e.count .and + tokens.count .or + 1 = e.leaves := by
  constructor
  · cases read : Expression.parse query.text with
    | error failure =>
      rw [expression_of_parse_error read]
      have single : 1 ≤ 1024 := by decide
      refine ⟨single, fun path member ↦ ?_⟩
      obtain rfl := List.mem_singleton.1 member
      exact ⟨Nat.zero_le _, Nat.zero_le _⟩
    | ok e =>
      obtain ⟨tokens, _, writes⟩ := Expression.exists_writes_of_parse read
      rw [expression_of_parse read]
      exact Expression.bounded_of_writes writes
  · intro e read
    obtain ⟨tokens, cut, ⟨nesting, _, derives⟩, _⟩ := Expression.exists_writes_of_parse read
    obtain ⟨said, filter_eq, yields⟩ := Expression.exists_yields_of_derives derives
    rw [List.filter_nil, List.append_nil] at filter_eq
    have nots : tokens.count .not = e.count .not :=
      Expression.count_token_of_derives (by decide : Operator.not ≠ .and) derives
    have ors : tokens.count .or = e.count .or :=
      Expression.count_token_of_derives (by decide : Operator.or ≠ .and) derives
    refine ⟨tokens, cut, ?_, nots.symm, ors.symm, ?_⟩
    · rw [filter_eq]
      exact yields
    · rw [ors]
      exact e.count_and_add_count_or

/-- A keyword takes no part in the leaves, a comparison word only where a value follows it, and the
`NOT` under the conjunction is on one of its paths. -/
theorem Query.expression_keeps_matches :
    let query : Query := ⟨"Note matches x OR (NOT \"a b\") matches", ⟨false, false⟩, ','⟩
    let e : Expression := .or (.field (.named "note") .exact "x")
      (.and (.not (.term "a b")) (.term "matches"))
    let tokens : List Token := [.word "Note", .word "matches", .word "x", .or, .leftParen, .not,
      .phrase "a b", .rightParen, .word "matches"]
    Expression.parse query.text = .ok e ∧ Token.tokenize query.text = .ok tokens ∧
      e.Yields [.word "Note", .word "matches", .word "x", .phrase "a b", .word "matches"] ∧
      e.count .and + 1 + 1 = e.leaves ∧ [.or, .and, .not] ∈ e.paths := by
  intro query e tokens
  have read : Expression.parse query.text = .ok e := by decide +kernel
  have cut : Token.tokenize query.text = .ok tokens := by decide +kernel
  obtain ⟨_, found, yields, _, _, joined⟩ := (Query.expression_keeps query).2 e read
  rw [cut] at found
  cases found
  exact ⟨read, cut, yields, joined, by decide⟩

end RecordSearch
