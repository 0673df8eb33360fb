import RecordSearch.Query.Parse

/-!
# The grammar of queries

The grammar is a relation between tokens and expressions, stated apart from the rules that read it.
A derivation keeps the tokens that follow its phrase, because whether a word is a term or the name
of a field depends on what comes next.  It also says how deeply its tokens are enclosed.  Nothing
here bounds the depth or the number of terms.
-/

namespace RecordSearch.Grammar

inductive Category
  | atom
  | operand
  | conjunction
  | disjunction

/-- The tokens begin with a comparison, and `behind` follows it.  The words `contains` and `matches`
are comparisons only where a value follows them. -/
inductive Compares : List Token → Comparison → List Token → Prop
  | symbol (comparison : Comparison) (behind : List Token) :
    Compares (.compare comparison :: behind) comparison behind
  | word {text : String} {comparison : Comparison} {value : Token} {behind : List Token}
    (named : Comparison.ofWord? text = some comparison) (isValue : value.isValue) :
    Compares (.word text :: value :: behind) comparison (value :: behind)

/-- The tokens before `rest` form a phrase that writes an expression, and `nesting` is the largest
number of parentheses and `NOT`s around one of them. -/
inductive Derives : Category → Nat → List Token → Expression → List Token → Prop
  | term {text : String} {rest : List Token}
    (free : ∀ comparison behind, ¬ Compares rest comparison behind) :
    Derives .atom 0 (.word text :: rest) (.term text) rest
  | phrase {text : String} {rest : List Token}
    (free : ∀ comparison behind, rest ≠ .compare comparison :: behind) :
    Derives .atom 0 (.phrase text :: rest) (.term text) rest
  | field {name text : String} {tokens rest : List Token} {comparison : Comparison} {value : Token}
    (isName : Field.isName name) (compares : Compares tokens comparison (value :: rest))
    (holds : value = .word text ∨ value = .phrase text) :
    Derives .atom 0 (.word name :: tokens) (.field (Field.ofName name) comparison text) rest
  | group {nesting : Nat} {tokens rest : List Token} {e : Expression}
    (inner : Derives .disjunction nesting tokens e (.rightParen :: rest)) :
    Derives .atom (nesting + 1) (.leftParen :: tokens) e rest
  | atom {nesting : Nat} {tokens rest : List Token} {e : Expression}
    (atom : Derives .atom nesting tokens e rest) :
    Derives .operand nesting tokens e rest
  | not {nesting : Nat} {tokens rest : List Token} {e : Expression}
    (inner : Derives .operand nesting tokens e rest) :
    Derives .operand (nesting + 1) (.not :: tokens) (.not e) rest
  | operand {nesting : Nat} {tokens rest : List Token} {e : Expression}
    (operand : Derives .operand nesting tokens e rest) :
    Derives .conjunction nesting tokens e rest
  | and {n m : Nat} {tokens middle rest : List Token} {left right : Expression}
    (before : Derives .conjunction n tokens left (.and :: middle))
    (last : Derives .operand m middle right rest) :
    Derives .conjunction (max n m) tokens (.and left right) rest
  | juxtaposed {n m : Nat} {tokens middle rest : List Token} {left right : Expression}
    (before : Derives .conjunction n tokens left middle)
    (last : Derives .operand m middle right rest) :
    Derives .conjunction (max n m) tokens (.and left right) rest
  | conjunction {nesting : Nat} {tokens rest : List Token} {e : Expression}
    (conjunction : Derives .conjunction nesting tokens e rest) :
    Derives .disjunction nesting tokens e rest
  | or {n m : Nat} {tokens middle rest : List Token} {left right : Expression}
    (before : Derives .disjunction n tokens left (.or :: middle))
    (last : Derives .conjunction m middle right rest) :
    Derives .disjunction (max n m) tokens (.or left right) rest

/-- The tokens write the expression, within the limits on nesting and on the number of terms. -/
def Writes (tokens : List Token) (e : Expression) : Prop :=
  (∃ nesting ≤ maxDepth, Derives .disjunction nesting tokens e []) ∧ e.leaves ≤ maxTerms

/-- No operand goes on with these tokens. -/
def EndsChain (rest : List Token) : Prop :=
  ∀ token ∈ rest.head?, token ≠ .and ∧ token.startsOperand = false

@[simp]
theorem endsChain_nil : EndsChain [] := by
  simp [EndsChain]

@[simp]
theorem endsChain_rightParen (rest : List Token) : EndsChain (.rightParen :: rest) := by
  simp [EndsChain, Token.startsOperand]

@[simp]
theorem endsChain_or (rest : List Token) : EndsChain (.or :: rest) := by
  simp [EndsChain, Token.startsOperand]

variable {category : Category} {nesting : Nat} {tokens rest : List Token} {e : Expression}
  {comparison : Comparison}

/-- A comparison is a single token. -/
theorem Compares.eq_tail {behind : List Token} (h : Compares tokens comparison behind) :
    tokens.tail = behind := by
  cases h with
  | symbol => rfl
  | word => rfl

/-- The rules recognise the comparisons of the grammar. -/
theorem comparison?_eq_some_iff :
    Rule.comparison? tokens = some comparison ↔ Compares tokens comparison tokens.tail := by
  constructor
  · intro h
    unfold Rule.comparison? at h
    split at h
    · cases h
      exact .symbol _ _
    · rename_i text next behind
      split at h
      · rename_i isValue
        exact .word h isValue
      · cases h
    · cases h
  · intro h
    cases h with
    | symbol => rfl
    | word named isValue =>
      rename_i value behind
      simpa [Rule.comparison?, isValue] using named

/-- No comparison is read exactly where the grammar has none. -/
theorem comparison?_eq_none_iff :
    Rule.comparison? tokens = none ↔ ∀ comparison behind, ¬ Compares tokens comparison behind := by
  constructor
  · intro h comparison behind compares
    rw [← compares.eq_tail] at compares
    rw [comparison?_eq_some_iff.2 compares] at h
    cases h
  · intro free
    cases h : Rule.comparison? tokens with
    | none => rfl
    | some comparison => exact absurd (comparison?_eq_some_iff.1 h) (free _ _)

/-- A phrase begins with a token that can start an operand. -/
theorem Derives.starts (h : Derives category nesting tokens e rest) :
    ∃ token tail, tokens = token :: tail ∧ token.startsOperand = true := by
  induction h with
  | term => exact ⟨_, _, rfl, rfl⟩
  | phrase => exact ⟨_, _, rfl, rfl⟩
  | field => exact ⟨_, _, rfl, rfl⟩
  | group => exact ⟨_, _, rfl, rfl⟩
  | not => exact ⟨_, _, rfl, rfl⟩
  | atom _ ih => exact ih
  | operand _ ih => exact ih
  | and _ _ ih _ => exact ih
  | juxtaposed _ _ ih _ => exact ih
  | conjunction _ ih => exact ih
  | or _ _ ih _ => exact ih

/-- A phrase has at least one token. -/
theorem Derives.length_lt (h : Derives category nesting tokens e rest) :
    rest.length < tokens.length := by
  induction h with
  | term => simp
  | phrase => simp
  | field _ compares _ =>
    have := congrArg List.length compares.eq_tail
    simp only [List.length_tail, List.length_cons] at this ⊢
    omega
  | group _ ih =>
    simp only [List.length_cons] at ih ⊢
    omega
  | not _ ih =>
    simp only [List.length_cons]
    omega
  | atom _ ih => exact ih
  | operand _ ih => exact ih
  | conjunction _ ih => exact ih
  | and _ _ before last =>
    simp only [List.length_cons] at before
    omega
  | juxtaposed _ _ before last => omega
  | or _ _ before last =>
    simp only [List.length_cons] at before
    omega

end RecordSearch.Grammar
