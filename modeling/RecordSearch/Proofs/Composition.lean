import RecordSearch.Proofs.Lookahead
import RecordSearch.Proofs.Surroundings

/-!
# Composed queries

Two query texts in parentheses are joined by `AND`, by `OR` or by a space, and one is put under
`NOT`.  No token runs across a parenthesis and no phrase binds the one behind it, so the composed
text writes the composed expression.  It can be refused only because it breaks a limit.  Where it is
not, its query finds what the queries of the parts find, composed in the same way.
-/

namespace RecordSearch.Token

variable {tokens : List Token}

/-- A text in parentheses has the tokens of the text between two parentheses. -/
theorem cutsInto_group {text : String} (h : tokenize text = .ok tokens) (rest : List Char) :
    CutsInto ('(' :: (text.toList ++ [')'])) (leftParen :: (tokens ++ [rightParen])) rest := by
  have inside := (stopsAll_rightParen rest).cutsInto_of_scan (scan_of_tokenize h)
  have closed : CutsInto (text.toList ++ [')']) (tokens ++ [rightParen]) rest :=
    CutsInto.append inside (cutsInto_rightParen rest)
  exact (cutsInto_leftParen _).append closed

end RecordSearch.Token

namespace RecordSearch

open Grammar
open Token (CutsInto)

/-- A query in parentheses is a phrase, whatever stands behind it. -/
theorem Grammar.Derives.in_group {nesting : Nat} {tokens : List Token} {e : Expression}
    (h : Derives .disjunction nesting tokens e []) (rest : List Token) :
    Derives .atom (nesting + 1) (.leftParen :: (tokens ++ .rightParen :: rest)) e rest := by
  obtain ⟨consumed, tokens_eq, derives⟩ := h.replace
  rw [List.append_nil] at tokens_eq
  subst tokens_eq
  exact .group (derives _ ((detached_rightParen rest).admits []))

inductive Connective
  | and
  | juxtaposed
  | or
deriving Repr, DecidableEq

namespace Connective

def written : Connective → String
  | and => " AND "
  | juxtaposed => " "
  | or => " OR "

def tokens : Connective → List Token
  | and => [.and]
  | juxtaposed => []
  | or => [.or]

def compose (connective : Connective) (first second : String) : String :=
  "(" ++ first ++ ")" ++ connective.written ++ "(" ++ second ++ ")"

def join : Connective → Expression → Expression → Expression
  | and => .and
  | juxtaposed => .and
  | or => .or

/-- What must be true of a record for a query of two joined texts to find it. -/
def Joins : Connective → Prop → Prop → Prop
  | and => And
  | juxtaposed => And
  | or => Or

theorem cutsInto_written (connective : Connective) (rest : List Char) :
    CutsInto connective.written.toList connective.tokens rest := by
  have space := Token.cutsInto_blank (c := ' ') (by decide)
  cases connective with
  | and => exact (space _).append (Expression.cutsInto_keyword "AND" (by decide +kernel) rest)
  | juxtaposed => exact space rest
  | or => exact (space _).append (Expression.cutsInto_keyword "OR" (by decide +kernel) rest)

/-- The composed text has the tokens of both texts, each in parentheses, around the connective. -/
theorem tokenize_compose (connective : Connective) {first second : String}
    {before behind : List Token} (h : Token.tokenize first = .ok before)
    (h' : Token.tokenize second = .ok behind) :
    Token.tokenize (connective.compose first second) =
      .ok (.leftParen :: (before ++ .rightParen ::
        (connective.tokens ++ .leftParen :: (behind ++ [.rightParen])))) := by
  have last := Token.cutsInto_group h' []
  have middle := (connective.cutsInto_written _).append last
  have all := (Token.cutsInto_group h _).append middle
  apply CutsInto.tokenize
  simpa [compose] using all

/-- Two groups with a connective between them are a phrase. -/
theorem derives_join (connective : Connective) {n m : Nat} {before behind : List Token}
    {left right : Expression} (h : Derives .disjunction n before left [])
    (h' : Derives .disjunction m behind right []) :
    Derives .disjunction (max (n + 1) (m + 1))
      (.leftParen :: (before ++ .rightParen ::
        (connective.tokens ++ .leftParen :: (behind ++ [.rightParen]))))
      (connective.join left right) [] := by
  have first (rest : List Token) := Derives.atom (h.in_group rest)
  have second := Derives.atom (h'.in_group [])
  cases connective with
  | and => exact .conjunction (.and (.operand (first _)) second)
  | juxtaposed => exact .conjunction (.juxtaposed (.operand (first _)) second)
  | or => exact .or (.conjunction (.operand (first _))) (.operand second)

end Connective

def negate (text : String) : String := "NOT (" ++ text ++ ")"

theorem tokenize_negate {text : String} {tokens : List Token}
    (h : Token.tokenize text = .ok tokens) :
    Token.tokenize (negate text) = .ok (.not :: .leftParen :: (tokens ++ [.rightParen])) := by
  have group := Token.cutsInto_group h []
  have all := (Expression.cutsInto_keyword "NOT" (by decide +kernel) _).append group
  rw [show Token.ofWord "NOT" = .not by decide] at all
  apply CutsInto.tokenize
  simpa [negate] using all

namespace Expression

variable {text : String} {tokens : List Token} {e : Expression}

/-- The text writes the expression, and is read as that expression unless it breaks a limit. -/
def ReadsUpToLimits (text : String) (e : Expression) : Prop :=
  ∃ tokens nesting, Token.tokenize text = .ok tokens ∧ Derives .disjunction nesting tokens e [] ∧
    Rule.Verdict maxDepth nesting e.leaves (.ok e) (parse text)

theorem parse_eq_ofTokens (h : Token.tokenize text = .ok tokens) :
    parse text = ofTokens tokens := by
  rw [parse, h]
  rfl

/-- A text whose tokens derive an expression is read as it, up to the limits. -/
theorem readsUpToLimits {nesting : Nat} (h : Token.tokenize text = .ok tokens)
    (derives : Derives .disjunction nesting tokens e []) : ReadsUpToLimits text e := by
  refine ⟨tokens, nesting, h, derives, ?_⟩
  rw [parse_eq_ofTokens h]
  exact ofTokens_verdict derives

theorem exists_derives_of_parse (h : parse text = .ok e) : ∃ tokens nesting,
    Token.tokenize text = .ok tokens ∧ Derives .disjunction nesting tokens e [] := by
  obtain ⟨tokens, cut, read⟩ := Rule.bind_eq_ok h
  obtain ⟨⟨nesting, _, derives⟩, _⟩ := writes_of_ofTokens read
  exact ⟨tokens, nesting, cut, derives⟩

end Expression

section Finding

variable {α : Type} {query : Query} {view : α → Record} {items : List α}

open Classical in
/-- The query finds the chosen ones of some items, in their order, and all its answers agree. -/
structure Query.Finds (query : Query) (view : α → Record) (items : List α) (chosen : α → Prop) :
    Prop where
  filter_eq : query.filter view items = items.filter fun item ↦ decide (chosen item)
  count_eq : query.count view items = (query.filter view items).length
  any_iff : query.any view items = true ↔ query.filter view items ≠ []
  find?_eq : query.find? view items = (query.filter view items).head?

open Classical in
theorem Query.finds {chosen : α → Prop}
    (h : ∀ item ∈ items, query.isMatch (view item) = true ↔ chosen item) :
    query.Finds view items chosen where
  filter_eq := by
    apply List.filter_congr
    intro item member
    rw [Bool.eq_iff_iff, h item member, decide_eq_true_iff]
  count_eq := List.countP_eq_length_filter
  any_iff := by
    rw [Query.any, List.any_eq_true, ← List.length_pos_iff, List.length_pos_iff_exists_mem]
    simp only [Query.filter, List.mem_filter]
  find?_eq := by
    rw [Query.find?, Query.filter, List.head?_filter]

theorem Query.isMatch_of_parse {text : String} {e : Expression} (h : Expression.parse text = .ok e)
    (options : SearchOptions) (delimiter : Char) (record : Record) :
    Query.isMatch ⟨text, options, delimiter⟩ record =
      (Condition.ofExpression options e).holds record delimiter := by
  rw [Query.isMatch_eq_holds, Query.expressionOf, h]

theorem Query.mem_filter {item : α} (member : item ∈ items) :
    item ∈ query.filter view items ↔ query.isMatch (view item) = true := by
  rw [Query.filter, List.mem_filter, and_iff_right member]

variable {first second : String} {left right : Expression}

/-- A composed query finds what the connective makes of the two results. -/
theorem Connective.finds_compose (connective : Connective) (h : Expression.parse first = .ok left)
    (h' : Expression.parse second = .ok right)
    (composed : Expression.parse (connective.compose first second) =
      .ok (connective.join left right)) (options : SearchOptions) (delimiter : Char) :
    Query.Finds ⟨connective.compose first second, options, delimiter⟩ view items fun item ↦
      connective.Joins (item ∈ Query.filter ⟨first, options, delimiter⟩ view items)
        (item ∈ Query.filter ⟨second, options, delimiter⟩ view items) := by
  apply Query.finds
  intro item member
  rw [Query.mem_filter member, Query.mem_filter member, Query.isMatch_of_parse composed,
    Query.isMatch_of_parse h, Query.isMatch_of_parse h']
  cases connective with
  | and => exact Bool.and_eq_true_iff
  | juxtaposed => exact Bool.and_eq_true_iff
  | or => exact Bool.or_eq_true_iff

/-- A negated query finds the items that the query leaves out. -/
theorem finds_negate (h : Expression.parse first = .ok left)
    (composed : Expression.parse (negate first) = .ok (.not left)) (options : SearchOptions)
    (delimiter : Char) :
    Query.Finds ⟨negate first, options, delimiter⟩ view items fun item ↦
      item ∉ Query.filter ⟨first, options, delimiter⟩ view items := by
  apply Query.finds
  intro item member
  rw [Query.mem_filter member, Query.isMatch_of_parse composed, Query.isMatch_of_parse h,
    Condition.ofExpression, Condition.holds, Bool.not_eq_true', Bool.not_eq_true]

end Finding

/-- Two queries that are read can be joined, and each can be negated: the composed text is read as
the composed expression unless it breaks a limit.  If it is read, its query finds in any list the
items that the queries of the parts find both, find at least one of, or do not find. -/
theorem parse_composed {first second : String} {left right : Expression}
    (h : Expression.parse first = .ok left) (h' : Expression.parse second = .ok right) :
    (∀ connective : Connective,
      Expression.ReadsUpToLimits (connective.compose first second) (connective.join left right) ∧
        (Expression.parse (connective.compose first second) = .ok (connective.join left right) →
          ∀ (options : SearchOptions) (delimiter : Char) {α : Type} (view : α → Record)
            (items : List α),
            Query.Finds ⟨connective.compose first second, options, delimiter⟩ view items
              fun item ↦ connective.Joins
                (item ∈ Query.filter ⟨first, options, delimiter⟩ view items)
                (item ∈ Query.filter ⟨second, options, delimiter⟩ view items))) ∧
    Expression.ReadsUpToLimits (negate first) (.not left) ∧
      (Expression.parse (negate first) = .ok (.not left) →
        ∀ (options : SearchOptions) (delimiter : Char) {α : Type} (view : α → Record)
          (items : List α),
          Query.Finds ⟨negate first, options, delimiter⟩ view items fun item ↦
            item ∉ Query.filter ⟨first, options, delimiter⟩ view items) := by
  obtain ⟨before, n, cut, derives⟩ := Expression.exists_derives_of_parse h
  obtain ⟨behind, m, cut', derives'⟩ := Expression.exists_derives_of_parse h'
  refine ⟨fun connective ↦ ⟨?_, ?_⟩, ?_, ?_⟩
  · exact Expression.readsUpToLimits (connective.tokenize_compose cut cut')
      (connective.derives_join derives derives')
  · exact fun composed options delimiter _ _ _ ↦
      connective.finds_compose h h' composed options delimiter
  · have negated := Derives.not (.atom (derives.in_group []))
    exact Expression.readsUpToLimits (tokenize_negate cut) (.conjunction (.operand negated))
  · exact fun composed options delimiter _ _ _ ↦ finds_negate h composed options delimiter

/-- A comparison word at the end of the first text meets the parenthesis, and a bang at the end of
the second. -/
theorem parse_composed_contains :
    Expression.parse "x OR contains" = .ok (.or (.term "x") (.term "contains")) ∧
      Expression.parse "\")\" y!" = .ok (.and (.term ")") (.term "y!")) ∧
      Expression.parse "(x OR contains) (\")\" y!)" =
        .ok (.and (.or (.term "x") (.term "contains")) (.and (.term ")") (.term "y!"))) ∧
      ∀ (options : SearchOptions) (delimiter : Char) (records : List Record),
        Query.Finds ⟨"(x OR contains) (\")\" y!)", options, delimiter⟩ id records fun record ↦
          record ∈ Query.filter ⟨"x OR contains", options, delimiter⟩ id records ∧
            record ∈ Query.filter ⟨"\")\" y!", options, delimiter⟩ id records := by
  have first : Expression.parse "x OR contains" = .ok (.or (.term "x") (.term "contains")) := by
    decide +kernel
  have second : Expression.parse "\")\" y!" = .ok (.and (.term ")") (.term "y!")) := by
    decide +kernel
  have composed : Expression.parse (Connective.juxtaposed.compose "x OR contains" "\")\" y!") =
      .ok (.and (.or (.term "x") (.term "contains")) (.and (.term ")") (.term "y!"))) := by
    decide +kernel
  have finds := ((parse_composed first second).1 .juxtaposed).2 composed
  exact ⟨first, second, composed, fun options delimiter records ↦
    finds options delimiter id records⟩

end RecordSearch
