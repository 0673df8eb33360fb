import RecordSearch.Proofs.Blame
import RecordSearch.Proofs.Spacing
import RecordSearch.Query.Basic

/-!
# Texts of plain words

As the grammar is written down, any list of words is a sentence: each of them can be a term.  The
rules decide sooner.  A word is taken for the name of a field as soon as `contains` or `matches` and
a further word follow it, and they do not go back if it is no name.  So the words fall into clauses
from left to right, and the text is read as the conjunction of these or refused for a name.
-/

namespace RecordSearch

open Grammar
open Unicode (isBlank)

namespace Grammar

/-- A symbol or a word between the name of a field and a value. -/
inductive IsOperator : Token → Prop
  | symbol (comparison : Comparison) : IsOperator (.compare comparison)
  | word {text : String} {comparison : Comparison}
    (named : Comparison.ofWord? text = some comparison) : IsOperator (.word text)

/-- The tokens are a phrase of the grammar when nothing looks ahead. -/
inductive Sentence : Category → List Token → Prop
  | term {token : Token} (isValue : token.isValue) : Sentence .atom [token]
  | field {name : String} {operator value : Token} (isName : Field.isName name)
    (isOperator : IsOperator operator) (isValue : value.isValue) :
    Sentence .atom [.word name, operator, value]
  | group {tokens : List Token} (inner : Sentence .disjunction tokens) :
    Sentence .atom (.leftParen :: (tokens ++ [.rightParen]))
  | atom {tokens : List Token} (atom : Sentence .atom tokens) : Sentence .operand tokens
  | not {tokens : List Token} (inner : Sentence .operand tokens) :
    Sentence .operand (.not :: tokens)
  | operand {tokens : List Token} (operand : Sentence .operand tokens) :
    Sentence .conjunction tokens
  | and {first second : List Token} (before : Sentence .conjunction first)
    (last : Sentence .operand second) : Sentence .conjunction (first ++ .and :: second)
  | juxtaposed {first second : List Token} (before : Sentence .conjunction first)
    (last : Sentence .operand second) : Sentence .conjunction (first ++ second)
  | conjunction {tokens : List Token} (conjunction : Sentence .conjunction tokens) :
    Sentence .disjunction tokens
  | or {first second : List Token} (before : Sentence .disjunction first)
    (last : Sentence .conjunction second) : Sentence .disjunction (first ++ .or :: second)

/-- What the rules read is a sentence. -/
theorem Derives.sentence {category : Category} {nesting : Nat} {tokens rest : List Token}
    {e : Expression} (h : Derives category nesting tokens e rest) :
    ∃ consumed, tokens = consumed ++ rest ∧ Sentence category consumed := by
  induction h with
  | @term text _ _ => exact ⟨[.word text], rfl, .term rfl⟩
  | @phrase text _ _ => exact ⟨[.phrase text], rfl, .term rfl⟩
  | @field _ _ _ _ _ value isName compares holds =>
    have isValue : value.isValue := by
      rcases holds with rfl | rfl
      · exact rfl
      · exact rfl
    cases compares with
    | symbol => exact ⟨[_, _, _], rfl, .field isName (.symbol _) isValue⟩
    | word named _ => exact ⟨[_, _, _], rfl, .field isName (.word named) isValue⟩
  | group _ ih =>
    obtain ⟨consumed, rfl, inner⟩ := ih
    exact ⟨.leftParen :: (consumed ++ [.rightParen]), by simp, .group inner⟩
  | not _ ih =>
    obtain ⟨consumed, rfl, inner⟩ := ih
    exact ⟨.not :: consumed, rfl, .not inner⟩
  | atom _ ih => exact ih.imp fun _ read ↦ ⟨read.1, .atom read.2⟩
  | operand _ ih => exact ih.imp fun _ read ↦ ⟨read.1, .operand read.2⟩
  | conjunction _ ih => exact ih.imp fun _ read ↦ ⟨read.1, .conjunction read.2⟩
  | and _ _ ihBefore ihLast =>
    obtain ⟨first, rfl, before⟩ := ihBefore
    obtain ⟨second, rfl, last⟩ := ihLast
    exact ⟨first ++ .and :: second, by simp, .and before last⟩
  | juxtaposed _ _ ihBefore ihLast =>
    obtain ⟨first, rfl, before⟩ := ihBefore
    obtain ⟨second, rfl, last⟩ := ihLast
    exact ⟨first ++ second, by simp, .juxtaposed before last⟩
  | or _ _ ihBefore ihLast =>
    obtain ⟨first, rfl, before⟩ := ihBefore
    obtain ⟨second, rfl, last⟩ := ihLast
    exact ⟨first ++ .or :: second, by simp, .or before last⟩

/-- Words and phrases in a row are a sentence, whatever they are. -/
theorem sentence_values {first : Token} {others : List Token} (isValue : first.isValue)
    (values : ∀ token ∈ others, token.isValue) : Sentence .disjunction (first :: others) := by
  have extend {before : List Token} (sentence : Sentence .conjunction before) :
      Sentence .conjunction (before ++ others) := by
    induction others generalizing before with
    | nil => rwa [List.append_nil]
    | cons token others ih =>
      obtain ⟨here, there⟩ := List.forall_mem_cons.1 values
      rw [List.append_cons]
      exact ih there (.juxtaposed sentence (.atom (.term here)))
  exact .conjunction (extend (.operand (.atom (.term isValue))))

end Grammar

/-- What some plain words are taken for. -/
inductive Clause
  | term (word : String)
  | field (name : String) (comparison : Comparison) (value : String)
deriving Repr, DecidableEq

namespace Clause

/-- The clauses of some words.  The first three are a field term if the one in the middle names a
comparison; else the first is a term. -/
def ofWords : List String → List Clause
  | [] => []
  | [word] => [term word]
  | [first, last] => [term first, term last]
  | name :: operator :: value :: rest =>
    match Comparison.ofWord? operator with
    | some comparison => field name comparison value :: ofWords rest
    | none => term name :: ofWords (operator :: value :: rest)

def name? : Clause → Option String
  | term _ => none
  | field name _ _ => some name

def IsNamed (clause : Clause) : Prop := ∀ name ∈ clause.name?, Field.isName name

instance (clause : Clause) : Decidable clause.IsNamed :=
  inferInstanceAs (Decidable (∀ name ∈ clause.name?, Field.isName name))

def expression? : Clause → Except Failure Expression
  | term word => .ok (.term word)
  | field name comparison value =>
    if Field.isName name then .ok (.field (Field.ofName name) comparison value)
    else .error (.invalidFieldName name)

def extend (left : Expression) : List Clause → Except Failure Expression
  | [] => .ok left
  | clause :: clauses => do
    let right ← clause.expression?
    extend (.and left right) clauses

def join : List Clause → Except Failure Expression
  | [] => .error (.unexpectedEnd .searchTerm)
  | first :: others => do
    let left ← first.expression?
    extend left others

/-- There is a result and all clauses are named, or there is none because some clause is not. -/
def Decides (clauses : List Clause) (result : Except Failure Expression) : Prop :=
  ((∀ clause ∈ clauses, clause.IsNamed) ∧ ∃ e, result = .ok e) ∨
    ∃ clause ∈ clauses, ∃ name ∈ clause.name?, Field.isName name = false ∧
      result = .error (.invalidFieldName name)

variable {clause : Clause} {clauses : List Clause}

/-- A clause makes an expression exactly when its name, if it has one, is the name of a field. -/
theorem expression?_decides (clause : Clause) :
    (clause.IsNamed ∧ ∃ e, clause.expression? = .ok e) ∨
      ∃ name ∈ clause.name?, Field.isName name = false ∧
        clause.expression? = .error (.invalidFieldName name) := by
  cases clause with
  | term word => exact .inl ⟨nofun, .term word, rfl⟩
  | field name comparison value =>
    cases isName : Field.isName name with
    | true =>
      refine .inl ⟨?_, .field (Field.ofName name) comparison value, if_pos isName⟩
      rintro _ ⟨⟩
      exact isName
    | false => exact .inr ⟨name, rfl, isName, if_neg (Bool.eq_false_iff.1 isName)⟩

/-- One more clause before the others. -/
theorem Decides.cons {f : Expression → Except Failure Expression}
    (h : ∀ e, Decides clauses (f e)) (clause : Clause) :
    Decides (clause :: clauses) (clause.expression? >>= f) := by
  rcases clause.expression?_decides with ⟨named, e, read⟩ | ⟨name, isBound, notName, refused⟩
  · rw [read]
    rcases h e with ⟨others, result⟩ | ⟨other, member, unnamed⟩
    · exact .inl ⟨List.forall_mem_cons.2 ⟨named, others⟩, result⟩
    · exact .inr ⟨other, List.mem_cons_of_mem _ member, unnamed⟩
  · rw [refused]
    exact .inr ⟨clause, List.mem_cons_self, name, isBound, notName, rfl⟩

theorem extend_decides (left : Expression) (clauses : List Clause) :
    Decides clauses (extend left clauses) := by
  induction clauses generalizing left with
  | nil => exact .inl ⟨nofun, left, rfl⟩
  | cons clause clauses ih => exact .cons (fun e ↦ ih (.and left e)) clause

theorem join_decides (nonempty : clauses ≠ []) : Decides clauses (join clauses) := by
  cases clauses with
  | nil => exact absurd rfl nonempty
  | cons first others => exact .cons (fun e ↦ extend_decides e others) first

theorem ofWords_ne_nil {words : List String} (h : words ≠ []) : ofWords words ≠ [] := by
  unfold ofWords
  split
  · exact absurd rfl h
  · exact List.cons_ne_nil _ _
  · exact List.cons_ne_nil _ _
  · split
    · exact List.cons_ne_nil _ _
    · exact List.cons_ne_nil _ _

/-! ## Reading words -/

section

variable {depth : Nat} {word : String} {words behind : List String} {cursor : Cursor}

/-- A word is a term, or the name of a field if a comparison follows. -/
theorem operand_word (depth : Nat) (word : String) (tokens : List Token) (index : Nat) {terms : Nat}
    (counts : terms < maxTerms) :
    Rule.operand depth ⟨.word word :: tokens, index, terms⟩ =
      match Rule.comparison? tokens with
      | some comparison => Rule.fieldValue word comparison ⟨tokens.tail, index + 2, terms + 1⟩
      | none => .ok (.term word, ⟨tokens, index + 1, terms + 1⟩) := by
  have counted : Cursor.countTerm ⟨tokens, index + 1, terms⟩ =
      .ok ⟨tokens, index + 1, terms + 1⟩ := if_pos counts
  calc
    _ = Rule.afterWord word ⟨tokens, index + 1, terms⟩ := Rule.operand_eq_atom (by simp)
    _ = _ := by
      rw [Rule.afterWord, counted]
      rfl

/-- The rule for operands reads the first clause of some words. -/
theorem operand_words (depth : Nat) (rest_eq : cursor.rest = (word :: behind).map .word)
    (counts : cursor.terms < maxTerms) : ∃ clause words stop,
      ofWords (word :: behind) = clause :: ofWords words ∧ words.length ≤ behind.length ∧
        stop.rest = words.map .word ∧ stop.terms = cursor.terms + 1 ∧
          Rule.operand depth cursor = clause.expression?.map (·, stop) := by
  obtain ⟨_, index, terms⟩ := cursor
  cases rest_eq
  have read := operand_word depth word (behind.map .word) index counts
  match behind with
  | [] => exact ⟨term word, [], ⟨[], index + 1, terms + 1⟩, rfl, Nat.le_refl _, rfl, rfl, read⟩
  | [last] =>
    exact ⟨term word, [last], ⟨[.word last], index + 1, terms + 1⟩, rfl, Nat.le_refl _, rfl, rfl,
      read⟩
  | operator :: value :: rest =>
    cases named : Comparison.ofWord? operator with
    | none =>
      have found : Rule.comparison? ((operator :: value :: rest).map .word) = none := named
      rw [found] at read
      refine ⟨term word, operator :: value :: rest, ⟨_, index + 1, terms + 1⟩, ?_, Nat.le_refl _,
        rfl, rfl, read⟩
      simp only [ofWords, named]
    | some comparison =>
      have found : Rule.comparison? ((operator :: value :: rest).map .word) = some comparison :=
        named
      rw [found] at read
      refine ⟨field word comparison value, rest, ⟨rest.map .word, index + 3, terms + 1⟩, ?_, ?_,
        rfl, rfl, ?_⟩
      · simp only [ofWords, named]
      · simp only [List.length_cons]
        omega
      · rw [read, expression?]
        simp only [Rule.fieldValue]
        split
        · rfl
        · rfl

/-- The rule for chains reads the clauses of all words. -/
theorem moreOperands_words (depth : Nat) (left : Expression)
    (rest_eq : cursor.rest = words.map .word) (few : cursor.terms + words.length ≤ maxTerms) :
    ∃ stop : Cursor, stop.rest = [] ∧ Rule.moreOperands (Rule.operand depth) left cursor =
      (extend left (ofWords words)).map (·, stop) := by
  -- The induction is on the number of words, because a clause can have three of them.
  induction length_eq : words.length using Nat.strongRecOn generalizing words cursor left with
  | ind length ih =>
    cases words with
    | nil =>
      refine ⟨cursor, rest_eq, Rule.moreOperands_eq_ok ?_⟩
      rw [rest_eq]
      exact Grammar.endsChain_nil
    | cons word behind =>
      rw [List.length_cons] at few length_eq
      obtain ⟨clause, words, next, split_eq, shorter, next_eq, terms_eq, read⟩ :=
        operand_words depth rest_eq (by omega)
      have room : next.terms + words.length ≤ maxTerms := by omega
      rw [Rule.moreOperands_eq_bind rest_eq (.inr rfl), if_neg (by simp), split_eq, extend, read]
      cases clause.expression? with
      | error failure => exact ⟨⟨[], 0, 0⟩, rfl, rfl⟩
      | ok right => exact ih words.length (by omega) (.and left right) next_eq room rfl

/-- Words are read as one conjunction, up to the last of them. -/
theorem conjunction_words (depth : Nat) (cursor : Cursor) (nonempty : words ≠ [])
    (rest_eq : cursor.rest = words.map .word) (few : cursor.terms + words.length ≤ maxTerms) :
    ∃ stop : Cursor, stop.rest = [] ∧ Rule.conjunction (Rule.operand depth) cursor =
      (join (ofWords words)).map (·, stop) := by
  cases words with
  | nil => exact absurd rfl nonempty
  | cons word behind =>
    rw [List.length_cons] at few
    obtain ⟨clause, words, next, split_eq, shorter, next_eq, terms_eq, read⟩ :=
      operand_words depth rest_eq (by omega)
    have room : next.terms + words.length ≤ maxTerms := by omega
    rw [Rule.conjunction, split_eq, join, read]
    cases clause.expression? with
    | error failure => exact ⟨⟨[], 0, 0⟩, rfl, rfl⟩
    | ok left => exact moreOperands_words depth left next_eq room

/-- A query that is a single conjunction. -/
theorem ofTokens_of_conjunction {tokens : List Token} {stop : Cursor}
    {result : Except Failure Expression} (stop_eq : stop.rest = [])
    (h : Rule.conjunction (Rule.operand maxDepth) ⟨tokens, 0, 0⟩ = result.map (·, stop)) :
    Expression.ofTokens tokens = result := by
  rw [Expression.ofTokens, Rule.disjunction, h]
  cases result with
  | error failure => rfl
  | ok e =>
    have last : Rule.moreConjunctions (Rule.operand maxDepth) e stop = .ok (e, stop) :=
      Rule.moreConjunctions_eq_ok (by simp [stop_eq])
    simp only [Except.map, bind, Except.bind, last, stop_eq]

/-- Words are read as the conjunction of their clauses. -/
theorem ofTokens_words (few : words.length ≤ maxTerms) :
    Expression.ofTokens (words.map .word) = join (ofWords words) := by
  by_cases nonempty : words = []
  · rw [nonempty]
    rfl
  · obtain ⟨stop, stop_eq, read⟩ :=
      conjunction_words maxDepth ⟨words.map .word, 0, 0⟩ nonempty rfl (by simpa)
    exact ofTokens_of_conjunction stop_eq read

end

end Clause

/-- Words with a space between each and the next. -/
theorem Token.spellsAll_words {words : List String} (h : ∀ word ∈ words, IsWord word) :
    SpellsAll (words.map .word) (List.intercalate [' '] (words.map String.toList)) := by
  have space : ∀ c ∈ [' '], isBlank c := List.forall_mem_singleton.2 (by decide)
  induction words with
  | nil => exact .nil
  | cons word words ih =>
    obtain ⟨here, there⟩ := List.forall_mem_cons.1 h
    cases words with
    | nil =>
      have last : SpellsAll [.word word] (word.toList ++ ([] ++ [])) :=
        .cons (.word here) nofun (by simp) .nil
      simpa using last
    | cons next words =>
      have first := SpellsAll.cons (.word here) space (fun _ _ _ ↦ List.cons_ne_nil _ _) (ih there)
      simpa [List.intercalate_cons_cons] using first

theorem Query.isGrammatical_iff (text : String) (options : SearchOptions) (delimiter : Char) :
    Query.isGrammatical ⟨text, options, delimiter⟩ = true ↔
      ∃ e, Expression.parse text = .ok e := by
  rw [Query.isGrammatical, Query.interpretation, Interpretation.ofText]
  cases Expression.parse text with
  | error failure => simp
  | ok e => simp

namespace Clause

variable {words : List String} {space text : List Char} {clauses : List Clause}
  {result : Except Failure Expression}

theorem Decides.exists_ok_iff (h : Decides clauses result) :
    (∃ e, result = .ok e) ↔ ∀ clause ∈ clauses, clause.IsNamed := by
  rcases h with ⟨named, read⟩ | ⟨clause, member, name, isBound, notName, refused⟩
  · exact iff_of_true read named
  · refine iff_of_false ?_ fun named ↦ ?_
    · rintro ⟨e, read⟩
      cases read.symm.trans refused
    · rw [named clause member name isBound] at notName
      cases notName

/-- Words in any spelling are read as their clauses, joined. -/
theorem parse_words (few : words.length ≤ maxTerms) (blank : ∀ c ∈ space, isBlank c)
    (spells : Token.SpellsAll (words.map .word) text) :
    Expression.parse (String.ofList (space ++ text)) = join (ofWords words) := by
  have cut : Token.tokenize (String.ofList (space ++ text)) = .ok (words.map .word) := by
    apply Token.CutsInto.tokenize
    rw [String.toList_ofList]
    exact (Token.cutsInto_space blank (text ++ [])).append spells.cutsInto
  rw [Expression.parse, cut]
  exact ofTokens_words few

/-- Plain words are a sentence of the grammar, but they are read only if every word before
`contains` or `matches` and a value can name a field.  Otherwise the first that cannot is refused,
and the query is searched for as a single term, whatever its options. -/
theorem parse_plainWords (nonempty : words ≠ []) (few : words.length ≤ maxTerms)
    (blank : ∀ c ∈ space, isBlank c) (spells : Token.SpellsAll (words.map .word) text) :
    let written := String.ofList (space ++ text)
    Sentence .disjunction (words.map .word) ∧
      Expression.parse written = join (ofWords words) ∧
      ((∃ e, Expression.parse written = .ok e) ↔ ∀ clause ∈ ofWords words, clause.IsNamed) ∧
      (∀ (options : SearchOptions) (delimiter : Char),
        Query.isGrammatical ⟨written, options, delimiter⟩ = true ↔
          ∀ clause ∈ ofWords words, clause.IsNamed) ∧
      ((∃ clause ∈ ofWords words, ¬ clause.IsNamed) →
        ∃ clause ∈ ofWords words, ∃ name ∈ clause.name?, Field.isName name = false ∧
          Expression.parse written = .error (.invalidFieldName name)) := by
  intro written
  have parse_eq : Expression.parse written = join (ofWords words) := parse_words few blank spells
  have decides : Decides (ofWords words) (Expression.parse written) := by
    rw [parse_eq]
    exact join_decides (ofWords_ne_nil nonempty)
  refine ⟨?_, parse_eq, decides.exists_ok_iff, fun options delimiter ↦ ?_, ?_⟩
  · obtain ⟨word, behind, rfl⟩ := List.exists_cons_of_ne_nil nonempty
    refine sentence_values rfl fun token member ↦ ?_
    obtain ⟨text, _, rfl⟩ := List.mem_map.1 member
    rfl
  · rw [Query.isGrammatical_iff, decides.exists_ok_iff]
  · rintro ⟨clause, member, unnamed⟩
    rcases decides with ⟨named, _⟩ | refused
    · exact absurd (named clause member) unnamed
    · exact refused

/-- Operators can be names and values, and words that are no names can be terms. -/
theorem parse_plainWords_contains :
    (∃ e, Expression.parse " contains matches Matches matches 1st" = .ok e) ∧
      ∀ (options : SearchOptions) (delimiter : Char),
        Query.isGrammatical ⟨" contains matches Matches matches 1st", options, delimiter⟩ =
          true := by
  let words := ["contains", "matches", "Matches", "matches", "1st"]
  have named : ∀ clause ∈ ofWords words, clause.IsNamed := by decide +kernel
  have space : ∀ c ∈ [' '], isBlank c := List.forall_mem_singleton.2 (by decide)
  have spells : Token.SpellsAll (words.map .word) _ := Token.spellsAll_words (by decide +kernel)
  have written_eq : String.ofList ([' '] ++ List.intercalate [' '] (words.map String.toList)) =
      " contains matches Matches matches 1st" := by
    decide +kernel
  have read := parse_plainWords (List.cons_ne_nil _ _) (by decide) space spells
  rw [written_eq] at read
  obtain ⟨_, _, accepted, grammatical, _⟩ := read
  exact ⟨accepted.2 named, fun options delimiter ↦ (grammatical options delimiter).2 named⟩

/-- The names have to be looked at: `1st` is refused as one, although it could be a term. -/
theorem not_parse_plainWords : ¬ ∀ (words : List String) (text : List Char), words ≠ [] →
    words.length ≤ maxTerms → Token.SpellsAll (words.map .word) text →
      ∃ e, Expression.parse (String.ofList text) = .ok e := by
  intro reads
  let words := ["1st", "contains", "x"]
  have spells : Token.SpellsAll (words.map .word) _ := Token.spellsAll_words (by decide +kernel)
  have refused : Expression.parse (String.ofList
      (List.intercalate [' '] (words.map String.toList))) = .error (.invalidFieldName "1st") := by
    decide +kernel
  obtain ⟨e, read⟩ := reads words _ (List.cons_ne_nil _ _) (by decide) spells
  cases read.symm.trans refused

end Clause

end RecordSearch
