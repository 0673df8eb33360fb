import RecordSearch.Highlight.Words
import RecordSearch.Proofs.Recognition
import RecordSearch.Proofs.Spacing

/-!
# Texts of words and phrases

A text of words and phrases with white space between them is read in two ways that have nothing in
common: by the grammar, as a conjunction of terms, and by the splitter that finds the words to
highlight.  Both find the same words in it, provided that no word is one that the grammar or the
splitter gives a meaning to.
-/

namespace RecordSearch

open Grammar
open Unicode (isBlank)

/-- A unit of a text that is made of words and phrases alone. -/
inductive Item
  | word (text : String)
  | phrase (content : String)
deriving Repr, DecidableEq

/-- A word in which no character and whose letters as a whole have no meaning. -/
structure IsBare (word : String) : Prop extends Token.IsWord word where
  noBackslash : '\\' ∉ word.toList
  notOperator : ∀ operator ∈ ["contains", "matches"], Text.sameLetters word operator = false

namespace Item

def text : Item → String
  | word text => text
  | phrase content => content

def token : Item → Token
  | word text => .word text
  | phrase content => .phrase content

def written : Item → List Char
  | word text => text.toList
  | phrase content => '"' :: (content.toList.flatMap Expression.escape ++ ['"'])

/-- A bare word or a phrase that is not empty. -/
def IsPlain : Item → Prop
  | word text => IsBare text
  | phrase content => content.toList ≠ []

/-- The ways of writing items one after the other, with white space between them and perhaps behind
the last one. -/
inductive Joined : List Item → List Char → Prop
  | last {item : Item} {space : List Char} (plain : item.IsPlain) (blank : ∀ c ∈ space, isBlank c) :
    Joined [item] (item.written ++ space)
  | cons {item : Item} {items : List Item} {space text : List Char} (plain : item.IsPlain)
    (blank : ∀ c ∈ space, isBlank c) (apart : space ≠ []) (there : Joined items text) :
    Joined (item :: items) (item.written ++ (space ++ text))

variable {item first : Item} {items rest : List Item} {space text : List Char}

theorem IsPlain.spells (h : item.IsPlain) : Token.Spells item.token item.written := by
  cases item with
  | word text => exact .word h.toIsWord
  | phrase content => exact .phrase content

theorem IsPlain.text_ne_nil (h : item.IsPlain) : item.text.toList ≠ [] := by
  cases item with
  | word text => exact h.nonempty
  | phrase content => exact h

theorem Joined.plain (h : Joined items text) : ∀ item ∈ items, item.IsPlain := by
  induction h with
  | last plain => exact List.forall_mem_singleton.2 plain
  | cons plain _ _ _ ih => exact List.forall_mem_cons.2 ⟨plain, ih⟩

/-! ## The grammar -/

def conjunction (first : Item) (rest : List Item) : Expression :=
  rest.foldl (fun e item ↦ .and e (.term item.text)) (.term first.text)

/-- Joined items spell their tokens. -/
theorem Joined.spellsAll (h : Joined items text) : Token.SpellsAll (items.map token) text := by
  induction h with
  | @last item space plain blank =>
    have all := Token.SpellsAll.cons plain.spells blank (by simp) .nil
    rwa [List.append_nil] at all
  | cons plain blank apart _ ih => exact .cons plain.spells blank (fun _ _ _ ↦ apart) ih

/-- A bare word is no comparison. -/
theorem ofWord?_eq_none {word : String} (h : IsBare word) : Comparison.ofWord? word = none := by
  have notContains := h.notOperator "contains" (by simp)
  have notMatches := h.notOperator "matches" (by simp)
  rw [Comparison.ofWord?, notContains, notMatches]
  rfl

/-- No item makes the one before it the name of a field. -/
theorem comparison?_eq_none (plain : ∀ item ∈ items, item.IsPlain) :
    Rule.comparison? (items.map token) = none := by
  cases items with
  | nil => rfl
  | cons item items =>
    cases item with
    | phrase content => rfl
    | word text =>
      have isBare : IsBare text := plain _ List.mem_cons_self
      cases items with
      | nil => rfl
      | cons next items =>
        simp only [List.map_cons, token, Rule.comparison?, ofWord?_eq_none isBare, ite_self]

theorem derives_item (plain : ∀ next ∈ items, next.IsPlain) :
    Derives .operand 0 (item.token :: items.map token) (.term item.text) (items.map token) := by
  have free := comparison?_eq_none_iff.1 (comparison?_eq_none plain)
  apply Derives.atom
  cases item with
  | word text => exact .term free
  | phrase content =>
    refine .phrase fun comparison behind tokens_eq ↦ free comparison behind ?_
    rw [tokens_eq]
    exact .symbol comparison behind

/-- The items behind a conjunction are its further operands. -/
theorem derives_foldl {tokens : List Token} {e : Expression} (plain : ∀ item ∈ items, item.IsPlain)
    (before : Derives .conjunction 0 tokens e (items.map token)) :
    Derives .conjunction 0 tokens (items.foldl (fun e item ↦ .and e (.term item.text)) e) [] := by
  induction items generalizing e with
  | nil => exact before
  | cons item items ih =>
    have behind := (List.forall_mem_cons.1 plain).2
    exact ih behind (.juxtaposed before (derives_item behind))

/-- Items side by side write the conjunction of their terms, which nests to the left. -/
theorem derives_conjunction (plain : ∀ item ∈ first :: rest, item.IsPlain) :
    Derives .disjunction 0 ((first :: rest).map token) (conjunction first rest) [] := by
  have behind := (List.forall_mem_cons.1 plain).2
  exact .conjunction (derives_foldl behind (.operand (derives_item behind)))

theorem values_conjunction (first : Item) (rest : List Item) :
    (conjunction first rest).values = (first :: rest).map Item.text := by
  have extend (e : Expression) :
      (rest.foldl (fun e item ↦ .and e (.term item.text)) e).values =
        e.values ++ rest.map Item.text := by
    induction rest generalizing e with
    | nil => exact (List.append_nil _).symm
    | cons item rest ih =>
      rw [List.foldl_cons, ih, Expression.values, Expression.values, List.append_assoc]
      rfl
  exact extend _

theorem leaves_conjunction (first : Item) (rest : List Item) :
    (conjunction first rest).leaves = (first :: rest).length := by
  have extend (e : Expression) :
      (rest.foldl (fun e item ↦ .and e (.term item.text)) e).leaves = e.leaves + rest.length := by
    induction rest generalizing e with
    | nil => rfl
    | cons item rest ih =>
      rw [List.foldl_cons, ih, Expression.leaves, Expression.leaves, List.length_cons]
      omega
  rw [conjunction, extend, Expression.leaves, List.length_cons, Nat.add_comm]

/-- Joined items are read as their conjunction, if there are not too many. -/
theorem Joined.parse_eq (h : Joined (first :: rest) text) (blank : ∀ c ∈ space, isBlank c)
    (few : (first :: rest).length ≤ maxTerms) :
    Expression.parse (String.ofList (space ++ text)) = .ok (conjunction first rest) := by
  have cut : Token.tokenize (String.ofList (space ++ text)) = .ok ((first :: rest).map token) := by
    apply Token.CutsInto.tokenize
    rw [String.toList_ofList]
    exact (Token.cutsInto_space blank (text ++ [])).append h.spellsAll.cutsInto
  have writes : Writes ((first :: rest).map token) (conjunction first rest) :=
    ⟨⟨0, Nat.zero_le _, derives_conjunction h.plain⟩, by rwa [leaves_conjunction]⟩
  rw [Expression.parse, cut]
  exact Expression.ofTokens_eq_ok_iff.2 writes

end Item

/-! ## The splitter -/

namespace Highlight

variable {c : Char} {word content space text : List Char} {quoted : Bool}

/-- Any character but a backslash and a quote ends the word or belongs to it. -/
theorem splitFrom_cons (noBackslash : c ≠ '\\') (noQuote : c ≠ '"') (rest : List Char) :
    splitFrom quoted (c :: rest) =
      if isBlank c && !quoted then
        ([], addWord (splitFrom quoted rest).1 (splitFrom quoted rest).2)
      else (c :: (splitFrom quoted rest).1, (splitFrom quoted rest).2) := by
  rw [splitFrom.eq_def]
  split
  · rename_i text_eq
    cases text_eq
  · rename_i text_eq
    cases text_eq
    exact absurd rfl noBackslash
  · rename_i text_eq
    cases text_eq
    exact absurd rfl noBackslash
  · rename_i text_eq
    cases text_eq
    exact absurd rfl noQuote
  · rename_i text_eq
    cases text_eq
    rfl

theorem splitFrom_visible (noBackslash : c ≠ '\\') (noQuote : c ≠ '"')
    (visible : isBlank c = false) (rest : List Char) :
    splitFrom quoted (c :: rest) =
      (c :: (splitFrom quoted rest).1, (splitFrom quoted rest).2) := by
  rw [splitFrom_cons noBackslash noQuote, visible, Bool.false_and, if_neg Bool.false_ne_true]

theorem splitFrom_quoted (noBackslash : c ≠ '\\') (noQuote : c ≠ '"') (rest : List Char) :
    splitFrom true (c :: rest) = (c :: (splitFrom true rest).1, (splitFrom true rest).2) := by
  rw [splitFrom_cons noBackslash noQuote, Bool.not_true, Bool.and_false,
    if_neg Bool.false_ne_true]

/-- White space outside quotes ends a word. -/
theorem splitFrom_blank (blank : isBlank c) (rest : List Char) :
    splitFrom false (c :: rest) = ([], plainWords rest) := by
  have noBackslash : c ≠ '\\' := by
    rintro rfl
    cases blank
  have noQuote : c ≠ '"' := by
    rintro rfl
    cases blank
  rw [splitFrom_cons noBackslash noQuote, blank, Bool.not_false, Bool.and_true, if_pos rfl]
  rfl

theorem plainWords_space (blank : ∀ c ∈ space, isBlank c) (rest : List Char) :
    plainWords (space ++ rest) = plainWords rest := by
  induction space with
  | nil => rfl
  | cons c space ih =>
    obtain ⟨first, others⟩ := List.forall_mem_cons.1 blank
    rw [List.cons_append, plainWords, splitFrom_blank first, ih others]
    rfl

theorem splitFrom_space (blank : ∀ c ∈ space, isBlank c) (apart : space ≠ []) (rest : List Char) :
    splitFrom false (space ++ rest) = ([], plainWords rest) := by
  obtain ⟨c, space, rfl⟩ := List.exists_cons_of_ne_nil apart
  obtain ⟨first, others⟩ := List.forall_mem_cons.1 blank
  rw [List.cons_append, splitFrom_blank first, plainWords_space others]

theorem splitFrom_word (plain : ∀ c ∈ word, isBlank c = false ∧ c ≠ '\\' ∧ c ≠ '"')
    (rest : List Char) :
    splitFrom false (word ++ rest) =
      (word ++ (splitFrom false rest).1, (splitFrom false rest).2) := by
  induction word with
  | nil => rfl
  | cons c word ih =>
    obtain ⟨⟨visible, noBackslash, noQuote⟩, others⟩ := List.forall_mem_cons.1 plain
    rw [List.cons_append, splitFrom_visible noBackslash noQuote visible, ih others]
    rfl

theorem splitFrom_escape (c : Char) (rest : List Char) :
    splitFrom true (Expression.escape c ++ rest) =
      (c :: (splitFrom true rest).1, (splitFrom true rest).2) := by
  unfold Expression.escape
  split
  · rfl
  · rename_i plain
    rw [not_or] at plain
    exact splitFrom_quoted plain.2 plain.1 rest

/-- A quoted phrase adds its content to the word that it stands in. -/
theorem splitFrom_phrase (content rest : List Char) :
    splitFrom false ('"' :: (content.flatMap Expression.escape ++ '"' :: rest)) =
      (content ++ (splitFrom false rest).1, (splitFrom false rest).2) := by
  have inside : splitFrom true (content.flatMap Expression.escape ++ '"' :: rest) =
      (content ++ (splitFrom false rest).1, (splitFrom false rest).2) := by
    induction content with
    | nil => rfl
    | cons c content ih =>
      rw [List.flatMap_cons, List.append_assoc, splitFrom_escape, ih]
      rfl
  exact inside

/-- A plain item gives its text to the word that it is part of. -/
theorem splitFrom_item {item : Item} (plain : item.IsPlain) (rest : List Char) :
    splitFrom false (item.written ++ rest) =
      (item.text.toList ++ (splitFrom false rest).1, (splitFrom false rest).2) := by
  cases item with
  | word text =>
    have isBare : IsBare text := plain
    apply splitFrom_word
    intro c member
    obtain ⟨visible, sign⟩ := isBare.plain c member
    refine ⟨visible, ?_, ?_⟩
    · rintro rfl
      exact isBare.noBackslash member
    · rintro rfl
      exact sign (by simp)
  | phrase content =>
    have written_eq : Item.written (.phrase content) ++ rest =
        '"' :: (content.toList.flatMap Expression.escape ++ '"' :: rest) := by
      simp [Item.written]
    rw [written_eq]
    exact splitFrom_phrase content.toList rest

theorem plainWords_item {item : Item} {rest : List Char} {words : List (List Char)}
    (plain : item.IsPlain) (behind : splitFrom false rest = ([], words)) :
    plainWords (item.written ++ rest) = item.text.toList :: words := by
  obtain ⟨c, word, text_eq⟩ := List.exists_cons_of_ne_nil plain.text_ne_nil
  rw [plainWords, splitFrom_item plain, behind, List.append_nil, text_eq]
  rfl

theorem plainWords_joined {items : List Item} (h : Item.Joined items text) :
    plainWords text = items.map fun item ↦ item.text.toList := by
  induction h with
  | @last item space plain blank =>
    apply plainWords_item plain
    by_cases nothing : space = []
    · rw [nothing]
      rfl
    · have ended := splitFrom_space blank nothing []
      rwa [List.append_nil] at ended
  | cons plain blank apart _ ih =>
    rw [List.map_cons, ← ih]
    exact plainWords_item plain (splitFrom_space blank apart _)

/-- The words of joined items are their texts. -/
theorem wordsOf_joined {items : List Item} (h : Item.Joined items text)
    (blank : ∀ c ∈ space, isBlank c) (caseSensitive : Bool) :
    wordsOf (String.ofList (space ++ text)) ⟨caseSensitive, false⟩ = items.map Item.text := by
  rw [wordsOf, if_neg Bool.false_ne_true, String.toList_ofList, plainWords_space blank,
    plainWords_joined h, List.map_map]
  apply List.map_congr_left
  intro item _
  exact String.ofList_toList

end Highlight

/-- A text of words and phrases is read as the conjunction of their terms, grouped to the left.  The
words to highlight are the same words and phrases, and so the values of that expression. -/
theorem parse_joined {first : Item} {rest : List Item} {space text : List Char}
    (blank : ∀ c ∈ space, isBlank c) (h : Item.Joined (first :: rest) text)
    (few : (first :: rest).length ≤ maxTerms) :
    Expression.parse (String.ofList (space ++ text)) = .ok (Item.conjunction first rest) ∧
      (∀ caseSensitive,
        Highlight.wordsOf (String.ofList (space ++ text)) ⟨caseSensitive, false⟩ =
          (first :: rest).map Item.text) ∧
      (Item.conjunction first rest).values = (first :: rest).map Item.text :=
  ⟨h.parse_eq blank few, Highlight.wordsOf_joined h blank, Item.values_conjunction first rest⟩

theorem parse_joined_quotes :
    Expression.parse " x!\t\"a \\\"b\\\\\"\u3000note " =
        .ok (.and (.and (.term "x!") (.term "a \"b\\")) (.term "note")) ∧
      (∀ caseSensitive,
        Highlight.wordsOf " x!\t\"a \\\"b\\\\\"\u3000note " ⟨caseSensitive, false⟩ =
          ["x!", "a \"b\\", "note"]) ∧
      (Expression.and (.and (.term "x!") (.term "a \"b\\")) (.term "note")).values =
        ["x!", "a \"b\\", "note"] := by
  have blank : ∀ c ∈ [' '], isBlank c := List.forall_mem_singleton.2 (by decide)
  have tab : ∀ c ∈ ['\t'], isBlank c := List.forall_mem_singleton.2 (by decide)
  have ideographic : ∀ c ∈ ['\u3000'], isBlank c := List.forall_mem_singleton.2 (by decide)
  have bang : IsBare "x!" :=
    ⟨⟨by decide, List.forall_mem_cons.2 ⟨by decide, List.forall_mem_singleton.2 (by decide)⟩,
      by decide⟩, by decide, by decide⟩
  have plain : ∀ c ∈ "note".toList, isBlank c = false ∧ c ∉ ['(', ')', '"', '='] :=
    List.forall_mem_cons.2 ⟨by decide, List.forall_mem_cons.2 ⟨by decide,
      List.forall_mem_cons.2 ⟨by decide, List.forall_mem_singleton.2 (by decide)⟩⟩⟩
  have last : IsBare "note" := ⟨⟨by decide, plain, by decide⟩, by decide, by decide⟩
  have joined : Item.Joined [.word "x!", .phrase "a \"b\\", .word "note"] _ :=
    .cons bang tab (List.cons_ne_nil _ _)
      (.cons (List.cons_ne_nil _ _) ideographic (List.cons_ne_nil _ _) (.last last blank))
  have all := parse_joined blank joined (by decide)
  have text_eq : String.ofList ([' '] ++ ((Item.word "x!").written ++ (['\t'] ++
      ((Item.phrase "a \"b\\").written ++ (['\u3000'] ++ ((Item.word "note").written ++ [' ']))))))
      = " x!\t\"a \\\"b\\\\\"\u3000note " := by
    decide +kernel
  rw [text_eq] at all
  exact all

end RecordSearch
