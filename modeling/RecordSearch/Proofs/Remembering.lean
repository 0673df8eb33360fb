import RecordSearch.Query.Memo

/-!
# Remembered results

A query that remembers is asked questions in any order, is copied, and has the character between
keywords changed, each copy on its own.  What a copy has remembered stays what would be found out
anew from the text and the options of the query.  So the answers are those of queries that remember
nothing and find out everything for every question again.
-/

namespace RecordSearch.Query

open Highlight (Alternation Dialect)

/-- A question about a query, with the type of the answer. -/
inductive Question : Type → Type 1
  | isGrammatical : Question Bool
  | expression : Question Expression
  | isMatch (record : Record) : Question Bool
  | filter {α : Type} (view : α → Record) (items : List α) : Question (List α)
  | count {α : Type} (view : α → Record) (items : List α) : Question Nat
  | any {α : Type} (view : α → Record) (items : List α) : Question Bool
  | find? {α : Type} (view : α → Record) (items : List α) : Question (Option α)
  | pattern? (dialect : Dialect) : Question (Option Alternation)

def Memo.answer (memo : Memo) : {α : Type} → Question α → α × Memo
  | _, .isGrammatical => memo.isGrammatical
  | _, .expression => memo.expression
  | _, .isMatch record => memo.isMatch record
  | _, .filter view items => memo.filter view items
  | _, .count view items => memo.count view items
  | _, .any view items => memo.any view items
  | _, .find? view items => memo.find? view items
  | _, .pattern? dialect => memo.pattern? dialect

def answer (query : Query) : {α : Type} → Question α → α
  | _, .isGrammatical => query.isGrammatical
  | _, .expression => query.expression
  | _, .isMatch record => query.isMatch record
  | _, .filter view items => query.filter view items
  | _, .count view items => query.count view items
  | _, .any view items => query.any view items
  | _, .find? view items => query.find? view items
  | _, .pattern? dialect => query.pattern? dialect

variable {text : String} {options : SearchOptions} {memo : Memo}

/-- What is remembered is what is found out anew from the text and the options. -/
structure Memo.Recalls (text : String) (options : SearchOptions) (memo : Memo) : Prop where
  text_eq : memo.query.text = text
  options_eq : memo.query.options = options
  interpretation : ∀ found ∈ memo.interpretation?, found = Interpretation.ofText text options
  blockPattern : ∀ found ∈ memo.blockPattern?,
    found = Alternation.ofWords? (Highlight.wordsOf text options) options .blockQuotes
  escapePattern : ∀ found ∈ memo.escapePattern?,
    found = Alternation.ofWords? (Highlight.wordsOf text options) options .escapes

/-- A new memo recalls its query, since nothing is filled in. -/
theorem Memo.recalls_ofQuery (query : Query) :
    (Memo.ofQuery query).Recalls query.text query.options where
  text_eq := rfl
  options_eq := rfl
  interpretation := nofun
  blockPattern := nofun
  escapePattern := nofun

/-- Nothing that is remembered depends on the character between keywords. -/
theorem Memo.Recalls.withDelimiter (h : memo.Recalls text options) (delimiter : Char) :
    (memo.withDelimiter delimiter).Recalls text options :=
  { h with }

/-- The answer is the one of the query itself, and the query stays as it is. -/
structure Memo.Answers (text : String) (options : SearchOptions) {α : Type} (memo : Memo)
    (expected : α) (answered : α × Memo) : Prop where
  answer_eq : answered.1 = expected
  query_eq : answered.2.query = memo.query
  recalls : answered.2.Recalls text options

theorem Memo.Answers.map {α β : Type} {expected : α} {answered : α × Memo}
    (h : Memo.Answers text options memo expected answered) (f : α → β) :
    Memo.Answers text options memo (f expected) (f answered.1, answered.2) where
  answer_eq := congrArg f h.answer_eq
  query_eq := h.query_eq
  recalls := h.recalls

theorem Memo.Recalls.answers_interpretation (h : memo.Recalls text options) :
    Memo.Answers text options memo memo.query.interpretation memo.interpretation := by
  have anew : memo.query.interpretation = Interpretation.ofText text options := by
    rw [Query.interpretation, h.text_eq, h.options_eq]
  unfold Memo.interpretation
  split
  · rename_i found remembered
    refine ⟨?_, rfl, h⟩
    rw [anew]
    exact h.interpretation found remembered
  · refine ⟨rfl, rfl, { h with interpretation := ?_ }⟩
    rintro _ ⟨⟩
    exact anew

theorem Memo.Recalls.answers_matcher (h : memo.Recalls text options) :
    Memo.Answers text options memo memo.query.isMatch memo.matcher := by
  have found := h.answers_interpretation
  refine ⟨?_, found.query_eq, found.recalls⟩
  funext record
  calc
    memo.matcher.1 record = memo.interpretation.1.condition.holds record
        memo.interpretation.2.query.delimiter := rfl
    _ = memo.query.isMatch record := by
      rw [found.answer_eq, found.query_eq]
      rfl

/-- A memo that recalls its query matches what the query matches. -/
theorem Memo.Recalls.answers_isMatch (h : memo.Recalls text options) (record : Record) :
    Memo.Answers text options memo (memo.query.isMatch record) (memo.isMatch record) :=
  h.answers_matcher.map (· record)

theorem Memo.Answers.exists_eq {α : Type} {expected : α} {answered : α × Memo}
    (h : Memo.Answers text options memo expected answered) :
    ∃ asked : Memo, answered = (expected, asked) ∧ asked.query = memo.query ∧
      asked.Recalls text options :=
  ⟨answered.2, Prod.ext h.answer_eq rfl, h.query_eq, h.recalls⟩

/-- A memo that has been asked before answers as if for the first time. -/
theorem Memo.Answers.of_query_eq {α : Type} {expected : α} {answered : α × Memo} {asked : Memo}
    (h : Memo.Answers text options asked expected answered) (query_eq : asked.query = memo.query) :
    Memo.Answers text options memo expected answered :=
  ⟨h.answer_eq, h.query_eq.trans query_eq, h.recalls⟩

/-- A memo that recalls its query keeps the items that the query keeps, one after the other. -/
theorem Memo.Recalls.answers_filter {α : Type} (h : memo.Recalls text options)
    (view : α → Record) (items : List α) :
    Memo.Answers text options memo (memo.query.filter view items) (memo.filter view items) := by
  induction items generalizing memo with
  | nil => exact ⟨rfl, rfl, h⟩
  | cons item items ih =>
    obtain ⟨asked, answered, query_eq, recalls⟩ := (h.answers_isMatch (view item)).exists_eq
    have others := ih recalls
    rw [query_eq] at others
    rw [Query.filter, List.filter_cons, Memo.filter, answered]
    exact (others.map fun others ↦
      if memo.query.isMatch (view item) then item :: others else others).of_query_eq query_eq

theorem Memo.Recalls.answers_find? {α : Type} (h : memo.Recalls text options)
    (view : α → Record) (items : List α) :
    Memo.Answers text options memo (memo.query.find? view items) (memo.find? view items) := by
  induction items generalizing memo with
  | nil => exact ⟨rfl, rfl, h⟩
  | cons item items ih =>
    obtain ⟨asked, answered, query_eq, recalls⟩ := (h.answers_isMatch (view item)).exists_eq
    rw [Query.find?, List.find?_cons, Memo.find?, answered]
    cases memo.query.isMatch (view item) with
    | true => exact ⟨rfl, query_eq, recalls⟩
    | false =>
      have others := ih recalls
      rw [query_eq] at others
      exact others.of_query_eq query_eq

theorem Memo.Recalls.answers_pattern? (h : memo.Recalls text options) (dialect : Dialect) :
    Memo.Answers text options memo (memo.query.pattern? dialect) (memo.pattern? dialect) := by
  have anew : ∀ dialect, memo.query.pattern? dialect =
      Alternation.ofWords? (Highlight.wordsOf text options) options dialect := by
    intro dialect
    rw [Query.pattern?, Query.words, h.text_eq, h.options_eq]
  cases dialect with
  | blockQuotes =>
    rw [Memo.pattern?]
    split
    · rename_i found remembered
      exact ⟨(h.blockPattern found remembered).trans (anew _).symm, rfl, h⟩
    · refine ⟨rfl, rfl, { h with blockPattern := ?_ }⟩
      rintro _ ⟨⟩
      exact anew .blockQuotes
  | escapes =>
    rw [Memo.pattern?]
    split
    · rename_i found remembered
      exact ⟨(h.escapePattern found remembered).trans (anew _).symm, rfl, h⟩
    · refine ⟨rfl, rfl, { h with escapePattern := ?_ }⟩
      rintro _ ⟨⟩
      exact anew .escapes

/-- A memo that recalls its query answers every question as the query does. -/
theorem Memo.Recalls.answers (h : memo.Recalls text options) {α : Type} (question : Question α) :
    Memo.Answers text options memo (memo.query.answer question) (memo.answer question) := by
  cases question with
  | isGrammatical => exact h.answers_interpretation.map Interpretation.isGrammatical
  | expression => exact h.answers_interpretation.map Interpretation.expression
  | isMatch record => exact h.answers_isMatch record
  | filter view items => exact h.answers_filter view items
  | count view items =>
    rw [Query.answer, Query.count, List.countP_eq_length_filter]
    exact (h.answers_filter view items).map List.length
  | any view items =>
    rw [Query.answer, Query.any, ← List.isSome_find?]
    exact (h.answers_find? view items).map Option.isSome
  | find? view items => exact h.answers_find? view items
  | pattern? dialect => exact h.answers_pattern? dialect

/-! ## Copies -/

/-- What can be done with several copies of a query, of which each has a number. -/
inductive Action : Type 1
  | ask {α : Type} (copy : Nat) (question : Question α)
  /-- Adds a copy of a copy, with all that it remembers. -/
  | clone (copy : Nat)
  | withDelimiter (copy : Nat) (delimiter : Char)

/-- Something that can be asked, and whose character between keywords can be changed. -/
structure Respondent (σ : Type) where
  answer {α : Type} (copy : σ) (question : Question α) : α × σ
  withDelimiter (copy : σ) (delimiter : Char) : σ

def remembering : Respondent Memo where
  answer memo question := memo.answer question
  withDelimiter := Memo.withDelimiter

def forgetting : Respondent Query where
  answer query question := (((Memo.ofQuery query).answer question).1, query)
  withDelimiter := Query.withDelimiter

namespace Respondent

variable {σ : Type}

/-- One action: the answer, if something was asked, and the copies that there are then.  Nothing can
be done with a copy that there is not. -/
def step (respondent : Respondent σ) (copies : List σ) :
    Action → Option ((α : Type) × α) × List σ
  | .ask number question =>
    match copies[number]? with
    | none => (none, copies)
    | some copy =>
      let (answer, copy) := respondent.answer copy question
      (some ⟨_, answer⟩, copies.set number copy)
  | .clone number => (none, copies ++ copies[number]?.toList)
  | .withDelimiter number delimiter =>
    match copies[number]? with
    | none => (none, copies)
    | some copy => (none, copies.set number (respondent.withDelimiter copy delimiter))

/-- Actions one after the other: all answers, and the copies at the end. -/
def run (respondent : Respondent σ) (copies : List σ) :
    List Action → List ((α : Type) × α) × List σ
  | [] => ([], copies)
  | action :: actions =>
    let (answer, copies) := respondent.step copies action
    let (answers, copies) := run respondent copies actions
    (answer.toList ++ answers, copies)

theorem run_cons (respondent : Respondent σ) (copies : List σ) (action : Action)
    (actions : List Action) :
    (respondent.run copies (action :: actions)).1 =
      (respondent.step copies action).1.toList ++
        (respondent.run (respondent.step copies action).2 actions).1 := rfl

end Respondent

/-- The queries are the same, and what is remembered of them is what is found out anew. -/
structure Agree (text : String) (options : SearchOptions) (memos : List Memo)
    (queries : List Query) : Prop where
  queries_eq : memos.map Memo.query = queries
  recalls : ∀ memo ∈ memos, memo.Recalls text options

variable {memos : List Memo} {queries : List Query} {number : Nat}

theorem Agree.set (h : Agree text options memos queries) (recalls : memo.Recalls text options) :
    Agree text options (memos.set number memo) (queries.set number memo.query) where
  queries_eq := by rw [List.map_set, h.queries_eq]
  recalls := by
    intro other member
    rcases List.mem_or_eq_of_mem_set member with kept | rfl
    · exact h.recalls other kept
    · exact recalls

/-- Each action has the same answer, and the queries go on to agree. -/
theorem Agree.step (h : Agree text options memos queries) (action : Action) :
    (remembering.step memos action).1 = (forgetting.step queries action).1 ∧
      Agree text options (remembering.step memos action).2 (forgetting.step queries action).2 := by
  have queries_eq := h.queries_eq
  subst queries_eq
  cases action with
  | ask number question =>
    rw [Respondent.step, Respondent.step, List.getElem?_map]
    cases found : memos[number]? with
    | none => exact ⟨rfl, h⟩
    | some memo =>
      have recalls := h.recalls memo (List.mem_of_getElem? found)
      have answers := recalls.answers question
      have anew := (Memo.recalls_ofQuery memo.query).answers question
      have same : (memo.answer question).1 = ((Memo.ofQuery memo.query).answer question).1 :=
        answers.answer_eq.trans anew.answer_eq.symm
      have kept : Agree text options (memos.set number (memo.answer question).2)
          ((memos.map Memo.query).set number memo.query) := by
        rw [← answers.query_eq]
        exact h.set answers.recalls
      refine ⟨?_, kept⟩
      exact congrArg (fun answer ↦ some (⟨_, answer⟩ : (α : Type) × α)) same
  | clone number =>
    refine ⟨rfl, ?_, ?_⟩
    · rw [Respondent.step, Respondent.step, List.map_append, List.getElem?_map,
        Option.toList_map]
    · intro memo member
      rcases List.mem_append.1 member with old | copied
      · exact h.recalls memo old
      · exact h.recalls memo (List.mem_of_getElem? (Option.mem_toList.1 copied))
  | withDelimiter number delimiter =>
    rw [Respondent.step, Respondent.step, List.getElem?_map]
    cases found : memos[number]? with
    | none => exact ⟨rfl, h⟩
    | some memo =>
      have recalls := h.recalls memo (List.mem_of_getElem? found)
      exact ⟨rfl, h.set (recalls.withDelimiter delimiter)⟩

/-- Memos and queries that agree give the same answers to all actions, and agree at the end. -/
theorem Agree.run (h : Agree text options memos queries) (actions : List Action) :
    (remembering.run memos actions).1 = (forgetting.run queries actions).1 ∧
      Agree text options (remembering.run memos actions).2 (forgetting.run queries actions).2 := by
  induction actions generalizing memos queries with
  | nil => exact ⟨rfl, h⟩
  | cons action actions ih =>
    obtain ⟨answer_eq, agree⟩ := h.step action
    obtain ⟨answers_eq, agree⟩ := ih agree
    refine ⟨?_, agree⟩
    rw [Respondent.run_cons, Respondent.run_cons, answer_eq, answers_eq]

/-- Copies of a query that remember give the answers that queries made anew for every question give,
whatever is asked of them in whatever order.  They go on to be copies of the same queries, and what
they remember is what is found out anew. -/
theorem run_remembering (query : Query) (actions : List Action) :
    let ended := remembering.run [Memo.ofQuery query] actions
    let anew := forgetting.run [query] actions
    ended.1 = anew.1 ∧ ended.2.map Memo.query = anew.2 ∧
      ∀ memo ∈ ended.2, memo.Recalls query.text query.options := by
  have start : Agree query.text query.options [Memo.ofQuery query] [query] :=
    ⟨rfl, List.forall_mem_singleton.2 (Memo.recalls_ofQuery query)⟩
  obtain ⟨answers_eq, queries_eq, recalls⟩ := start.run actions
  exact ⟨answers_eq, queries_eq, recalls⟩

end RecordSearch.Query
