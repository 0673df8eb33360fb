import RecordSearch.Proofs.Blame
import RecordSearch.Query.Reader

/-!
# Runs of a reader

A reader starts somewhere in its tokens, at some depth and with some terms counted.  A run from
there ends with what is expected of it, and it passes only through states that are inside a call:
their counters respect the limits, their tokens are those of the call, and they are no less deep
than the state in which the call was made.  This holds of every step that a reader takes, and it
holds of two runs in a row if it holds of both.  The terms of a query are read by single steps, and
so they are read as the rules for them say.
-/

namespace RecordSearch

open Grammar

namespace Reader

def cursor (reader : Reader) : Cursor :=
  ⟨reader.tokens.drop reader.position, reader.position, reader.terms⟩

def moveTo (reader : Reader) (cursor : Cursor) : Reader :=
  { reader with position := cursor.index, terms := cursor.terms }

/-- The counters respect their bounds. -/
structure Within (reader : Reader) : Prop where
  position_le : reader.position ≤ reader.tokens.length
  depth_le : reader.depth ≤ maxDepth
  terms_le : reader.terms ≤ maxTerms

/-- A state that a call made in the state `start` may pass through. -/
structure Inside (start reader : Reader) : Prop extends Within reader where
  tokens_eq : reader.tokens = start.tokens
  depth_ge : start.depth ≤ reader.depth

def expects (reader : Reader) (read : Except Failure (Expression × Cursor)) :
    Except Failure (Expression × Reader) :=
  read.map fun read ↦ (read.1, reader.moveTo read.2)

variable {start reader : Reader} {token : Token} {tail : List Token}

theorem Within.inside (h : reader.Within) : reader.Inside reader := ⟨h, rfl, Nat.le_refl _⟩

theorem head?_rest (reader : Reader) :
    reader.cursor.rest.head? = reader.tokens[reader.position]? := List.head?_drop

theorem getElem?_rest (reader : Reader) (i : Nat) :
    reader.cursor.rest[i]? = reader.tokens[reader.position + i]? := List.getElem?_drop

/-- A reader passes a token as a cursor advances. -/
@[simp]
theorem cursor_pass (reader : Reader) : reader.pass.cursor = reader.cursor.advance := by
  simp [cursor, pass, Cursor.advance]

theorem length_rest_pass (rest_eq : reader.cursor.rest = token :: tail) :
    reader.cursor.rest.length = reader.pass.cursor.rest.length + 1 := by
  simp [rest_eq]

theorem Inside.pass (inside : start.Inside reader) (rest_eq : reader.cursor.rest = token :: tail) :
    start.Inside reader.pass := by
  have more : 0 < reader.cursor.rest.length := by simp [rest_eq]
  rw [cursor, List.length_drop] at more
  exact { inside with position_le := Nat.lt_of_sub_pos more }

/-- A reader goes one level deeper without leaving the call, if the limit allows it. -/
theorem Inside.opened (inside : start.Inside reader) (shallow : reader.depth < maxDepth) :
    start.Inside reader.opened :=
  { inside with depth_le := shallow, depth_ge := Nat.le_succ_of_le inside.depth_ge }

theorem Inside.of_opened (inside : start.Inside reader.opened)
    (depth_ge : start.depth ≤ reader.depth) : start.Inside reader :=
  { inside with depth_le := Nat.le_of_succ_le inside.depth_le, depth_ge }

theorem Inside.counted (inside : start.Inside reader) (few : reader.terms < maxTerms) :
    start.Inside reader.counted :=
  { inside with terms_le := few }

end Reader

namespace Reading

variable {α β : Type} {start reader middle : Reader} {reading : Reading α} {more : α → Reading β}
  {a : α} {token : Token} {tail : List Token} {failure : Failure}

/-- The outcome is the expected one.  Of a failure only the reason is expected. -/
inductive Answers : Except Failure (α × Reader) → Except Stop α → Reader → Prop
  | ok (a : α) (after : Reader) : Answers (.ok (a, after)) (.ok a) after
  | error (failure : Failure) (after : Reader) :
    Answers (.error failure) (.error (.failure failure)) after

/-- What is expected of a rule is an expression and a place to stand, or a failure. -/
theorem Answers.of_expects {read : Except Failure (Expression × Cursor)}
    {result : Except Stop Expression} {after : Reader}
    (answers : Answers (reader.expects read) result after) :
    (∃ e stop, read = .ok (e, stop) ∧ result = .ok e ∧ after = reader.moveTo stop) ∨
      ∃ reason, read = .error reason ∧ result = .error (.failure reason) := by
  cases read with
  | ok read =>
    cases answers
    exact .inl ⟨_, _, rfl, rfl, rfl⟩
  | error reason =>
    cases answers
    exact .inr ⟨reason, rfl, rfl⟩

/-- From `reader` on the reading ends as expected, and on the way to its end it passes through no
state that is not inside a call made in `start`. -/
def Runs (start : Reader) (reading : Reading α) (reader : Reader)
    (expected : Except Failure (α × Reader)) : Prop :=
  ∀ past, ∃ result after visited, reading ⟨reader, past⟩ = some (result, ⟨after, visited ++ past⟩) ∧
    Answers expected result after ∧ ∀ state ∈ after :: visited, start.Inside state

theorem runs_pure (inside : start.Inside reader) (a : α) :
    Runs start (pure a) reader (.ok (a, reader)) :=
  fun _ ↦ ⟨.ok a, reader, [], rfl, .ok a reader, by simpa⟩

theorem runs_fail (inside : start.Inside reader) (failure : Failure) :
    Runs start (fail failure : Reading α) reader (.error failure) :=
  fun _ ↦ ⟨.error (.failure failure), reader, [], rfl, .error failure reader, by simpa⟩

theorem runs_here (inside : start.Inside reader) : Runs start here reader (.ok (reader, reader)) :=
  fun _ ↦ ⟨.ok reader, reader, [], rfl, .ok reader reader, by simpa⟩

theorem runs_change {step : Reader → Reader} (inside : start.Inside reader)
    (inside' : start.Inside (step reader)) :
    Runs start (change step) reader (.ok ((), step reader)) :=
  fun _ ↦ ⟨.ok (), step reader, [reader], rfl, .ok () (step reader), by simp [inside, inside']⟩

theorem bind_ok {journey journey' : Journey} (h : reading journey = some (.ok a, journey')) :
    (reading >>= more) journey = more a journey' := by
  change (reading journey).bind _ = _
  rw [h]
  rfl

theorem bind_error {journey journey' : Journey} {stop : Stop}
    (h : reading journey = some (.error stop, journey')) :
    (reading >>= more) journey = some (.error stop, journey') := by
  change (reading journey).bind _ = _
  rw [h]
  rfl

/-- A run goes on where the first part of it ends. -/
theorem Runs.bind {expected : Except Failure (α × Reader)}
    (behind : α × Reader → Except Failure (β × Reader)) (first : Runs start reading reader expected)
    (second : ∀ a middle, expected = .ok (a, middle) → start.Inside middle →
      Runs start (more a) middle (behind (a, middle))) :
    Runs start (reading >>= more) reader (expected >>= behind) := by
  intro past
  obtain ⟨result, middle, visited, reads, answers, inside⟩ := first past
  cases answers with
  | ok a =>
    obtain ⟨result', after, visited', reads', answers', inside'⟩ :=
      second a middle rfl (inside middle List.mem_cons_self) (visited ++ past)
    refine ⟨result', after, visited' ++ visited, ?_, answers', ?_⟩
    · rw [List.append_assoc, bind_ok reads, reads']
    · intro state member
      rw [← List.cons_append, List.mem_append] at member
      rcases member with later | earlier
      · exact inside' state later
      · exact inside state (List.mem_cons_of_mem _ earlier)
  | error failure =>
    exact ⟨_, middle, visited, bind_error reads, .error failure middle, inside⟩

/-- Behind a step that succeeds. -/
theorem Runs.next {expected : Except Failure (β × Reader)}
    (first : Runs start reading reader (.ok (a, middle)))
    (second : start.Inside middle → Runs start (more a) middle expected) :
    Runs start (reading >>= more) reader expected := by
  refine Runs.bind (fun _ ↦ expected) first fun a' middle' same inside ↦ ?_
  cases same
  exact second inside

/-- A reading fails as soon as its first part does. -/
theorem Runs.stop (first : Runs start reading reader (.error failure)) :
    Runs start (reading >>= more) reader (.error failure) :=
  Runs.bind (fun _ ↦ .error failure) first fun _ _ same ↦ nomatch same

theorem runs_peek? (inside : start.Inside reader) {rest : List Token}
    (rest_eq : reader.cursor.rest = rest) :
    Runs start peek? reader (.ok (rest.head?, reader)) := by
  rw [← rest_eq, Reader.head?_rest]
  exact (runs_here inside).next fun inside ↦ runs_pure inside _

theorem runs_advance?_nil (inside : start.Inside reader) (rest_eq : reader.cursor.rest = []) :
    Runs start advance? reader (.ok (none, reader)) :=
  (runs_peek? inside rest_eq).next fun inside ↦ runs_pure inside _

theorem runs_advance? (inside : start.Inside reader)
    (rest_eq : reader.cursor.rest = token :: tail) :
    Runs start advance? reader (.ok (some token, reader.pass)) := by
  refine (runs_peek? inside rest_eq).next fun inside ↦ ?_
  exact (runs_change inside (inside.pass rest_eq)).next fun inside ↦ runs_pure inside _

/-- The token that is expected is passed. -/
theorem runs_eat (inside : start.Inside reader) (rest_eq : reader.cursor.rest = token :: tail) :
    Runs start (eat token) reader (.ok (true, reader.pass)) := by
  refine (runs_peek? inside rest_eq).next fun inside ↦ ?_
  rw [List.head?_cons, if_pos rfl]
  exact (runs_change inside (inside.pass rest_eq)).next fun inside ↦ runs_pure inside _

theorem runs_eat_other (inside : start.Inside reader)
    (other : reader.cursor.rest.head? ≠ some token) :
    Runs start (eat token) reader (.ok (false, reader)) := by
  refine (runs_peek? inside rfl).next fun inside ↦ ?_
  rw [if_neg other]
  exact runs_pure inside _

theorem runs_enter (inside : start.Inside reader) (shallow : reader.depth < maxDepth) :
    Runs start enter reader (.ok ((), reader.opened)) := by
  refine (runs_here inside).next fun inside ↦ ?_
  rw [if_pos shallow]
  exact runs_change inside (inside.opened shallow)

/-- At the deepest level no group is opened. -/
theorem runs_enter_tooDeep (inside : start.Inside reader) (deep : reader.depth = maxDepth) :
    Runs start enter reader (.error .tooDeep) := by
  refine (runs_here inside).next fun inside ↦ ?_
  rw [if_neg (Nat.not_lt.2 (Nat.le_of_eq deep.symm))]
  exact runs_fail inside _

/-- A level that was opened is closed again. -/
theorem runs_leave (inside : start.Inside reader) (opened : start.Inside reader.opened) :
    Runs start leave reader.opened (.ok ((), reader)) := by
  have raised : reader.opened.depth ≠ 0 := Nat.succ_ne_zero _
  refine (runs_here opened).next fun opened ↦ ?_
  rw [if_neg raised]
  exact runs_change opened inside

theorem runs_countTerm (inside : start.Inside reader) (few : reader.terms < maxTerms) :
    Runs start countTerm reader (.ok ((), reader.counted)) := by
  refine (runs_here inside).next fun inside ↦ ?_
  rw [if_pos few]
  exact runs_change inside (inside.counted few)

/-- At the limit no term is counted. -/
theorem runs_countTerm_tooMany (inside : start.Inside reader) (many : ¬ reader.terms < maxTerms) :
    Runs start countTerm reader (.error .tooManyTerms) := by
  refine (runs_here inside).next fun inside ↦ ?_
  rw [if_neg many]
  exact runs_fail inside _

/-- Behind a token that was passed, its index is known. -/
theorem runs_lastIndex (inside : start.Inside reader.pass) :
    Runs start lastIndex reader.pass (.ok (reader.position, reader.pass)) := by
  have passed : reader.pass.position ≠ 0 := Nat.succ_ne_zero _
  refine (runs_here inside).next fun inside ↦ ?_
  rw [if_neg passed]
  exact runs_pure inside _

theorem runs_comparison?_some {comparison : Comparison} (inside : start.Inside reader)
    (found : Rule.comparison? reader.cursor.rest = some comparison) :
    Runs start comparison? reader (.ok (some comparison, reader.pass)) := by
  have compares := comparison?_eq_some_iff.1 found
  generalize rest_eq : reader.cursor.rest = rest at compares
  generalize rest.tail = behind at compares
  refine (runs_peek? inside rest_eq).next fun inside ↦ ?_
  cases compares with
  | symbol => exact (runs_change inside (inside.pass rest_eq)).next fun inside ↦ runs_pure inside _
  | @word text _ value behind named isValue =>
    have second : reader.tokens[reader.position + 1]? = some value := by
      rw [← reader.getElem?_rest, rest_eq]
      rfl
    refine (runs_here inside).next fun inside ↦ ?_
    simp only [named, second, Option.any_some, isValue, if_true]
    exact (runs_change inside (inside.pass rest_eq)).next fun inside ↦ runs_pure inside _

theorem runs_comparison?_none (inside : start.Inside reader)
    (missing : Rule.comparison? reader.cursor.rest = none) :
    Runs start comparison? reader (.ok (none, reader)) := by
  have second := reader.getElem?_rest 1
  generalize rest_eq : reader.cursor.rest = rest at missing second
  refine (runs_peek? inside rest_eq).next fun inside ↦ ?_
  match rest with
  | [] => exact runs_pure inside _
  | .word text :: tail =>
    refine (runs_here inside).next fun inside ↦ ?_
    cases named : Comparison.ofWord? text with
    | none => exact runs_pure inside _
    | some comparison =>
      -- The word would be a comparison, so it is no value that follows it.
      have noValue : reader.tokens[reader.position + 1]?.any Token.isValue = false := by
        rw [← second]
        cases tail with
        | nil => rfl
        | cons value behind => simpa [Rule.comparison?, named] using missing
      simp only [noValue]
      exact runs_pure inside _
  | .compare _ :: _ => cases missing
  | .leftParen :: _ | .rightParen :: _ | .and :: _ | .or :: _ | .not :: _ | .phrase _ :: _ =>
    exact runs_pure inside _

theorem runs_fieldValue (inside : start.Inside reader) (name : String) (comparison : Comparison) :
    Runs start (fieldValue name comparison) reader
      (reader.expects (Rule.fieldValue name comparison reader.cursor)) := by
  unfold fieldValue Rule.fieldValue
  by_cases isName : Field.isName name
  · rw [if_pos isName, if_pos isName]
    refine (runs_here inside).next fun inside ↦ ?_
    cases rest_eq : reader.cursor.rest with
    | nil => exact (runs_advance?_nil inside rest_eq).next fun inside ↦ runs_fail inside _
    | cons token tail =>
      refine (runs_advance? inside rest_eq).next fun inside ↦ ?_
      cases token with
      | word value => exact runs_pure inside _
      | phrase value => exact runs_pure inside _
      | _ => exact runs_fail inside _
  · rw [if_neg isName, if_neg isName]
    exact runs_fail inside _

/-- Terms are counted as the rules count them. -/
theorem runs_counting {more : Unit → Reading Expression} {rule : Rule}
    (inside : start.Inside reader)
    (behind : start.Inside reader.counted →
      Runs start (more ()) reader.counted (reader.expects (rule reader.counted.cursor))) :
    Runs start (countTerm >>= more) reader
      (reader.expects (reader.cursor.countTerm >>= rule)) := by
  by_cases few : reader.terms < maxTerms
  · have counts : reader.cursor.countTerm = .ok reader.counted.cursor := if_pos few
    rw [counts]
    exact (runs_countTerm inside few).next behind
  · have tooMany : reader.cursor.countTerm = .error .tooManyTerms := if_neg few
    rw [tooMany]
    exact (runs_countTerm_tooMany inside few).stop

theorem runs_afterWord (inside : start.Inside reader) (text : String) :
    Runs start (afterWord text) reader (reader.expects (Rule.afterWord text reader.cursor)) := by
  refine runs_counting inside fun inside ↦ ?_
  cases found : Rule.comparison? reader.counted.cursor.rest with
  | none => exact (runs_comparison?_none inside found).next fun inside ↦ runs_pure inside _
  | some comparison =>
    refine (runs_comparison?_some inside found).next fun inside ↦ ?_
    rw [← reader.counted.cursor_pass]
    exact runs_fieldValue inside text comparison

theorem runs_afterPhrase (inside : start.Inside reader) (text : String) :
    Runs start (afterPhrase text) reader
      (reader.expects (Rule.afterPhrase text reader.cursor)) := by
  unfold Rule.afterPhrase
  have counts : start.Inside reader → Runs start (countTerm >>= fun _ ↦ pure (.term text)) reader
      (reader.expects (reader.cursor.countTerm >>= fun cursor ↦ .ok (.term text, cursor))) :=
    fun inside ↦ runs_counting inside fun inside ↦ runs_pure inside _
  cases rest_eq : reader.cursor.rest with
  | nil => exact (runs_peek? inside rest_eq).next counts
  | cons token tail =>
    refine (runs_peek? inside rest_eq).next fun inside ↦ ?_
    cases token with
    | compare => exact runs_fail inside _
    | _ => exact counts inside

theorem runs_closeGroup (inside : start.Inside reader) (group : Expression) :
    Runs start (closeGroup group) reader
      (reader.expects (Rule.closeGroup group reader.cursor)) := by
  unfold Rule.closeGroup
  cases rest_eq : reader.cursor.rest with
  | nil => exact (runs_advance?_nil inside rest_eq).next fun inside ↦ runs_fail inside _
  | cons token tail =>
    refine (runs_advance? inside rest_eq).next fun inside ↦ ?_
    cases token with
    | rightParen => exact runs_pure inside _
    | _ => exact (runs_lastIndex inside).next fun inside ↦ runs_fail inside _

end Reading

end RecordSearch
