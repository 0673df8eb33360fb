import RecordSearch.Regex.Search

/-!
# What a regular expression matches

A regular expression matches parts of a text.  Here this is said without a program and without an
order of preference: an alternative, or a number of repetitions, is as good as any other.  Counted
repetitions are built from simpler ones, and are shown to match what their counts say, also where
the repeated expression can be empty.
-/

namespace RecordSearch.Regex

/-- The expression can match the part of the text from one place to another. -/
inductive Matches (text : Array Char) : Regex → Nat → Nat → Prop
  | empty (place : Nat) : Matches text .empty place place
  | char {members : Unicode.CharClass} {place : Nat} {c : Char} (found : text[place]? = some c)
    (member : members c) : Matches text (.char members) place (place + 1)
  | look {condition : Look} {place : Nat}
    (holds : condition.holds (before? text place) text[place]?) :
    Matches text (.look condition) place place
  | cat {first second : Regex} {start middle stop : Nat} (before : Matches text first start middle)
    (behind : Matches text second middle stop) : Matches text (.cat first second) start stop
  | preferred {preferred other : Regex} {start stop : Nat}
    (inside : Matches text preferred start stop) : Matches text (.alt preferred other) start stop
  | other {preferred other : Regex} {start stop : Nat} (inside : Matches text other start stop) :
    Matches text (.alt preferred other) start stop
  | skipped (greedy : Bool) (body : Regex) (place : Nat) :
    Matches text (.optional greedy body) place place
  | taken (greedy : Bool) {body : Regex} {start stop : Nat}
    (inside : Matches text body start stop) :
    Matches text (.optional greedy body) start stop
  | done (greedy : Bool) (body : Regex) (place : Nat) : Matches text (.star greedy body) place place
  | again {greedy : Bool} {body : Regex} {start middle stop : Nat}
    (first : Matches text body start middle)
    (others : Matches text (.star greedy body) middle stop) :
    Matches text (.star greedy body) start stop
  | once (greedy : Bool) {body : Regex} {start stop : Nat} (inside : Matches text body start stop) :
    Matches text (.plus greedy body) start stop
  | often {greedy : Bool} {body : Regex} {start middle stop : Nat}
    (first : Matches text body start middle)
    (others : Matches text (.plus greedy body) middle stop) :
    Matches text (.plus greedy body) start stop

variable {text : Array Char} {regex body : Regex} {greedy : Bool} {start stop count : Nat}

/-- A match does not end before it begins. -/
theorem Matches.le (h : Matches text regex start stop) : start ≤ stop := by
  induction h with
  | empty | look | skipped | done => exact Nat.le_refl _
  | char => exact Nat.le_succ _
  | cat _ _ ihBefore ihBehind => exact Nat.le_trans ihBefore ihBehind
  | again _ _ ihFirst ihOthers => exact Nat.le_trans ihFirst ihOthers
  | often _ _ ihFirst ihOthers => exact Nat.le_trans ihFirst ihOthers
  | preferred _ ih | other _ ih | taken _ _ ih | once _ _ ih => exact ih

theorem Matches.le_size (h : Matches text regex start stop) (fits : start ≤ text.size) :
    stop ≤ text.size := by
  induction h with
  | empty | look | skipped | done => exact fits
  | char found => exact (Array.getElem?_eq_some_iff.1 found).1
  | cat _ _ ihBefore ihBehind => exact ihBehind (ihBefore fits)
  | again _ _ ihFirst ihOthers => exact ihOthers (ihFirst fits)
  | often _ _ ihFirst ihOthers => exact ihOthers (ihFirst fits)
  | preferred _ ih | other _ ih | taken _ _ ih | once _ _ ih => exact ih fits

theorem matches_power_zero : Matches text (power body 0) start stop ↔ start = stop := by
  constructor
  · rintro ⟨⟩
    rfl
  · rintro rfl
    exact .empty start

theorem matches_power_succ : Matches text (power body (count + 1)) start stop ↔
    ∃ middle, Matches text body start middle ∧ Matches text (power body count) middle stop := by
  constructor
  · rintro (_ | _ | _ | ⟨first, others⟩)
    exact ⟨_, first, others⟩
  · rintro ⟨middle, first, others⟩
    exact .cat first others

/-- Repetitions are matched in two runs, one behind the other. -/
theorem matches_power_add {more : Nat} : Matches text (power body (count + more)) start stop ↔
    ∃ middle, Matches text (power body count) start middle ∧
      Matches text (power body more) middle stop := by
  induction count generalizing start with
  | zero =>
    rw [Nat.zero_add]
    constructor
    · exact fun others ↦ ⟨start, matches_power_zero.2 rfl, others⟩
    · rintro ⟨middle, none, others⟩
      rwa [matches_power_zero.1 none]
  | succ count ih =>
    rw [Nat.add_right_comm, matches_power_succ]
    constructor
    · rintro ⟨middle, first, others⟩
      obtain ⟨middle', some, rest⟩ := ih.1 others
      exact ⟨middle', matches_power_succ.2 ⟨middle, first, some⟩, rest⟩
    · rintro ⟨middle', some, rest⟩
      obtain ⟨middle, first, others⟩ := matches_power_succ.1 some
      exact ⟨middle, first, ih.2 ⟨middle', others, rest⟩⟩

theorem matches_upTo_iff {most : Nat} : Matches text (upTo greedy body most) start stop ↔
    ∃ count ≤ most, Matches text (power body count) start stop := by
  induction most generalizing start with
  | zero =>
    constructor
    · exact fun nothing ↦ ⟨0, Nat.le_refl 0, nothing⟩
    · rintro ⟨count, le, counted⟩
      rwa [Nat.le_zero.1 le] at counted
  | succ most ih =>
    constructor
    · intro h
      cases h with
      | skipped => exact ⟨0, Nat.zero_le _, .empty _⟩
      | taken _ inside =>
        cases inside with
        | cat first others =>
          obtain ⟨count, le, counted⟩ := ih.1 others
          exact ⟨count + 1, Nat.succ_le_succ le, .cat first counted⟩
    · rintro ⟨count, le, counted⟩
      cases count with
      | zero =>
        rw [matches_power_zero.1 counted]
        exact .skipped _ _ _
      | succ count =>
        obtain ⟨middle, first, others⟩ := matches_power_succ.1 counted
        exact .taken _ (.cat first (ih.2 ⟨count, Nat.le_of_succ_le_succ le, others⟩))

/-- A star matches what some number of repetitions matches. -/
theorem matches_star_iff : Matches text (.star greedy body) start stop ↔
    ∃ count, Matches text (power body count) start stop := by
  constructor
  · intro h
    generalize star_eq : Regex.star greedy body = repetition at h
    induction h with
    | done =>
      cases star_eq
      exact ⟨0, .empty _⟩
    | again first _ _ ih =>
      cases star_eq
      obtain ⟨count, counted⟩ := ih rfl
      exact ⟨count + 1, .cat first counted⟩
    | _ => cases star_eq
  · rintro ⟨count, counted⟩
    induction count generalizing start with
    | zero =>
      rw [matches_power_zero.1 counted]
      exact .done _ _ _
    | succ count ih =>
      obtain ⟨middle, first, others⟩ := matches_power_succ.1 counted
      exact .again first (ih others)

/-- A plus matches what some number of repetitions matches, with one at least. -/
theorem matches_plus_iff : Matches text (.plus greedy body) start stop ↔
    ∃ count, Matches text (power body (count + 1)) start stop := by
  constructor
  · intro h
    generalize plus_eq : Regex.plus greedy body = repetition at h
    induction h with
    | once _ inside =>
      cases plus_eq
      exact ⟨0, .cat inside (.empty _)⟩
    | often first _ _ ih =>
      cases plus_eq
      obtain ⟨count, counted⟩ := ih rfl
      exact ⟨count + 1, .cat first counted⟩
    | _ => cases plus_eq
  · rintro ⟨count, counted⟩
    induction count generalizing start with
    | zero =>
      obtain ⟨middle, inside, none⟩ := matches_power_succ.1 counted
      rw [← matches_power_zero.1 none]
      exact .once _ inside
    | succ count ih =>
      obtain ⟨middle, first, others⟩ := matches_power_succ.1 counted
      exact .often first (ih others)

theorem matches_zeroOrMore_iff : Matches text (zeroOrMore greedy body) start stop ↔
    ∃ count, Matches text (power body count) start stop := by
  rw [zeroOrMore]
  split
  · constructor
    · intro h
      cases h with
      | skipped => exact ⟨0, .empty _⟩
      | taken _ inside =>
        obtain ⟨count, counted⟩ := matches_plus_iff.1 inside
        exact ⟨count + 1, counted⟩
    · rintro ⟨count, counted⟩
      cases count with
      | zero =>
        rw [matches_power_zero.1 counted]
        exact .skipped _ _ _
      | succ count => exact .taken _ (matches_plus_iff.2 ⟨count, counted⟩)
  · exact matches_star_iff

/-- A repetition matches as many matches of its body in a row as its counts allow. -/
theorem matches_repeated_iff {least : Nat} {most : Option Nat} (h : ∀ bound ∈ most, least ≤ bound) :
    Matches text (repeated greedy body least most) start stop ↔
      ∃ count, least ≤ count ∧ (∀ bound ∈ most, count ≤ bound) ∧
        Matches text (power body count) start stop := by
  cases most with
  | some bound =>
    have le := h bound rfl
    constructor
    · rintro (_ | _ | _ | ⟨counted, others⟩)
      obtain ⟨more, more_le, rest⟩ := matches_upTo_iff.1 others
      refine ⟨least + more, Nat.le_add_right _ _, ?_, matches_power_add.2 ⟨_, counted, rest⟩⟩
      rintro _ ⟨⟩
      omega
    · rintro ⟨count, least_le, le_most, counted⟩
      have count_le := le_most bound rfl
      rw [← Nat.add_sub_of_le least_le] at counted
      obtain ⟨middle, some, others⟩ := matches_power_add.1 counted
      exact .cat some (matches_upTo_iff.2 ⟨count - least, by omega, others⟩)
  | none =>
    have unbounded : ∀ count : Nat, ∀ bound ∈ (none : Option Nat), count ≤ bound := by simp
    cases least with
    | zero =>
      rw [repeated, matches_zeroOrMore_iff]
      constructor
      · rintro ⟨count, counted⟩
        exact ⟨count, Nat.zero_le _, unbounded count, counted⟩
      · rintro ⟨count, _, _, counted⟩
        exact ⟨count, counted⟩
    | succ least =>
      constructor
      · rintro (_ | _ | _ | ⟨counted, others⟩)
        obtain ⟨more, rest⟩ := matches_plus_iff.1 others
        exact ⟨least + (more + 1), by omega, unbounded _, matches_power_add.2 ⟨_, counted, rest⟩⟩
      · rintro ⟨count, least_le, _, counted⟩
        rw [show count = least + (count - (least + 1) + 1) by omega] at counted
        obtain ⟨middle, some, others⟩ := matches_power_add.1 counted
        exact .cat some (matches_plus_iff.2 ⟨_, others⟩)

end RecordSearch.Regex
