import RecordSearch.Proofs.Acceptance
import RecordSearch.Proofs.Enclosing
import RecordSearch.Proofs.Meaning

/-!
# Matching whole texts

To match whole texts a regular expression is written once more, in a group between the two ends of
a text.  What is between them is the expression itself, whatever flags, alternatives or comments it
has: the group keeps them in.  So the second pattern succeeds if and only if the expression can
match the text from its start to its end, in any of its ways and not only in the preferred one.
-/

namespace RecordSearch

namespace Regex

variable {text : Array Char} {regex : Regex} {start stop : Nat}

theorem matches_cat_iff {first second : Regex} : Matches text (.cat first second) start stop ↔
    ∃ middle, Matches text first start middle ∧ Matches text second middle stop := by
  constructor
  · rintro (_ | _ | _ | ⟨before, behind⟩)
    exact ⟨_, before, behind⟩
  · rintro ⟨middle, before, behind⟩
    exact .cat before behind

theorem matches_empty_iff : Matches text .empty start stop ↔ stop = start := by
  constructor
  · rintro ⟨⟩
    rfl
  · rintro rfl
    exact .empty _

theorem matches_look_iff {condition : Look} : Matches text (.look condition) start stop ↔
    stop = start ∧ condition.holds (before? text start) text[start]? := by
  constructor
  · rintro (_ | _ | holds)
    exact ⟨rfl, holds⟩
  · rintro ⟨rfl, holds⟩
    exact .look holds

theorem holds_textStart_iff (fits : start ≤ text.size) :
    Look.textStart.holds (before? text start) text[start]? ↔ start = 0 := by
  cases start with
  | zero => exact iff_of_true rfl rfl
  | succ index =>
    have found : text[index]? = some text[index] := Array.getElem?_eq_getElem fits
    rw [Look.holds, before?, found]
    exact iff_of_false Bool.false_ne_true (Nat.succ_ne_zero index)

theorem holds_textEnd_iff (fits : stop ≤ text.size) :
    Look.textEnd.holds (before? text stop) text[stop]? ↔ stop = text.size := by
  rw [Look.holds, Option.isNone_iff_eq_none, Array.getElem?_eq_none_iff]
  exact ⟨Nat.le_antisymm fits, fun same ↦ Nat.le_of_eq same.symm⟩

/-- Between the ends of a text an expression matches the whole text or nothing. -/
theorem matches_around_whole (fits : stop ≤ text.size) :
    Matches text (Enclosure.whole.around regex) start stop ↔
      start = 0 ∧ stop = text.size ∧ Matches text regex start stop := by
  unfold Enclosure.around
  constructor
  · intro h
    obtain ⟨_, front, last⟩ := matches_cat_iff.1 h
    obtain ⟨_, before, inside⟩ := matches_cat_iff.1 front
    obtain ⟨_, nothing, first⟩ := matches_cat_iff.1 before
    obtain rfl := matches_empty_iff.1 nothing
    obtain ⟨rfl, atStart⟩ := matches_look_iff.1 first
    obtain ⟨rfl, atEnd⟩ := matches_look_iff.1 last
    have fits' := Nat.le_trans inside.le fits
    exact ⟨(holds_textStart_iff fits').1 atStart, (holds_textEnd_iff fits).1 atEnd, inside⟩
  · rintro ⟨rfl, rfl, inside⟩
    have atStart : Matches text (.look .textStart) 0 0 :=
      .look ((holds_textStart_iff (Nat.zero_le _)).2 rfl)
    exact .cat (.cat (.cat (.empty 0) atStart) inside) (.look ((holds_textEnd_iff fits).2 rfl))

/-- Between the anchors of a whole text an expression matches only the whole. -/
theorem isMatch_around_whole (regex : Regex) (text : Array Char) :
    (Enclosure.whole.around regex).isMatch text = true ↔ Matches text regex 0 text.size := by
  rw [isMatch_iff_matches]
  constructor
  · rintro ⟨start, stop, _, fits, h⟩
    obtain ⟨rfl, rfl, inside⟩ := (matches_around_whole fits).1 h
    exact inside
  · intro inside
    exact ⟨0, text.size, Nat.zero_le _, Nat.le_refl _,
      (matches_around_whole (Nat.le_refl _)).2 ⟨rfl, rfl, inside⟩⟩

end Regex

namespace Needle

open Regex (Matches)

variable {value : String} {caseSensitive : Bool} {anywhere whole : Pattern}

/-- The pattern for whole texts is the expression between the ends of the text. -/
theorem regex_whole_of_compiles (h : Compiles ⟨caseSensitive, true⟩ value anywhere whole) :
    whole.regex = Regex.Enclosure.whole.around anywhere.regex := by
  obtain ⟨regex, compiled, rfl⟩ := Option.map_eq_some_iff.1 h.1
  obtain ⟨regex', compiled', rfl⟩ := Option.map_eq_some_iff.1 h.2
  rw [toList_wholeSource] at compiled'
  obtain both | neither := Regex.compile?_enclose compiled
  · rw [both] at compiled'
    exact (Option.some_inj.1 compiled').symm
  · rw [neither] at compiled'
    cases compiled'

end Needle

end RecordSearch
