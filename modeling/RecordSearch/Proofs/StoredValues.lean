import Mathlib.Data.List.Induction
import RecordSearch.Proofs.KeywordList
import RecordSearch.Proofs.Meaning

/-!
# Stored values

An entry comes about by setting fields and adding keywords one after the other.  Every such update
stores a value under a name or stores nothing, and a field holds what was stored last under its
name, in whatever case the name was written then.  So a field term sees that value and no other.
Which of two fields with different names was set first cannot be seen by any search.
-/

namespace RecordSearch

open Unicode (lowercase)

namespace Fields

variable {fields other : Fields} {name value : String}

theorem nodup_names (fields : Fields) : (fields.entries.map Prod.fst).Nodup := by
  rw [List.Nodup, List.pairwise_map]
  exact fields.sorted.imp String.ne_of_lt

theorem mem_entries_iff : (name, value) ∈ fields.entries ↔ fields.get? name = some value := by
  unfold get?
  constructor
  · intro member
    cases found : fields.entries.find? fun entry ↦ entry.1 == name with
    | none => exact absurd (beq_self_eq_true name) (List.find?_eq_none.1 found _ member)
    | some entry =>
      have named := List.find?_some found
      have same : entry = (name, value) := List.inj_on_of_nodup_map fields.nodup_names
        (List.mem_of_find?_eq_some found) member (beq_iff_eq.1 named)
      rw [same]
      rfl
  · intro found
    obtain ⟨entry, first, rfl⟩ := Option.map_eq_some_iff.1 found
    have named := List.find?_some first
    rw [← beq_iff_eq.1 named]
    exact List.mem_of_find?_eq_some first

/-- Fields with the same values under all names are the same. -/
theorem ext_get? (h : ∀ name, fields.get? name = other.get? name) : fields = other := by
  have entries_perm : fields.entries.Perm other.entries := by
    refine (List.perm_ext_iff_of_nodup fields.nodup_names.of_map other.nodup_names.of_map).2 ?_
    rintro ⟨name, value⟩
    rw [mem_entries_iff, mem_entries_iff, h]
  have entries_eq : fields.entries = other.entries := by
    refine List.Perm.eq_of_pairwise ?_ fields.sorted other.sorted entries_perm
    intro left right _ _ before behind
    exact absurd behind (String.lt_asymm before)
  cases fields
  cases other
  cases entries_eq
  rfl

theorem set_of_get? (h : fields.get? name = some value) : fields.set name value = fields := by
  apply ext_get?
  intro sought
  rw [get?_set]
  split
  · rename_i same
    rw [← same, h]
  · rfl

/-- Fields of different names can be set in either order. -/
theorem set_comm {name' : String} (different : name ≠ name') (fields : Fields)
    (value value' : String) :
    (fields.set name value).set name' value' = (fields.set name' value').set name value := by
  apply ext_get?
  intro sought
  simp only [get?_set]
  by_cases first : name = sought
  · have second : name' ≠ sought := fun second ↦ different (first.trans second.symm)
    rw [if_pos first, if_neg second, if_pos first]
  · rw [if_neg first, if_neg first]

/-- Stores values under the lower case of their names, one after the other. -/
def store (fields : Fields) (stored : List (String × String)) : Fields :=
  stored.foldl (fun fields entry ↦ fields.set (lowercase entry.1) entry.2) fields

/-- The value is the last one among those that are stored under a name with the given lower case. -/
def IsLast (name : String) (stored : List (String × String)) (value : String) : Prop :=
  ∃ before typed after, stored = before ++ (typed, value) :: after ∧ lowercase typed = name ∧
    ∀ later ∈ after, lowercase later.1 ≠ name

/-- The last value stored under a name is the first one found from the end. -/
theorem isLast_iff_find? {stored : List (String × String)} : IsLast name stored value ↔
    (stored.reverse.find? fun entry ↦ lowercase entry.1 == name).map Prod.snd = some value := by
  rw [Option.map_eq_some_iff]
  constructor
  · rintro ⟨before, typed, after, rfl, named, others⟩
    refine ⟨(typed, value), List.find?_eq_some_iff_append.2 ⟨beq_iff_eq.2 named, after.reverse,
      before.reverse, by simp, ?_⟩, rfl⟩
    intro later member
    simpa using others later (List.mem_reverse.1 member)
  · rintro ⟨⟨typed, value⟩, found, rfl⟩
    obtain ⟨named, after, before, stored_eq, others⟩ := List.find?_eq_some_iff_append.1 found
    refine ⟨before.reverse, typed, after.reverse, ?_, beq_iff_eq.1 named, ?_⟩
    · rw [← stored.reverse_reverse, stored_eq]
      simp
    · intro later member
      simpa using others later (List.mem_reverse.1 member)

/-- A name gets the last value that was stored under it. -/
theorem get?_store_empty (stored : List (String × String)) :
    (empty.store stored).get? name = some value ↔ IsLast name stored value := by
  rw [isLast_iff_find?]
  induction stored using List.reverseRecOn with
  | nil => rfl
  | append_singleton stored last ih =>
    rw [store, List.foldl_concat, get?_set, List.reverse_concat, List.find?_cons]
    by_cases named : lowercase last.1 = name
    · rw [if_pos named, beq_iff_eq.2 named, Option.map_some]
    · rw [if_neg named, beq_eq_false_iff_ne.2 named]
      exact ih

end Fields

/-- Any name but three is the name of a field. -/
theorem Field.ofName_eq_named {typed : String}
    (concrete : lowercase typed ∉ ["anyfield", "anykeyword", "entrytype"]) :
    ofName typed = .named (lowercase typed) := by
  simp only [List.mem_cons, List.not_mem_nil, or_false, not_or] at concrete
  unfold ofName
  split
  · rename_i h
    exact absurd h concrete.1
  · rename_i h
    exact absurd h concrete.2.1
  · rename_i h
    exact absurd h concrete.2.2
  · rfl

namespace Entry

open Fields (IsLast)

inductive Update
  /-- Sets a field, whether for itself or in a chain that makes an entry. -/
  | setField (name value : String)
  | addKeyword (keyword : String) (delimiter : Char)

def update (entry : Entry) : Update → Entry
  | .setField name value => entry.setField name value
  | .addKeyword keyword delimiter => entry.addKeyword keyword delimiter

def updateAll (entry : Entry) (updates : List Update) : Entry := updates.foldl update entry

/-- The name and the value that an update stores in an entry, if it stores any.  A keyword is stored
together with the list that it changes. -/
def stored? (entry : Entry) : Update → Option (String × String)
  | .setField name value => some (name, value)
  | .addKeyword keyword delimiter =>
    let text? := (entry.addKeyword keyword delimiter).field? keywordsField
    if text? = entry.field? keywordsField then none else text?.map (keywordsField, ·)

/-- All that updates store in an entry, from left to right. -/
def stored (entry : Entry) : List Update → List (String × String)
  | [] => []
  | update :: updates =>
    (entry.stored? update).toList ++ stored (entry.update update) updates

variable {name name' value : String} {updates : List Update}

theorem fields_addKeyword (entry : Entry) (keyword : String) (delimiter : Char) :
    (entry.addKeyword keyword delimiter).fields =
      entry.fields.store (entry.stored? (.addKeyword keyword delimiter)).toList := by
  by_cases passes : entry.PassesOver keyword delimiter
  · rw [stored?, addKeyword_of_passesOver passes]
    simp only [if_pos]
    rfl
  · rw [stored?, addKeyword_of_not_passesOver passes]
    simp only [field?, Fields.get?_set, if_pos]
    split
    · rename_i same
      exact Fields.set_of_get? same.symm
    · have lower : lowercase keywordsField = keywordsField := by decide +kernel
      rw [Option.map_some, Option.toList_some, Fields.store, List.foldl_cons, lower]
      rfl

theorem eq_of_fields {first second : Entry} (type_eq : first.entryType = second.entryType)
    (fields_eq : first.fields = second.fields) : first = second := by
  cases first
  cases second
  rw [mk.injEq]
  exact ⟨type_eq, fields_eq⟩

/-- A keyword is stored in the field of keywords if and only if it changes the entry. -/
theorem addKeyword_ne_iff (entry : Entry) (keyword : String) (delimiter : Char) :
    entry.addKeyword keyword delimiter ≠ entry ↔
      ∃ text, entry.stored? (.addKeyword keyword delimiter) = some (keywordsField, text) := by
  have fields_eq := fields_addKeyword entry keyword delimiter
  constructor
  · intro changed
    cases found : entry.stored? (.addKeyword keyword delimiter) with
    | none =>
      rw [found] at fields_eq
      exact absurd (eq_of_fields (entryType_addKeyword entry keyword delimiter) fields_eq) changed
    | some storing =>
      simp only [stored?] at found
      split at found
      · cases found
      · obtain ⟨text, _, rfl⟩ := Option.map_eq_some_iff.1 found
        exact ⟨text, rfl⟩
  · rintro ⟨text, found⟩ same
    rw [stored?, same] at found
    simp only [if_pos] at found
    cases found

/-- What an entry holds after an update is what is stored in it. -/
theorem fields_update (entry : Entry) (update : Update) :
    (entry.update update).fields = entry.fields.store (entry.stored? update).toList := by
  cases update with
  | setField name value => rfl
  | addKeyword keyword delimiter => exact fields_addKeyword entry keyword delimiter

/-- A run of updates stores its values one after the other. -/
theorem fields_updateAll (entry : Entry) (updates : List Update) :
    (entry.updateAll updates).fields = entry.fields.store (entry.stored updates) := by
  induction updates generalizing entry with
  | nil => rfl
  | cons update updates ih =>
    calc
      (entry.updateAll (update :: updates)).fields =
          ((entry.update update).updateAll updates).fields := rfl
      _ = (entry.fields.store (entry.stored? update).toList).store
          ((entry.update update).stored updates) := by rw [ih, fields_update]
      _ = entry.fields.store (entry.stored (update :: updates)) := List.foldl_append.symm

/-- A field of an entry holds the last value that was stored under its name. -/
theorem field?_updateAll_ofType (entryType : String) :
    ((ofType entryType).updateAll updates).field? name = some value ↔
      IsLast name ((ofType entryType).stored updates) value := by
  rw [field?, fields_updateAll]
  exact Fields.get?_store_empty _

/-- Values of different names can be stored in either order. -/
theorem updateAll_swap (different : lowercase name ≠ lowercase name') (entry : Entry)
    (before after : List Update) (value value' : String) :
    entry.updateAll (before ++ .setField name value :: .setField name' value' :: after) =
      entry.updateAll (before ++ .setField name' value' :: .setField name value :: after) := by
  have same : ∀ entry : Entry, (entry.setField name value).setField name' value' =
      (entry.setField name' value').setField name value := by
    intro entry
    exact congrArg (mk entry.entryType) (Fields.set_comm different entry.fields value value')
  simp only [updateAll, List.foldl_append, List.foldl_cons, update, same]

/-- A field term that names no part of all records sees the last value that was stored under the
name, in whatever case both were written, and is false if there is none.  A keyword stores the list
anew where it changes it.  No search can tell in which order two fields were set whose names
differ. -/
theorem holds_named_iff_isLast (entryType : String) :
    (∀ (updates : List Update) (typed : String),
      lowercase typed ∉ ["anyfield", "anykeyword", "entrytype"] →
        ∀ (comparison : Comparison) (value : String) (options : SearchOptions) (delimiter : Char),
          (Condition.ofExpression options (.field (.ofName typed) comparison value)).holds
              ((ofType entryType).updateAll updates).toRecord delimiter = true ↔
            ∃ text, IsLast (lowercase typed) ((ofType entryType).stored updates) text ∧
              comparison.Holds options value text) ∧
    (∀ (entry : Entry) (keyword : String) (delimiter : Char),
      entry.addKeyword keyword delimiter ≠ entry ↔
        ∃ text, entry.stored? (.addKeyword keyword delimiter) = some (keywordsField, text)) ∧
    ∀ (before after : List Update) (name value name' value' : String),
      lowercase name ≠ lowercase name' →
        ∀ (e : Expression) (options : SearchOptions) (delimiter : Char),
          (Condition.ofExpression options e).holds ((ofType entryType).updateAll
              (before ++ .setField name value :: .setField name' value' :: after)).toRecord
                delimiter =
            (Condition.ofExpression options e).holds ((ofType entryType).updateAll
              (before ++ .setField name' value' :: .setField name value :: after)).toRecord
                delimiter := by
  refine ⟨fun updates typed concrete comparison value options delimiter ↦ ?_, addKeyword_ne_iff,
    fun before after name value name' value' different e options delimiter ↦ ?_⟩
  · have prepares := Needle.prepares_ofValue options value
    rw [Field.ofName_eq_named concrete, Condition.ofExpression, Condition.holds,
      Condition.fieldHolds, Option.any_eq_true]
    refine exists_congr fun text ↦ and_congr ?_ (prepares.compare_iff comparison text)
    exact field?_updateAll_ofType entryType
  · rw [updateAll_swap different]

/-- The Kelvin sign is a `k` in lower case.  What was stored last under the name is the list with
the keyword that was added, and not the value that was set before. -/
theorem holds_named_iff_isLast_kelvin :
    let updates : List Update :=
      [.setField "Keywords" "fig", .addKeyword "kiwi" ',', .setField "Year" "7",
        .setField "Title" "Fruit", .addKeyword " kiwi" ',']
    lowercase "\u212AEYWORDS" ∉ ["anyfield", "anykeyword", "entrytype"] ∧
      (Condition.ofExpression {} (.field (.ofName "\u212AEYWORDS") .exact "FIG, kiwi")).holds
        ((ofType "misc").updateAll updates).toRecord ',' = true ∧
      lowercase "Year" ≠ lowercase "Title" ∧
      (Condition.ofExpression {} (.term "Fruit")).holds ((ofType "misc").updateAll
          ([] ++ .setField "Year" "7" :: .setField "Title" "Fruit" :: [])).toRecord ',' =
        (Condition.ofExpression {} (.term "Fruit")).holds ((ofType "misc").updateAll
          ([] ++ .setField "Title" "Fruit" :: .setField "Year" "7" :: [])).toRecord ',' := by
  intro updates
  obtain ⟨sees, _, swaps⟩ := holds_named_iff_isLast "misc"
  have concrete : lowercase "\u212AEYWORDS" ∉ ["anyfield", "anykeyword", "entrytype"] := by
    decide +kernel
  have different : lowercase "Year" ≠ lowercase "Title" := by decide +kernel
  have last : IsLast (lowercase "\u212AEYWORDS") ((ofType "misc").stored updates) "fig, kiwi" :=
    ⟨[("Keywords", "fig")], "keywords", [("Year", "7"), ("Title", "Fruit")], by decide +kernel,
      by decide +kernel, by decide +kernel⟩
  have whole : Comparison.exact.Holds {} "FIG, kiwi" "fig, kiwi" := by
    change lowercase "fig, kiwi" = lowercase "FIG, kiwi"
    decide +kernel
  refine ⟨concrete, ?_, different, ?_⟩
  · exact (sees updates _ concrete .exact _ {} ',').2 ⟨_, last, whole⟩
  · exact swaps [] [] "Year" "7" "Title" "Fruit" different _ {} ','

end Entry

end RecordSearch
