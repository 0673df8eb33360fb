import Mathlib.Data.List.Nodup
import RecordSearch.Preferences

/-!
# Saved preferences

A document tells what the preferences are, both by the entries that it has and by those that it does
not have: a setting has the value of its entry, or its default where there is none.  Loading finds
the preferences that the document tells, and fails where a known key has a value of another kind.
No other key matters.  Preferences are saved as a document that tells them, so they are loaded again
as they were.
-/

namespace RecordSearch

namespace Document

def keys : Document → List String
  | object entries => entries.map Prod.fst
  | _ => []

end Document

namespace Preferences

def knownKeys : List String := [caseKey, modeKey, delimiterKey]

/-- The setting has this value: the entries have it under the key, or nothing is under the key and
it is the default. -/
def Settles (entries : List (String × Document)) (key : String) (default value : Document) : Prop :=
  (key, value) ∈ entries ∨ key ∉ entries.map Prod.fst ∧ value = default

/-- The entries tell what the preferences are. -/
structure Tells (entries : List (String × Document)) (preferences : Preferences) : Prop where
  caseSensitive :
    Settles entries caseKey (.bool false) (.bool preferences.options.caseSensitive)
  regularExpression :
    Settles entries modeKey (.bool false) (.bool preferences.options.regularExpression)
  delimiter :
    Settles entries delimiterKey (.string ",") (.string (String.singleton preferences.delimiter))

/-- Whatever is under a known key is of the kind that its setting has. -/
structure Readable (entries : List (String × Document)) : Prop where
  caseSensitive : ∀ value, (caseKey, value) ∈ entries → ∃ on, value = .bool on
  regularExpression : ∀ value, (modeKey, value) ∈ entries → ∃ on, value = .bool on
  delimiter :
    ∀ value, (delimiterKey, value) ∈ entries → ∃ c, value = .string (String.singleton c)

/-- The entries have the same values under all known keys, whatever other keys either has. -/
def SameSettings (entries others : List (String × Document)) : Prop :=
  ∀ key ∈ knownKeys, ∀ value, (key, value) ∈ entries ↔ (key, value) ∈ others

variable {entries others before behind : List (String × Document)} {document : Document}
  {preferences : Preferences} {key : String} {default value : Document}

theorem mem_keys_iff : key ∈ entries.map Prod.fst ↔ ∃ value, (key, value) ∈ entries := by
  simp

/-- Under distinct keys an entry is found if and only if it is there. -/
theorem lookup_eq_some_iff_mem (distinct : (entries.map Prod.fst).Nodup) :
    entries.lookup key = some value ↔ (key, value) ∈ entries := by
  rw [List.lookup_eq_some_iff]
  constructor
  · rintro ⟨before, behind, rfl, _⟩
    exact List.mem_append_right before List.mem_cons_self
  · intro member
    obtain ⟨before, behind, rfl⟩ := List.append_of_mem member
    rw [List.map_append, List.map_cons] at distinct
    have fresh : key ∉ before.map Prod.fst := fun earlier ↦
      (List.nodup_middle.1 distinct).notMem (List.mem_append_left _ earlier)
    refine ⟨before, behind, rfl, fun entry earlier ↦ bne_iff_ne.2 fun same ↦ ?_⟩
    exact fresh (List.mem_map.2 ⟨entry, earlier, same.symm⟩)

theorem lookup_eq_none_iff_notMem : entries.lookup key = none ↔ key ∉ entries.map Prod.fst := by
  rw [List.lookup_eq_none_iff, mem_keys_iff, not_exists]
  constructor
  · intro absent value member
    exact absurd rfl (bne_iff_ne.1 (absent _ member))
  · rintro absent ⟨key', value⟩ member
    refine bne_iff_ne.2 ?_
    rintro rfl
    exact absent value member

/-- With distinct keys an entry is settled by the lookup of its key or by the default. -/
theorem settles_iff_lookup (distinct : (entries.map Prod.fst).Nodup) :
    Settles entries key default value ↔ (entries.lookup key).getD default = value := by
  unfold Settles
  rw [← lookup_eq_some_iff_mem distinct, ← lookup_eq_none_iff_notMem]
  cases entries.lookup key with
  | none => simp [eq_comm]
  | some found => simp

/-- A setting has a value of some kind, unless a value of another kind is under its key. -/
theorem exists_settles_iff (Kind : Document → Prop) (byDefault : Kind default)
    (distinct : (entries.map Prod.fst).Nodup) (key : String) :
    (∃ value, Kind value ∧ Settles entries key default value) ↔
      ∀ value, (key, value) ∈ entries → Kind value := by
  simp only [settles_iff_lookup distinct, ← lookup_eq_some_iff_mem distinct, exists_eq_right']
  cases entries.lookup key with
  | none => simpa
  | some found => simp

theorem settles_congr (same : ∀ value, (key, value) ∈ entries ↔ (key, value) ∈ others) :
    Settles entries key default value ↔ Settles others key default value := by
  unfold Settles
  rw [mem_keys_iff, mem_keys_iff, same value, exists_congr same]

/-- A switch is read exactly as its entry settles it. -/
theorem readSwitch?_eq_some_iff (distinct : (entries.map Prod.fst).Nodup) {on : Bool} :
    readSwitch? entries key = some on ↔ Settles entries key (.bool false) (.bool on) := by
  rw [settles_iff_lookup distinct]
  unfold readSwitch?
  cases entries.lookup key with
  | none => simp
  | some found => cases found <;> simp

theorem toList_eq_singleton_iff {text : String} {c : Char} :
    text.toList = [c] ↔ text = String.singleton c := by
  rw [← String.toList_inj, String.toList_singleton]

/-- A delimiter is read exactly when a text of one character settles it. -/
theorem readDelimiter?_eq_some_iff (distinct : (entries.map Prod.fst).Nodup) {c : Char} :
    readDelimiter? entries = some c ↔
      Settles entries delimiterKey (.string ",") (.string (String.singleton c)) := by
  have byDefault : "," = String.singleton defaultDelimiter := rfl
  rw [settles_iff_lookup distinct, byDefault]
  unfold readDelimiter?
  cases entries.lookup delimiterKey with
  | none => simp [← toList_eq_singleton_iff]
  | some found =>
    cases found with
    | string text =>
      simp only [Option.getD_some, Document.string.injEq, ← toList_eq_singleton_iff]
      split
      · rename_i first text_eq
        simp [text_eq]
      · rename_i other
        exact iff_of_false (by simp) (other c)
    | _ => simp

/-- Loading finds the preferences that the entries tell. -/
theorem load?_eq_some_iff_tells (distinct : (entries.map Prod.fst).Nodup) :
    load? (.object entries) = some preferences ↔ Tells entries preferences := by
  unfold load?
  simp only [Option.bind_eq_bind, Option.bind_eq_some_iff, readSwitch?_eq_some_iff distinct,
    readDelimiter?_eq_some_iff distinct]
  constructor
  · rintro ⟨caseSensitive, settlesCase, regularExpression, settlesMode, c, settlesDelimiter, same⟩
    cases same
    exact ⟨settlesCase, settlesMode, settlesDelimiter⟩
  · rintro ⟨settlesCase, settlesMode, settlesDelimiter⟩
    exact ⟨_, settlesCase, _, settlesMode, _, settlesDelimiter, rfl⟩

theorem load?_eq_some_iff (distinct : document.keys.Nodup) : load? document = some preferences ↔
    ∃ entries, document = .object entries ∧ Tells entries preferences := by
  cases document with
  | object entries =>
    rw [load?_eq_some_iff_tells distinct]
    simp
  | _ => simp [load?]

/-- There is something to load if and only if every known key has a value of its kind. -/
theorem exists_tells_iff (distinct : (entries.map Prod.fst).Nodup) :
    (∃ preferences, Tells entries preferences) ↔ Readable entries := by
  have switches := exists_settles_iff (fun value ↦ ∃ on, value = .bool on) ⟨false, rfl⟩ distinct
  have delimiters := exists_settles_iff (fun value ↦ ∃ c, value = .string (String.singleton c))
    ⟨',', rfl⟩ distinct delimiterKey
  constructor
  · rintro ⟨preferences, settlesCase, settlesMode, settlesDelimiter⟩
    exact ⟨(switches caseKey).1 ⟨_, ⟨_, rfl⟩, settlesCase⟩,
      (switches modeKey).1 ⟨_, ⟨_, rfl⟩, settlesMode⟩,
      delimiters.1 ⟨_, ⟨_, rfl⟩, settlesDelimiter⟩⟩
  · rintro ⟨readsCase, readsMode, readsDelimiter⟩
    obtain ⟨_, ⟨caseSensitive, rfl⟩, settlesCase⟩ := (switches caseKey).2 readsCase
    obtain ⟨_, ⟨regularExpression, rfl⟩, settlesMode⟩ := (switches modeKey).2 readsMode
    obtain ⟨_, ⟨c, rfl⟩, settlesDelimiter⟩ := delimiters.2 readsDelimiter
    exact ⟨⟨⟨caseSensitive, regularExpression⟩, c⟩, settlesCase, settlesMode, settlesDelimiter⟩

theorem exists_load?_iff (distinct : document.keys.Nodup) :
    (∃ preferences, load? document = some preferences) ↔
      ∃ entries, document = .object entries ∧ Readable entries := by
  cases document with
  | object entries =>
    simp only [load?_eq_some_iff_tells distinct, exists_tells_iff distinct, Document.object.injEq,
      exists_eq_left']
  | _ => simp [load?]

/-- Saved preferences have distinct keys. -/
theorem nodup_keys_save (preferences : Preferences) : preferences.save.keys.Nodup := by
  have keys_eq : preferences.save.keys = knownKeys := rfl
  rw [keys_eq]
  decide

/-- Preferences are loaded as they were saved. -/
theorem load?_save (preferences : Preferences) : load? preferences.save = some preferences := by
  refine (load?_eq_some_iff (nodup_keys_save preferences)).2 ⟨_, rfl, ?_⟩
  refine ⟨.inl ?_, .inl ?_, .inl ?_⟩
  · exact List.mem_append_left _ List.mem_cons_self
  · exact List.mem_append_left _ (List.mem_cons_of_mem _ List.mem_cons_self)
  · exact List.mem_append_right _ List.mem_cons_self

/-- An entry with an unknown key can be added or removed anywhere. -/
theorem sameSettings_of_unknown (unknown : key ∉ knownKeys) :
    SameSettings (before ++ behind) (before ++ (key, value) :: behind) := by
  intro known isKnown other
  have different : (known, other) ≠ (key, value) := by
    rintro ⟨⟩
    exact unknown isKnown
  simp only [List.mem_append, List.mem_cons, different, false_or]

theorem SameSettings.symm (same : SameSettings entries others) : SameSettings others entries :=
  fun key isKnown value ↦ (same key isKnown value).symm

theorem Tells.of_sameSettings (tells : Tells entries preferences)
    (same : SameSettings entries others) : Tells others preferences where
  caseSensitive := (settles_congr (same caseKey (by decide))).1 tells.caseSensitive
  regularExpression := (settles_congr (same modeKey (by decide))).1 tells.regularExpression
  delimiter := (settles_congr (same delimiterKey (by decide))).1 tells.delimiter

/-- Entries with the same settings are loaded alike. -/
theorem SameSettings.load?_eq (same : SameSettings entries others)
    (distinct : (entries.map Prod.fst).Nodup) (distinct' : (others.map Prod.fst).Nodup) :
    load? (.object entries) = load? (.object others) := by
  apply Option.ext
  intro preferences
  rw [load?_eq_some_iff_tells distinct, load?_eq_some_iff_tells distinct']
  exact ⟨fun tells ↦ tells.of_sameSettings same, fun tells ↦ tells.of_sameSettings same.symm⟩

/-- A document without a key twice can be loaded if and only if it is an object whose switches are
booleans and whose delimiter is a single character, where it has them; what is loaded is what the
entries tell.  Preferences that are saved are loaded as they were, those of a loaded document among
them.  Entries with unknown keys change nothing of this. -/
theorem load?_inverts_save (document : Document) (distinct : document.keys.Nodup) :
    ((∃ preferences, load? document = some preferences) ↔
      ∃ entries, document = .object entries ∧ Readable entries) ∧
    (∀ preferences, load? document = some preferences ↔
      ∃ entries, document = .object entries ∧ Tells entries preferences) ∧
    (∀ preferences, load? (save preferences) = some preferences) ∧
    (∀ preferences, load? document = some preferences →
      load? (save preferences) = load? document) ∧
    ∀ entries others, document = .object entries → (others.map Prod.fst).Nodup →
      SameSettings entries others →
        load? (.object others) = load? document ∧
        ((load? (.object others)).bind fun preferences ↦ load? (save preferences)) =
          (load? document).bind fun preferences ↦ load? (save preferences) := by
  refine ⟨exists_load?_iff distinct, fun preferences ↦ load?_eq_some_iff distinct, load?_save,
    fun preferences loads ↦ ?_, ?_⟩
  · rw [loads, load?_save]
  · rintro entries others rfl distinct' same
    have loads := (same.load?_eq distinct distinct').symm
    exact ⟨loads, by rw [loads]⟩

/-- A key of the options is known only at the top, and nothing else under another key is looked at,
be it `null` or an object with known keys. -/
theorem load?_inverts_save_nested :
    let unknown : List (String × Document) := [("flags", .object [("case_sensitive", .null)])]
    let known : List (String × Document) :=
      [("keyword_delimiter", .string "é"), ("regular_expression", .bool true)]
    let preferences : Preferences := ⟨⟨false, true⟩, 'é'⟩
    (Document.object (known ++ unknown)).keys.Nodup ∧
      load? (.object (known ++ unknown)) = some preferences ∧
      load? (save preferences) = load? (.object (known ++ unknown)) ∧
      load? (.object known) = load? (.object (known ++ unknown)) := by
  intro unknown known preferences
  have distinct : (Document.object (known ++ unknown)).keys.Nodup := by decide
  have onlyKnown : SameSettings (known ++ unknown) known := by
    have added : SameSettings (known ++ []) (known ++ unknown) :=
      sameSettings_of_unknown (by decide)
    rw [List.append_nil] at added
    exact added.symm
  have loads : load? (.object (known ++ unknown)) = some preferences := by decide +kernel
  obtain ⟨_, _, _, again, added⟩ := load?_inverts_save (.object (known ++ unknown)) distinct
  exact ⟨distinct, loads, again preferences loads, (added _ known rfl (by decide) onlyKnown).1⟩

end Preferences

end RecordSearch
