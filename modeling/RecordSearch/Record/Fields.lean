/-!
# Fields

The fields of a record are kept in the order of their names, each name once.  Two tables with the
same look-ups are therefore equal, whatever the order in which their fields were set.
-/

namespace RecordSearch

/-- The named values of a record, in the order of their names. -/
structure Fields where
  entries : List (String × String)
  sorted : entries.Pairwise fun left right ↦ left.1 < right.1
deriving DecidableEq

namespace Fields

def empty : Fields := ⟨[], .nil⟩

def insertEntry (name value : String) : List (String × String) → List (String × String)
  | [] => [(name, value)]
  | (other, old) :: rest =>
    if name < other then (name, value) :: (other, old) :: rest
    else if name = other then (name, value) :: rest
    else (other, old) :: insertEntry name value rest

theorem name_mem_insertEntry {name value : String} {entries : List (String × String)}
    {entry : String × String} (h : entry ∈ insertEntry name value entries) :
    entry.1 = name ∨ entry ∈ entries := by
  fun_induction insertEntry name value entries <;> grind

theorem sorted_insertEntry (name value : String) {entries : List (String × String)}
    (sorted : entries.Pairwise fun left right ↦ left.1 < right.1) :
    (insertEntry name value entries).Pairwise fun left right ↦ left.1 < right.1 := by
  fun_induction insertEntry name value entries with
  | case1 => simp
  | case2 other old rest before =>
    refine .cons ?_ sorted
    intro entry member
    rcases List.mem_cons.1 member with rfl | member
    · exact before
    · exact String.lt_trans before (List.rel_of_pairwise_cons sorted member)
  | case3 => simpa using sorted
  | case4 other old rest notBefore different ih =>
    refine .cons ?_ (ih sorted.of_cons)
    intro entry member
    rcases name_mem_insertEntry member with same | member
    · rw [same]
      exact String.not_le.1 fun le ↦ different (String.le_antisymm le (String.not_lt.1 notBefore))
    · exact List.rel_of_pairwise_cons sorted member

def set (fields : Fields) (name value : String) : Fields :=
  ⟨insertEntry name value fields.entries, sorted_insertEntry name value fields.sorted⟩

def get? (fields : Fields) (name : String) : Option String :=
  (fields.entries.find? fun entry ↦ entry.1 == name).map Prod.snd

theorem find?_insertEntry (name value other : String) (entries : List (String × String)) :
    (insertEntry name value entries).find? (fun entry ↦ entry.1 == other) =
      if name = other then some (name, value)
      else entries.find? fun entry ↦ entry.1 == other := by
  fun_induction insertEntry name value entries with
  | case1 => grind
  | case2 => grind
  | case3 => grind
  | case4 => grind

theorem insertEntry_insertEntry (name value old : String) (entries : List (String × String)) :
    insertEntry name value (insertEntry name old entries) = insertEntry name value entries := by
  fun_induction insertEntry name old entries with
  | case1 => simp [insertEntry]
  | case2 other _ rest before => simp [insertEntry, before]
  | case3 => simp [insertEntry]
  | case4 other _ rest notBefore different ih => simp [insertEntry, notBefore, different, ih]

/-- Setting a field changes its value and no other. -/
@[simp]
theorem get?_set (fields : Fields) (name value other : String) :
    (fields.set name value).get? other =
      if name = other then some value else fields.get? other := by
  simp only [get?, set, find?_insertEntry]
  split <;> rfl

/-- Only the last value of a field is kept. -/
@[simp]
theorem set_set (fields : Fields) (name old value : String) :
    (fields.set name old).set name value = fields.set name value := by
  simp only [set, insertEntry_insertEntry]

def values (fields : Fields) : List String := fields.entries.map Prod.snd

end Fields

end RecordSearch
