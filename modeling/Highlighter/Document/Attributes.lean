/-!
# Attributes of an element

Scalar values under names. Names are unique and stand in the order of their code points, so equal
contents make equal tables, however they were filled.
-/

namespace Highlighter

/-- A scalar attribute value. -/
inductive Attribute where
  | flag (value : Bool)
  | number (value : Nat)
  | text (value : String)
deriving DecidableEq, Repr

/-- Puts a value under a name in a list that is ordered by name. -/
def putSorted (name : String) (value : Attribute) :
    List (String × Attribute) → List (String × Attribute)
  | [] => [(name, value)]
  | (key, old) :: rest =>
    if name < key then (name, value) :: (key, old) :: rest
    else if name = key then (name, value) :: rest
    else (key, old) :: putSorted name value rest

private theorem lt_of_not_lt_of_ne {a b : String} (h : ¬a < b) (hne : a ≠ b) : b < a := by
  rcases String.le_total a b with hab | hba
  · exact absurd (String.le_antisymm hab (String.not_lt.mp h)) hne
  · exact String.not_le.mp fun hab => hne (String.le_antisymm hab hba)

theorem mem_putSorted {name : String} {value : Attribute} {entries : List (String × Attribute)}
    {entry : String × Attribute} (h : entry ∈ putSorted name value entries) :
    entry = (name, value) ∨ entry ∈ entries := by
  induction entries with
  | nil => simpa [putSorted] using h
  | cons head rest ih =>
    unfold putSorted at h
    split at h
    · simpa using h
    · split at h
      · rcases List.mem_cons.mp h with h | h <;> simp [h]
      · rcases List.mem_cons.mp h with h | h
        · simp [h]
        · rcases ih h with h | h <;> simp [h]

/-- Putting a value in keeps the order of the names. -/
theorem putSorted_pairwise (name : String) (value : Attribute) (entries : List (String × Attribute))
    (h : entries.Pairwise (·.1 < ·.1)) : (putSorted name value entries).Pairwise (·.1 < ·.1) := by
  induction entries with
  | nil => simp [putSorted]
  | cons head rest ih =>
    obtain ⟨hhead, hrest⟩ := List.pairwise_cons.mp h
    unfold putSorted
    -- The value goes in front of the first greater name, in the place of its own, or further behind.
    split
    case isTrue hlt =>
      refine List.pairwise_cons.mpr ⟨fun entry hentry => ?_, h⟩
      rcases List.mem_cons.mp hentry with rfl | hmem
      · exact hlt
      · exact String.lt_trans hlt (hhead entry hmem)
    case isFalse hlt =>
      split
      case isTrue heq =>
        subst heq
        exact List.pairwise_cons.mpr ⟨hhead, hrest⟩
      case isFalse hne =>
        refine List.pairwise_cons.mpr ⟨fun entry hentry => ?_, ih hrest⟩
        rcases mem_putSorted hentry with rfl | hmem
        · exact lt_of_not_lt_of_ne hlt hne
        · exact hhead entry hmem

/-- Of two values put in under one name, the second counts. -/
theorem putSorted_putSorted (name : String) (first second : Attribute)
    (entries : List (String × Attribute)) :
    putSorted name second (putSorted name first entries) = putSorted name second entries := by
  induction entries with
  | nil => simp [putSorted]
  | cons head rest ih =>
    obtain ⟨key, old⟩ := head
    -- The second value is looked for along the same names, so it meets the first one.
    by_cases hlt : name < key
    · simp only [putSorted, if_pos hlt, if_neg (String.lt_irrefl name), ↓reduceIte]
    · by_cases heq : name = key
      · simp only [putSorted, if_neg hlt, if_pos heq, if_neg (String.lt_irrefl name), ↓reduceIte]
      · simp only [putSorted, if_neg hlt, if_neg heq, ih]

/-- A table of attributes, in the order of the names. -/
structure Attributes where
  entries : List (String × Attribute)
  sorted : entries.Pairwise (·.1 < ·.1)

namespace Attributes

/-- No attributes. -/
def empty : Attributes := ⟨[], List.Pairwise.nil⟩

instance : Inhabited Attributes := ⟨empty⟩

/-- Two tables with the same entries are one. -/
theorem ext {a b : Attributes} (h : a.entries = b.entries) : a = b := by
  cases a; cases b; cases h; rfl

instance : DecidableEq Attributes := fun a b =>
  if h : a.entries = b.entries then isTrue (ext h) else isFalse fun hab => h (hab ▸ rfl)

instance : Repr Attributes := ⟨fun attributes n => reprPrec attributes.entries n⟩

/-- Puts a value under a name, in place of an earlier one. -/
def insert (attributes : Attributes) (name : String) (value : Attribute) : Attributes :=
  ⟨putSorted name value attributes.entries, putSorted_pairwise _ _ _ attributes.sorted⟩

/-- The value under a name. -/
def get? (attributes : Attributes) (name : String) : Option Attribute :=
  attributes.entries.lookup name

/-- The value under a name, if it is a text. -/
def text? (attributes : Attributes) (name : String) : Option String :=
  match attributes.get? name with
  | some (.text value) => some value
  | _ => none

/-- The value under a name, if it is a number. -/
def number? (attributes : Attributes) (name : String) : Option Nat :=
  match attributes.get? name with
  | some (.number value) => some value
  | _ => none

/-- The value under a name, if it is a truth value. -/
def flag? (attributes : Attributes) (name : String) : Option Bool :=
  match attributes.get? name with
  | some (.flag value) => some value
  | _ => none

/-- The table with these entries; a later entry stands in place of an earlier one of its name. -/
def ofList (entries : List (String × Attribute)) : Attributes :=
  entries.foldl (fun attributes entry => attributes.insert entry.1 entry.2) empty

theorem insert_insert (attributes : Attributes) (name : String) (first second : Attribute) :
    (attributes.insert name first).insert name second = attributes.insert name second :=
  ext (putSorted_putSorted ..)

/-- A value just put in is the one found. -/
theorem get?_insert_self (attributes : Attributes) (name : String) (value : Attribute) :
    (attributes.insert name value).get? name = some value := by
  obtain ⟨entries, sorted⟩ := attributes
  simp only [insert, get?]
  -- The order of the names plays no part in finding one of them.
  clear sorted
  induction entries with
  | nil => simp [putSorted]
  | cons head rest ih =>
    unfold putSorted
    split
    · simp
    · split
      · simp
      case isFalse hne =>
        rw [List.lookup_cons, beq_eq_false_iff_ne.mpr hne]
        exact ih

/-- A value put in is not found under other names. -/
theorem get?_insert_of_ne (attributes : Attributes) {name other : String} (h : other ≠ name) (value : Attribute) :
    (attributes.insert name value).get? other = attributes.get? other := by
  obtain ⟨entries, sorted⟩ := attributes
  have hname : (other == name) = false := beq_eq_false_iff_ne.mpr h
  simp only [insert, get?]
  clear sorted
  induction entries with
  | nil => rw [putSorted, List.lookup_cons, hname]
  | cons head rest ih =>
    obtain ⟨key, old⟩ := head
    unfold putSorted
    split
    · rw [List.lookup_cons, hname]
    · split
      case isTrue heq => rw [← heq, List.lookup_cons, hname, List.lookup_cons, hname]
      case isFalse hne => rw [List.lookup_cons, List.lookup_cons, ih]

end Attributes

end Highlighter
