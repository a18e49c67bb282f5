namespace EventBus

abbrev Entries (α : Type u) := List (String × α)

namespace Entries

variable {α : Type u} {β : Type v}

/-- Strictly ascending by code point, which is also byte order in UTF-8. -/
def Ascending (entries : Entries α) : Prop := entries.Pairwise fun a b => a.1 < b.1

/-- A key that is already present keeps its place and takes the new value. -/
def insert (key : String) (value : α) : Entries α → Entries α
  | [] => [(key, value)]
  | (k, v) :: rest =>
    if key < k then (key, value) :: (k, v) :: rest
    else if key = k then (key, value) :: rest
    else (k, v) :: insert key value rest

def find? (key : String) : Entries α → Option α
  | [] => none
  | (k, v) :: rest => if k = key then some v else find? key rest

def contains (key : String) (entries : Entries α) : Bool := (find? key entries).isSome

def erase (key : String) (entries : Entries α) : Entries α := entries.filter fun e => e.1 ≠ key

/-- Of two values for one key the later one stays. -/
def ofList (list : List (String × α)) : Entries α :=
  list.foldl (fun entries e => insert e.1 e.2 entries) []

def keys (entries : Entries α) : List String := entries.map (·.1)

theorem lt_of_not_lt_of_ne {a b : String} (h : ¬ a < b) (hne : a ≠ b) : b < a := by
  rcases Classical.em (b < a) with hlt | hlt
  · exact hlt
  · exact absurd (String.le_antisymm (String.not_lt.1 hlt) (String.not_lt.1 h)) hne

theorem mem_insert {key : String} {value : α} {entries : Entries α} {e : String × α}
    (h : e ∈ insert key value entries) : e = (key, value) ∨ e ∈ entries := by
  induction entries with
  | nil => simpa [insert] using h
  | cons head rest ih =>
    obtain ⟨k, v⟩ := head
    simp only [insert] at h
    split at h
    · simpa using h
    · split at h
      · simp only [List.mem_cons] at h ⊢
        rcases h with h | h
        · exact .inl h
        · exact .inr (.inr h)
      · simp only [List.mem_cons] at h ⊢
        rcases h with h | h
        · exact .inr (.inl h)
        · rcases ih h with h | h
          · exact .inl h
          · exact .inr (.inr h)

theorem ascending_insert {key : String} {value : α} {entries : Entries α}
    (h : Ascending entries) : Ascending (insert key value entries) := by
  induction entries with
  | nil => simp [Ascending, insert]
  | cons head rest ih =>
    obtain ⟨k, v⟩ := head
    have hrest := (List.pairwise_cons.1 h).2
    have hhead := (List.pairwise_cons.1 h).1
    simp only [insert]
    split
    · next hlt =>
      refine List.pairwise_cons.2 ⟨fun e he => ?_, h⟩
      rcases List.mem_cons.1 he with rfl | he
      · exact hlt
      · exact String.lt_trans hlt (hhead e he)
    · next hlt =>
      split
      · next heq => exact List.pairwise_cons.2 ⟨fun e he => heq ▸ hhead e he, hrest⟩
      · next hne =>
        refine List.pairwise_cons.2 ⟨fun e he => ?_, ih hrest⟩
        rcases mem_insert he with rfl | he
        · exact lt_of_not_lt_of_ne hlt hne
        · exact hhead e he

theorem ascending_erase {key : String} {entries : Entries α} (h : Ascending entries) :
    Ascending (erase key entries) := h.filter _

theorem ascending_map {f : String × α → β} {entries : Entries α} (h : Ascending entries) :
    Ascending (entries.map fun e => (e.1, f e)) := by
  unfold Ascending at h ⊢
  rw [List.pairwise_map]
  exact h

theorem find?_insert (key k : String) (value : α) (entries : Entries α) :
    find? k (insert key value entries) = if key = k then some value else find? k entries := by
  induction entries with
  | nil => simp [insert, find?]
  | cons head rest ih =>
    obtain ⟨k', v⟩ := head
    simp only [insert]
    split
    · simp [find?]
    · split
      · next heq => subst heq; simp only [find?]; split <;> rfl
      · next hne =>
        simp only [find?, ih]
        by_cases h : k' = k
        · subst h; simp [hne]
        · simp [h]

theorem find?_erase (key k : String) (entries : Entries α) :
    find? k (erase key entries) = if key = k then none else find? k entries := by
  induction entries with
  | nil => simp [erase, find?]
  | cons head rest ih =>
    obtain ⟨k', v⟩ := head
    unfold erase at ih ⊢
    by_cases h : k' = key
    · subst h
      simp only [List.filter_cons, ne_eq, not_true_eq_false, decide_false, Bool.false_eq_true,
        ↓reduceIte, ih, find?]
      split <;> rfl
    · simp only [List.filter_cons, ne_eq, h, not_false_eq_true, decide_true, ↓reduceIte, find?, ih]
      by_cases h' : k' = k
      · subst h'; simp [Ne.symm h]
      · simp [h']

end Entries

structure SortedMap (α : Type u) where
  entries : Entries α
  ascending : entries.Ascending

namespace SortedMap

variable {α : Type u}

def empty : SortedMap α := ⟨[], List.Pairwise.nil⟩

instance : EmptyCollection (SortedMap α) := ⟨empty⟩

instance : Inhabited (SortedMap α) := ⟨empty⟩

def get? (m : SortedMap α) (key : String) : Option α := m.entries.find? key

def contains (m : SortedMap α) (key : String) : Bool := m.entries.contains key

def insert (m : SortedMap α) (key : String) (value : α) : SortedMap α :=
  ⟨m.entries.insert key value, Entries.ascending_insert m.ascending⟩

def erase (m : SortedMap α) (key : String) : SortedMap α :=
  ⟨m.entries.erase key, Entries.ascending_erase m.ascending⟩

/-- A key that is already present keeps its value. -/
def insertNew (m : SortedMap α) (key : String) (value : α) : SortedMap α :=
  if m.contains key then m else m.insert key value

/-- Of two values for one key the later one stays. -/
def ofList (list : List (String × α)) : SortedMap α :=
  list.foldl (fun m e => m.insert e.1 e.2) empty

def mapValues {β : Type v} (m : SortedMap α) (f : String → α → β) : SortedMap β :=
  ⟨m.entries.map fun e => (e.1, f e.1 e.2),
    Entries.ascending_map (f := fun e => f e.1 e.2) m.ascending⟩

def adjust (m : SortedMap α) (key : String) (f : α → α) : SortedMap α :=
  m.mapValues fun k v => if k = key then f v else v

def keys (m : SortedMap α) : List String := m.entries.map (·.1)

def values (m : SortedMap α) : List α := m.entries.map (·.2)

def size (m : SortedMap α) : Nat := m.entries.length

def isEmpty (m : SortedMap α) : Bool := m.entries.isEmpty

@[simp] theorem get?_empty (key : String) : (empty : SortedMap α).get? key = none := rfl

@[simp] theorem get?_insert (m : SortedMap α) (key k : String) (value : α) :
    (m.insert key value).get? k = if key = k then some value else m.get? k :=
  Entries.find?_insert key k value m.entries

@[simp] theorem get?_erase (m : SortedMap α) (key k : String) :
    (m.erase key).get? k = if key = k then none else m.get? k :=
  Entries.find?_erase key k m.entries

@[simp] theorem get?_mapValues {β : Type v} (m : SortedMap α) (f : String → α → β) (k : String) :
    (m.mapValues f).get? k = (m.get? k).map (f k) := by
  obtain ⟨entries, h⟩ := m
  simp only [get?, mapValues]
  clear h
  induction entries with
  | nil => rfl
  | cons head rest ih =>
    obtain ⟨k', v⟩ := head
    simp only [List.map_cons, Entries.find?, ih]
    split
    · next h => subst h; rfl
    · rfl

@[simp] theorem get?_adjust (m : SortedMap α) (key k : String) (f : α → α) :
    (m.adjust key f).get? k = if k = key then (m.get? k).map f else m.get? k := by
  simp only [adjust, get?_mapValues]
  split
  · rfl
  · simp

end SortedMap
end EventBus
