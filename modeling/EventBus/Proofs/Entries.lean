import EventBus.Entries

namespace EventBus

namespace Entries

variable {α : Type u}

theorem insert_of_forall_lt {key : String} {value : α} {entries : Entries α}
    (h : ∀ e ∈ entries, e.1 < key) : insert key value entries = entries ++ [(key, value)] := by
  induction entries with
  | nil => rfl
  | cons head rest ih =>
    have hlt : head.1 < key := h head List.mem_cons_self
    have hne : ¬key = head.1 := fun he => String.lt_irrefl key (by rwa [← he] at hlt)
    simp only [insert, String.lt_asymm hlt, hne, if_false, List.cons_append]
    rw [ih (fun e he => h e (List.mem_cons_of_mem head he))]

theorem foldl_insert_of_ascending {back : Entries α} (front : Entries α)
    (h : Ascending (front ++ back)) :
    back.foldl (fun entries e => insert e.1 e.2 entries) front = front ++ back := by
  induction back generalizing front with
  | nil => simp
  | cons head rest ih =>
    have hlt : ∀ e ∈ front, e.1 < head.1 := fun e he =>
      (List.pairwise_append.mp h).2.2 e he head List.mem_cons_self
    rw [List.foldl_cons, insert_of_forall_lt hlt, ih _ (by simpa using h)]
    simp

theorem ofList_of_ascending {list : Entries α} (h : Ascending list) : ofList list = list :=
  foldl_insert_of_ascending [] h

theorem ascending_ofList (list : List (String × α)) : Ascending (ofList list) := by
  have hfold : ∀ (list : List (String × α)) (entries : Entries α), Ascending entries →
      Ascending (list.foldl (fun entries e => insert e.1 e.2 entries) entries) := by
    intro list
    induction list with
    | nil => exact fun _ h => h
    | cons head rest ih => exact fun _ h => ih _ (ascending_insert h)
  exact hfold list [] List.Pairwise.nil

theorem ascending_keys_ofList (list : List (String × α)) :
    (keys (ofList list)).Pairwise (· < ·) :=
  List.pairwise_map.mpr (ascending_ofList list)

@[simp] theorem find?_append (key : String) (front back : List (String × α)) :
    find? key (front ++ back) = (find? key front).or (find? key back) := by
  induction front with
  | nil => rfl
  | cons head rest ih =>
    simp only [List.cons_append, find?, ih]
    split <;> rfl

theorem find?_ofList (key : String) (list : List (String × α)) :
    find? key (ofList list) = find? key list.reverse := by
  have hfold : ∀ (list : List (String × α)) (entries : Entries α),
      find? key (list.foldl (fun entries e => insert e.1 e.2 entries) entries) =
        (find? key list.reverse).or (find? key entries) := by
    intro list
    induction list with
    | nil => exact fun _ => rfl
    | cons head rest ih =>
      intro entries
      rw [List.foldl_cons, ih, find?_insert, List.reverse_cons, find?_append, Option.or_assoc]
      congr 1
      simp only [find?]
      split <;> rfl
  rw [ofList, hfold]
  exact Option.or_none

theorem mem_keys_insert {key k : String} {value : α} {entries : Entries α} :
    k ∈ keys (insert key value entries) ↔ k = key ∨ k ∈ keys entries := by
  induction entries with
  | nil => simp [insert, keys]
  | cons head rest ih =>
    simp only [insert]
    split
    · simp [keys]
    · split
      · next heq => simp [keys, heq]
      · simp only [keys, List.map_cons, List.mem_cons] at ih ⊢
        rw [ih]
        exact or_left_comm

theorem mem_keys_ofList {k : String} {list : List (String × α)} :
    k ∈ keys (ofList list) ↔ k ∈ list.map (·.1) := by
  have hfold : ∀ (list : List (String × α)) (entries : Entries α),
      k ∈ keys (list.foldl (fun entries e => insert e.1 e.2 entries) entries) ↔
        k ∈ keys entries ∨ k ∈ list.map (·.1) := by
    intro list
    induction list with
    | nil => simp
    | cons head rest ih =>
      intro entries
      rw [List.foldl_cons, ih, mem_keys_insert, List.map_cons, List.mem_cons, or_assoc,
        or_left_comm]
  rw [ofList, hfold]
  simp [keys]

theorem mem_of_find? {key : String} {value : α} {entries : Entries α}
    (h : find? key entries = some value) : (key, value) ∈ entries := by
  induction entries with
  | nil => simp [find?] at h
  | cons head rest ih =>
    simp only [find?] at h
    split at h
    · next hkey =>
      obtain rfl := Option.some.inj h
      rw [← hkey]
      exact List.mem_cons_self
    · exact List.mem_cons_of_mem head (ih h)

theorem find?_of_mem {entries : Entries α} {e : String × α} (h : Ascending entries)
    (he : e ∈ entries) : find? e.1 entries = some e.2 := by
  induction entries with
  | nil => simp at he
  | cons head rest ih =>
    obtain ⟨hhead, hrest⟩ := List.pairwise_cons.mp h
    rcases List.mem_cons.mp he with rfl | he
    · simp [find?]
    · have hne : head.1 ≠ e.1 := fun heq => String.lt_irrefl e.1 (heq ▸ hhead e he)
      simp only [find?, if_neg hne]
      exact ih hrest he

theorem ne_of_find?_none {key : String} {entries : Entries α} (h : find? key entries = none) :
    ∀ e ∈ entries, e.1 ≠ key := by
  induction entries with
  | nil => simp
  | cons head rest ih =>
    simp only [find?] at h
    split at h
    · cases h
    · next hne =>
      intro e he
      rcases List.mem_cons.mp he with rfl | he
      · exact hne
      · exact ih h e he

theorem nodup_keys {entries : Entries α} (h : Ascending entries) : (keys entries).Nodup := by
  refine List.pairwise_map.mpr (h.imp fun hlt heq => ?_)
  exact String.lt_irrefl _ (heq ▸ hlt)

theorem find?_of_perm {front back : Entries α} (hn : (keys front).Nodup) (hp : front.Perm back)
    (key : String) : find? key front = find? key back := by
  induction hp with
  | nil => rfl
  | cons e _ ih =>
    simp only [find?, ih (List.nodup_cons.mp hn).2]
  | swap a b rest =>
    have hne : b.1 ≠ a.1 := fun he =>
      (List.nodup_cons.mp hn).1 (List.mem_map.mpr ⟨a, List.mem_cons_self, he.symm⟩)
    simp only [find?]
    by_cases ha : a.1 = key
    · have hb : b.1 ≠ key := fun hb => hne (hb.trans ha.symm)
      simp only [if_pos ha, if_neg hb]
    · simp only [if_neg ha]
  | trans hfirst _ ihfirst ihsecond =>
    exact (ihfirst hn).trans (ihsecond ((hfirst.map _).nodup_iff.mp hn))

theorem perm_insert {key : String} (value : α) {entries : Entries α} (h : key ∉ keys entries) :
    (insert key value entries).Perm ((key, value) :: entries) := by
  induction entries with
  | nil => exact .refl _
  | cons head rest ih =>
    simp only [keys, List.map_cons, List.mem_cons, not_or] at h
    simp only [insert, if_neg h.1]
    split
    · exact .refl _
    · exact ((ih h.2).cons head).trans (.swap _ _ rest)

theorem perm_ofList {list : List (String × α)} (h : (keys list).Nodup) :
    (ofList list).Perm list := by
  have hfold : ∀ (list : List (String × α)) (entries : Entries α), (keys (list ++ entries)).Nodup →
      (list.foldl (fun entries e => insert e.1 e.2 entries) entries).Perm (list ++ entries) := by
    intro list
    induction list with
    | nil => exact fun entries _ => .refl entries
    | cons head rest ih =>
      intro entries hn
      have hmiddle : (rest ++ head :: entries).Perm (head :: (rest ++ entries)) := List.perm_middle
      have hhead : head.1 ∉ keys entries := fun hm => by
        obtain ⟨e, he, hkey⟩ := List.mem_map.mp hm
        exact (List.nodup_cons.mp hn).1
          (List.mem_map.mpr ⟨e, List.mem_append_right rest he, hkey⟩)
      have hinsert : (rest ++ insert head.1 head.2 entries).Perm (head :: (rest ++ entries)) :=
        ((perm_insert head.2 hhead).append_left rest).trans hmiddle
      rw [List.foldl_cons]
      exact (ih _ ((hinsert.map _).nodup_iff.mpr hn)).trans hinsert
  have hempty := hfold list [] (by simpa using h)
  rwa [List.append_nil] at hempty

theorem ofList_of_perm {entries list : Entries α} (h : Ascending entries)
    (hp : entries.Perm list) : ofList list = entries := by
  have hn : (keys list).Nodup := (hp.map _).nodup_iff.mp (nodup_keys h)
  refine List.Perm.eq_of_pairwise (fun a b _ _ hab hba => ?_) (ascending_ofList list) h
    ((perm_ofList hn).trans hp.symm)
  exact absurd hab (String.lt_asymm hba)

end Entries

namespace SortedMap

variable {α : Type u}

theorem ext {a b : SortedMap α} (h : a.entries = b.entries) : a = b := by
  cases a
  cases b
  cases h
  rfl

theorem mapValues_id (m : SortedMap α) : (m.mapValues fun _ v => v) = m :=
  ext (List.map_id m.entries)

theorem eq_empty_of_isEmpty {m : SortedMap α} (h : m.isEmpty = true) : m = empty :=
  ext (List.isEmpty_iff.mp h)

theorem entries_ofList (list : List (String × α)) :
    (ofList list).entries = Entries.ofList list := by
  have hfold : ∀ (list : List (String × α)) (m : SortedMap α),
      (list.foldl (fun m e => m.insert e.1 e.2) m).entries =
        list.foldl (fun entries e => Entries.insert e.1 e.2 entries) m.entries := by
    intro list
    induction list with
    | nil => exact fun _ => rfl
    | cons head rest ih => exact fun m => ih (m.insert head.1 head.2)
  exact hfold list empty

theorem ofList_entries (m : SortedMap α) : ofList m.entries = m :=
  ext (by rw [entries_ofList, Entries.ofList_of_ascending m.ascending])

theorem mem_insertNew {m : SortedMap α} {key : String} {value : α} {e : String × α}
    (h : e ∈ (m.insertNew key value).entries) : e = (key, value) ∨ e ∈ m.entries := by
  unfold insertNew at h
  split at h
  · exact .inr h
  · exact Entries.mem_insert h

theorem erase_of_get?_none {m : SortedMap α} {key : String} (h : m.get? key = none) :
    m.erase key = m := by
  have hne := Entries.ne_of_find?_none h
  exact ext (List.filter_eq_self.mpr fun e he => by simpa using hne e he)

theorem adjust_of_get?_none {m : SortedMap α} {key : String} (h : m.get? key = none)
    (f : α → α) : m.adjust key f = m := by
  have hne := Entries.ne_of_find?_none h
  refine ext ((List.map_congr_left fun e he => ?_).trans (List.map_id m.entries))
  simp [hne e he]

theorem get?_insertNew (m : SortedMap α) (key k : String) (value : α) :
    (m.insertNew key value).get? k = (m.get? k).or (if key = k then some value else none) := by
  unfold insertNew
  by_cases hk : key = k
  · subst hk
    cases hget : m.get? key with
    | some old =>
      have hcontains : m.contains key = true := congrArg Option.isSome hget
      simp [hcontains, hget]
    | none =>
      have hcontains : m.contains key = false := congrArg Option.isSome hget
      simp [hcontains]
  · split <;> simp [hk]

theorem insertNew_of_get? {m : SortedMap α} {key : String} {old : α} (h : m.get? key = some old)
    (value : α) : m.insertNew key value = m :=
  if_pos (congrArg Option.isSome h)

theorem get?_insertNew_of_ne {m : SortedMap α} {key k : String} (value : α) (h : key ≠ k) :
    (m.insertNew key value).get? k = m.get? k := by
  unfold insertNew
  split
  · rfl
  · rw [get?_insert, if_neg h]

end SortedMap
end EventBus
