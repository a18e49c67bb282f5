import EventBus.Json.Record
import EventBus.Proofs.Json.Arrangement
import EventBus.Proofs.Timestamp

namespace EventBus.Json

open Entries

namespace Record

/-- A member takes the slot of its name, and is refused if the slot is taken. Other members are
passed over. -/
theorem place_map {names : List String} (hnames : names.Nodup) (slot : String → Option Tree)
    (key : String) (value : Tree) :
    place names key value (names.map slot) =
      if key ∈ names ∧ (slot key).isSome then none
      else some (names.map fun name => if name = key then some value else slot name) := by
  induction names with
  | nil => rfl
  | cons name names ih =>
    obtain ⟨hname, hrest⟩ := List.nodup_cons.mp hnames
    simp only [List.map_cons, place]
    by_cases hkey : name = key
    · subst hkey
      have htail : (names.map fun n => if n = name then some value else slot n) =
          names.map slot := by
        refine List.map_congr_left fun n hn => if_neg ?_
        rintro rfl
        exact hname hn
      cases hslot : slot name with
      | none => simp [htail]
      | some taken => simp
    · have hmem : key ∈ name :: names ↔ key ∈ names := by simp [Ne.symm hkey]
      simp only [if_neg hkey, ih hrest, hmem]
      split <;> rfl

theorem fromMembers_treeFields {names : List String} {fields : List (String × Json)}
    (hnames : names.Nodup) (hkeys : (keys fields).Nodup) (slot : String → Option Tree)
    (hfree : ∀ key ∈ keys fields, slot key = none) :
    fromMembers names (treeFields fields) (names.map slot) =
      some (names.map fun name => (slot name).or ((find? name fields).map tree)) := by
  induction fields generalizing slot with
  | nil => simp [treeFields, fromMembers, find?]
  | cons e fields ih =>
    obtain ⟨hkey, hrest⟩ := List.nodup_cons.mp hkeys
    have hplace := place_map hnames slot e.1 e.2.tree
    rw [if_neg (by simp [hfree e.1 List.mem_cons_self])] at hplace
    have hfill := ih hrest (fun name => if name = e.1 then some e.2.tree else slot name) (by
      intro key hmem
      have hne : key ≠ e.1 := by
        rintro rfl
        exact hkey hmem
      rw [if_neg hne]
      exact hfree key (List.mem_cons_of_mem _ hmem))
    simp only [treeFields, fromMembers, string?_ofString, hplace, hfill, Option.bind_eq_bind,
      Option.bind_some]
    congr 1
    refine List.map_congr_left fun name _ => ?_
    simp only [find?, eq_comm (a := e.1)]
    split
    · next heq => simp [heq, hfree e.1 List.mem_cons_self]
    · rfl

theorem slots?_tree {names : List String} {fields : List (String × Json)} (hnames : names.Nodup)
    (hkeys : (keys fields).Nodup) (depth : Nat) :
    slots? names (depth + 1) (Json.object fields).tree =
      some (names.map fun name => (find? name fields).map tree, depth) := by
  have hfill := fromMembers_treeFields hnames hkeys (fun _ => none) (fun _ _ => rfl)
  simp only [Option.none_or] at hfill
  rw [tree, slots?, hfill, Option.map_some]

end Record

open EventBus.Record EventBus.Json.Record

/-- In whatever order a record was written, its slots hold what stands under their names, arranged
in turn. -/
theorem Arranged.slots {members : List (String × Json)} {written : Json} {names : List String}
    (h : Arranged (ofFields members) written) (hnames : names.Nodup) :
    ∃ found : String → Option Json,
      (∀ depth, slots? names (depth + 1) written.tree =
        some (names.map fun name => (found name).map tree, depth)) ∧
      ∀ name, Option.Rel Arranged (find? name members.reverse) (found name) := by
  obtain ⟨fields, rfl, hkeys, hfound⟩ := h.members (ascending_ofList members)
  refine ⟨fun name => find? name fields, slots?_tree hnames hkeys, fun name => ?_⟩
  rw [← find?_ofList]
  exact hfound name

/-- A value that is written without loss and nests at most so many levels. `Canonical` is what every
map guarantees, each key once and in order. -/
structure Lossless (depth : Nat) (json : Json) : Prop where
  canonical : json.Canonical
  exact : json.Exact
  shallow : json.depth ≤ depth

theorem Lossless.member {members : List (String × Json)} {depth : Nat} {key : String}
    {value : Json} (h : (ofFields members).Lossless (depth + 1))
    (hvalue : find? key members.reverse = some value) : value.Lossless depth := by
  rw [← find?_ofList] at hvalue
  have hmem := mem_of_find? hvalue
  exact ⟨canonicalFields_iff.mp h.canonical.2 _ hmem, exactFields_iff.mp h.exact _ hmem,
    depthFields_le_iff.mp (Nat.le_of_succ_le_succ h.shallow) _ hmem⟩

theorem exact_ofFields {members : List (String × Json)} (h : ∀ e ∈ members, e.2.Exact) :
    (ofFields members).Exact := by
  refine exactFields_iff.mpr fun e he => ?_
  have hfind := find?_of_mem (ascending_ofList members) he
  rw [find?_ofList] at hfind
  exact h e (List.mem_reverse.mp (mem_of_find? hfind))

/-- However a value is written, `read` gives `a` for it. -/
def Reads {α : Type} (read : Tree → Option α) (json : Json) (a : α) : Prop :=
  ∀ written, Arranged json written → read written.tree = some a

namespace Reads

variable {α : Type} {read : Tree → Option α} {json : Json} {a : α} {found : Option Json}

theorem read_compact (h : Reads read json a) (hexact : json.Exact) {written : Json}
    (hw : Arranged json written) : (Tree.read written.compact.toList >>= read) = some a := by
  rw [compact, String.toList_ofList, read_write (hw.exact hexact)]
  exact h written hw

theorem required (h : Reads read json a) (hfound : Option.Rel Arranged (some json) found) :
    required read (found.map tree) = some a := by
  cases hfound with
  | some harranged => exact h _ harranged

theorem withDefault (h : Reads read json a) (default : α)
    (hfound : Option.Rel Arranged (some json) found) :
    withDefault default read (found.map tree) = some a := by
  cases hfound with
  | some harranged => exact h _ harranged

theorem withDefault_of_none (read : Tree → Option α) (default : α)
    (hfound : Option.Rel Arranged none found) :
    EventBus.Record.withDefault default read (found.map tree) = some default := by
  cases hfound
  rfl

theorem unlessEmpty {β : Type} {m : SortedMap β} {read : Tree → Option (SortedMap β)}
    (h : m.isEmpty = false → Reads read json m)
    (hfound : Option.Rel Arranged (if m.isEmpty then none else some json) found) :
    EventBus.Record.withDefault .empty read (found.map tree) = some m := by
  cases hempty : m.isEmpty with
  | true =>
    rw [hempty, if_pos rfl] at hfound
    rw [SortedMap.eq_empty_of_isEmpty hempty]
    exact withDefault_of_none read .empty hfound
  | false =>
    rw [hempty, if_neg Bool.false_ne_true] at hfound
    exact (h hempty).withDefault .empty hfound

/-- A value that may be none and is written as a text is left out when there is none. -/
theorem optional {value : Option α} (text : α → String) (shown : α → α)
    (h : ∀ a ∈ value, Reads read (.string (text a)) (shown a))
    (hfound : Option.Rel Arranged (value.map fun a => .string (text a)) found) :
    optional read (found.map tree) = some (value.map shown) := by
  cases value with
  | none => exact withDefault_of_none _ none hfound
  | some a =>
    cases hfound with
    | some harranged =>
      have hread := h a rfl _ harranged
      cases harranged
      exact congrArg (Option.map some) hread

theorem text (s : String) : Reads text? (.string s) s := by
  intro written h
  cases h
  exact string?_ofString s

theorem optionalText {value : Option String}
    (hfound : Option.Rel Arranged (value.map .string) found) :
    Json.Record.optional text? (found.map tree) = some value := by
  have hread := Reads.optional id id (fun s _ => text s) hfound
  rwa [Option.map_id_fun, id] at hread

theorem bool (b : Bool) : Reads bool? (.bool b) b := by
  intro written h
  cases h
  rfl

theorem time {t : Timestamp} (hlower : 0 ≤ t.date.year) (hupper : t.date.year ≤ 9999) :
    Reads time? (.string t.text) t.settled := by
  intro written h
  rw [time?, text t.text written h, Option.bind_eq_bind, Option.bind_some]
  exact Timestamp.readLoose?_text hlower hupper

theorem value {depth : Nat} (hj : json.Lossless depth) : Reads (·.json? depth) json json :=
  fun _ h => json?_arranged h hj.exact hj.canonical depth hj.shallow

theorem map {m : SortedMap Json} {depth : Nat} (hj : (Json.object m.entries).Lossless depth) :
    Reads (map? depth) (.object m.entries) m := by
  intro written h
  simp [map?, value hj written h, object?, SortedMap.ofList_entries]

theorem mapM_arranged {entries : List (String × α)} {others : List (String × Json)}
    (write : α → Json) (h : ∀ e ∈ entries, Reads read (write e.2) e.2)
    (hs : ArrangedFields (entries.map fun e => (e.1, write e.2)) others) :
    (others.mapM fun e => (read e.2.tree).map fun a => (e.1, a)) = some entries := by
  induction entries generalizing others with
  | nil =>
    cases hs
    rfl
  | cons e entries ih =>
    cases hs with
    | cons hvalue hs =>
      have hfirst := h e List.mem_cons_self _ hvalue
      have hmore := ih (fun e he => h e (List.mem_cons_of_mem _ he)) hs
      simp [List.mapM_cons, hfirst, hmore]

theorem mapOf?_treeFields (read : Tree → Option α) (fields : List (String × Json)) :
    mapOf? read (.object (treeFields fields)) =
      (fields.mapM fun e => (read e.2.tree).map fun a => (e.1, a)).map SortedMap.ofList := by
  simp only [mapOf?, treeFields_eq_map, List.mapM_map, Function.comp_def, string?_ofString,
    Option.bind_eq_bind, Option.bind_some, Option.map_eq_bind]

/-- A map is made again from its members in any order, since no two have one key. -/
theorem mapOf {m : SortedMap α} (write : α → Json)
    (h : ∀ e ∈ m.entries, Reads read (write e.2) e.2) :
    Reads (mapOf? read) (.object (m.mapValues fun _ a => write a).entries) m := by
  intro written hw
  cases hw with
  | object hs hp =>
    obtain ⟨entries, hentries, hperm⟩ := exists_perm_of_mapM hp (mapM_arranged write h hs)
    have hmap : SortedMap.ofList entries = m := by
      refine SortedMap.ext ?_
      rw [SortedMap.entries_ofList, ofList_of_perm m.ascending hperm]
    rw [tree, mapOf?_treeFields, hentries, Option.map_some, hmap]

end Reads
end EventBus.Json
