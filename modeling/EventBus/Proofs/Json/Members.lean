import EventBus.Json.Basic
import EventBus.Proofs.Entries

namespace EventBus.Json

theorem canonicalFields_iff {fields : List (String × Json)} :
    CanonicalFields fields ↔ ∀ e ∈ fields, e.2.Canonical := by
  induction fields with
  | nil => simp [CanonicalFields]
  | cons head rest ih => simp [CanonicalFields, ih]

theorem exactFields_iff {fields : List (String × Json)} :
    ExactFields fields ↔ ∀ e ∈ fields, e.2.Exact := by
  induction fields with
  | nil => simp [ExactFields]
  | cons head rest ih => simp [ExactFields, ih]

theorem depthFields_le_iff {fields : List (String × Json)} {n : Nat} :
    depthFields fields ≤ n ↔ ∀ e ∈ fields, e.2.depth ≤ n := by
  induction fields with
  | nil => simp [depthFields]
  | cons head rest ih => simp only [depthFields, Nat.max_le, ih, List.forall_mem_cons]

@[simp] theorem find?_member? (key k : String) (value : Option Json) :
    Entries.find? key (member? k value) = if k = key then value else none := by
  cases value <;> simp [member?, Entries.find?]

@[simp] theorem reverse_member? (k : String) (value : Option Json) :
    (member? k value).reverse = member? k value := by
  cases value <;> rfl

end EventBus.Json
