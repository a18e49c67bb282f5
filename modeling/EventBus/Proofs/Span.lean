namespace EventBus.Span

variable {α : Type u} {p : α → Bool} {front : List α} {x : α}

theorem takeWhile_of_forall {items : List α} (h : ∀ y ∈ items, p y = true) :
    items.takeWhile p = items := by
  have happend : (items ++ []).takeWhile p = items ++ [].takeWhile p :=
    List.takeWhile_append_of_pos h
  rwa [List.append_nil, List.takeWhile_nil, List.append_nil] at happend

theorem dropWhile_of_forall {items : List α} (h : ∀ y ∈ items, p y = false) :
    items.dropWhile p = items := by
  cases items with
  | nil => rfl
  | cons y rest => exact List.dropWhile_cons_of_neg (by simp [h y List.mem_cons_self])

/-- What is taken ends at an element outside the class, if nothing before it ends it. -/
theorem takeWhile_append_stop (hx : p x = false) (front back : List α) :
    (front ++ x :: back).takeWhile p = front.takeWhile p := by
  induction front with
  | nil => exact List.takeWhile_cons_of_neg (by simp [hx])
  | cons y rest ih =>
    rw [List.cons_append, List.takeWhile_cons, List.takeWhile_cons, ih]

theorem dropWhile_append_stop (hx : p x = false) (front back : List α) :
    (front ++ x :: back).dropWhile p = front.dropWhile p ++ x :: back := by
  induction front with
  | nil => exact List.dropWhile_cons_of_neg (by simp [hx])
  | cons y rest ih =>
    rw [List.cons_append, List.dropWhile_cons, List.dropWhile_cons, ih]
    split <;> rfl

theorem takeWhile_append_cons (hfront : ∀ y ∈ front, p y = true) (hx : p x = false)
    (back : List α) : (front ++ x :: back).takeWhile p = front := by
  rw [takeWhile_append_stop hx, takeWhile_of_forall hfront]

theorem dropWhile_append_cons (hfront : ∀ y ∈ front, p y = true) (hx : p x = false)
    (back : List α) : (front ++ x :: back).dropWhile p = x :: back := by
  rw [List.dropWhile_append_of_pos hfront, List.dropWhile_cons_of_neg (by simp [hx])]

theorem of_mem_takeWhile {items : List α} (h : x ∈ items.takeWhile p) : p x = true :=
  List.all_eq_true.mp List.all_takeWhile x h

theorem ne_of_not_mem [DecidableEq α] {items : List α} (h : x ∉ items) :
    ∀ y ∈ items, decide (y ≠ x) = true := by
  intro y hy
  refine decide_eq_true ?_
  rintro rfl
  exact h hy

end EventBus.Span
