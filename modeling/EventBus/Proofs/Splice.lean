namespace EventBus.Splice

variable {α : Type u} {front back items : List α} {new x : α}

theorem mem_replace (old : α) (h : x ∈ front ++ new :: back) :
    x = new ∨ x ∈ front ++ old :: back := by
  rcases List.mem_append.mp h with hx | hx
  · exact .inr (List.mem_append_left _ hx)
  · rcases List.mem_cons.mp hx with hx | hx
    · exact .inl hx
    · exact .inr (List.mem_append_right _ (List.mem_cons_of_mem old hx))

theorem getElem?_replace (front back : List α) (old new : α) (k : Nat) :
    (front ++ new :: back)[k]? =
      if k = front.length then some new else (front ++ old :: back)[k]? := by
  split
  · next hk => simp [hk]
  · next hk =>
    rcases Nat.lt_or_gt_of_ne hk with hlt | hgt
    · rw [List.getElem?_append_left hlt, List.getElem?_append_left hlt]
    · obtain ⟨m, rfl⟩ := Nat.exists_eq_add_of_lt hgt
      simp [Nat.add_assoc, List.getElem?_append_right]

/-- A place in a list that was given one thing more is a place that it had, or the last one. -/
theorem cases_append_singleton (h : items ++ [new] = front ++ x :: back) :
    (∃ rest, items = front ++ x :: rest) ∨ front = items ∧ x = new := by
  rcases List.eq_nil_or_concat back with rfl | ⟨rest, last, rfl⟩
  · obtain ⟨hfront, hlast⟩ := List.append_inj' h rfl
    exact .inr ⟨hfront.symm, (List.cons.inj hlast).1.symm⟩
  · have hmore : items ++ [new] = (front ++ x :: rest) ++ [last] := by simpa using h
    exact .inl ⟨rest, (List.append_inj' hmore rfl).1⟩

end EventBus.Splice
