import SheetExport.Keyed

/-! # Looking up named values

What is found after a value was put under a name or dropped, in terms of what was found before.
-/

namespace SheetExport

/-- Things that are unlike stay so when one takes the place of whatever is like it. -/
theorem unlike_replaced {α : Type} {f : α → String} {xs : List α} (unlike : (xs.map f).Nodup) (a : α) :
    ((xs.filter (fun x => f x != f a) ++ [a]).map f).Nodup := by
  rw [List.map_append, List.nodup_append]
  refine ⟨unlike.sublist (List.filter_sublist.map _), List.pairwise_singleton _ _, ?_⟩
  intro name inside other new same
  obtain ⟨x, kept, rfl⟩ := List.mem_map.mp inside
  rw [List.map_singleton, List.mem_singleton] at new
  rw [new] at same
  have differs := (List.mem_filter.mp kept).2
  simp [same] at differs

namespace Keyed

variable {α : Type} {xs : Keyed α} {name other : String} {a : α}

theorem find?_cons (x : String × α) (xs : Keyed α) (name : String) :
    find? (x :: xs) name = if name = x.1 then some x.2 else xs.find? name := by
  obtain ⟨key, a⟩ := x
  rw [find?, List.lookup_cons]
  by_cases same : name = key
  · subst same; simp
  · rw [beq_false_of_ne same, if_neg same]; rfl

theorem mem_of_find? (found : xs.find? name = some a) : (name, a) ∈ xs := by
  induction xs with
  | nil => cases found
  | cons x xs ih =>
      rw [find?_cons] at found
      split at found
      · rename_i here
        cases found
        rw [here]
        exact List.mem_cons_self
      · exact List.mem_cons_of_mem _ (ih found)

theorem find?_append (xs ys : Keyed α) (name : String) :
    find? (xs ++ ys) name = (xs.find? name).or (ys.find? name) := List.lookup_append

/-- Looking up in a list of pairs from which all with one key were dropped. -/
theorem lookup_filter_ne {κ : Type} [BEq κ] [LawfulBEq κ] (xs : List (κ × α)) (gone key : κ) :
    (xs.filter fun x => x.1 != gone).lookup key = if key == gone then none else xs.lookup key := by
  induction xs with
  | nil => simp
  | cons x xs ih =>
      obtain ⟨k, a⟩ := x
      by_cases keep : k = gone
      · subst keep
        rw [List.filter_cons_of_neg (by simp), ih, List.lookup_cons]
        cases key == k <;> rfl
      · rw [List.filter_cons_of_pos (by simp [keep]), List.lookup_cons, ih, List.lookup_cons]
        by_cases same : key = k
        · subst same
          simp [keep]
        · rw [beq_false_of_ne same]

theorem find?_erase (xs : Keyed α) (name other : String) :
    (xs.erase name).find? other = if other = name then none else xs.find? other := by
  simp only [erase, find?, lookup_filter_ne, beq_iff_eq]

@[simp] theorem find?_insert (xs : Keyed α) (name other : String) (a : α) :
    (xs.insert name a).find? other = if other = name then some a else xs.find? other := by
  rw [insert, find?_append, find?_erase, find?_cons]
  split
  · rfl
  · simp [find?]

/-- Of several values put under one name the last is found. -/
theorem find?_insertAll (xs news : Keyed α) (name : String) :
    (xs.insertAll news).find? name = (find? news.reverse name).or (xs.find? name) := by
  induction news generalizing xs with
  | nil => rfl
  | cons x news ih =>
      rw [show xs.insertAll (x :: news) = (xs.insert x.1 x.2).insertAll news from rfl, ih, find?_insert,
        List.reverse_cons, find?_append, find?_cons, Option.or_assoc]
      split <;> simp [find?]

theorem find?_filter (p : String × α → Bool) (h : xs.find? name = some a) (kept : p (name, a) = true) :
    find? (xs.filter p) name = some a := by
  induction xs with
  | nil => simp [find?] at h
  | cons x xs ih =>
      rw [find?_cons] at h
      by_cases same : name = x.1
      · subst same
        obtain rfl : x.2 = a := by simpa using h
        rw [List.filter_cons_of_pos kept, find?_cons, if_pos rfl]
      · rw [if_neg same] at h
        rw [List.filter_cons]
        split
        · rw [find?_cons, if_neg same, ih h]
        · exact ih h

theorem find?_of_unlike (unlike : (xs.map Prod.fst).Nodup)
    (inside : (name, a) ∈ xs) : xs.find? name = some a := by
  induction xs with
  | nil => cases inside
  | cons x xs ih =>
      rw [List.map_cons, List.nodup_cons] at unlike
      rw [find?_cons]
      rcases List.mem_cons.mp inside with here | later
      · rw [← here, if_pos rfl]
      · have other : name ≠ x.1 := by
          intro same
          exact unlike.1 (same ▸ List.mem_map_of_mem later)
        rw [if_neg other, ih unlike.2 later]

theorem unlike_insert (unlike : (xs.map Prod.fst).Nodup) (name : String) (a : α) :
    ((xs.insert name a).map Prod.fst).Nodup := unlike_replaced unlike (name, a)

end Keyed

end SheetExport
