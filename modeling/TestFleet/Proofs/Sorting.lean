import TestFleet.Sorting

/-!
# Laws of sorting

What comes first, what becomes of elements that rank equally, and when the order of the given list
makes no difference.

* `mem_of_sortBy_eq_cons`, `le_of_sortBy_eq_cons`: the first element ranks before all others;
* `pairwise_sortBy_stable`: elements that rank equally keep the order they had;
* `sortBy_eq_of_perm`: if no two elements rank equally, only what is sorted counts.
-/

namespace TestFleet

variable {α : Type} {le : α → α → Bool}

theorem mem_of_sortBy_eq_cons {xs rest : List α} {x : α} (h : sortBy le xs = x :: rest) :
    x ∈ xs := by
  have first : x ∈ sortBy le xs := h ▸ List.mem_cons_self
  exact mem_sortBy.1 first

theorem le_of_sortBy_eq_cons (trans : ∀ a b c, le a b → le b c → le a c)
    (total : ∀ a b, le a b ∨ le b a) {xs rest : List α} {x : α} (h : sortBy le xs = x :: rest)
    {y : α} (hy : y ∈ xs) : le x y = true := by
  have sorted := pairwise_sortBy trans total xs
  have listed : y ∈ x :: rest := h ▸ mem_sortBy.2 hy
  rw [h] at sorted
  rcases List.mem_cons.1 listed with rfl | hy
  · exact (total y y).elim id id
  · exact (List.pairwise_cons.1 sorted).1 y hy

theorem pairwise_insertBy_stable {R : α → α → Prop} {x : α} {xs : List α}
    (first : ∀ y ∈ xs, R x y) (stable : xs.Pairwise fun a b => le b a = true → R a b) :
    (insertBy le x xs).Pairwise fun a b => le b a = true → R a b := by
  induction xs with
  | nil => simp [insertBy]
  | cons y ys ih =>
    obtain ⟨before, rest⟩ := List.pairwise_cons.1 stable
    simp only [insertBy]
    split
    · exact List.pairwise_cons.2 ⟨fun z hz _ => first z hz, stable⟩
    · rename_i behind
      refine List.pairwise_cons.2 ⟨fun z hz le => ?_, ih (fun z hz => ?_) rest⟩
      · rcases mem_insertBy.1 hz with rfl | hz
        · exact absurd le behind
        · exact before z hz le
      · exact first z (List.mem_cons_of_mem _ hz)

/-- Elements that rank equally are in the order `R` afterwards if they were before. -/
theorem pairwise_sortBy_stable {R : α → α → Prop} {xs : List α} (h : xs.Pairwise R) :
    (sortBy le xs).Pairwise fun a b => le b a = true → R a b := by
  induction xs with
  | nil => exact .nil
  | cons x xs ih =>
    obtain ⟨first, rest⟩ := List.pairwise_cons.1 h
    refine pairwise_insertBy_stable (fun y hy => ?_) (ih rest)
    exact first y (mem_sortBy.1 hy)

/-- If no two elements rank equally, the order in which they are given makes no difference. -/
theorem sortBy_eq_of_perm (trans : ∀ a b c, le a b → le b c → le a c)
    (total : ∀ a b, le a b ∨ le b a) {xs ys : List α}
    (antisymm : ∀ a ∈ xs, ∀ b ∈ xs, le a b → le b a → a = b) (perm : xs.Perm ys) :
    sortBy le xs = sortBy le ys := by
  have same : (sortBy le xs).Perm (sortBy le ys) :=
    (perm_sortBy le xs).trans (perm.trans (perm_sortBy le ys).symm)
  refine same.eq_of_pairwise (fun a b ha hb => ?_) (pairwise_sortBy trans total xs)
    (pairwise_sortBy trans total ys)
  exact antisymm a (mem_sortBy.1 ha) b (perm.mem_iff.2 (mem_sortBy.1 hb))

end TestFleet
