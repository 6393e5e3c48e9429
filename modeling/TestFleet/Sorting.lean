/-!
# Stable sorting

`sortBy le xs` puts `xs` in the order of `le` and leaves elements that `le` ranks equally in the
order they had. It is an insertion sort by structural recursion, so closed instances evaluate.

* `perm_sortBy`: sorting neither loses nor invents elements; `length_sortBy` and `mem_sortBy` are
  the two forms of it that are used most.
* `pairwise_sortBy`: the result is in order, if `le` is transitive and total.
-/

namespace TestFleet

variable {α : Type}

/-- Puts `x` in front of the first element that does not rank before it. -/
def insertBy (le : α → α → Bool) (x : α) : List α → List α
  | [] => [x]
  | y :: ys => if le x y then x :: y :: ys else y :: insertBy le x ys

/-- Sorts by `le`, keeping the order of elements that rank equally. -/
def sortBy (le : α → α → Bool) : List α → List α
  | [] => []
  | x :: xs => insertBy le x (sortBy le xs)

@[simp] theorem length_insertBy (le : α → α → Bool) (x : α) (xs : List α) :
    (insertBy le x xs).length = xs.length + 1 := by
  induction xs with
  | nil => rfl
  | cons y ys ih => simp only [insertBy]; split <;> simp [ih]

@[simp] theorem length_sortBy (le : α → α → Bool) (xs : List α) :
    (sortBy le xs).length = xs.length := by
  induction xs with
  | nil => rfl
  | cons x xs ih => simp [sortBy, ih]

@[simp] theorem mem_insertBy {le : α → α → Bool} {x z : α} {xs : List α} :
    z ∈ insertBy le x xs ↔ z = x ∨ z ∈ xs := by
  induction xs with
  | nil => simp [insertBy]
  | cons y ys ih =>
    simp only [insertBy]
    split
    · simp
    · simp only [List.mem_cons, ih]
      constructor
      · rintro (h | h | h) <;> simp [h]
      · rintro (h | h | h) <;> simp [h]

@[simp] theorem mem_sortBy {le : α → α → Bool} {z : α} {xs : List α} :
    z ∈ sortBy le xs ↔ z ∈ xs := by
  induction xs with
  | nil => simp [sortBy]
  | cons x xs ih => simp [sortBy, ih]

theorem perm_insertBy (le : α → α → Bool) (x : α) (xs : List α) :
    (insertBy le x xs).Perm (x :: xs) := by
  induction xs with
  | nil => exact .refl _
  | cons y ys ih =>
    simp only [insertBy]
    split
    · exact .refl _
    · exact (ih.cons y).trans (.swap x y ys)

theorem perm_sortBy (le : α → α → Bool) (xs : List α) : (sortBy le xs).Perm xs := by
  induction xs with
  | nil => exact .refl _
  | cons x xs ih => exact (perm_insertBy le x _).trans (ih.cons x)

theorem pairwise_insertBy {le : α → α → Bool} (trans : ∀ a b c, le a b → le b c → le a c)
    (total : ∀ a b, le a b ∨ le b a) (x : α) {xs : List α} (sorted : xs.Pairwise (le · ·)) :
    (insertBy le x xs).Pairwise (le · ·) := by
  induction xs with
  | nil => simp [insertBy]
  | cons y ys ih =>
    have ⟨first, rest⟩ := List.pairwise_cons.1 sorted
    simp only [insertBy]
    split
    next h =>
      refine List.pairwise_cons.2 ⟨fun z hz => ?_, sorted⟩
      rcases List.mem_cons.1 hz with rfl | hz
      · exact h
      · exact trans _ _ _ h (first z hz)
    next h =>
      refine List.pairwise_cons.2 ⟨fun z hz => ?_, ih rest⟩
      rcases mem_insertBy.1 hz with rfl | hz
      · exact (total z y).resolve_left h
      · exact first z hz

theorem pairwise_sortBy {le : α → α → Bool} (trans : ∀ a b c, le a b → le b c → le a c)
    (total : ∀ a b, le a b ∨ le b a) (xs : List α) : (sortBy le xs).Pairwise (le · ·) := by
  induction xs with
  | nil => exact .nil
  | cons x xs ih => exact pairwise_insertBy trans total x ih

end TestFleet
