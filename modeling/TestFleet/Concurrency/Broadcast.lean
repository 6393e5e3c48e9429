/-!
# Broadcasts

What is posted reaches everyone who subscribed before. Posting never waits and never fails: while
nobody listens, posts are lost, and a subscriber that falls behind by more than is kept goes on with
the oldest post that is.

* `length_kept_post`: no more posts are kept than there is room for.
-/

namespace TestFleet

/-- A channel from those who post to those who listen. -/
structure Broadcast (α : Type) where
  /-- How many of the newest posts are kept. -/
  room : Nat
  /-- How many posts there were. -/
  posted : Nat := 0
  /-- The newest posts, the oldest of them first. -/
  kept : List α := []
  /-- How many posts each subscriber has behind it; none for one that left. -/
  subscribers : List (Option Nat) := []

namespace Broadcast

variable {α : Type}

/-- A channel that keeps at least `capacity` posts, in room for a power of two. There is none
without room, nor with room for more than half of what can be counted. -/
def new? (capacity : Nat) : Option (Broadcast α) :=
  if capacity = 0 ∨ 1 <<< 63 ≤ capacity then none else some { room := capacity.nextPowerOfTwo }

/-- How many posts a channel keeps if nothing else is asked for. -/
def usualCapacity : Nat := 1024

/-- The newest posts that there is room for: what one who listened from the beginning, and looked at
nothing before the end, finds of all posts. -/
def newest (room : Nat) (posts : List α) : List α := posts.drop (posts.length - room)

theorem length_newest_le (room : Nat) (posts : List α) : (newest room posts).length ≤ room := by
  simp only [newest, List.length_drop]
  omega

/-- How many listen. -/
def listeners (b : Broadcast α) : Nat := (b.subscribers.filter Option.isSome).length

/-- Posts `a` to everyone who listens. -/
def post (b : Broadcast α) (a : α) : Broadcast α :=
  if b.listeners = 0 then b
  else { b with posted := b.posted + 1, kept := newest b.room (b.kept ++ [a]) }

/-- Adds a subscriber, behind the others. It gets only what is posted from now on. -/
def subscribe (b : Broadcast α) : Broadcast α :=
  { b with subscribers := b.subscribers ++ [some b.posted] }

/-- How many posts were lost to everyone. -/
def lost (b : Broadcast α) : Nat := b.posted - b.kept.length

/-- What is there for someone who has `place` posts behind it. -/
def since (b : Broadcast α) (place : Nat) : List α := b.kept.drop (place - b.lost)

/-- How many posts a subscriber has behind it. -/
def place? (b : Broadcast α) (i : Nat) : Option Nat := (b.subscribers[i]?).join

/-- Sets how many posts a subscriber has behind it. -/
def move (b : Broadcast α) (i : Nat) (place : Option Nat) : Broadcast α :=
  { b with subscribers := b.subscribers.set i place }

/-- The next post for a subscriber, if there is one. -/
def next? (b : Broadcast α) (i : Nat) : Option (Option α × Broadcast α) :=
  (b.place? i).map fun place =>
    match b.since place with
    | [] => (none, b)
    | a :: _ => (some a, b.move i (some (max place b.lost + 1)))

/-- All that is there for a subscriber. -/
def drain? (b : Broadcast α) (i : Nat) : Option (List α × Broadcast α) :=
  (b.place? i).map fun place => (b.since place, b.move i (some b.posted))

/-- Lets a subscriber leave, if there ever was such a one. One that left stays away. -/
def leave? (b : Broadcast α) (i : Nat) : Option (Broadcast α) :=
  if i < b.subscribers.length then some (b.move i none) else none

/-- What is there for each one that listens. -/
def rest (b : Broadcast α) : List (List α) := b.subscribers.filterMap (·.map b.since)

theorem length_kept_post (b : Broadcast α) (a : α) (h : b.kept.length ≤ b.room) :
    (b.post a).kept.length ≤ (b.post a).room := by
  simp only [post]
  split
  · exact h
  · exact length_newest_le ..

end Broadcast

end TestFleet
