import Mathlib.Algebra.Group.Nat.Defs
import TestFleet.Time.Backoff

/-!
# The law of backoff

Pause number `n` of a doubling sequence is to be `2 ^ n` times the pause it starts at, or the cap if
that is shorter, however long the sequence is polled and whenever it is reset. The cap has to be
there from the start: a sequence that starts above its cap yields a pause that is too long. And it
has to leave room: each pause is doubled before it is compared with the cap, so that a sequence
whose doubled cap is too long for a duration stops once it gets there.

* `reached`: where a sequence is that follows the law;
* `next?_reached`, `isSome_next?_reached`: one poll from there, and when there is one;
* `run_doubling`: polls and resets lead nowhere else;
* `followsLaw_iff`: the starts and caps with which a sequence follows the law;
* `not_followsLaw`: the two ways in which it does not.
-/

namespace TestFleet

theorem Duration.eq_of_nanoseconds {a b : Duration} (h : a.nanoseconds = b.nanoseconds) :
    a = b := by
  cases a
  cases b
  cases h
  rfl

theorem Duration.nanoseconds_min (a b : Duration) :
    (a.min b).nanoseconds = Min.min a.nanoseconds b.nanoseconds := by
  rw [Duration.min]
  split <;> omega

namespace Backoff

variable {start cap : Duration}

/-! ## The law -/

/-- Something that is done with a sequence of pauses. -/
inductive Operation where
  | poll
  | reset

/-- The sequence after an operation. A poll that yields no pause leaves it as it is. -/
def perform (b : Backoff) : Operation → Backoff
  | .poll => (b.next?.map (·.2)).getD b
  | .reset => b.reset

/-- The sequence after some operations. -/
def run (b : Backoff) (ops : List Operation) : Backoff := ops.foldl perform b

theorem run_append (b : Backoff) (ops more : List Operation) :
    b.run (ops ++ more) = (b.run ops).run more :=
  List.foldl_append

/-- Pause number `n` of a sequence that doubles from `start` on and never exceeds `cap`. -/
def lawful (start cap : Duration) (n : Nat) : Duration :=
  ⟨min cap.nanoseconds (start.nanoseconds * 2 ^ n),
    Nat.lt_of_le_of_lt (Nat.min_le_left _ _) cap.inRange⟩

/-- The doubling sequence with this start and cap yields the pauses of the law. -/
structure FollowsLaw (start cap : Duration) : Prop where
  created : ∀ n, (doubling start cap).take n = (List.range n).map (lawful start cap)
  afterReset : ∀ ops n,
    ((doubling start cap).run ops).reset.take n = (List.range n).map (lawful start cap)
  yields : ∀ ops, ((doubling start cap).run ops).next?.isSome
  capped : ∀ ops pause later, ((doubling start cap).run ops).next? = some (pause, later) →
    pause.nanoseconds ≤ cap.nanoseconds
  grows : ∀ ops pause later pause' later',
    ((doubling start cap).run ops).next? = some (pause, later) →
    later.next? = some (pause', later') → pause.nanoseconds ≤ pause'.nanoseconds

/-! ## Where the law leads -/

/-- The doubling sequence after `n` pauses that follow the law. -/
def reached (start cap : Duration) (n : Nat) : Backoff := ⟨lawful start cap n, 2, cap, start⟩

theorem doubling_eq_reached (le : start.nanoseconds ≤ cap.nanoseconds) :
    doubling start cap = reached start cap 0 := by
  have first : lawful start cap 0 = start := Duration.eq_of_nanoseconds (by
    change min cap.nanoseconds (start.nanoseconds * 2 ^ 0) = start.nanoseconds
    rw [Nat.pow_zero, Nat.mul_one]
    exact Nat.min_eq_right le)
  rw [reached, first, doubling]

theorem lawful_le_lawful_succ (start cap : Duration) (n : Nat) :
    (lawful start cap n).nanoseconds ≤ (lawful start cap (n + 1)).nanoseconds := by
  change min _ (_ * 2 ^ n) ≤ min _ (_ * 2 ^ (n + 1))
  rw [Nat.pow_succ, ← Nat.mul_assoc]
  omega

theorem next?_reached {n : Nat}
    (fits : (lawful start cap n).nanoseconds * 2 < UInt64.size * nanosPerSecond) :
    (reached start cap n).next? = some (lawful start cap n, reached start cap (n + 1)) := by
  have doubled : (lawful start cap n).times? 2 = some ⟨_, fits⟩ := dif_pos fits
  have next : cap.min ⟨_, fits⟩ = lawful start cap (n + 1) := Duration.eq_of_nanoseconds (by
    rw [Duration.nanoseconds_min]
    change min _ (min _ (_ * 2 ^ n) * 2) = min _ (_ * 2 ^ (n + 1))
    rw [Nat.pow_succ, ← Nat.mul_assoc]
    omega)
  rw [next?, reached]
  dsimp only
  rw [doubled, Option.map_some, next, reached]

/-- There is a next pause only if the present one can be doubled. -/
theorem isSome_next?_reached {n : Nat} : (reached start cap n).next?.isSome ↔
    (lawful start cap n).nanoseconds * 2 < UInt64.size * nanosPerSecond := by
  rw [next?, Option.isSome_map, reached]
  dsimp only
  rw [Duration.times?]
  split <;> simp_all

/-! ## Sequences that follow the law -/

/-- Doubling never leads out of the range of durations. -/
def HasRoom (start cap : Duration) : Prop :=
  start.nanoseconds = 0 ∨ cap.nanoseconds * 2 < UInt64.size * nanosPerSecond

theorem HasRoom.fits (room : HasRoom start cap) (n : Nat) :
    (lawful start cap n).nanoseconds * 2 < UInt64.size * nanosPerSecond := by
  have capped : (lawful start cap n).nanoseconds ≤ cap.nanoseconds := Nat.min_le_left _ _
  have grown : (lawful start cap n).nanoseconds ≤ start.nanoseconds * 2 ^ n := Nat.min_le_right _ _
  rcases room with none | fits
  · rw [none, Nat.zero_mul] at grown
    rw [Nat.le_zero.1 grown]
    decide
  · omega

theorem take_reached (room : HasRoom start cap) (k n : Nat) :
    (reached start cap k).take n = (List.range n).map fun i => lawful start cap (k + i) := by
  induction n generalizing k with
  | zero => rfl
  | succ n ih =>
    rw [take, next?_reached (room.fits k), List.range_succ_eq_map, List.map_cons, List.map_map]
    dsimp only
    rw [ih, Nat.add_zero]
    congr 2
    funext i
    rw [Function.comp_apply, Nat.succ_eq_add_one, Nat.add_assoc, Nat.add_comm 1]

theorem run_reached (le : start.nanoseconds ≤ cap.nanoseconds) (room : HasRoom start cap)
    (ops : List Operation) (k : Nat) : ∃ n, (reached start cap k).run ops = reached start cap n := by
  induction ops generalizing k with
  | nil => exact ⟨k, rfl⟩
  | cons op ops ih =>
    cases op with
    | poll =>
      obtain ⟨n, run⟩ := ih (k + 1)
      refine ⟨n, run ▸ ?_⟩
      rw [run, Backoff.run, List.foldl_cons, perform, next?_reached (room.fits k)]
      exact run
    | reset =>
      obtain ⟨n, run⟩ := ih 0
      rw [← doubling_eq_reached le] at run
      exact ⟨n, run⟩

theorem run_doubling (le : start.nanoseconds ≤ cap.nanoseconds) (room : HasRoom start cap)
    (ops : List Operation) : ∃ n, (doubling start cap).run ops = reached start cap n :=
  doubling_eq_reached le ▸ run_reached le room ops 0

theorem followsLaw_of_hasRoom (le : start.nanoseconds ≤ cap.nanoseconds)
    (room : HasRoom start cap) : FollowsLaw start cap := by
  have created (n : Nat) :
      (doubling start cap).take n = (List.range n).map (lawful start cap) := by
    rw [doubling_eq_reached le, take_reached room]
    simp only [Nat.zero_add]
  refine ⟨created, fun ops n => ?_, fun ops => ?_, fun ops pause later next => ?_,
    fun ops pause later pause' later' next next' => ?_⟩
  all_goals obtain ⟨k, run⟩ := run_doubling le room ops
  · rw [run]
    exact created n
  · rw [run]
    exact isSome_next?_reached.2 (room.fits k)
  · rw [run, next?_reached (room.fits k)] at next
    cases next
    exact Nat.min_le_left _ _
  · rw [run, next?_reached (room.fits k)] at next
    cases next
    rw [next?_reached (room.fits (k + 1))] at next'
    cases next'
    exact lawful_le_lawful_succ start cap k

/-! ## Sequences that do not -/

theorem FollowsLaw.start_le (h : FollowsLaw start cap) : start.nanoseconds ≤ cap.nanoseconds := by
  obtain ⟨⟨pause, later⟩, next⟩ := Option.isSome_iff_exists.1 (h.yields [])
  have first : pause = start := by
    obtain ⟨grown, -, same⟩ := Option.map_eq_some_iff.1 next
    cases same
    rfl
  exact first ▸ h.capped [] pause later next

/-- A sequence that never stops is where the law leads after every number of polls. -/
theorem FollowsLaw.run_replicate (h : FollowsLaw start cap) (n : Nat) :
    (doubling start cap).run (List.replicate n .poll) = reached start cap n := by
  induction n with
  | zero => exact doubling_eq_reached h.start_le
  | succ n ih =>
    have fits := isSome_next?_reached.1 (ih ▸ h.yields (List.replicate n .poll))
    rw [List.replicate_succ', run_append, ih, run, List.foldl_cons, List.foldl_nil, perform,
      next?_reached fits]
    rfl

theorem FollowsLaw.hasRoom (h : FollowsLaw start cap) : HasRoom start cap := by
  by_cases zero : start.nanoseconds = 0
  · exact .inl zero
  -- By then the cap is reached, since it has fewer than `2 ^ n` nanoseconds.
  let n := cap.nanoseconds
  have fits := isSome_next?_reached.1 (h.run_replicate n ▸ h.yields (List.replicate n .poll))
  have grown : cap.nanoseconds ≤ start.nanoseconds * 2 ^ n :=
    calc cap.nanoseconds
      _ ≤ 2 ^ n := Nat.le_of_lt Nat.lt_two_pow_self
      _ ≤ start.nanoseconds * 2 ^ n := Nat.le_mul_of_pos_left _ (Nat.pos_of_ne_zero zero)
  have capReached : (lawful start cap n).nanoseconds = cap.nanoseconds := Nat.min_eq_left grown
  exact .inr (capReached ▸ fits)

/-- A doubling sequence follows the law exactly if it starts at its cap or below and never doubles
out of range: it starts at nothing, or twice its cap still is a duration. -/
theorem followsLaw_iff : FollowsLaw start cap ↔
    start.nanoseconds ≤ cap.nanoseconds ∧
      (start.nanoseconds = 0 ∨ cap.nanoseconds * 2 < UInt64.size * nanosPerSecond) :=
  ⟨fun h => ⟨h.start_le, h.hasRoom⟩, fun ⟨le, room⟩ => followsLaw_of_hasRoom le room⟩

example : ((doubling (.ofSeconds 1) (.ofSeconds 10)).take 7).map Duration.seconds =
    [1, 2, 4, 8, 10, 10, 10] := by decide

/-- The shortest duration whose double is too long for a duration. -/
def halfRange : Duration := .ofSeconds 0x8000000000000000

/-- The first pause of a sequence that starts above its cap is that start, and a sequence that
starts where doubling leads out of range does not yield even that. -/
theorem not_followsLaw :
    ((doubling (.ofSeconds 2) (.ofSeconds 1)).take 1 = [.ofSeconds 2] ∧
      ¬FollowsLaw (.ofSeconds 2) (.ofSeconds 1)) ∧
    (doubling halfRange halfRange).next? = none ∧ ¬FollowsLaw halfRange halfRange := by
  refine ⟨⟨by decide, fun h => ?_⟩, by decide, fun h => ?_⟩
  · exact absurd h.start_le (by decide)
  · exact absurd (h.yields []) (by decide)

end Backoff

end TestFleet
