import Mathlib.Data.List.Induction
import TestFleet.Proofs.Queue.Notices

/-!
# Signs of life and silence

A sweep marks a worker silent if it holds a bucket and gave its last sign of life too long ago. So a
worker that gives signs of life in time never falls silent of itself, and one that fell silent is
not reported again before it gives another. That buckets are taken away from a worker is no sign of
its life.

* `signs`, `lastHeard?`: the signs of life of a worker along some notices, and the last of them;
* `pulse?_note_eq_alive`, `pulse?_note_eq_silent`: how a worker comes to be alive, or silent;
* `getLast?_signs`: an alive worker was last heard of at its last sign of life;
* `length_reports_le_one`: without a sign of life there is at most one report;
* `keepsTime_noteAll`: what holds of every worker after any notices.
-/

namespace TestFleet.Roster

variable {r : Roster} {w : WorkerId} {n : Notice} {ns : List Notice} {now t : Instant}

/-! ## Signs of life -/

/-- The times of the signs of life of a worker along some notices. -/
def signs (r : Roster) (w : WorkerId) : List Notice → List Instant
  | [] => []
  | n :: ns => (n.sign? r w).toList ++ (r.note n).signs w ns

/-- When a notice enters the worker `w`, if the roster does not list it yet. -/
def Notice.mention? (w : WorkerId) : Notice → Option Instant
  | .told (.beginRegistration v now) => if v = w then some now else none
  | .told (.register v now) => if v = w then some now else none
  | .told (.block v now) => if v = w then some now else none
  | _ => none

/-- When a worker was last heard of: at its last sign of life, or when it was first mentioned if it
gave none. -/
def lastHeard? (r : Roster) (w : WorkerId) (ns : List Notice) : Option Instant :=
  (r.signs w ns).getLast?.or (ns.findSome? (·.mention? w))

/-- When a notice is a sweep that reports the worker `w`. -/
def Notice.report? (r : Roster) (w : WorkerId) : Notice → Option Instant
  | .told (.markQuietSilent now) => if w ∈ r.quietWorkers now then some now else none
  | _ => none

/-- The times of the sweeps that report a worker along some notices. -/
def reports (r : Roster) (w : WorkerId) : List Notice → List Instant
  | [] => []
  | n :: ns => (n.report? r w).toList ++ (r.note n).reports w ns

/-- A worker is alive after a notice because the notice is a sign of its life, or because it was
alive before. -/
theorem pulse?_note_eq_alive (alive : (r.note n).pulse? w = some (.alive, t)) :
    n.sign? r w = some t ∨ n.sign? r w = none ∧ r.pulse? w = some (.alive, t) := by
  generalize after : (r.note n).pulse? w = p at alive
  cases after ▸ beat_note r w n with
  | kept noSign => exact .inr ⟨noSign, alive⟩
  | unlisted => cases alive
  | heard now sign => cases alive; exact .inl sign
  | barred barred => cases alive; rcases barred with h | h <;> cases h
  | silenced => cases alive
  | swept => cases alive

/-- A worker is silent after a notice because it was so before, or was marked by name, or because a
sweep found it quiet. -/
theorem pulse?_note_eq_silent (silent : (r.note n).pulse? w = some (.silent, t)) :
    r.pulse? w = some (.silent, t) ∨ n = .told (.markSilent w) ∨
      ∃ now, n = .told (.markQuietSilent now) ∧ w ∈ r.quietWorkers now := by
  generalize after : (r.note n).pulse? w = p at silent
  cases after ▸ beat_note r w n with
  | kept => exact .inl silent
  | unlisted => cases silent
  | heard _ _ notSilent => cases silent; exact absurd rfl notSilent
  | barred barred => cases silent; rcases barred with h | h <;> cases h
  | silenced marks => exact .inr (.inl marks)
  | swept sweeps quiet => exact .inr (.inr ⟨_, sweeps, quiet⟩)

/-- An alive worker was last heard of at its last sign of life. -/
theorem getLast?_signs (alive : (r.noteAll ns).pulse? w = some (.alive, t)) :
    (r.signs w ns).getLast? = some t ∨ r.signs w ns = [] ∧ r.pulse? w = some (.alive, t) := by
  induction ns generalizing r with
  | nil => exact .inr ⟨rfl, alive⟩
  | cons n ns ih =>
    rw [signs]
    rcases ih alive with last | ⟨none, before⟩
    · rw [List.getLast?_append, last]
      exact .inl rfl
    · rw [none, List.append_nil]
      rcases pulse?_note_eq_alive before with sign | ⟨noSign, before⟩
      · rw [sign]
        exact .inl rfl
      · rw [noSign]
        exact .inr ⟨rfl, before⟩

theorem lastHeard?_new {threshold : Duration}
    (alive : ((new threshold).noteAll ns).pulse? w = some (.alive, t)) :
    (new threshold).lastHeard? w ns = some t := by
  rcases getLast?_signs alive with last | ⟨-, before⟩
  · rw [lastHeard?, last, Option.some_or]
  · cases before

/-- A sweep finds a worker quiet if it is alive, holds a bucket, and was last heard of too long
ago. -/
theorem mem_quietWorkers_iff : w ∈ r.quietWorkers now ↔ ∃ t, r.pulse? w = some (.alive, t) ∧
    r.held w ≠ [] ∧ r.threshold.nanoseconds < now.since t := by
  have some (bs : List BucketId) : (∃ b, b ∈ bs) ↔ bs ≠ [] :=
    ⟨fun ⟨_, mem⟩ => List.ne_nil_of_mem mem, List.exists_mem_of_ne_nil bs⟩
  rw [mem_quietWorkers, pulse?, held_eq]
  cases r.workers.get? w with
  | none => simp
  | some s => simp [isQuiet_iff, some, and_assoc]

/-! ## Reports -/

/-- Only a worker that is alive is reported, and then it is so no more. -/
theorem of_report?_eq_some (report : n.report? r w = some now) :
    (∃ t, r.pulse? w = some (.alive, t)) ∧ ∀ t, (r.note n).pulse? w ≠ some (.alive, t) := by
  obtain rfl : n = .told (.markQuietSilent now) := by
    cases n with
    | told op =>
      cases op with
      | markQuietSilent => exact congrArg _ (congrArg _ (Option.ite_some_none_eq_some.1 report).2)
      | _ => cases report
    | _ => cases report
  have quiet := (Option.ite_some_none_eq_some.1 report).1
  obtain ⟨t, alive, -⟩ := mem_quietWorkers_iff.1 quiet
  obtain ⟨s, known, isQuiet⟩ := mem_quietWorkers.1 quiet
  refine ⟨⟨t, alive⟩, fun t => ?_⟩
  rw [note, perform, pulse?, get?_markQuietSilent, known, Option.map_some, Option.map_some,
    if_pos isQuiet]
  simp

/-- A worker that is not alive, and gives no sign of life, is not reported. -/
theorem reports_eq_nil (notAlive : ∀ t, r.pulse? w ≠ some (.alive, t))
    (noSigns : r.signs w ns = []) : r.reports w ns = [] := by
  induction ns generalizing r with
  | nil => rfl
  | cons n ns ih =>
    obtain ⟨noSign, rest⟩ := List.append_eq_nil_iff.1 noSigns
    have noSign := Option.toList_eq_nil_iff.1 noSign
    have still : ∀ t, (r.note n).pulse? w ≠ some (.alive, t) := fun t alive => by
      rcases pulse?_note_eq_alive alive with sign | ⟨-, before⟩
      · rw [noSign] at sign
        cases sign
      · exact notAlive t before
    rw [reports, ih still rest, List.append_nil, Option.toList_eq_nil_iff]
    refine Option.eq_none_iff_forall_ne_some.2 fun now report => ?_
    obtain ⟨⟨t, alive⟩, -⟩ := of_report?_eq_some report
    exact notAlive t alive

/-- Without a sign of life a worker is reported at most once. -/
theorem length_reports_le_one (noSigns : r.signs w ns = []) : (r.reports w ns).length ≤ 1 := by
  induction ns generalizing r with
  | nil => exact Nat.zero_le _
  | cons n ns ih =>
    obtain ⟨-, rest⟩ := List.append_eq_nil_iff.1 noSigns
    rw [reports]
    cases report : n.report? r w with
    | none => exact ih rest
    | some now =>
      rw [reports_eq_nil (of_report?_eq_some report).2 rest]
      exact Nat.le_refl _

/-! ## Silence -/

/-- Every sweep among the notices comes in time for a worker: it is at most so long after the last
sign of life that the worker gave before. -/
def InTime (r : Roster) (w : WorkerId) (ns : List Notice) : Prop :=
  ∀ before now after, ns = before ++ .told (.markQuietSilent now) :: after →
    ∀ t, (r.signs w before).getLast? = some t → now.since t ≤ r.threshold.nanoseconds

theorem not_silent_of_inTime {threshold : Duration} (unmarked : .told (.markSilent w) ∉ ns)
    (inTime : (new threshold).InTime w ns) (t : Instant) :
    ((new threshold).noteAll ns).pulse? w ≠ some (.silent, t) := by
  induction ns using List.reverseRecOn with
  | nil => exact nofun
  | append_singleton ns n ih =>
    have before := ih (fun mem => unmarked (List.mem_append_left _ mem)) fun before now after e =>
      inTime before now (after ++ [n]) (by rw [e, List.append_assoc]; rfl)
    rw [noteAll_append]
    intro silent
    rcases pulse?_note_eq_silent silent with silent | marks | ⟨now, rfl, quiet⟩
    · exact before silent
    · exact unmarked (List.mem_append_right _ (List.mem_singleton.2 marks.symm))
    · obtain ⟨t, alive, -, late⟩ := mem_quietWorkers_iff.1 quiet
      rcases getLast?_signs alive with last | ⟨-, before⟩
      · rw [threshold_noteAll] at late
        exact absurd (inTime ns now [] rfl t last) (Nat.not_le.2 late)
      · cases before

/-- What the signs of life of a worker mean after some notices, the first of which found a roster
without workers. If every sweep came in time, the worker never was silent, unless it was marked by
name. A sweep reports the worker exactly if it is alive, holds a bucket, and was last heard of too
long ago; and until the worker gives another sign of life, at most one sweep does so. That buckets
are taken away from it changes neither its standing nor when it was last heard of. -/
structure KeepsTime (threshold : Duration) (w : WorkerId) (ns : List Notice) : Prop where
  heeded : .told (.markSilent w) ∉ ns → (new threshold).InTime w ns →
    ∀ before after, ns = before ++ after →
      (((new threshold).noteAll before).liveness w).isSilent = false
  reported : ∀ now, w ∈ ((new threshold).noteAll ns).quietWorkers now ↔
    ((new threshold).noteAll ns).liveness w = .alive ∧ ((new threshold).noteAll ns).held w ≠ [] ∧
      ∃ t, (new threshold).lastHeard? w ns = some t ∧ threshold.nanoseconds < now.since t
  once : ∀ more, ((new threshold).noteAll ns).signs w more = [] →
    (((new threshold).noteAll ns).reports w more).length ≤ 1
  released : ∀ v b, (((new threshold).noteAll ns).release v b).pulse? w =
    ((new threshold).noteAll ns).pulse? w
  reclaimed : ∀ (q : JobQueue) maximum now,
    (q.reclaim ((new threshold).noteAll ns) maximum now).2.2.pulse? w =
      ((new threshold).noteAll ns).pulse? w

/-- Whatever is noted, in any order and at any times. -/
theorem keepsTime_noteAll (threshold : Duration) (w : WorkerId) (ns : List Notice) :
    KeepsTime threshold w ns := by
  refine ⟨fun unmarked inTime before after e => ?_, fun now => ?_,
    fun more noSigns => length_reports_le_one noSigns, fun v b => pulse?_release ..,
    fun q maximum now => ?_⟩
  · subst e
    rw [Bool.eq_false_iff, ne_eq, isSilent_liveness_iff]
    rintro ⟨t, silent⟩
    refine not_silent_of_inTime (fun mem => unmarked (List.mem_append_left _ mem))
      (fun first now rest e => inTime first now (rest ++ after) ?_) t silent
    rw [e, List.append_assoc]
    rfl
  · rw [mem_quietWorkers_iff, liveness_eq_alive_iff, threshold_noteAll]
    constructor
    · rintro ⟨t, alive, holds, late⟩
      exact ⟨⟨t, alive⟩, holds, t, lastHeard?_new alive, late⟩
    · rintro ⟨⟨t, alive⟩, holds, t', last, late⟩
      obtain rfl := Option.some.inj ((lastHeard?_new alive).symm.trans last)
      exact ⟨t, alive, holds, late⟩
  · exact (congrArg (·.pulse? w) (foldl_release_eq ..)).trans (pulse?_relieved ..)

end TestFleet.Roster
