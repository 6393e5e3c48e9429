import TestFleet.Server.Running

/-!
# The timers of a running server

A running server does its periodic work whenever a request comes in and the timer of the work has
become due. The timers that it has are those that it was started with, whatever comes in: one that
started goes on ticking, and is due no later than a period after the start or after some request
that came in, and one that did not start is never heard of.

* `Timer.exists_through`: when a timer is due that went through some moments;
* `sweeps_run`, `rebalancing_run`: the timers after any requests;
* `sweepsOnTime`, `rebalancesOnTime`: with a period, the work is done whenever it is due;
* `sweep_run_of_zero`, `rebalance_run_of_zero`: without one, it is never done.
-/

namespace TestFleet

/-! ## Timers -/

namespace Timer

/-- The timer at a moment, at which it may tick. -/
def next (t : Timer) (now : Instant) : Timer := (t.tick? now).getD t

/-- The timer after some moments. -/
def through (t : Timer) (moments : List Instant) : Timer := moments.foldl next t

/-- The timer is due a period after one of these moments. -/
def Paced (moments : List Instant) (t : Timer) : Prop := ∃ m ∈ moments, t.due = m.after t.period

variable {t : Timer} {moments later : List Instant} {now : Instant} {period : Duration}

theorem period_next (t : Timer) (now : Instant) : (t.next now).period = t.period := by
  rw [next, tick?]
  split <;> rfl

theorem period_through (t : Timer) (moments : List Instant) :
    (t.through moments).period = t.period := by
  induction moments generalizing t with
  | nil => rfl
  | cons now moments ih => exact (ih (t.next now)).trans (period_next t now)

theorem Paced.next (paced : t.Paced moments) (now : Instant) :
    (t.next now).Paced (moments ++ [now]) := by
  rw [Timer.next, tick?]
  split
  · exact ⟨now, List.mem_append_right _ (List.mem_singleton_self now), rfl⟩
  · obtain ⟨m, mem, due⟩ := paced
    exact ⟨m, List.mem_append_left _ mem, due⟩

theorem Paced.through (paced : t.Paced moments) (later : List Instant) :
    (t.through later).Paced (moments ++ later) := by
  induction later generalizing t moments with
  | nil => rwa [List.append_nil]
  | cons now later ih =>
    have paced := ih (paced.next now)
    rwa [List.append_assoc, List.singleton_append] at paced

/-- A timer with a period starts, and later is due a period after its start or one of the moments
that it went through. -/
theorem exists_through (pos : 0 < period.nanoseconds) (now : Instant) (moments : List Instant) :
    ∃ t, (start? period now).map (·.through moments) = some t ∧
      ∃ m ∈ now :: moments, t.due = m.after period := by
  have begun : start? period now = some ⟨period, now.after period, pos⟩ := dif_pos pos
  have paced : Paced [now] ⟨period, now.after period, pos⟩ :=
    ⟨now, List.mem_singleton_self now, rfl⟩
  obtain ⟨m, mem, due⟩ := paced.through moments
  rw [period_through] at due
  exact ⟨_, congrArg _ begun, m, mem, due⟩

theorem tick?_of_due (due : t.due.nanoseconds ≤ now.nanoseconds) :
    t.tick? now = some { t with due := now.after t.period } :=
  if_pos due

end Timer

/-! ## Servers at work -/

/-- What comes in at a moment: bytes that should be a request. -/
structure Arrival where
  now : Instant
  wall : Timestamp
  received : List UInt8

namespace RunningServer

/-- The server after something came in. -/
def afterArrival (r : RunningServer) (a : Arrival) : RunningServer :=
  (r.answer a.now a.wall a.received).2.2.1

/-- The server after some arrivals. -/
def run (r : RunningServer) (arrivals : List Arrival) : RunningServer :=
  arrivals.foldl afterArrival r

variable {r : RunningServer}

theorem sweep_of_none (none : r.sweeps = none) (now : Instant) : r.sweep now = ([], r) := by
  rw [sweep, none]
  rfl

theorem rebalance_of_none (none : r.rebalancing = none) (now : Instant) : r.rebalance now = r := by
  rw [rebalance, none]
  rfl

theorem sweep_timers (r : RunningServer) (now : Instant) :
    (r.sweep now).2.sweeps = r.sweeps.map (·.next now) ∧
      (r.sweep now).2.rebalancing = r.rebalancing := by
  cases timer : r.sweeps with
  | none => rw [sweep_of_none timer, timer]; exact ⟨rfl, rfl⟩
  | some t =>
    rw [sweep, timer, Option.bind_some, Option.map_some, Timer.next]
    cases t.tick? now with
    | none => exact ⟨timer, rfl⟩
    | some t' => exact ⟨rfl, rfl⟩

theorem rebalance_timers (r : RunningServer) (now : Instant) :
    (r.rebalance now).sweeps = r.sweeps ∧
      (r.rebalance now).rebalancing = r.rebalancing.map fun (a, t) => (a, t.next now) := by
  cases timer : r.rebalancing with
  | none => rw [rebalance_of_none timer, timer]; exact ⟨rfl, rfl⟩
  | some timed =>
    obtain ⟨a, t⟩ := timed
    rw [rebalance, timer, Option.bind_some, Option.map_some]
    dsimp only
    rw [Timer.next]
    cases t.tick? now with
    | none => exact ⟨rfl, timer⟩
    | some t' => exact ⟨rfl, rfl⟩

/-- Answering does the periodic work that is due, and leaves the timers to it. -/
theorem afterArrival_timers (r : RunningServer) (a : Arrival) :
    (r.afterArrival a).sweeps = r.sweeps.map (·.next a.now) ∧
      (r.afterArrival a).rebalancing = r.rebalancing.map fun (w, t) => (w, t.next a.now) := by
  have worked : (r.afterArrival a).sweeps = ((r.sweep a.now).2.rebalance a.now).sweeps ∧
      (r.afterArrival a).rebalancing = ((r.sweep a.now).2.rebalance a.now).rebalancing :=
    ⟨rfl, rfl⟩
  obtain ⟨swept, kept⟩ := r.sweep_timers a.now
  obtain ⟨kept', rebalanced⟩ := (r.sweep a.now).2.rebalance_timers a.now
  rw [worked.1, worked.2, kept', swept, rebalanced, kept]
  exact ⟨rfl, rfl⟩

theorem sweeps_run (r : RunningServer) (arrivals : List Arrival) :
    (r.run arrivals).sweeps = r.sweeps.map (·.through (arrivals.map (·.now))) := by
  induction arrivals generalizing r with
  | nil => exact Option.map_id'.symm
  | cons a arrivals ih =>
    rw [run, List.foldl_cons, ← run, ih, (r.afterArrival_timers a).1, Option.map_map]
    rfl

theorem rebalancing_run (r : RunningServer) (arrivals : List Arrival) :
    (r.run arrivals).rebalancing =
      r.rebalancing.map fun (a, t) => (a, t.through (arrivals.map (·.now))) := by
  induction arrivals generalizing r with
  | nil => exact Option.map_id'.symm
  | cons a arrivals ih =>
    rw [run, List.foldl_cons, ← run, ih, (r.afterArrival_timers a).2, Option.map_map]
    rfl

end RunningServer

/-! ## Periodic work -/

namespace ServerSetup

variable {s : ServerSetup}

/-- Whatever came in, there is a moment up to then, the start or that of an arrival, such that stuck
buckets are taken back at every time that is a period later than that. -/
def SweepsOnTime (s : ServerSetup) : Prop :=
  ∀ (start : Instant) (arrivals : List Arrival),
    ∃ m ∈ start :: arrivals.map (·.now), ∀ now,
      (m.after s.sweepEvery).nanoseconds ≤ now.nanoseconds →
      (((s.start start).run arrivals).sweep now).1 =
          (((s.start start).run arrivals).server.sweep now).1 ∧
        (((s.start start).run arrivals).sweep now).2.server =
          (((s.start start).run arrivals).server.sweep now).2

/-- So it is with finding out anew which workers each job prefers, if jobs do. -/
def RebalancesOnTime (s : ServerSetup) : Prop :=
  ∀ a, s.assignment = some a → ∀ (start : Instant) (arrivals : List Arrival),
    ∃ m ∈ start :: arrivals.map (·.now), ∀ now,
      (m.after s.rebalanceEvery).nanoseconds ≤ now.nanoseconds →
      (((s.start start).run arrivals).rebalance now).server =
        ((s.start start).run arrivals).server.rebalance a

theorem sweeps_run (s : ServerSetup) (start : Instant) (arrivals : List Arrival) :
    ((s.start start).run arrivals).sweeps =
      (Timer.start? s.sweepEvery start).map (·.through (arrivals.map (·.now))) :=
  RunningServer.sweeps_run (s.start start) arrivals

theorem rebalancing_run (s : ServerSetup) (start : Instant) (arrivals : List Arrival) :
    ((s.start start).run arrivals).rebalancing = s.assignment.bind fun a =>
      ((Timer.start? s.rebalanceEvery start).map (·.through (arrivals.map (·.now)))).map (a, ·) := by
  rw [RunningServer.rebalancing_run, ServerSetup.start, rebalanceTimer?]
  cases s.assignment with
  | none => rfl
  | some a => rw [Option.bind_some, Option.bind_some, Option.map_map, Option.map_map]; rfl

theorem sweepsOnTime (pos : 0 < s.sweepEvery.nanoseconds) : s.SweepsOnTime := by
  intro start arrivals
  obtain ⟨t, timer, m, mem, due⟩ := Timer.exists_through pos start (arrivals.map (·.now))
  refine ⟨m, mem, fun now passed => ?_⟩
  rw [RunningServer.sweep, sweeps_run, timer, Option.bind_some, Timer.tick?_of_due (due ▸ passed)]
  exact ⟨rfl, rfl⟩

theorem rebalancesOnTime (pos : 0 < s.rebalanceEvery.nanoseconds) : s.RebalancesOnTime := by
  intro a assigned start arrivals
  obtain ⟨t, timer, m, mem, due⟩ := Timer.exists_through pos start (arrivals.map (·.now))
  refine ⟨m, mem, fun now passed => ?_⟩
  rw [RunningServer.rebalance, rebalancing_run, assigned, Option.bind_some, timer, Option.map_some,
    Option.bind_some]
  dsimp only
  rw [Timer.tick?_of_due (due ▸ passed)]
  rfl

/-- A server whose sweeps have no period never takes stuck buckets back. -/
theorem sweep_run_of_zero (zero : s.sweepEvery.nanoseconds = 0) (start now : Instant)
    (arrivals : List Arrival) : ((s.start start).run arrivals).sweep now =
      ([], (s.start start).run arrivals) := by
  refine RunningServer.sweep_of_none ?_ now
  rw [sweeps_run, Timer.start?_of_zero zero, Option.map_none]

/-- A server whose rebalancing has no period never finds out anew which workers jobs prefer. -/
theorem rebalance_run_of_zero (zero : s.rebalanceEvery.nanoseconds = 0) (start now : Instant)
    (arrivals : List Arrival) : ((s.start start).run arrivals).rebalance now =
      (s.start start).run arrivals := by
  refine RunningServer.rebalance_of_none ?_ now
  rw [rebalancing_run, Timer.start?_of_zero zero]
  cases s.assignment <;> rfl

end ServerSetup

end TestFleet
