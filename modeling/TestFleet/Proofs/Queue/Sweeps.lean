import TestFleet.Proofs.Queue.Indexes
import TestFleet.Proofs.Queue.Standing
import TestFleet.Proofs.Sorting

/-!
# Sweeps

A sweep takes back exactly the buckets that are stuck once the quiet workers are marked silent, and
changes nothing else. Which buckets of one job are stuck does not depend on what was taken back from
another, so the jobs may be gone through in any order.

* `reclaimJobs_eq`: what going through the listed jobs makes of the dispatcher, in one step;
* `reclaim_swept`: a second sweep at the same time finds nothing to do;
* `SweepsExactly`: all that a sweep does;
* `Indexed.sweepsExactly`: it does so wherever the indexes agree with the queues;
* `Indexed.held_swept_of_gone`: workers that are gone are left with nothing.
-/

namespace TestFleet

/-- A bucket was handed out before another, or at the same time and its id comes first. -/
def InFlightBucket.Earlier (a b : InFlightBucket) : Prop :=
  a.dequeuedAt.nanoseconds < b.dequeuedAt.nanoseconds ∨
    a.dequeuedAt.nanoseconds = b.dequeuedAt.nanoseconds ∧ a.id.text < b.id.text

theorem InFlightBucket.Earlier.asymm {a b : InFlightBucket} (h : Earlier a b) : ¬Earlier b a := by
  rcases h with less | ⟨same, less⟩
  · rintro (less' | ⟨same, -⟩)
    · exact Nat.lt_asymm less less'
    · exact Nat.ne_of_gt less same
  · rintro (less' | ⟨-, less'⟩)
    · exact Nat.ne_of_lt less' same.symm
    · exact String.lt_asymm less less'

namespace JobQueue

variable {q : JobQueue} {r r' : Roster} {maximum : Duration} {now : Instant}

theorem stuck_congr (same : isStuck r maximum now = isStuck r' maximum now) :
    q.stuck r maximum now = q.stuck r' maximum now := by
  rw [stuck, same, stuck]

theorem takenBack_congr (same : isStuck r maximum now = isStuck r' maximum now) :
    q.takenBack r maximum now = q.takenBack r' maximum now := by
  rw [takenBack, stuck_congr same, same, takenBack]

/-- Stuck buckets are listed by the time they were handed out, and of one time by their id. -/
theorem Placed.pairwise_stuck {gone : List BucketId} (h : Placed q gone) (r : Roster)
    (maximum : Duration) (now : Instant) :
    (q.stuck r maximum now).Pairwise InFlightBucket.Earlier := by
  -- The directory lists the buckets in flight by their ids, and sorting by time is stable.
  have byId : (q.inFlight.filter fun _ d => isStuck r maximum now d).values.Pairwise
      fun a b => a.id.text < b.id.text := by
    refine List.pairwise_map.2 ((Directory.sorted _).imp_of_mem fun {a b} ha hb less => ?_)
    have own {e : BucketId × InFlightBucket}
        (he : e ∈ (q.inFlight.filter fun _ d => isStuck r maximum now d).entries) :
        e.2.id = e.1 :=
      h.own e.1 e.2 (Directory.get?_eq_some_iff.2 (List.mem_filter.1 he).1)
    rw [own ha, own hb]
    exact less
  have trans (a b c : InFlightBucket) (hab : decide (a.dequeuedAt.nanoseconds ≤
      b.dequeuedAt.nanoseconds)) (hbc : decide (b.dequeuedAt.nanoseconds ≤
      c.dequeuedAt.nanoseconds)) : decide (a.dequeuedAt.nanoseconds ≤ c.dequeuedAt.nanoseconds) :=
    decide_eq_true (Nat.le_trans (of_decide_eq_true hab) (of_decide_eq_true hbc))
  have byTime := pairwise_sortBy trans
    (fun a b => (Nat.le_total _ _).imp decide_eq_true decide_eq_true)
    (q.inFlight.filter fun _ d => isStuck r maximum now d).values
  refine (byTime.and (pairwise_sortBy_stable byId)).imp fun {a b} ⟨before, ofOneTime⟩ => ?_
  rcases Nat.lt_or_eq_of_le (of_decide_eq_true before) with less | same
  · exact .inl less
  · exact .inr ⟨same, ofOneTime (decide_eq_true (Nat.le_of_eq same.symm))⟩

theorem Placed.nodup_stuck {gone : List BucketId} (h : Placed q gone) (r : Roster)
    (maximum : Duration) (now : Instant) : (q.stuck r maximum now).Nodup :=
  (h.pairwise_stuck r maximum now).imp fun {a b} earlier same => by
    subst same
    exact earlier.asymm earlier

/-- Nothing is stuck once all that is stuck was taken back. -/
theorem stuck_takenBack (q : JobQueue) (r : Roster) (maximum : Duration) (now : Instant) :
    (q.takenBack r maximum now).stuck r maximum now = [] := by
  have none : ((q.takenBack r maximum now).inFlight.filter
      fun _ d => isStuck r maximum now d).values = [] := by
    refine List.eq_nil_iff_forall_not_mem.2 fun d hd => ?_
    obtain ⟨b, hb⟩ := Directory.mem_values.1 hd
    rw [Directory.get?_filter, Option.filter_eq_some_iff, takenBack, Directory.get?_filter,
      Option.filter_eq_some_iff] at hb
    obtain ⟨⟨-, free⟩, isStuck⟩ := hb
    simp [isStuck] at free
  rw [stuck, none]
  rfl

/-- A queue with nothing stuck stays as it is. -/
theorem takenBack_of_stuck_eq_nil {gone : List BucketId} (h : Placed q gone)
    (none : q.stuck r maximum now = []) : q.takenBack r maximum now = q := by
  have stays : (q.inFlight.filter fun _ d => !isStuck r maximum now d) = q.inFlight := by
    refine Directory.ext_get? fun b => ?_
    rw [Directory.get?_filter]
    cases inFlight : q.inFlight.get? b with
    | none => rfl
    | some d =>
      have free : isStuck r maximum now d = false := by
        refine Bool.eq_false_iff.2 fun isStuck => ?_
        have mem := h.mem_stuck.2 ⟨(h.own b d inFlight).symm ▸ inFlight, isStuck⟩
        rw [none] at mem
        cases mem
      simp [Option.filter, free]
  rw [takenBack, none, stays]
  rfl

end JobQueue

namespace Dispatcher

variable {d : Dispatcher} {j : JobId} {js : List JobId} {now : Instant}

/-! ## Going through the jobs -/

/-- The stuck buckets of the listed jobs, job by job. -/
def stuckOf (d : Dispatcher) (now : Instant) (js : List JobId) : List (JobId × InFlightBucket) :=
  js.flatMap fun j =>
    ((d.queueOf j).stuck d.roster d.config.maximumInFlight now).map fun f => (j, f)

/-- The dispatcher after the stuck buckets of the listed jobs were taken back. -/
def tookBackOf (d : Dispatcher) (now : Instant) (js : List JobId) : Dispatcher :=
  { d with
    jobs := d.jobs.mapValues fun j job =>
      if j ∈ js then
        { job with queue := job.queue.takenBack d.roster d.config.maximumInFlight now }
      else job
    roster := d.roster.relieved ((d.stuckOf now js).map (·.2)) }

theorem get?_tookBackOf (d : Dispatcher) (now : Instant) (js : List JobId) (j : JobId) :
    (d.tookBackOf now js).jobs.get? j = (d.jobs.get? j).map fun job =>
      if j ∈ js then
        { job with queue := job.queue.takenBack d.roster d.config.maximumInFlight now }
      else job := by
  rw [tookBackOf, Directory.get?_mapValues]

theorem mem_stuckOf {f : InFlightBucket} : (j, f) ∈ d.stuckOf now js ↔
    j ∈ js ∧ f ∈ (d.queueOf j).stuck d.roster d.config.maximumInFlight now := by
  simp only [stuckOf, List.mem_flatMap, List.mem_map, Prod.mk.injEq]
  constructor
  · rintro ⟨_, hj, _, hf, rfl, rfl⟩
    exact ⟨hj, hf⟩
  · rintro ⟨hj, hf⟩
    exact ⟨j, hj, f, hf, rfl, rfl⟩

theorem tookBackOf_nil (d : Dispatcher) (now : Instant) : d.tookBackOf now [] = d := by
  have jobs : (d.tookBackOf now []).jobs = d.jobs := Directory.ext_get? fun j => by
    rw [get?_tookBackOf]
    cases d.jobs.get? j <;> rfl
  have roster : d.roster.relieved [] = d.roster := (Roster.foldl_release_eq [] d.roster).symm
  calc d.tookBackOf now []
    _ = { d with jobs := (d.tookBackOf now []).jobs, roster := d.roster.relieved [] } := rfl
    _ = d := by rw [jobs, roster]

/-! ### A job that is not live -/

theorem stuckOf_cons_of_none (notLive : d.jobs.get? j = none) :
    d.stuckOf now (j :: js) = d.stuckOf now js := by
  rw [stuckOf, List.flatMap_cons, queueOf, notLive]
  rfl

/-- Of a job that is not live nothing is taken back. -/
theorem tookBackOf_cons_of_none (notLive : d.jobs.get? j = none) :
    d.tookBackOf now (j :: js) = d.tookBackOf now js := by
  have jobs : (d.tookBackOf now (j :: js)).jobs = (d.tookBackOf now js).jobs := by
    refine Directory.ext_get? fun k => ?_
    rw [get?_tookBackOf, get?_tookBackOf]
    by_cases e : k = j
    · rw [e, notLive]
      rfl
    · simp [e]
  calc d.tookBackOf now (j :: js)
    _ = { d with
        jobs := (d.tookBackOf now (j :: js)).jobs
        roster := d.roster.relieved ((d.stuckOf now (j :: js)).map (·.2)) } := rfl
    _ = d.tookBackOf now js := by
      rw [jobs, stuckOf_cons_of_none notLive]
      rfl

/-! ### A job that is live -/

theorem stuckOf_cons_of_live {job : Job} (live : d.jobs.get? j = some job) :
    d.stuckOf now (j :: js) =
      (job.queue.stuck d.roster d.config.maximumInFlight now).map (fun f => (j, f)) ++
        d.stuckOf now js := by
  rw [stuckOf, stuckOf, List.flatMap_cons, queueOf_of_live live]

theorem isStuck_tookBack (d : Dispatcher) (j : JobId) (q : JobQueue) (now : Instant) :
    JobQueue.isStuck (d.tookBack j q now).roster d.config.maximumInFlight now =
      JobQueue.isStuck d.roster d.config.maximumInFlight now := by
  rw [tookBack]
  dsimp only
  rw [Roster.foldl_release_eq]
  exact Roster.isStuck_relieved ..

/-- What is stuck of other jobs is so before and after. -/
theorem stuckOf_tookBack (other : j ∉ js) (q : JobQueue) :
    (d.tookBack j q now).stuckOf now js = d.stuckOf now js := by
  rw [stuckOf, stuckOf, List.flatMap_def, List.flatMap_def]
  refine congrArg _ (List.map_congr_left fun k hk => ?_)
  have queue : (d.tookBack j q now).queueOf k = d.queueOf k :=
    queueOf_withQueue_of_ne (fun e : k = j => other (e ▸ hk)) _
  rw [queue]
  exact congrArg _ (JobQueue.stuck_congr (d.isStuck_tookBack j q now))

theorem jobs_tookBackOf_tookBack {job : Job} (live : d.jobs.get? j = some job) (other : j ∉ js) :
    ((d.tookBack j job.queue now).tookBackOf now js).jobs = (d.tookBackOf now (j :: js)).jobs := by
  have sameStuck := d.isStuck_tookBack j job.queue now
  refine Directory.ext_get? fun k => ?_
  rw [get?_tookBackOf, get?_tookBackOf]
  by_cases e : k = j
  · subst e
    have taken : (d.tookBack k job.queue now).jobs.get? k = some { job with
        queue := job.queue.takenBack d.roster d.config.maximumInFlight now } :=
      get?_withQueue_self live _
    rw [taken, live]
    simp [other]
  · have untouched : (d.tookBack j job.queue now).jobs.get? k = d.jobs.get? k :=
      get?_withQueue_of_ne e _
    rw [untouched]
    simp only [List.mem_cons, e, false_or]
    congr 1
    funext job'
    split
    · exact congrArg (fun q => { job' with queue := q }) (JobQueue.takenBack_congr sameStuck)
    · rfl

/-- Taking back the stuck buckets of one job and then of others. -/
theorem tookBackOf_tookBack {job : Job} (live : d.jobs.get? j = some job) (other : j ∉ js) :
    (d.tookBack j job.queue now).tookBackOf now js = d.tookBackOf now (j :: js) := by
  have roster : ((d.tookBack j job.queue now).tookBackOf now js).roster =
      (d.tookBackOf now (j :: js)).roster := by
    rw [tookBackOf, tookBackOf]
    dsimp only
    rw [stuckOf_tookBack other, stuckOf_cons_of_live live, tookBack]
    dsimp only
    rw [Roster.foldl_release_eq, Roster.relieved_relieved, List.map_append, List.map_map]
    simp [Function.comp_def]
  calc (d.tookBack j job.queue now).tookBackOf now js
    _ = { d with
        jobs := ((d.tookBack j job.queue now).tookBackOf now js).jobs
        roster := ((d.tookBack j job.queue now).tookBackOf now js).roster } := rfl
    _ = d.tookBackOf now (j :: js) := by
      rw [jobs_tookBackOf_tookBack live other, roster]
      rfl

theorem reclaimJobs_cons_of_live {job : Job} (live : d.jobs.get? j = some job)
    (js : List JobId) (now : Instant) : d.reclaimJobs now (j :: js) =
      ((job.queue.stuck d.roster d.config.maximumInFlight now).map (fun f => (j, f)) ++
        ((d.tookBack j job.queue now).reclaimJobs now js).1,
      ((d.tookBack j job.queue now).reclaimJobs now js).2) := by
  rw [reclaimJobs, live]
  rfl

/-! ### All jobs -/

/-- Going through jobs takes back the buckets that were stuck before. -/
theorem reclaimJobs_eq (nodup : js.Nodup) (d : Dispatcher) (now : Instant) :
    d.reclaimJobs now js = (d.stuckOf now js, d.tookBackOf now js) := by
  induction js generalizing d with
  | nil => rw [reclaimJobs, tookBackOf_nil, stuckOf, List.flatMap_nil]
  | cons j js ih =>
    obtain ⟨other, rest⟩ := List.nodup_cons.1 nodup
    cases live : d.jobs.get? j with
    | none =>
      rw [reclaimJobs, live, stuckOf_cons_of_none live, tookBackOf_cons_of_none live]
      exact ih rest d
    | some job =>
      rw [reclaimJobs_cons_of_live live, ih rest, stuckOf_tookBack other,
        tookBackOf_tookBack live other, stuckOf_cons_of_live live]

/-- The order in which the jobs are gone through makes no difference. -/
theorem tookBackOf_eq_of_perm {ks : List JobId} (perm : js.Perm ks) (d : Dispatcher)
    (now : Instant) : d.tookBackOf now js = d.tookBackOf now ks := by
  have taken : ((d.stuckOf now js).map (·.2)).Perm ((d.stuckOf now ks).map (·.2)) :=
    (perm.flatMap_right _).map _
  rw [tookBackOf, tookBackOf, Roster.relieved_eq_of_perm taken]
  simp only [perm.mem_iff]

/-! ## The sweep -/

/-- The dispatcher with the quiet workers marked silent. -/
def marked (d : Dispatcher) (now : Instant) : Dispatcher := d.withRoster (·.markQuietSilent now)

/-- The dispatcher after a sweep. -/
def swept (d : Dispatcher) (now : Instant) : Dispatcher :=
  (d.marked now).tookBackOf now d.jobs.keys

theorem reclaim_eq (d : Dispatcher) (now : Instant) : d.reclaim now =
    ((d.marked now).stuckOf now d.jobs.keys,
      (d.roster.quietWorkers now).map .workerSilent ++
        ((d.marked now).stuckOf now d.jobs.keys).map (fun (j, f) =>
          .bucketReclaimed j f.id f.worker),
      d.swept now) := by
  have jobs := reclaimJobs_eq d.jobs.keys_nodup (d.marked now) now
  rw [reclaim]
  dsimp only
  rw [← marked, show (d.marked now).jobs = d.jobs from rfl, jobs, swept]

theorem reclaim_state (d : Dispatcher) (now : Instant) : (d.reclaim now).2.2 = d.swept now := by
  rw [reclaim_eq]

theorem get?_workers_swept (d : Dispatcher) (now : Instant) (w : WorkerId) :
    (d.swept now).roster.workers.get? w = (d.roster.workers.get? w).map fun s =>
      (if d.roster.isQuiet now s then { s with standing := .silent } else s).without w
        (((d.marked now).stuckOf now d.jobs.keys).map (·.2)) := by
  have relieved := Roster.get?_relieved (d.roster.markQuietSilent now)
    (((d.marked now).stuckOf now d.jobs.keys).map (·.2)) w
  rw [Roster.get?_markQuietSilent, Option.map_map] at relieved
  exact relieved

theorem held_marked (d : Dispatcher) (now : Instant) (w : WorkerId) :
    (d.marked now).roster.held w = d.roster.held w :=
  Roster.held_markQuietSilent

theorem queueOf_marked (d : Dispatcher) (now : Instant) (j : JobId) :
    (d.marked now).queueOf j = d.queueOf j := rfl

theorem get?_swept {job : Job} (live : d.jobs.get? j = some job) (now : Instant) :
    (d.swept now).jobs.get? j = some { job with
      queue := job.queue.takenBack (d.marked now).roster d.config.maximumInFlight now } := by
  have isLive : (d.marked now).jobs.get? j = some job := live
  rw [swept, get?_tookBackOf, isLive, Option.map_some,
    if_pos (Directory.mem_keys.2 ⟨job, live⟩)]
  rfl

theorem queueOf_swept (d : Dispatcher) (now : Instant) (j : JobId) : (d.swept now).queueOf j =
    (d.queueOf j).takenBack (d.marked now).roster d.config.maximumInFlight now := by
  cases live : d.jobs.get? j with
  | none =>
    have isNotLive : (d.swept now).jobs.get? j = none := by
      rw [swept, get?_tookBackOf, show (d.marked now).jobs.get? j = none from live]
      rfl
    rw [queueOf, queueOf, isNotLive, live]
    rfl
  | some job => rw [queueOf_of_live (get?_swept live now), queueOf_of_live live]

/-! ### A second sweep -/

theorem not_isQuiet_swept {w : WorkerId} {s : WorkerRecord}
    (known : (d.swept now).roster.workers.get? w = some s) :
    (d.swept now).roster.isQuiet now s = false := by
  have quiet := Roster.not_isQuiet_relieved known
  rwa [Roster.isQuiet] at quiet ⊢

theorem quietWorkers_swept (d : Dispatcher) (now : Instant) :
    (d.swept now).roster.quietWorkers now = [] := by
  refine List.eq_nil_iff_forall_not_mem.2 fun w hw => ?_
  obtain ⟨s, known, quiet⟩ := Roster.mem_quietWorkers.1 hw
  rw [not_isQuiet_swept known] at quiet
  cases quiet

theorem marked_swept (d : Dispatcher) (now : Instant) : (d.swept now).marked now = d.swept now := by
  have roster : (d.swept now).roster.markQuietSilent now = (d.swept now).roster := by
    refine Roster.ext_get? rfl fun w => ?_
    rw [Roster.get?_markQuietSilent]
    cases known : (d.swept now).roster.workers.get? w with
    | none => rfl
    | some s => simp [not_isQuiet_swept known]
  rw [marked, withRoster, roster]

theorem isStuck_swept (d : Dispatcher) (now : Instant) :
    JobQueue.isStuck (d.swept now).roster d.config.maximumInFlight now =
      JobQueue.isStuck (d.marked now).roster d.config.maximumInFlight now :=
  Roster.isStuck_relieved ..

theorem stuck_swept (d : Dispatcher) (now : Instant) (j : JobId) :
    ((d.swept now).queueOf j).stuck (d.swept now).roster d.config.maximumInFlight now = [] := by
  rw [JobQueue.stuck_congr (d.isStuck_swept now), queueOf_swept]
  exact JobQueue.stuck_takenBack ..

theorem swept_swept (orderly : d.Orderly) (now : Instant) :
    (d.swept now).swept now = d.swept now := by
  have orderly' : (d.swept now).Orderly := by
    have swept := orderly.perform (admitted_of_forall (.reclaim now))
    rwa [perform, reclaim_eq] at swept
  have none : (d.swept now).stuckOf now (d.swept now).jobs.keys = [] :=
    List.flatMap_eq_nil_iff.2 fun j _ => List.map_eq_nil_iff.2 (d.stuck_swept now j)
  have jobs : ((d.swept now).tookBackOf now (d.swept now).jobs.keys).jobs = (d.swept now).jobs := by
    refine Directory.ext_get? fun j => ?_
    rw [get?_tookBackOf]
    cases live : (d.swept now).jobs.get? j with
    | none => rfl
    | some job =>
      obtain ⟨gone, placed⟩ := orderly'.placed live
      have free := d.stuck_swept now j
      rw [queueOf_of_live live] at free
      rw [Option.map_some, if_pos (Directory.mem_keys.2 ⟨job, live⟩)]
      exact congrArg (fun q => some { job with queue := q })
        (JobQueue.takenBack_of_stuck_eq_nil placed free)
  calc (d.swept now).swept now
    _ = (d.swept now).tookBackOf now (d.swept now).jobs.keys := by rw [swept, marked_swept]
    _ = { d.swept now with
        jobs := ((d.swept now).tookBackOf now (d.swept now).jobs.keys).jobs
        roster := (d.swept now).roster.relieved
          (((d.swept now).stuckOf now (d.swept now).jobs.keys).map (·.2)) } := rfl
    _ = { d.swept now with
        jobs := (d.swept now).jobs
        roster := (d.swept now).roster.relieved [] } := by rw [jobs, none, List.map_nil]
    _ = d.swept now := by rw [← Roster.foldl_release_eq, List.foldl_nil]

theorem reclaim_swept (orderly : d.Orderly) (now : Instant) :
    (d.swept now).reclaim now = ([], [], d.swept now) := by
  have none : (d.swept now).stuckOf now (d.swept now).jobs.keys = [] :=
    List.flatMap_eq_nil_iff.2 fun j _ => List.map_eq_nil_iff.2 (d.stuck_swept now j)
  rw [reclaim_eq, marked_swept, none, quietWorkers_swept, swept_swept orderly]
  rfl

/-! ### All of it -/

/-- A worker is alive, some bucket is in flight for it, and it was last heard of longer ago than
the roster allows. -/
def Quiet (d : Dispatcher) (now : Instant) (w : WorkerId) : Prop :=
  ∃ s, d.roster.workers.get? w = some s ∧ s.standing = .alive ∧
    (∃ j b f, (d.queueOf j).inFlight.get? b = some f ∧ f.worker = w) ∧
    d.roster.threshold.nanoseconds < now.since s.lastActivity

/-- What a sweep at `now` does, and that it does nothing else. The quiet workers are marked silent,
and the buckets in flight of workers that are gone by then, or that were handed out too long ago,
are taken back. They wait in front of the line of their job, the one handed out first in front, and
no longer count as held by their workers. A second sweep at the same time finds nothing to do, and
the jobs may be gone through in any order. -/
structure SweepsExactly (d : Dispatcher) (now : Instant) : Prop where
  unlisted : ∀ w, d.roster.workers.get? w = none →
    (d.reclaim now).2.2.roster.workers.get? w = none
  standing : ∀ w s, d.roster.workers.get? w = some s →
    ∃ s', (d.reclaim now).2.2.roster.workers.get? w = some s' ∧
      s'.lastActivity = s.lastActivity ∧ (d.Quiet now w → s'.standing = .silent) ∧
      (¬d.Quiet now w → s'.standing = s.standing)
  silenced : ∀ w, .workerSilent w ∈ (d.reclaim now).2.1 ↔ d.Quiet now w
  taken : ∀ j f, (j, f) ∈ (d.reclaim now).1 ↔
    (d.queueOf j).inFlight.get? f.id = some f ∧ ((d.reclaim now).2.2.roster.Gone f.worker ∨
      d.config.maximumInFlight.nanoseconds < now.since f.dequeuedAt)
  once : (d.reclaim now).1.Nodup
  notLive : ∀ j, d.jobs.get? j = none → (d.reclaim now).2.2.jobs.get? j = none
  queue : ∀ j job, d.jobs.get? j = some job → ∃ back : List InFlightBucket,
    back.Pairwise InFlightBucket.Earlier ∧ (∀ f, f ∈ back ↔ (j, f) ∈ (d.reclaim now).1) ∧
    (d.reclaim now).2.2.jobs.get? j = some { job with queue := { job.queue with
      waiting := back.map (·.waiting) ++ job.queue.waiting
      inFlight := job.queue.inFlight.filter fun b _ => !(back.map (·.id)).contains b } }
  held : ∀ w b, b ∈ (d.reclaim now).2.2.roster.held w ↔
    b ∈ d.roster.held w ∧ ∀ j f, (j, f) ∈ (d.reclaim now).1 → ¬(f.worker = w ∧ f.id = b)
  rest : ∃ jobs roster, roster.threshold = d.roster.threshold ∧
    (d.reclaim now).2.2 = { d with jobs := jobs, roster := roster }
  again : (d.reclaim now).2.2.reclaim now = ([], [], (d.reclaim now).2.2)
  anyOrder : ∀ js : List JobId, js.Perm d.jobs.keys →
    ((d.withRoster (·.markQuietSilent now)).reclaimJobs now js).2 = (d.reclaim now).2.2

theorem mem_stuckOf_marked (orderly : d.Orderly) {f : InFlightBucket} :
    (j, f) ∈ (d.marked now).stuckOf now d.jobs.keys ↔
      (d.queueOf j).inFlight.get? f.id = some f ∧ ((d.swept now).roster.Gone f.worker ∨
        d.config.maximumInFlight.nanoseconds < now.since f.dequeuedAt) := by
  obtain ⟨gone, placed⟩ := orderly.placed_queueOf j
  have isStuck : JobQueue.isStuck (d.marked now).roster d.config.maximumInFlight now f = true ↔
      (d.swept now).roster.Gone f.worker ∨
        d.config.maximumInFlight.nanoseconds < now.since f.dequeuedAt := by
    rw [← isStuck_swept, Roster.isStuck_iff]
  rw [mem_stuckOf, queueOf_marked, ← isStuck]
  refine ⟨fun ⟨_, stuck⟩ => placed.mem_stuck.1 stuck, fun stuck => ⟨?_, placed.mem_stuck.2 stuck⟩⟩
  obtain ⟨job, live, -⟩ := inFlight_queueOf_eq_some.1 stuck.1
  exact Directory.mem_keys.2 ⟨job, live⟩

theorem nodup_stuckOf (orderly : d.Orderly) (nodup : js.Nodup) (now : Instant) :
    (d.stuckOf now js).Nodup := by
  rw [stuckOf, List.Nodup, List.pairwise_flatMap]
  refine ⟨fun j _ => List.pairwise_map.2 ?_, nodup.imp fun {j k} e => ?_⟩
  · obtain ⟨gone, placed⟩ := orderly.placed_queueOf j
    exact (placed.nodup_stuck ..).imp fun e same => e (Prod.ext_iff.1 same).2
  · intro x hx y hy same
    obtain ⟨f, -, rfl⟩ := List.mem_map.1 hx
    obtain ⟨g, -, rfl⟩ := List.mem_map.1 hy
    exact e (Prod.ext_iff.1 same).1

/-- A bucket stays in flight if its id is not among those that were taken back. -/
theorem inFlight_takenBack {q : JobQueue} {gone : List BucketId} (placed : q.Placed gone)
    (r : Roster) (maximum : Duration) (now : Instant) : (q.takenBack r maximum now).inFlight =
      q.inFlight.filter fun b _ => !((q.stuck r maximum now).map (·.id)).contains b := by
  refine Directory.ext_get? fun b => ?_
  rw [JobQueue.takenBack, Directory.get?_filter, Directory.get?_filter]
  cases inFlight : q.inFlight.get? b with
  | none => rfl
  | some f =>
    have own := placed.own b f inFlight
    have listed : ((q.stuck r maximum now).map (·.id)).contains b =
        JobQueue.isStuck r maximum now f := by
      rw [Bool.eq_iff_iff, List.contains_iff_mem, List.mem_map]
      constructor
      · rintro ⟨g, hg, id⟩
        obtain ⟨inFlight', stuck⟩ := placed.mem_stuck.1 hg
        rw [id, inFlight] at inFlight'
        cases inFlight'
        exact stuck
      · exact fun stuck => ⟨f, placed.mem_stuck.2 ⟨own.symm ▸ inFlight, stuck⟩, own⟩
    simp only [Option.filter, listed]

namespace Indexed

variable {w : WorkerId}

/-- A worker is marked silent exactly if it is quiet, since the roster lists what is in flight. -/
theorem isQuiet_iff_quiet (h : d.Indexed) {s : WorkerRecord}
    (known : d.roster.workers.get? w = some s) :
    d.roster.isQuiet now s = true ↔ d.Quiet now w := by
  have holds (b : BucketId) : b ∈ s.buckets.keys ↔
      ∃ j f, (d.queueOf j).inFlight.get? b = some f ∧ f.worker = w := by
    rw [← h.held, Roster.held, known]
  rw [Roster.isQuiet_iff, Quiet]
  constructor
  · rintro ⟨alive, ⟨b, hb⟩, long⟩
    obtain ⟨j, f, hf⟩ := (holds b).1 hb
    exact ⟨s, known, alive, ⟨j, b, f, hf⟩, long⟩
  · rintro ⟨s', known', alive, ⟨j, b, f, hf⟩, long⟩
    rw [known] at known'
    cases known'
    exact ⟨alive, ⟨b, (holds b).2 ⟨j, f, hf⟩⟩, long⟩

theorem mem_quietWorkers_iff (h : d.Indexed) :
    w ∈ d.roster.quietWorkers now ↔ d.Quiet now w := by
  rw [Roster.mem_quietWorkers]
  constructor
  · rintro ⟨s, known, quiet⟩
    exact (h.isQuiet_iff_quiet known).1 quiet
  · rintro ⟨s, known, quiet⟩
    exact ⟨s, known, (h.isQuiet_iff_quiet known).2 ⟨s, known, quiet⟩⟩

/-- Where the indexes agree with the queues, a sweep does exactly what it should. -/
theorem sweepsExactly (h : d.Indexed) (now : Instant) : d.SweepsExactly now where
  unlisted w unknown := by
    rw [reclaim_state, get?_workers_swept, unknown]
    rfl
  standing w s known := by
    rw [reclaim_state, get?_workers_swept, known]
    refine ⟨_, rfl, ?_, fun quiet => ?_, fun quiet => ?_⟩
    · dsimp only [WorkerRecord.without]
      split <;> rfl
    · dsimp only
      rw [if_pos ((h.isQuiet_iff_quiet known).2 quiet)]
      rfl
    · dsimp only
      rw [if_neg fun isQuiet => quiet ((h.isQuiet_iff_quiet known).1 isQuiet)]
      rfl
  silenced w := by
    rw [reclaim_eq, ← h.mem_quietWorkers_iff]
    simp
  taken j f := by
    rw [reclaim_eq]
    exact mem_stuckOf_marked h.orderly
  once := by
    rw [reclaim_eq]
    exact nodup_stuckOf (d := d.marked now) h.orderly d.jobs.keys_nodup now
  notLive j notLive := by
    rw [reclaim_state, swept, get?_tookBackOf, show (d.marked now).jobs.get? j = none from notLive]
    rfl
  queue j job live := by
    obtain ⟨gone, placed⟩ := h.orderly.placed live
    rw [reclaim_eq]
    refine ⟨_, placed.pairwise_stuck (d.marked now).roster d.config.maximumInFlight now,
      fun f => ?_, ?_⟩
    · rw [mem_stuckOf, queueOf_marked, queueOf_of_live live]
      exact (and_iff_right (Directory.mem_keys.2 ⟨job, live⟩)).symm
    · dsimp only
      rw [get?_swept live, ← inFlight_takenBack placed]
      rfl
  held w b := by
    rw [reclaim_eq]
    refine (Roster.mem_held_relieved _ _).trans ?_
    rw [held_marked]
    refine and_congr_right fun _ => ⟨fun kept j f taken same => ?_, fun kept f taken same => ?_⟩
    · exact kept f (List.mem_map.2 ⟨(j, f), taken, rfl⟩) ⟨same.1.symm, same.2.symm⟩
    · obtain ⟨⟨j, f⟩, ofJob, rfl⟩ := List.mem_map.1 taken
      exact kept j f ofJob ⟨same.1.symm, same.2.symm⟩
  rest := ⟨(d.swept now).jobs, (d.swept now).roster, rfl, d.reclaim_state now⟩
  again := by
    rw [reclaim_state]
    exact reclaim_swept h.orderly now
  anyOrder js perm := by
    have nodup := perm.nodup_iff.2 d.jobs.keys_nodup
    rw [reclaim_eq, ← marked, reclaimJobs_eq nodup]
    exact tookBackOf_eq_of_perm perm (d.marked now) now

theorem swept (h : d.Indexed) (now : Instant) : (d.swept now).Indexed := by
  have after : (d.perform (.reclaim now)).Indexed := h.perform id
  rwa [Dispatcher.perform, reclaim_state] at after

/-- A sweep takes back all that is in flight for a worker that is gone by then. -/
theorem held_swept_of_gone (h : d.Indexed) (isGone : (d.swept now).roster.Gone w) :
    (d.swept now).roster.held w = [] := by
  have sweep := h.sweepsExactly now
  rw [← reclaim_state] at isGone ⊢
  refine List.eq_nil_iff_forall_not_mem.2 fun b held => ?_
  obtain ⟨before, kept⟩ := (sweep.held w b).1 held
  obtain ⟨j, f, inFlight, rfl⟩ := (h.held w b).1 before
  obtain ⟨gone, placed⟩ := h.orderly.placed_queueOf j
  obtain rfl := placed.own b f inFlight
  exact kept j f ((sweep.taken j f).2 ⟨inFlight, .inl isGone⟩) ⟨rfl, rfl⟩

end Indexed

end Dispatcher

end TestFleet
