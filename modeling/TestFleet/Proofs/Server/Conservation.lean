import TestFleet.Proofs.Queue.Conservation
import TestFleet.Proofs.Queue.Split
import TestFleet.Proofs.Server.Indexes

/-!
# One result for each test that was scheduled

The tests that clients schedule into a job, in any number of submissions, are split into buckets
that hold exactly these tests. So the account of a job holds against the tests themselves.

* `scheduled`: the tests that were scheduled into a job since it was created;
* `Accounted.perform`, `accounted_run`: every step of a server keeps the account of every job;
* `results_perm_scheduled`: a job that is done has one result for each test.
-/

namespace TestFleet.Server

/-- The tests that a step adds to a job. -/
def schedules (s : Server) (j : JobId) : Step → List TestEntry
  | .request now _ (.scheduleTests job) =>
    match (s.schedule job now).1 with
    | .scheduled _ => if job.job = j then job.tests.map (·.entry) else []
    | .rejected _ => []
  | _ => []

/-- The tests that were scheduled into a job, after one more step. It starts anew when the job is
removed. -/
def recorded (s : Server) (j : JobId) (before : List TestEntry) (step : Step) : List TestEntry :=
  if (s.perform step).dispatcher.jobs.contains j then before ++ s.schedules j step else []

/-- The tests that were scheduled into a job along a run since the job was created, after those that
were scheduled before the run. -/
def scheduled (s : Server) (j : JobId) (before : List TestEntry) : List Step → List TestEntry
  | [] => before
  | step :: steps => (s.perform step).scheduled j (s.recorded j before step) steps

/-- The account of a job holds against the tests that were scheduled into it. -/
def Accounted (s : Server) (j : JobId) (tests : List TestEntry) : Prop :=
  ∃ record, s.dispatcher.Balanced j record ∧ (record.flatMap (·.entries)).Perm tests

variable {s s' : Server} {j : JobId} {tests : List TestEntry} {step : Step}

/-- A step that is one operation of the dispatcher, which takes in the tests that are scheduled. -/
theorem Accounted.of_operation (h : s.Accounted j tests) (orderly : s.dispatcher.Orderly)
    (op : Dispatcher.Operation) (performed : (s.perform step).dispatcher = s.dispatcher.perform op)
    (taken : ((s.dispatcher.submits j op).flatMap (·.entries)).Perm (s.schedules j step)) :
    (s.perform step).Accounted j (s.recorded j tests step) := by
  obtain ⟨record, balanced, perm⟩ := h
  refine ⟨s.dispatcher.recorded j record op, performed ▸ balanced.perform orderly op, ?_⟩
  rw [Dispatcher.recorded, recorded, performed]
  split
  · rw [List.flatMap_append]
    exact perm.append taken
  · exact .refl _

/-- A step that leaves jobs and results alone. -/
theorem Accounted.of_same (h : s.Accounted j tests)
    (jobs : (s.perform step).dispatcher.jobs = s.dispatcher.jobs)
    (ledger : (s.perform step).dispatcher.ledger = s.dispatcher.ledger)
    (none : s.schedules j step = []) : (s.perform step).Accounted j (s.recorded j tests step) := by
  obtain ⟨record, balanced, perm⟩ := h
  refine ⟨record, balanced.frame (by rw [jobs]) (by rw [ledger]), ?_⟩
  rw [recorded, none, List.append_nil, jobs]
  split
  · exact perm
  · rename_i notLive
    rw [Directory.contains_iff_mem_keys, ← Directory.get?_eq_none_iff] at notLive
    rw [(balanced.gone notLive).2]
    exact .refl _

/-- A submission that is turned down. -/
theorem Accounted.of_rejected (h : s.Accounted j tests) {job : Submission} {now : Instant}
    {reason : String} (same : s.schedule job now = (.rejected reason, [], s)) (wall : Timestamp) :
    (s.perform (.request now wall (.scheduleTests job))).Accounted j
      (s.recorded j tests (.request now wall (.scheduleTests job))) := by
  have state : s.perform (.request now wall (.scheduleTests job)) = (s.schedule job now).2.2 := rfl
  refine h.of_same ?_ ?_ ?_
  · rw [state, same]
  · rw [state, same]
  · rw [schedules, same]

/-- What a submission does, and what is scheduled by it. -/
theorem Accounted.schedule (h : s.Accounted j tests) (orderly : s.dispatcher.Orderly)
    (job : Submission) (now : Instant) (wall : Timestamp) :
    (s.perform (.request now wall (.scheduleTests job))).Accounted j
      (s.recorded j tests (.request now wall (.scheduleTests job))) := by
  by_cases retired : s.isRetired = true
  · exact h.of_rejected (by rw [Server.schedule, if_pos retired]) wall
  cases ok : split job.job job.strategy s.workers job.tests with
  | error e => exact h.of_rejected (by rw [Server.schedule, if_neg retired, ok]) wall
  | ok buckets =>
    have state : s.perform (.request now wall (.scheduleTests job)) = (s.schedule job now).2.2 :=
      rfl
    have entries := entries_split ok
    generalize outcome : s.dispatcher.enqueue job.job buckets job.priority now = answer
    obtain ⟨result, events, d⟩ := answer
    refine h.of_operation orderly (.enqueue job.job buckets job.priority now) ?_ ?_
    · rw [state, Server.schedule, if_neg retired, ok, Dispatcher.perform]
      dsimp only
      rw [outcome]
      cases result <;> rfl
    · rw [Dispatcher.submits, schedules, Server.schedule, if_neg retired, ok]
      dsimp only
      rw [outcome]
      cases result with
      | error e => simp [Except.isOk, Except.toBool]
      | ok =>
        by_cases this : job.job = j
        · simpa [this, Except.isOk, Except.toBool] using entries
        · simp [this]

theorem Accounted.perform (h : s.Accounted j tests) (orderly : s.dispatcher.Orderly)
    (step : Step) : (s.perform step).Accounted j (s.recorded j tests step) := by
  cases step with
  | request now wall message =>
    cases message with
    | registerWorker w version =>
      obtain ⟨change, registered⟩ := s.exists_register w version now
      exact h.of_same (congrArg (·.dispatcher.jobs) registered)
        (congrArg (·.dispatcher.ledger) registered) rfl
    | dequeueBucket w => exact h.of_operation orderly (.dequeue w now now) rfl (.refl _)
    | bucketResult w report =>
      exact h.of_operation orderly (.accept report.bucket w report now wall) rfl (.refl _)
    | heartbeat w => exact h.of_same rfl rfl rfl
    | scheduleTests job => exact h.schedule orderly job now wall
    | deleteJob k => exact h.of_operation orderly (.delete k) rfl (.refl _)
    | cancelJob k => exact h.of_operation orderly (.cancel k) rfl (.refl _)
    | healthCheck => exact h.of_same rfl rfl rfl
    | jobState => exact h.of_same rfl rfl rfl
    | workerAliveness => exact h.of_same rfl rfl rfl
    | activeJobs => exact h.of_same rfl rfl rfl
  | sweep now => exact h.of_operation orderly (.reclaim now) rfl (.refl _)
  | rebalance a => exact h.of_same rfl rfl rfl
  | retire => exact h.of_same rfl rfl rfl

theorem Accounted.run (h : s.Accounted j tests) (orderly : s.dispatcher.Orderly)
    (steps : List Step) : (s.run steps).Accounted j (s.scheduled j tests steps) := by
  induction steps generalizing s tests with
  | nil => exact h
  | cons step steps ih => exact ih (h.perform orderly step) (orderly_perform orderly step)

/-- After any requests, sweeps and rebalances, the account of every job holds. -/
theorem accounted_run (setup : ServerSetup) (steps : List Step) (j : JobId) :
    (setup.server.run steps).Accounted j (setup.server.scheduled j [] steps) := by
  have new : setup.server.Accounted j [] :=
    ⟨[], Dispatcher.balanced_new setup.dispatcher setup.silence j, .refl _⟩
  exact new.run (Dispatcher.composed_new _ setup.dispatcher setup.silence) steps

/-- A live job that is done has one result for each test that was scheduled into it, as often as it
was scheduled. -/
theorem results_perm_scheduled (setup : ServerSetup) (steps : List Step) {job : Job}
    (live : (setup.server.run steps).dispatcher.jobs.get? j = some job)
    (done : job.queue.isDepleted = true) :
    (((setup.server.run steps).dispatcher.ledger.results j).map (·.entry)).Perm
      (setup.server.scheduled j [] steps) := by
  obtain ⟨record, balanced, perm⟩ := accounted_run setup steps j
  have account := balanced.live job live
  obtain ⟨waiting, inFlight⟩ := JobQueue.isDepleted_iff.1 done
  have none : job.queue.heldEntries = [] := by
    refine JobQueue.entries_of_depleted (by rw [JobQueue.enqueuedCount, waiting]; rfl) ?_
    rw [JobQueue.dequeuedCount, Directory.size, ← List.length_map (f := (·.1))]
    exact List.length_eq_zero_iff.2 inFlight
  rw [none, List.append_nil] at account
  exact account.trans perm

end TestFleet.Server
