import TestFleet.Proofs.Queue.Conservation
import TestFleet.Proofs.Queue.JobSteps

/-!
# Results only grow, and a job that is done stays done

Whoever asks after a job may stop asking once nothing of it waits or is in flight: from then on its
results are the last word, until more buckets are added to it. Before that, results are only ever
added, those of each accepted report after those of the reports that were accepted earlier.

* `acceptances`: the reports that are accepted for a job along a run;
* `results_perform`, `results_run`: what an operation, and a run, adds to the results of a job;
* `JobStep.isDepleted`: a queue without work gets none unless buckets are added to it;
* `settlesForGood_run`: what holds of every job after every run.
-/

namespace TestFleet

variable {j : JobId} {log more : List Event}

/-- The events tell neither of a deletion nor of a cancellation of the job. -/
def Spares (j : JobId) (log : List Event) : Prop :=
  Event.jobDeleted j ∉ log ∧ Event.jobCancelled j ∉ log

/-- The events tell of no bucket that was added to the job. -/
def AddsNothing (j : JobId) (log : List Event) : Prop := ∀ n, Event.jobEnqueued j n ∈ log → n = 0

theorem spares_append : Spares j (log ++ more) ↔ Spares j log ∧ Spares j more := by
  simp only [Spares, List.mem_append, not_or]
  exact and_and_and_comm

theorem addsNothing_append :
    AddsNothing j (log ++ more) ↔ AddsNothing j log ∧ AddsNothing j more := by
  simp only [AddsNothing, List.mem_append, or_imp, forall_and]

theorem Spares.eventsOf (spares : Spares j log) : Spares j (eventsOf j log) :=
  ⟨fun h => spares.1 (List.mem_filter.1 h).1, fun h => spares.2 (List.mem_filter.1 h).1⟩

theorem AddsNothing.eventsOf (nothing : AddsNothing j log) : AddsNothing j (eventsOf j log) :=
  fun n h => nothing n (List.mem_filter.1 h).1

/-! ## Queues without work -/

namespace JobQueue

variable {q q' : JobQueue}

theorem isDepleted_iff_counts :
    q.isDepleted = true ↔ q.enqueuedCount = 0 ∧ q.dequeuedCount = 0 := by
  rw [isDepleted_iff, enqueuedCount, dequeuedCount, Directory.size, Directory.keys,
    List.length_eq_zero_iff, List.length_eq_zero_iff, List.map_eq_nil_iff]

/-- Only a queue that has work accepts a report. -/
theorem not_isDepleted_of_accept_ok {b : BucketId} {w : WorkerId} {report : BucketReport}
    {now : Instant} {wall : Timestamp} {a : Acceptance}
    (ok : q.accept b w report now wall = .ok (a, q')) : ¬q.isDepleted = true := fun depleted => by
  have inFlight : b ∈ q.inFlight.keys := Directory.mem_keys.2 ⟨_, (of_accept_ok ok).1⟩
  rw [(isDepleted_iff.1 depleted).2] at inFlight
  cases inFlight

theorem isDepleted_takenBack (depleted : q.isDepleted = true) (roster : Roster)
    (maximum : Duration) (now : Instant) :
    (q.takenBack roster maximum now).isDepleted = true := by
  obtain ⟨waiting, inFlight⟩ := isDepleted_iff.1 depleted
  have parts := q.stuck_perm roster maximum now
  rw [Directory.values_eq_nil_iff.2 inFlight, List.perm_nil, List.append_eq_nil_iff] at parts
  refine isDepleted_iff.2 ⟨?_, Directory.values_eq_nil_iff.1 parts.2⟩
  rw [takenBack, parts.1, waiting]
  rfl

end JobQueue

theorem JobStep.isSome {o o' : Option JobQueue} (step : JobStep j o log o') (spares : Spares j log)
    (live : o.isSome = true) : o'.isSome = true := by
  cases step with
  | idle => exact live
  | deleted => exact absurd List.mem_cons_self spares.1
  | cancelled => exact absurd (List.mem_append_right _ List.mem_cons_self) spares.2
  | _ => rfl

/-- A queue without work gets none unless buckets are added to it. -/
theorem JobStep.isDepleted {o o' : Option JobQueue} (step : JobStep j o log o')
    (spares : Spares j log) (nothing : AddsNothing j log) {q : JobQueue} (live : o = some q)
    (depleted : q.isDepleted = true) : ∃ q', o' = some q' ∧ q'.isDepleted = true := by
  cases step with
  | idle => exact ⟨q, live, depleted⟩
  | enqueued unknown nodup now =>
    obtain rfl := List.length_eq_zero_iff.1 (nothing _ List.mem_cons_self)
    refine ⟨_, rfl, ?_⟩
    rw [live]
    simpa [JobQueue.appended, JobQueue.isDepleted] using depleted
  | handedOut waiting =>
    cases live
    rw [(JobQueue.isDepleted_iff.1 depleted).1] at waiting
    cases waiting
  | reported ok =>
    cases live
    exact absurd depleted (JobQueue.not_isDepleted_of_accept_ok ok)
  | takenBack =>
    cases live
    exact ⟨_, rfl, JobQueue.isDepleted_takenBack depleted ..⟩
  | deleted => exact absurd List.mem_cons_self spares.1
  | cancelled => exact absurd (List.mem_append_right _ List.mem_cons_self) spares.2

namespace Dispatcher

variable {d : Dispatcher}

/-! ## Accepted reports -/

/-- The report that an operation brings in for a job, as its queue took it in. -/
def accepted (d : Dispatcher) (j : JobId) : Operation → List Acceptance
  | .accept b w report now wall =>
    match (d.accept b w report now wall).1 with
    | .ok routed =>
      if routed.job = j then
        ((d.queueOf j).accept b w report now wall).toOption.toList.map (·.1)
      else []
    | .error _ => []
  | _ => []

/-- The reports that are accepted for a job along a run, in that order. -/
def acceptances (d : Dispatcher) (j : JobId) : List Operation → List Acceptance
  | [] => []
  | op :: ops => d.accepted j op ++ (d.perform op).acceptances j ops

theorem accepted_of_depleted (depleted : (d.queueOf j).isDepleted = true) (op : Operation) :
    d.accepted j op = [] := by
  cases op with
  | accept b w report now wall =>
    rw [accepted]
    cases ok : (d.queueOf j).accept b w report now wall with
    | error => cases (d.accept b w report now wall).1 <;> simp [Except.toOption]
    | ok accepted => exact absurd depleted (JobQueue.not_isDepleted_of_accept_ok ok)
  | _ => rfl

theorem accepted_of_settled {k : JobId} {job : Job} {b : BucketId} {w : WorkerId}
    {report : BucketReport} {now : Instant} {wall : Timestamp} {a : Acceptance} {q : JobQueue}
    (answer : (d.accept b w report now wall).1 = .ok ⟨k, a.retry⟩)
    (live : d.jobs.get? k = some job) (ok : job.queue.accept b w report now wall = .ok (a, q)) :
    d.accepted j (.accept b w report now wall) = if k = j then [a] else [] := by
  rw [accepted, answer]
  dsimp only
  by_cases e : k = j
  · subst e
    rw [if_pos rfl, if_pos rfl, queueOf_of_live live, ok]
    rfl
  · rw [if_neg e, if_neg e]

/-- Every report that is answered as accepted for a job counts for it. -/
theorem accepted_of_ok {b : BucketId} {w : WorkerId} {report : BucketReport} {now : Instant}
    {wall : Timestamp} {retry : Option BucketId}
    (answer : (d.accept b w report now wall).1 = .ok ⟨j, retry⟩) :
    ∃ a, d.accepted j (.accept b w report now wall) = [a] ∧ a.taken.worker = w ∧
      a.retry = retry := by
  generalize outcome : d.accept b w report now wall = result at answer
  cases outcome ▸ d.accept_cases b w report now wall with
  | rejected => cases answer
  | @accepted k job a q _ live ok =>
    obtain ⟨rfl, rfl⟩ := Routed.mk.inj (Except.ok.inj answer)
    refine ⟨a, ?_, (JobQueue.of_accept_ok ok).2.1, rfl⟩
    rw [accepted_of_settled (congrArg Prod.fst outcome) live ok, if_pos rfl]

theorem results_accept (d : Dispatcher) (j : JobId) (b : BucketId) (w : WorkerId)
    (report : BucketReport) (now : Instant) (wall : Timestamp) :
    (d.perform (.accept b w report now wall)).ledger.results j = d.ledger.results j ++
      (d.accepted j (.accept b w report now wall)).flatMap (·.results) := by
  rw [perform]
  generalize outcome : d.accept b w report now wall = answer
  cases outcome ▸ d.accept_cases b w report now wall with
  | rejected =>
    rw [accepted, outcome]
    exact (List.append_nil _).symm
  | @accepted k job a q _ live ok =>
    rw [settled_ledger, accepted_of_settled (congrArg Prod.fst outcome) live ok]
    by_cases e : k = j
    · subst e
      rw [Ledger.results_add_self, if_pos rfl, List.flatMap_singleton]
    · rw [Ledger.results_add_of_ne _ (Ne.symm e), if_neg e]
      exact (List.append_nil _).symm

/-- Whatever brings in no report, and does not remove a job, leaves its results as they are. -/
theorem results_of_noReport (orderly : d.Orderly) {op : Operation} (spares : Spares j (d.posts op))
    (noReport : ∀ b w report now wall, op ≠ .accept b w report now wall) :
    (d.perform op).ledger.results j = d.ledger.results j := by
  cases op with
  | accept b w report now wall => exact absurd rfl (noReport b w report now wall)
  | enqueue k buckets priority now =>
    rw [perform]
    rcases d.enqueue_cases k buckets priority now with ⟨e, same⟩ | ⟨-, -, -, added⟩
    · rw [same]
    · rw [added, enqueued_ledger]
  | dequeue w now clock =>
    rw [perform]
    generalize outcome : d.dequeue w now clock = answer
    cases outcome ▸ d.dequeue_cases orderly w now clock <;> rfl
  | reclaim now =>
    rw [perform, reclaim_state]
    rfl
  | delete k =>
    rw [posts] at spares
    rw [perform]
    rcases d.delete_cases k with ⟨e, same⟩ | ⟨job, -, -, removed⟩
    · rw [same]
    · rw [removed] at spares ⊢
      have other : j ≠ k := fun e => spares.1 (e ▸ List.mem_cons_self)
      exact Ledger.results_remove_of_ne _ other
  | cancel k =>
    rw [posts] at spares
    rw [perform]
    rcases d.cancel_cases k with ⟨-, e, same⟩ | ⟨job, -, removed⟩
    · rw [same]
    · rw [removed] at spares ⊢
      have other : j ≠ k := fun e =>
        spares.2 (e ▸ List.mem_append_right _ List.mem_cons_self)
      exact Ledger.results_remove_of_ne _ other
  | _ => rfl

/-- An operation that does not remove a job adds to its results those of the report that it brings
in for the job. -/
theorem results_perform (orderly : d.Orderly) {op : Operation} (spares : Spares j (d.posts op)) :
    (d.perform op).ledger.results j =
      d.ledger.results j ++ (d.accepted j op).flatMap (·.results) := by
  cases op with
  | accept b w report now wall => exact d.results_accept j b w report now wall
  | _ =>
    rw [results_of_noReport orderly spares fun _ _ _ _ _ => nofun]
    exact (List.append_nil _).symm

theorem results_run (orderly : d.Orderly) {ops : List Operation}
    (spares : Spares j (d.posted ops)) :
    (d.run ops).ledger.results j =
      d.ledger.results j ++ (d.acceptances j ops).flatMap (·.results) := by
  induction ops generalizing d with
  | nil => exact (List.append_nil _).symm
  | cons op ops ih =>
    obtain ⟨first, rest⟩ := spares_append.1 spares
    refine (ih (orderly.perform (admitted_of_forall op)) rest).trans ?_
    rw [results_perform orderly first, acceptances, List.flatMap_append, List.append_assoc]

/-! ## Asking after a job -/

theorem snapshot?_eq (d : Dispatcher) (j : JobId) : d.snapshot? j =
    (d.queue? j).map fun q => ⟨q.enqueuedCount, q.dequeuedCount, d.ledger.results j⟩ := by
  rw [snapshot?, queue?, Option.map_map]
  rfl

theorem isSome_queue?_run (orderly : d.Orderly) {ops : List Operation}
    (spares : Spares j (d.posted ops)) (live : (d.queue? j).isSome = true) :
    ((d.run ops).queue? j).isSome = true := by
  induction ops generalizing d with
  | nil => exact live
  | cons op ops ih =>
    obtain ⟨first, rest⟩ := spares_append.1 spares
    exact ih (orderly.perform (admitted_of_forall op)) rest
      ((jobStep_perform orderly op j).isSome first.eventsOf live)

/-- A job without work has none after a run that adds no bucket to it, and no report was accepted
for it. -/
theorem isDepleted_run (orderly : d.Orderly) {ops : List Operation}
    (spares : Spares j (d.posted ops)) (nothing : AddsNothing j (d.posted ops)) {q : JobQueue}
    (live : d.queue? j = some q) (depleted : q.isDepleted = true) :
    d.acceptances j ops = [] ∧ ∃ q', (d.run ops).queue? j = some q' ∧ q'.isDepleted = true := by
  induction ops generalizing d q with
  | nil => exact ⟨rfl, q, live, depleted⟩
  | cons op ops ih =>
    obtain ⟨spares, spares'⟩ := spares_append.1 spares
    obtain ⟨nothing, nothing'⟩ := addsNothing_append.1 nothing
    obtain ⟨q', live', depleted'⟩ := (jobStep_perform orderly op j).isDepleted spares.eventsOf
      nothing.eventsOf live depleted
    have none : d.accepted j op = [] := by
      refine accepted_of_depleted ?_ op
      rw [← getD_queue?, live]
      exact depleted
    obtain ⟨none', rest⟩ := ih (orderly.perform (admitted_of_forall op)) spares' nothing' live'
      depleted'
    exact ⟨by rw [acceptances, none, none', List.append_nil], rest⟩

/-- A job that is not removed can still be asked after, and has its new results after the old. -/
theorem snapshot?_run (orderly : d.Orderly) {ops : List Operation}
    (spares : Spares j (d.posted ops)) {state : JobSnapshot}
    (before : d.snapshot? j = some state) :
    ∃ later, (d.run ops).snapshot? j = some later ∧
      later.results = state.results ++ (d.acceptances j ops).flatMap (·.results) := by
  rw [snapshot?_eq] at before
  obtain ⟨q, live, rfl⟩ := Option.map_eq_some_iff.1 before
  obtain ⟨q', live'⟩ := Option.isSome_iff_exists.1
    (isSome_queue?_run orderly spares (live ▸ rfl))
  refine ⟨⟨q'.enqueuedCount, q'.dequeuedCount, (d.run ops).ledger.results j⟩, ?_,
    results_run orderly spares⟩
  rw [snapshot?_eq, live']
  rfl

/-- A job without work is left as it is by whatever adds no bucket to it, and may be deleted. -/
theorem snapshot?_run_of_depleted (orderly : d.Orderly) {ops : List Operation}
    (spares : Spares j (d.posted ops)) (nothing : AddsNothing j (d.posted ops))
    {state : JobSnapshot} (before : d.snapshot? j = some state) (waiting : state.enqueued = 0)
    (inFlight : state.dequeued = 0) :
    (d.run ops).snapshot? j = some state ∧ ((d.run ops).delete j).1 = .ok () := by
  rw [snapshot?_eq] at before
  obtain ⟨q, live, rfl⟩ := Option.map_eq_some_iff.1 before
  dsimp only at waiting inFlight
  obtain ⟨none, q', live', depleted⟩ := isDepleted_run orderly spares nothing live
    (JobQueue.isDepleted_iff_counts.2 ⟨waiting, inFlight⟩)
  obtain ⟨waiting', inFlight'⟩ := JobQueue.isDepleted_iff_counts.1 depleted
  obtain ⟨job, live'', rfl⟩ := Option.map_eq_some_iff.1 live'
  refine ⟨?_, congrArg Prod.fst (delete_of_depleted live'' depleted)⟩
  rw [snapshot?_eq, live', results_run orderly spares, none, Option.map_some, waiting', inFlight',
    waiting, inFlight, List.flatMap_nil, List.append_nil]

/-- What is known of a job's results. They grow by those of the reports that are accepted for it, in
that order, from none when the job is created; and once the job is done they are final, and the job
may be deleted, until buckets are added to it. -/
structure SettlesForGood (d : Dispatcher) (j : JobId) : Prop where
  counts : ∀ b w report now wall retry, (d.accept b w report now wall).1 = .ok ⟨j, retry⟩ →
    ∃ a, d.accepted j (.accept b w report now wall) = [a] ∧ a.taken.worker = w ∧ a.retry = retry
  grows : ∀ ops state, Spares j (d.posted ops) → d.snapshot? j = some state →
    ∃ later, (d.run ops).snapshot? j = some later ∧ state.results <+: later.results ∧
      later.results = state.results ++ (d.acceptances j ops).flatMap (·.results)
  begins : ∀ ops later, Spares j (d.posted ops) → d.snapshot? j = none →
    (d.run ops).snapshot? j = some later →
      later.results = (d.acceptances j ops).flatMap (·.results)
  settles : ∀ ops state, Spares j (d.posted ops) → AddsNothing j (d.posted ops) →
    d.snapshot? j = some state → state.enqueued = 0 → state.dequeued = 0 →
      (d.run ops).snapshot? j = some state ∧ ((d.run ops).delete j).1 = .ok ()

theorem settlesForGood_run (config : DispatcherConfig) (silence : Duration) (ops : List Operation)
    (j : JobId) : ((new config silence).run ops).SettlesForGood j := by
  have orderly : ((new config silence).run ops).Orderly :=
    composed_run config silence fun op _ => admitted_of_forall op
  refine ⟨fun b w report now wall retry => accepted_of_ok,
    fun more state spares before => ?_, fun more later spares before after => ?_,
    fun more state spares nothing => snapshot?_run_of_depleted orderly spares nothing⟩
  · obtain ⟨later, after, results⟩ := snapshot?_run orderly spares before
    exact ⟨later, after, results ▸ List.prefix_append _ _, results⟩
  · have notLive : ((new config silence).run ops).jobs.get? j = none :=
      Option.map_eq_none_iff.1 before
    have account := (balanced_new config silence j).run (composed_new _ config silence) ops
    rw [snapshot?_eq] at after
    obtain ⟨q, -, rfl⟩ := Option.map_eq_some_iff.1 after
    rw [results_run orderly spares, (account.gone notLive).1, List.nil_append]

end Dispatcher

end TestFleet
