import TestFleet.Server.Setup
import TestFleet.Proofs.Queue.Naming

/-!
# Runs of a server

What a server does, request by request and sweep by sweep, and why its dispatcher only ever goes
through operations of a dispatcher, in which all buckets that are enqueued are made by a split of
their job.

* `derived_of_split`: a split gives buckets ids of their job;
* `leads_handle`: answering a message is a run of the dispatcher;
* `leads_run`: so is every run of the server;
* `version_run`: its version stays what it is.
-/

namespace TestFleet

theorem derived_of_split {job : JobId} {strategy : SplitStrategy} {workers : Nat}
    {tests : List ConfiguredTest} {buckets : List Bucket}
    (h : split job strategy workers tests = .ok buckets) : Derived job buckets := by
  rw [split] at h
  split at h
  · cases h
  · cases h
    intro b hb
    obtain ⟨i, hi, rfl⟩ := List.mem_mapIdx.1 hb
    exact isDerived_derived _ _ _

/-- The buckets are those of a split of the job. -/
def IsSplit (job : JobId) (buckets : List Bucket) : Prop :=
  ∃ strategy workers tests, split job strategy workers tests = .ok buckets

theorem IsSplit.derived {job : JobId} {buckets : List Bucket} (h : IsSplit job buckets) :
    Derived job buckets := by
  obtain ⟨strategy, workers, tests, ok⟩ := h
  exact derived_of_split ok

namespace Server

/-- What may happen to a server next. -/
inductive Step where
  | request (now : Instant) (wall : Timestamp) (message : Message)
  | sweep (now : Instant)
  | rebalance (assignment : Assignment)
  | retire

/-- The server after a step. -/
def perform (s : Server) : Step → Server
  | .request now wall message => (s.handle now wall message).2.2
  | .sweep now => (s.sweep now).2
  | .rebalance a => s.rebalance a
  | .retire => s.retire

/-- The server after some steps. -/
def run (s : Server) (steps : List Step) : Server := steps.foldl perform s

theorem run_append (s : Server) (steps more : List Step) :
    s.run (steps ++ more) = (s.run steps).run more :=
  List.foldl_append

/-- The dispatcher of `s'` is one that the dispatcher of `s` may become, by operations that enqueue
only what a split of the job makes. -/
def Leads (s s' : Server) : Prop :=
  ∃ ops, (∀ op ∈ ops, Dispatcher.Operation.Admitted IsSplit op) ∧
    s'.dispatcher = s.dispatcher.run ops

variable {s s' : Server}

theorem Leads.refl (s : Server) : s.Leads s := ⟨[], nofun, rfl⟩

theorem Leads.trans {s'' : Server} (first : s.Leads s') (second : s'.Leads s'') :
    s.Leads s'' := by
  obtain ⟨ops, admitted, run⟩ := first
  obtain ⟨more, admitted', run'⟩ := second
  refine ⟨ops ++ more, fun op hop => ?_, ?_⟩
  · exact (List.mem_append.1 hop).elim (admitted op) (admitted' op)
  · rw [run', run, Dispatcher.run_append]

theorem Leads.of_perform (op : Dispatcher.Operation) (admitted : op.Admitted IsSplit)
    (same : s'.dispatcher = s.dispatcher.perform op) : s.Leads s' :=
  ⟨[op], List.forall_mem_singleton.2 admitted, same⟩

/-! ## Requests -/

/-- To let a worker join is to change the roster, in whatever way. -/
theorem exists_register (s : Server) (w : WorkerId) (version : String) (now : Instant) :
    ∃ change, (s.register w version now).2.2 = s.withRoster change := by
  rw [register]
  dsimp only
  split
  · refine ⟨fun r => (r.beginRegistration w now).register w now, ?_⟩
    split <;> rfl
  · exact ⟨fun r => (r.beginRegistration w now).block w now, rfl⟩

theorem leads_register (s : Server) (w : WorkerId) (version : String) (now : Instant) :
    s.Leads (s.register w version now).2.2 := by
  have announced : s.Leads (s.withRoster (·.beginRegistration w now)) :=
    .of_perform (.roster (.beginRegistration w now)) trivial rfl
  rw [register]
  dsimp only
  split
  · refine announced.trans (.of_perform (.roster (.register w now)) trivial ?_)
    split <;> rfl
  · exact announced.trans (.of_perform (.roster (.block w now)) trivial rfl)

theorem leads_schedule (s : Server) (job : Submission) (now : Instant) :
    s.Leads (s.schedule job now).2.2 := by
  rw [schedule]
  split
  · exact .refl s
  · split
    · exact .refl s
    · rename_i buckets ok
      refine .of_perform (.enqueue job.job buckets job.priority now) ⟨_, _, _, ok⟩ ?_
      rw [Dispatcher.perform]
      split <;> rename_i enqueued <;> rw [enqueued] <;> rfl

theorem leads_handle (s : Server) (now : Instant) (wall : Timestamp) (message : Message) :
    s.Leads (s.handle now wall message).2.2 := by
  cases message with
  | registerWorker w version => exact s.leads_register w version now
  | dequeueBucket w => exact .of_perform (.dequeue w now now) trivial rfl
  | bucketResult w report => exact .of_perform (.accept report.bucket w report now wall) trivial rfl
  | heartbeat w => exact .of_perform (.roster (.heartbeat w now)) trivial rfl
  | scheduleTests job => exact s.leads_schedule job now
  | deleteJob j => exact .of_perform (.delete j) trivial rfl
  | cancelJob j => exact .of_perform (.cancel j) trivial rfl
  | healthCheck => exact .refl s
  | jobState => exact .refl s
  | workerAliveness => exact .refl s
  | activeJobs => exact .refl s

theorem leads_perform (s : Server) (step : Step) : s.Leads (s.perform step) := by
  cases step with
  | request now wall message => exact s.leads_handle now wall message
  | sweep now => exact .of_perform (.reclaim now) trivial rfl
  | rebalance a => exact .of_perform (.rebalance a) trivial rfl
  | retire => exact .refl s

theorem leads_run (s : Server) (steps : List Step) : s.Leads (s.run steps) := by
  induction steps generalizing s with
  | nil => exact .refl s
  | cons step steps ih => exact (s.leads_perform step).trans (ih (s.perform step))

theorem orderly_perform (orderly : s.dispatcher.Orderly) (step : Step) :
    (s.perform step).dispatcher.Orderly := by
  obtain ⟨ops, -, run⟩ := s.leads_perform step
  rw [run]
  exact orderly.run fun op _ => Dispatcher.admitted_of_forall op

/-! ## The version -/

theorem version_schedule (s : Server) (job : Submission) (now : Instant) :
    (s.schedule job now).2.2.version = s.version := by
  rw [schedule]
  split
  · rfl
  · split
    · rfl
    · split <;> rfl

theorem version_perform (s : Server) (step : Step) : (s.perform step).version = s.version := by
  cases step with
  | request now wall message =>
    cases message with
    | registerWorker w version =>
      obtain ⟨change, registered⟩ := s.exists_register w version now
      have kept : (s.register w version now).2.2.version = s.version := by
        rw [registered]
        rfl
      exact kept
    | scheduleTests job => exact s.version_schedule job now
    | _ => rfl
  | _ => rfl

/-- A server keeps its version. -/
theorem version_run (s : Server) (steps : List Step) : (s.run steps).version = s.version := by
  induction steps generalizing s with
  | nil => rfl
  | cons step steps ih => exact (ih (s.perform step)).trans (version_perform s step)

end Server

end TestFleet
