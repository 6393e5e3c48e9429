import TestFleet.Proofs.Server.Runs

/-!
# The indexes of a server

Whatever workers and clients ask of a server, in whatever order and mixed with sweeps, its roster
lists for each worker the buckets that are in flight for it, its index of owners lists the buckets
that live jobs know, and no worker has more buckets than it may.

* `exists_run`: a run of a server is a run of its dispatcher;
* `indexed_run`: the indexes are right after every run of a server;
* `indexes_agree`: what that says of the queues of all live jobs.
-/

namespace TestFleet.ServerSetup

/-- The dispatcher of a server goes through operations of a new one, and takes in only buckets whose
ids are of their job. -/
theorem exists_run (setup : ServerSetup) (steps : List Server.Step) :
    ∃ ops, (∀ op ∈ ops, Dispatcher.Operation.Admitted Derived op) ∧
      (setup.server.run steps).dispatcher =
        (Dispatcher.new setup.dispatcher setup.silence).run ops := by
  obtain ⟨ops, admitted, run⟩ := setup.server.leads_run steps
  exact ⟨ops, fun op hop => (admitted op hop).mono fun _ _ => IsSplit.derived, run⟩

/-- Only what splits make is enqueued. -/
theorem composed_of_isSplit {admits : JobId → List Bucket → Prop}
    (made : ∀ j buckets, IsSplit j buckets → admits j buckets) (setup : ServerSetup)
    (steps : List Server.Step) : (setup.server.run steps).dispatcher.Composed admits := by
  obtain ⟨ops, admitted, run⟩ := setup.server.leads_run steps
  rw [run]
  exact Dispatcher.composed_run setup.dispatcher setup.silence
    fun op hop => (admitted op hop).mono made

/-- All buckets have ids of their job. -/
theorem composed_run (setup : ServerSetup) (steps : List Server.Step) :
    (setup.server.run steps).dispatcher.Composed Derived :=
  setup.composed_of_isSplit (fun _ _ => IsSplit.derived) steps

theorem indexed_run (setup : ServerSetup) (steps : List Server.Step) :
    (setup.server.run steps).dispatcher.Indexed := by
  obtain ⟨ops, admitted, run⟩ := setup.exists_run steps
  have composed := Dispatcher.composed_new Derived setup.dispatcher setup.silence
  rw [run]
  exact (Dispatcher.indexed_new setup.dispatcher setup.silence).run
    (Dispatcher.clashFree_of_admitted composed admitted)

theorem config_run (setup : ServerSetup) (steps : List Server.Step) :
    (setup.server.run steps).dispatcher.config = setup.dispatcher := by
  obtain ⟨ops, -, run⟩ := setup.exists_run steps
  have orderly := (Dispatcher.composed_new Derived setup.dispatcher setup.silence).orderly
  rw [run, Dispatcher.config_run orderly ops]
  rfl

/-- After any requests, sweeps and rebalances: the roster lists for each worker exactly the buckets
in flight for it over all live jobs, each once; the owners are exactly the ids that live jobs know,
each with its job; and no worker has more buckets in flight than it may. -/
theorem indexes_agree (setup : ServerSetup) (steps : List Server.Step) :
    (∀ w, ((setup.server.run steps).dispatcher.roster.held w).Perm
      ((setup.server.run steps).dispatcher.inFlightFor w)) ∧
    (∀ b j, (setup.server.run steps).dispatcher.owners.get? b = some j ↔
      ∃ job, (setup.server.run steps).dispatcher.jobs.get? j = some job ∧
        b ∈ job.queue.known.keys) ∧
    ∀ w, ((setup.server.run steps).dispatcher.inFlightFor w).length ≤
      setup.dispatcher.bucketsPerWorker := by
  have h := setup.indexed_run steps
  refine ⟨fun w => (h.inFlightFor_perm_held w).symm, fun b j => ?_, fun w => ?_⟩
  · rw [h.owners]
    exact Dispatcher.mem_known_queueOf
  · rw [(h.inFlightFor_perm_held w).length_eq, ← setup.config_run steps]
    exact h.limit w

end TestFleet.ServerSetup
