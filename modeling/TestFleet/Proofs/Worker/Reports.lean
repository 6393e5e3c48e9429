import TestFleet.Proofs.Queue.Distinctness
import TestFleet.Proofs.Queue.Partition
import TestFleet.Proofs.Worker.Draining
import TestFleet.Proofs.Worker.Revival

/-!
# Reports fit their buckets

A worker and a queue deal with tests that did not run each on its own. Whatever the bucket and the
runner are, what a worker reports on a bucket is what the queue expects of it, and if the bucket
lists no entry twice, the queue has nothing to add.

* `requests_persist`, `requests_beat`: what a worker says while it runs a bucket;
* `Runner.not_isLost_of_mem_run`: every entry is reported with a run;
* `JobQueue.mergeResults_self`: the queue takes over results that fit as they are;
* `reports_fit`: a worker's report on a bucket, and what a server makes of it.
-/

namespace TestFleet

/-! ## Requests -/

/-- A connection that keeps a list of the requests that it was given. -/
def Connection.recorded {σ : Type} (c : Connection σ) : Connection (σ × List Request) where
  send := fun request s =>
    let (reply, world) := c.send request s.1
    (reply, world, s.2 ++ [request])
  wait := fun d s => (c.wait d s.1, s.2)
  now := fun s => c.now s.1

theorem Connection.requests_ask {σ α : Type} (c : Connection σ) (sender : Party) (m : Message)
    (kind : Reply → Option α) (s : σ × List Request) :
    (c.recorded.ask sender m kind s).2.2 = s.2 ++ [⟨sender, m⟩] := by
  have asked : (c.recorded.send ⟨sender, m⟩ s).2.2 = s.2 ++ [⟨sender, m⟩] := rfl
  rw [ask]
  split
  · rename_i sent
    rwa [sent] at asked
  · rename_i sent
    rw [sent] at asked
    split <;> exact asked

/-- What is tried again is asked again, at least once. -/
theorem requests_retryFrom {τ ε α : Type} (requests : τ → List Request)
    {operation : Nat → τ → Except ε α × τ} {pause : Nat → τ → Except ε Unit × τ}
    {request : Request} (asks : ∀ n s, requests (operation n s).2 = requests s ++ [request])
    (waits : ∀ n s, requests (pause n s).2 = requests s) (attempt left : Nat) (s : τ) :
    ∃ k, requests (retryFrom operation pause attempt left s).2 =
      requests s ++ List.replicate (k + 1) request := by
  induction left generalizing attempt s with
  | zero => exact ⟨0, asks attempt s⟩
  | succ left ih =>
    have first := asks attempt s
    rw [retryFrom]
    split
    · rename_i tried
      rw [tried] at first
      exact ⟨0, first⟩
    · rename_i world tried
      have waited := waits attempt world
      rw [tried] at first
      split
      · rename_i paused
        rw [paused] at waited
        exact ⟨0, waited.trans first⟩
      · rename_i world' paused
        rw [paused] at waited
        obtain ⟨k, again⟩ := ih (attempt + 1) world'
        refine ⟨k + 1, ?_⟩
        rw [again, waited, first, List.append_assoc]
        rfl

namespace Worker

variable {σ ρ α : Type}

/-- A message in the name of the worker. -/
def request (w : Worker σ ρ) (m : Message) : Request := ⟨.worker w.config.id, m⟩

/-- The report that a worker makes on a bucket, from what its runner does in the state `r`. -/
def reportOn (w : Worker σ ρ) (wall : Timestamp) (b : Bucket) (r : ρ) : BucketReport :=
  report b (Runner.run w.runner wall (w.context b) b.entries r).1

section Recorded

variable {w : Worker (σ × List Request) ρ} {c : Connection σ} {s : Shift (σ × List Request) ρ}

theorem requests_persist (recorded : w.connection = c.recorded) (m : Message)
    (kind : Reply → Option α) :
    ∃ k, (w.persist (w.client.ask m kind) s).2.world.2 =
      s.world.2 ++ List.replicate (k + 1) (w.request m) := by
  have asks (t : σ × List Request) : (w.client.ask m kind t).2.2 = t.2 ++ [w.request m] := by
    rw [Client.ask, client, recorded]
    exact c.requests_ask _ m kind t
  have waits (d : Duration) (t : σ × List Request) : (w.connection.wait d t).2 = t.2 := by
    rw [recorded]
    rfl
  rw [persist]
  refine requests_retryFrom (fun t => t.1.2) (fun _ t => ?_) (fun _ t => ?_) 1 _
    (s.world, w.config.retryPauses)
  · exact asks t.1
  · split
    · rfl
    · exact waits _ t.1

theorem requests_beat (recorded : w.connection = c.recorded) (moments : List Nat) :
    ∃ k, (w.beat moments s).2.world.2 =
      s.world.2 ++ List.replicate k (w.request (.heartbeat w.config.id)) := by
  induction moments generalizing s with
  | nil => exact ⟨0, (List.append_nil _).symm⟩
  | cons moment later ih =>
    have asked : (w.client.heartbeat w.config.id s.world).2.2 =
        s.world.2 ++ [w.request (.heartbeat w.config.id)] := by
      rw [Client.heartbeat, Client.ask, client, recorded]
      exact c.requests_ask _ _ _ s.world
    rw [beat]
    split
    · rename_i answer
      rw [answer] at asked
      exact ⟨1, asked⟩
    · rename_i world _ answer
      obtain ⟨k, beats⟩ := ih (s := { s with world := world })
      rw [answer] at asked
      refine ⟨k + 1, ?_⟩
      rw [beats, asked, List.append_assoc]
      rfl

/-- While it runs a bucket, a worker gives signs of life and then makes its report, once or more
often if it does not get through, unless it breaks down or learns that it is blocked. -/
theorem requests_runBucket (recorded : w.connection = c.recorded) (wall : Timestamp)
    (b : Bucket) :
    ∃ n k, (w.runBucket wall b s).2.world.2 =
        s.world.2 ++ (List.replicate n (w.request (.heartbeat w.config.id)) ++ List.replicate k
          (w.request (.bucketResult w.config.id (w.reportOn wall b s.runner)))) ∧
      (k = 0 → ∃ e, (w.runBucket wall b s).1 = .error e) := by
  rw [runBucket, reportOn]
  split
  · exact ⟨0, 0, (List.append_nil _).symm, fun _ => ⟨_, rfl⟩⟩
  · generalize Runner.run w.runner wall (w.context b) b.entries s.runner = ran
    obtain ⟨results, events, r⟩ := ran
    obtain ⟨n, beats⟩ := requests_beat (s := s) recorded (w.heartbeats b)
    dsimp only
    split
    · rename_i after blocked
      rw [blocked] at beats
      exact ⟨n, 0, by rwa [List.replicate_zero, List.append_nil], fun _ => ⟨_, rfl⟩⟩
    · rename_i after alive
      rw [alive] at beats
      have reports : ∃ k, (w.persist (w.client.report w.config.id (report b results))
          { after with runner := r, events := after.events ++ events }).2.world.2 =
            after.world.2 ++ List.replicate (k + 1)
              (w.request (.bucketResult w.config.id (report b results))) :=
        requests_persist recorded _ _
      obtain ⟨k, reports⟩ := reports
      refine ⟨n, k + 1, ?_, fun none => absurd none (Nat.succ_ne_zero k)⟩
      rw [← List.append_assoc, ← beats]
      exact reports

end Recorded

/-- The worker, with a list of the requests that it makes. -/
def recorded (w : Worker σ ρ) : Worker (σ × List Request) ρ :=
  ⟨w.config, w.connection.recorded, w.runner, w.heartbeats⟩

end Worker

/-! ## Results -/

namespace Runner

variable {ρ : Type}

/-- Only what was heard of is gathered. -/
theorem not_isLost_of_mem_revive (runner : TestRunner ρ) (wall : Timestamp) (context : RunContext)
    (missing : List TestEntry) (silent : Nat) (r : ρ) :
    ∀ x ∈ (revive runner wall context missing silent r).1, x.isLost = false := by
  fun_induction revive runner wall context missing silent r with
  | case1 => exact fun x hx => absurd hx List.not_mem_nil
  | case2 missing silent r go asked quiet later ih => exact ih
  | case3 missing silent r go asked told later ih =>
    intro x hx
    rcases List.mem_append.1 hx with now | after
    · have heard := (List.mem_filter.1 now).2
      simpa using heard
    · exact ih x after

/-- Where nothing was heard of an entry, a failed run stands for it. -/
theorem not_isLost_of_mem_deliver (wall : Timestamp) (context : RunContext)
    (entries : List TestEntry) {results : List EntryResult}
    (heard : ∀ r ∈ results, r.isLost = false) :
    ∀ x ∈ deliver wall context entries results, x.isLost = false := by
  induction entries generalizing results with
  | nil => exact fun x hx => absurd hx List.not_mem_nil
  | cons e es ih =>
    rw [deliver]
    split
    · rename_i r found
      refine List.forall_mem_cons.2 ⟨heard r (List.mem_of_find?_eq_some found), ih ?_⟩
      exact fun x hx => heard x (List.mem_of_mem_filter hx)
    · exact List.forall_mem_cons.2 ⟨rfl, ih heard⟩

/-- Whatever a runner does, every entry has a run. -/
theorem not_isLost_of_mem_run (runner : TestRunner ρ) (wall : Timestamp) (context : RunContext)
    (entries : List TestEntry) (r : ρ) :
    ∀ x ∈ (run runner wall context entries r).1, x.isLost = false :=
  not_isLost_of_mem_deliver wall context entries
    (not_isLost_of_mem_revive runner wall context entries.eraseDups 0 r)

end Runner

namespace JobQueue

/-- Of results of different entries, one is of a given entry. -/
theorem reportedRuns_of_mem {results : List EntryResult}
    (distinct : (results.map (·.entry)).Nodup) {r : EntryResult} (hr : r ∈ results) :
    reportedRuns results r.entry = r.runs := by
  have one : (results.filter fun x => x.entry = r.entry) = [r] :=
    Runner.filter_eq_singleton EntryResult.entry distinct hr
  rw [reportedRuns, one]
  exact List.append_nil _

/-- Results of different entries with runs are merged as they are, one after the other. -/
theorem mergeResults_of_subset (wall : Timestamp) {results some : List EntryResult}
    {before : List TestEntry} (distinct : (results.map (·.entry)).Nodup)
    (heard : ∀ r ∈ results, r.isLost = false) (subset : some ⊆ results)
    (new : (before ++ some.map (·.entry)).Nodup) :
    mergeResults wall results before (some.map (·.entry)) = some := by
  induction some generalizing before with
  | nil => rfl
  | cons r rs ih =>
    obtain ⟨mem, rest⟩ := List.cons_subset.1 subset
    rw [List.map_cons] at new
    have notBefore : r.entry ∉ before := fun hb =>
      (List.nodup_append.1 new).2.2 r.entry hb r.entry List.mem_cons_self rfl
    have later : (r.entry :: before ++ rs.map (·.entry)).Nodup :=
      (List.perm_middle (a := r.entry)).nodup_iff.1 new
    have ran : r.runs.isEmpty = false := heard r mem
    rw [List.map_cons, mergeResults, ih rest later]
    simp [notBefore, reportedRuns_of_mem distinct mem, ran]

/-- Merging leaves results alone that are of different entries and have runs. -/
theorem mergeResults_self (wall : Timestamp) {results : List EntryResult}
    (distinct : (results.map (·.entry)).Nodup) (heard : ∀ r ∈ results, r.isLost = false) :
    mergeResults wall results [] (results.map (·.entry)) = results :=
  mergeResults_of_subset wall distinct heard (List.Subset.refl _) distinct

end JobQueue

/-! ## Reports -/

variable {σ ρ : Type}

/-- The report that a worker makes on a bucket, its runner being in the state `r`: it is the only
one that is sent while the bucket is run; it lists the entries of the bucket in order, each with a
run; it is accepted wherever the bucket is in flight, from whoever holds it; and if no entry is
listed twice, it is taken over as it is. -/
structure Worker.ReportFits (w : Worker σ ρ) (wall : Timestamp) (b : Bucket) (r : ρ) : Prop where
  sent (s : Shift (σ × List Request) ρ) : s.runner = r →
    ∃ n k, (w.recorded.runBucket wall b s).2.world.2 =
        s.world.2 ++ (List.replicate n (w.request (.heartbeat w.config.id)) ++ List.replicate k
          (w.request (.bucketResult w.config.id (w.reportOn wall b r)))) ∧
      (k = 0 → ∃ e, (w.recorded.runBucket wall b s).1 = .error e)
  entries : (w.reportOn wall b r).results.map (·.entry) = b.entries
  ran : ∀ x ∈ (w.reportOn wall b r).results, x.runs ≠ []
  accepted (q : JobQueue) (f : InFlightBucket) : q.inFlight.get? b.id = some f → f.bucket = b →
    ∀ now later, ∃ a q', q.accept b.id f.worker (w.reportOn wall b r) now later = .ok (a, q')
  merged : b.entries.Nodup → ∀ later,
    JobQueue.mergeResults later (w.reportOn wall b r).results [] b.entries =
      (w.reportOn wall b r).results

theorem Worker.reportFits (w : Worker σ ρ) (wall : Timestamp) (b : Bucket) (r : ρ) :
    w.ReportFits wall b r := by
  have entries : (w.reportOn wall b r).results.map (·.entry) = b.entries :=
    Runner.entries_run w.runner wall (w.context b) b.entries r
  have heard : ∀ x ∈ (w.reportOn wall b r).results, x.isLost = false :=
    Runner.not_isLost_of_mem_run w.runner wall (w.context b) b.entries r
  refine ⟨?sent, entries, ?ran, ?accepted, ?merged⟩
  case sent =>
    rintro s rfl
    exact requests_runBucket (w := w.recorded) rfl wall b
  case ran =>
    intro x hx none
    have lost : x.isLost = true := List.isEmpty_iff.2 none
    rw [heard x hx] at lost
    cases lost
  case accepted =>
    rintro q f inFlight rfl now later
    exact JobQueue.exists_accept_eq_ok inFlight
      (fun x hx => entries ▸ List.mem_map_of_mem hx) now later
  case merged =>
    intro distinct later
    rw [← entries] at distinct ⊢
    exact JobQueue.mergeResults_self later distinct heard

/-- A server accepts a report that its dispatcher accepts. -/
theorem Server.handle_of_accept {s : Server} {w : WorkerId} {report : BucketReport}
    {now : Instant} {wall : Timestamp} {routed : Routed}
    (accepted : (s.dispatcher.accept report.bucket w report now wall).1 = .ok routed) :
    (s.handle now wall (.bucketResult w report)).1 = .report .accepted := by
  simp only [handle, Server.report, accepted]

/-- No bucket of a split lists an entry twice. -/
theorem IsSplit.nodup {j : JobId} {buckets : List Bucket} (h : IsSplit j buckets) :
    ∀ b ∈ buckets, b.entries.Nodup := by
  obtain ⟨strategy, workers, tests, ok⟩ := h
  rcases split_partitions j strategy workers tests with ⟨-, failed⟩ | ⟨-, made, ok', partitions⟩
  · rw [failed] at ok
    cases ok
  · obtain rfl : made = buckets := Except.ok.inj (ok'.symm.trans ok)
    exact partitions.nodup

/-- Whatever the runner does, a worker's report on a bucket fits the bucket. On a server, no bucket
that waits or is in flight lists an entry twice, and the report of the worker that holds a bucket is
accepted. -/
theorem reports_fit (w : Worker σ ρ) (wall : Timestamp) (r : ρ) :
    (∀ b, w.ReportFits wall b r) ∧
    ∀ (setup : ServerSetup) (steps : List Server.Step) (j : JobId),
      ((setup.server.run steps).dispatcher.queueOf j).Distinct ∧
      ∀ b f, ((setup.server.run steps).dispatcher.queueOf j).inFlight.get? b = some f →
        ∀ now later, ((setup.server.run steps).handle now later
          (.bucketResult f.worker (w.reportOn wall f.bucket r))).1 = .report .accepted := by
  refine ⟨fun b => w.reportFits wall b r, fun setup steps j => ⟨?_, ?_⟩⟩
  · exact (setup.composed_of_isSplit (fun _ _ => IsSplit.nodup) steps).distinct j
  · intro b f inFlight now later
    obtain ⟨gone, placed⟩ := (setup.composed_run steps).placed_queueOf j
    obtain rfl : f.id = b := placed.own b f inFlight
    obtain ⟨job, live, inFlight⟩ := Dispatcher.inFlight_queueOf_eq_some.1 inFlight
    obtain ⟨a, q, ok⟩ := (w.reportFits wall f.bucket r).accepted job.queue f inFlight rfl now later
    have accepted := (setup.indexed_run steps).accept_eq_ok live ok
    exact Server.handle_of_accept (congrArg Prod.fst accepted)

end TestFleet
