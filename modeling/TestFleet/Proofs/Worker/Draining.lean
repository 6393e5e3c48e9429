import TestFleet.Proofs.Queue.Draining
import TestFleet.Proofs.Server.Conservation
import TestFleet.Proofs.Worker.Breakdowns
import TestFleet.Server.Direct

/-!
# A worker drains the queue

A worker that leaves when the queue is empty, alone with a server in which nothing is in flight,
gets a bucket each time it asks until all jobs are done, whatever its test runner does: every report
it sends has one result for each test of the bucket, so it is accepted, and each bucket leaves fewer
attempts. A worker whose signs of life have no period breaks down over its first bucket, which stays
in flight.

* `entries_run`: the results of a run are those of the bucket's tests;
* `Observed`: a server next door, with a record of what was asked of it and what it answered;
* `asked`: what the worker gets when it asks for work;
* `poll`: one bucket, from the question for work to the accepted report;
* `Worker.ServesAlone.drains`, `Worker.ServesAlone.breaksDown`: the whole shift, with and without a
  period;
* `work_drains_iff`: when a worker drains the server.
-/

namespace TestFleet

/-! ## What a worker reports -/

namespace Runner

variable {ρ : Type}

theorem entries_deliver (wall : Timestamp) (context : RunContext) (entries : List TestEntry)
    (results : List EntryResult) :
    (deliver wall context entries results).map (·.entry) = entries := by
  induction entries generalizing results with
  | nil => rfl
  | cons e es ih =>
    rw [deliver]
    split
    · rename_i r found
      have same : r.entry = e := by simpa using List.find?_some found
      rw [List.map_cons, ih, same]
    · rw [List.map_cons, ih]
      rfl

/-- Whatever a runner does, there is one result for each entry, in their order. -/
theorem entries_run (runner : TestRunner ρ) (wall : Timestamp) (context : RunContext)
    (entries : List TestEntry) (r : ρ) :
    (run runner wall context entries r).1.map (·.entry) = entries :=
  entries_deliver ..

end Runner

/-- A worker of the right version is registered, unless it is blocked. -/
theorem Server.register_eq {s : Server} {w : WorkerId} {version : String}
    (same : version = s.version) (notBlocked : s.dispatcher.roster.liveness w ≠ .blocked)
    (now : Instant) : s.register w version now = (.registered, [],
      s.withRoster fun r => (r.beginRegistration w now).register w now) := by
  have alive : ((s.withRoster (·.beginRegistration w now)).withRoster
      (·.register w now)).dispatcher.roster.liveness w = .alive :=
    (Roster.alive_register notBlocked now).liveness
  rw [register]
  dsimp only
  rw [if_pos (show version = (s.withRoster _).version from same), alive]
  rfl

/-! ## A server that is watched -/

/-- A server next door, and what was asked of it and answered so far, in order. -/
structure Observed where
  host : Hosted
  exchanges : List (Message × Reply) := []

namespace Observed

/-- Lets the server answer a message. -/
def handle (o : Observed) (m : Message) : Reply × Observed :=
  let (reply, host) := o.host.handle m
  (reply, ⟨host, o.exchanges ++ [(m, reply)]⟩)

/-- The connection to a server that is watched: what the server answers to a message, whoever sends
it. -/
def connection : Connection Observed where
  send := fun request o =>
    let (reply, o) := o.handle request.message
    (.ok reply, o)
  wait := fun d o => { o with host := Hosted.connection.wait d o.host }
  now := fun o => o.host.now

/-- The dispatcher of the server. -/
def dispatcher (o : Observed) : Dispatcher := o.host.server.dispatcher

end Observed

/-- The buckets that were handed out in a record of questions and answers. -/
def bucketsIn (exchanges : List (Message × Reply)) : List Bucket :=
  exchanges.filterMap fun
    | (_, .dequeue (.bucket b)) => some b
    | _ => none

/-- Nobody was asked to come again later, and every report was accepted. -/
def Smooth (exchanges : List (Message × Reply)) : Prop :=
  ∀ m reply, (m, reply) ∈ exchanges → (∀ after, reply ≠ .dequeue (.checkAgainLater after)) ∧
    ∀ w report, m = .bucketResult w report → reply = .report .accepted

theorem smooth_nil : Smooth [] := fun _ _ h => absurd h List.not_mem_nil

theorem smooth_singleton {m : Message} {reply : Reply}
    (notLater : ∀ after, reply ≠ .dequeue (.checkAgainLater after))
    (accepted : ∀ w report, m = .bucketResult w report → reply = .report .accepted) :
    Smooth [(m, reply)] := by
  intro m' reply' h
  obtain ⟨rfl, rfl⟩ := Prod.mk.inj (List.mem_singleton.1 h)
  exact ⟨notLater, accepted⟩

/-- A message that workers send. -/
def Message.IsWorkers : Message → Prop
  | .registerWorker .. | .dequeueBucket _ | .bucketResult .. | .heartbeat _ => True
  | _ => False

/-- A request with a message that workers send. -/
def Server.Step.IsWorkers : Server.Step → Prop
  | .request _ _ message => message.IsWorkers
  | _ => False

namespace Observed

/-- From `o` to `o'` the server only answered requests of workers, all went smoothly, and `n`
buckets were handed out. -/
def Goes (o o' : Observed) (n : Nat) : Prop :=
  (∃ steps, (∀ step ∈ steps, step.IsWorkers) ∧ o'.host.server = o.host.server.run steps) ∧
    ∃ more, o'.exchanges = o.exchanges ++ more ∧ Smooth more ∧ (bucketsIn more).length = n

variable {o o' o'' : Observed} {n m : Nat}

theorem Goes.refl (o : Observed) : o.Goes o 0 :=
  ⟨⟨[], fun _ h => absurd h List.not_mem_nil, rfl⟩, [], (List.append_nil _).symm, smooth_nil, rfl⟩

theorem Goes.trans (first : o.Goes o' n) (second : o'.Goes o'' m) : o.Goes o'' (n + m) := by
  obtain ⟨⟨steps, workers, run⟩, more, appended, smooth, rfl⟩ := first
  obtain ⟨⟨steps', workers', run'⟩, more', appended', smooth', rfl⟩ := second
  refine ⟨⟨steps ++ steps', ?_, ?_⟩, more ++ more', ?_, ?_, ?_⟩
  · exact fun step hs => (List.mem_append.1 hs).elim (workers step) (workers' step)
  · rw [run', run, Server.run_append]
  · rw [appended', appended, List.append_assoc]
  · exact fun m reply h => (List.mem_append.1 h).elim (smooth m reply) (smooth' m reply)
  · rw [bucketsIn, List.filterMap_append, List.length_append]
    rfl

/-- One message of a worker that is answered as it should. -/
theorem Goes.of_handle {message : Message} {reply : Reply}
    (answer : o.handle message = (reply, o')) (workers : message.IsWorkers)
    (smooth : Smooth [(message, reply)]) : o.Goes o' (bucketsIn [(message, reply)]).length := by
  obtain ⟨rfl, rfl⟩ := Prod.mk.inj answer
  exact ⟨⟨[.request ⟨o.host.now.nanoseconds + 1⟩ o.host.wall message],
    List.forall_mem_singleton.2 workers, rfl⟩, [_], rfl, smooth, rfl⟩

/-! ### What is asked and answered -/

variable {w : WorkerId} {j : JobId} {job : Job} {f : InFlightBucket}

theorem handle_dequeue (idle : o.dispatcher.Idle w) :
    (∃ after o', o.handle (.dequeueBucket w) = (.dequeue (.queueIsEmpty after), o') ∧
      o'.dispatcher = o.dispatcher ∧
      ∀ j job, o.dispatcher.jobs.get? j = some job → job.queue.isDepleted = true) ∨
    ∃ j job f o', o.handle (.dequeueBucket w) = (.dequeue (.bucket f.bucket), o') ∧
      o'.dispatcher.Busy w j job f ∧ o.dispatcher.attemptsLeft =
        o'.dispatcher.attemptsLeft + job.queue.attemptsOf f.bucket := by
  rcases idle.dequeue ⟨o.host.now.nanoseconds + 1⟩ ⟨o.host.now.nanoseconds + 1⟩ with
    ⟨done, outcome⟩ | ⟨j, job, f, events, d', busy, left, outcome⟩
  · rw [dispatcher] at outcome
    refine .inl ⟨o.dispatcher.config.checkAgainAfter, _, Prod.ext ?_ rfl, ?_, done⟩
    · simp only [handle, Hosted.handle, Server.handle, Server.dequeue, outcome]
      rfl
    · simp only [dispatcher, handle, Hosted.handle, Server.handle, Server.dequeue, outcome]
      rfl
  · rw [dispatcher] at outcome
    have after : (o.handle (.dequeueBucket w)).2.dispatcher = d' := by
      simp only [dispatcher, handle, Hosted.handle, Server.handle, Server.dequeue, outcome]
      rfl
    refine .inr ⟨j, job, f, _, Prod.ext ?_ rfl, after ▸ busy, after ▸ left⟩
    simp only [handle, Hosted.handle, Server.handle, Server.dequeue, outcome]

theorem handle_bucketResult (busy : o.dispatcher.Busy w j job f) (report : BucketReport)
    (id : report.bucket = f.id) (fits : ∀ r ∈ report.results, r.entry ∈ f.bucket.entries) :
    ∃ o', o.handle (.bucketResult w report) = (.report .accepted, o') ∧ o'.dispatcher.Idle w ∧
      o'.dispatcher.attemptsLeft <
        o.dispatcher.attemptsLeft + job.queue.attemptsOf f.bucket := by
  obtain ⟨routed, events, d', idle, fewer, outcome⟩ :=
    busy.accept fits ⟨o.host.now.nanoseconds + 1⟩ o.host.wall
  rw [dispatcher, ← id] at outcome
  have after : (o.handle (.bucketResult w report)).2.dispatcher = d' := by
    simp only [dispatcher, handle, Hosted.handle, Server.handle, Server.report, outcome]
    rfl
  refine ⟨_, Prod.ext ?_ rfl, after ▸ idle, after ▸ fewer⟩
  simp only [handle, Hosted.handle, Server.handle, Server.report, outcome]

theorem handle_heartbeat (busy : o.dispatcher.Busy w j job f) :
    ∃ o', o.handle (.heartbeat w) = (.heartbeat .acknowledged, o') ∧
      o'.dispatcher.Busy w j job f ∧
      o'.dispatcher.attemptsLeft = o.dispatcher.attemptsLeft := by
  have still := busy.heartbeat ⟨o.host.now.nanoseconds + 1⟩
  have alive : (o.host.server.withRoster
      (·.setAlive w ⟨o.host.now.nanoseconds + 1⟩)).dispatcher.roster.liveness w = .alive :=
    still.alive.liveness
  refine ⟨_, Prod.ext ?_ rfl, still, rfl⟩
  simp only [handle, Hosted.handle, Server.handle, Server.heartbeat, alive]

theorem handle_registerWorker {version : String} (same : version = o.host.server.version)
    (notBlocked : o.dispatcher.roster.liveness w ≠ .blocked) :
    ∃ o' r, o.handle (.registerWorker w version) = (.register .registered, o') ∧
      o'.dispatcher = { o.dispatcher with roster := r } ∧ r.Alive w ∧
      ∀ w', r.held w' = o.dispatcher.roster.held w' := by
  have registered := Server.register_eq same notBlocked ⟨o.host.now.nanoseconds + 1⟩
  refine ⟨_, _, Prod.ext ?_ rfl, ?_,
    Roster.alive_register notBlocked ⟨o.host.now.nanoseconds + 1⟩, fun w' => by simp⟩
  · simp only [handle, Hosted.handle, Server.handle, registered]
  · simp only [dispatcher, handle, Hosted.handle, Server.handle, registered]
    rfl

end Observed

/-! ## One bucket -/

/-- An operation that succeeds at once is tried once. -/
theorem retry_of_ok {σ ε α : Type} {operation : Nat → σ → Except ε α × σ} {s t : σ} {a : α}
    (ok : operation 1 s = (.ok a, t)) (attempts : Nat) (pause : Nat → σ → Except ε Unit × σ) :
    retry attempts operation pause s = (.ok a, t) := by
  rw [retry]
  cases attempts - 1 with
  | zero => exact ok
  | succ n => rw [retryFrom, ok]

namespace Worker

variable {ρ α : Type} {w : Worker Observed ρ} {s : Shift Observed ρ} {o : Observed}
  {m : Message} {reply : Reply} {a : α} {j : JobId} {job : Job} {f : InFlightBucket}

/-- What the server answers is what the worker gets. -/
theorem ask_of_handle (watched : w.connection = Observed.connection) {kind : Reply → Option α}
    (answer : s.world.handle m = (reply, o)) (isKind : kind reply = some a) :
    w.client.ask m kind s.world = (.ok a, o) := by
  rw [Client.ask, client, Connection.ask, watched]
  simp only [Observed.connection, answer, isKind]

theorem persist_of_handle (watched : w.connection = Observed.connection)
    {kind : Reply → Option α} (answer : s.world.handle m = (reply, o))
    (isKind : kind reply = some a) :
    w.persist (w.client.ask m kind) s = (.ok a, { s with world := o }) := by
  rw [persist]
  dsimp only
  rw [retry_of_ok (a := a) (t := (o, w.config.retryPauses))]
  rw [ask_of_handle watched answer isKind]
  rfl

/-- The signs of life of a worker that runs a bucket are acknowledged. -/
theorem beat_of_busy (watched : w.connection = Observed.connection) (moments : List Nat)
    (busy : s.world.dispatcher.Busy w.config.id j job f) :
    ∃ o, w.beat moments s = (none, { s with world := o }) ∧
      o.dispatcher.Busy w.config.id j job f ∧
      o.dispatcher.attemptsLeft = s.world.dispatcher.attemptsLeft ∧ s.world.Goes o 0 := by
  induction moments generalizing s with
  | nil => exact ⟨s.world, rfl, busy, rfl, .refl _⟩
  | cons moment later ih =>
    obtain ⟨o, answer, still, left⟩ := Observed.handle_heartbeat busy
    have acknowledged : w.client.heartbeat w.config.id s.world = (.ok .acknowledged, o) :=
      ask_of_handle watched answer rfl
    have goes : s.world.Goes o 0 := .of_handle answer trivial (smooth_singleton nofun nofun)
    obtain ⟨o', beats, still', left', goes'⟩ := ih (s := { s with world := o }) still
    exact ⟨o', by rw [beat, acknowledged]; exact beats, still', left'.trans left, goes.trans goes'⟩

/-- A worker whose signs of life have a period runs the bucket, and its report is accepted. -/
theorem runBucket_of_busy (watched : w.connection = Observed.connection)
    (period : 0 < w.config.heartbeatEvery.nanoseconds) (wall : Timestamp)
    (busy : s.world.dispatcher.Busy w.config.id j job f) :
    ∃ s', w.runBucket wall f.bucket s = (.ok (), s') ∧ s'.world.dispatcher.Idle w.config.id ∧
      s'.world.dispatcher.attemptsLeft <
        s.world.dispatcher.attemptsLeft + job.queue.attemptsOf f.bucket ∧
      s.world.Goes s'.world 0 := by
  have entries := Runner.entries_run w.runner wall (w.context f.bucket) f.bucket.entries s.runner
  obtain ⟨timer, starts⟩ : ∃ timer,
      w.config.heartbeatTimer? (w.connection.now s.world) = some timer :=
    Option.isSome_iff_exists.1 (Timer.start?_isSome_iff.2 period)
  rw [runBucket, starts]
  generalize Runner.run w.runner wall (w.context f.bucket) f.bucket.entries s.runner = ran
    at entries
  obtain ⟨results, events, r⟩ := ran
  obtain ⟨o, beats, still, left, goes⟩ := beat_of_busy watched (w.heartbeats f.bucket) busy
  have fits : ∀ x ∈ (report f.bucket results).results, x.entry ∈ f.bucket.entries :=
    fun x hx => entries ▸ List.mem_map_of_mem hx
  obtain ⟨o', answer, idle, fewer⟩ := Observed.handle_bucketResult still
    (report f.bucket results) rfl fits
  have accepted : w.persist (w.client.report w.config.id (report f.bucket results))
      { world := o, runner := r, events := s.events ++ events } =
        (.ok .accepted, { world := o', runner := r, events := s.events ++ events }) :=
    persist_of_handle watched answer rfl
  have goes' : o.Goes o' 0 := by
    refine .of_handle answer trivial (smooth_singleton (fun after same => ?_) fun _ _ _ => rfl)
    cases same
  refine ⟨{ world := o', runner := r, events := s.events ++ events }, ?_, idle, ?_,
    goes.trans goes'⟩
  · dsimp only
    rw [beats]
    dsimp only
    rw [accepted]
    rfl
  · exact left ▸ fewer

/-- The worker asks for work: it is told that the queue is empty, since all jobs are done, or it gets
a bucket. -/
theorem asked (watched : w.connection = Observed.connection)
    (idle : s.world.dispatcher.Idle w.config.id) :
    (∃ after o, w.persist (w.client.dequeue w.config.id) s =
        (.ok (.queueIsEmpty after), { s with world := o }) ∧ s.world.Goes o 0 ∧
      o.dispatcher = s.world.dispatcher ∧ ∀ j job, s.world.dispatcher.jobs.get? j = some job →
        job.queue.isDepleted = true) ∨
    ∃ j job f o, w.persist (w.client.dequeue w.config.id) s =
        (.ok (.bucket f.bucket), { s with world := o }) ∧ s.world.Goes o 1 ∧
      o.dispatcher.Busy w.config.id j job f ∧ s.world.dispatcher.attemptsLeft =
        o.dispatcher.attemptsLeft + job.queue.attemptsOf f.bucket := by
  rcases Observed.handle_dequeue idle with ⟨after, o, answer, same, done⟩ |
    ⟨j, job, f, o, answer, busy, left⟩
  · exact .inl ⟨after, o, persist_of_handle watched answer rfl,
      .of_handle answer trivial (smooth_singleton nofun nofun), same, done⟩
  · exact .inr ⟨j, job, f, o, persist_of_handle watched answer rfl,
      .of_handle answer trivial (smooth_singleton nofun nofun), busy, left⟩

/-- The worker asks for work: it gets a bucket and is idle again with fewer attempts left, or it
leaves because all jobs are done. -/
theorem poll (watched : w.connection = Observed.connection)
    (leaves : w.config.leavesWhenEmpty = true)
    (period : 0 < w.config.heartbeatEvery.nanoseconds) (wall : Timestamp)
    (idle : s.world.dispatcher.Idle w.config.id) :
    (∃ s', (∀ n pauses, w.loop wall (n + 1) pauses s = (.ok .queueEmpty, s')) ∧
      s.world.Goes s'.world 0 ∧
      ∀ j job, s'.world.dispatcher.jobs.get? j = some job → job.queue.isDepleted = true) ∨
    ∃ s', (∀ n pauses, w.loop wall (n + 1) pauses s = w.loop wall n pauses.reset s') ∧
      s.world.Goes s'.world 1 ∧ s'.world.dispatcher.Idle w.config.id ∧
      s'.world.dispatcher.attemptsLeft < s.world.dispatcher.attemptsLeft := by
  rcases asked watched idle with ⟨after, o, asked, goes, same, done⟩ |
    ⟨j, job, f, o, asked, goes, busy, left⟩
  · refine .inl ⟨{ s with world := o }, fun n pauses => ?_, goes, same ▸ done⟩
    rw [loop, asked]
    exact if_pos leaves
  · obtain ⟨s', ran, idle', fewer, goes'⟩ := runBucket_of_busy (s := { s with world := o })
      watched period wall busy
    refine .inr ⟨s', fun n pauses => ?_, goes.trans goes', idle', left ▸ fewer⟩
    rw [loop, asked]
    dsimp only
    rw [ran]

/-- The worker asks for work until all jobs are done, at most once more than there are attempts
left. -/
theorem loop_drains (watched : w.connection = Observed.connection)
    (leaves : w.config.leavesWhenEmpty = true)
    (period : 0 < w.config.heartbeatEvery.nanoseconds) (wall : Timestamp)
    (idle : s.world.dispatcher.Idle w.config.id) :
    ∃ s' n, (∀ polls pauses, s.world.dispatcher.attemptsLeft < polls →
        w.loop wall polls pauses s = (.ok .queueEmpty, s')) ∧
      s.world.Goes s'.world n ∧ n ≤ s.world.dispatcher.attemptsLeft ∧
      ∀ j job, s'.world.dispatcher.jobs.get? j = some job → job.queue.isDepleted = true := by
  -- The measure is the number of attempts left; a bucket that is run uses up one at least.
  generalize attempts : s.world.dispatcher.attemptsLeft = left
  induction left using Nat.strongRecOn generalizing s with
  | ind left ih =>
    rcases poll watched leaves period wall idle with ⟨s', polled, goes, done⟩ |
      ⟨s', polled, goes, idle', fewer⟩
    · refine ⟨s', 0, fun polls pauses more => ?_, goes, Nat.zero_le _, done⟩
      obtain ⟨k, rfl⟩ := Nat.exists_eq_add_one.2 (Nat.zero_lt_of_lt more)
      exact polled k pauses
    · obtain ⟨s'', n, drained, goes', few, done⟩ := ih _ (attempts ▸ fewer) idle' rfl
      refine ⟨s'', 1 + n, fun polls pauses more => ?_, goes.trans goes', by omega, done⟩
      obtain ⟨k, rfl⟩ := Nat.exists_eq_add_one.2 (Nat.zero_lt_of_lt more)
      rw [polled k pauses]
      exact drained k pauses.reset (by omega)

/-- Where all jobs are done, the worker asks for work once, with or without a period. -/
theorem loop_of_done (watched : w.connection = Observed.connection)
    (leaves : w.config.leavesWhenEmpty = true) (wall : Timestamp)
    (idle : s.world.dispatcher.Idle w.config.id)
    (done : ∀ j job, s.world.dispatcher.jobs.get? j = some job → job.queue.isDepleted = true) :
    ∃ o, (∀ n pauses, w.loop wall (n + 1) pauses s = (.ok .queueEmpty, { s with world := o })) ∧
      s.world.Goes o 0 ∧ o.dispatcher = s.world.dispatcher := by
  rcases asked watched idle with ⟨after, o, asked, goes, same, -⟩ |
    ⟨j, job, f, o, asked, goes, busy, left⟩
  · refine ⟨o, fun n pauses => ?_, goes, same⟩
    rw [loop, asked]
    exact if_pos leaves
  · rw [Dispatcher.attemptsLeft_eq_zero done, JobQueue.attemptsOf] at left
    omega

/-- Where some job is not done, a worker whose signs of life have no period gets a bucket and breaks
down over it. -/
theorem loop_breaksDown (watched : w.connection = Observed.connection)
    (noPeriod : w.config.heartbeatEvery.nanoseconds = 0) (wall : Timestamp)
    (idle : s.world.dispatcher.Idle w.config.id)
    (left : ¬∀ j job, s.world.dispatcher.jobs.get? j = some job → job.queue.isDepleted = true) :
    ∃ o, (∀ n pauses, w.loop wall (n + 1) pauses s =
        (.error (.brokeDown .noPeriod), { s with world := o })) ∧
      o.dispatcher.anyInFlight = true := by
  rcases asked watched idle with ⟨after, o, asked, -, -, done⟩ | ⟨j, job, f, o, asked, -, busy, -⟩
  · exact absurd done left
  · have inFlight : job.queue.inFlight.keys ≠ [] :=
      List.ne_nil_of_mem (Directory.mem_keys.2 ⟨f, busy.inFlight⟩)
    refine ⟨o, fun n pauses => ?_, Dispatcher.anyInFlight_iff.2 ⟨j, job, busy.live, inFlight⟩⟩
    rw [loop, asked]
    dsimp only
    rw [runBucket_of_noPeriod noPeriod]

/-- The worker is registered, and then idle. -/
theorem register_of_nothing (watched : w.connection = Observed.connection)
    (composed : s.world.dispatcher.Composed Derived) (indexed : s.world.dispatcher.Indexed)
    (room : 0 < s.world.dispatcher.config.bucketsPerWorker)
    (nothing : s.world.dispatcher.anyInFlight = false)
    (version : w.config.version = s.world.host.server.version)
    (notBlocked : s.world.dispatcher.roster.liveness w.config.id ≠ .blocked) :
    ∃ o, w.register s = (.ok (), { s with world := o }) ∧ o.dispatcher.Idle w.config.id ∧
      o.dispatcher.jobs = s.world.dispatcher.jobs ∧ s.world.Goes o 0 := by
  obtain ⟨o, r, answer, same, alive, held⟩ := Observed.handle_registerWorker version notBlocked
  have registered : w.persist (w.client.register w.config.id w.config.version) s =
      (.ok .registered, { s with world := o }) :=
    persist_of_handle watched answer rfl
  refine ⟨o, by rw [register, registered], ?_, by rw [same],
    .of_handle answer trivial (smooth_singleton nofun nofun)⟩
  rw [same]
  exact ⟨composed, indexed.withRoster held, alive, room, nothing⟩

end Worker

/-! ## The whole shift -/

namespace Server

variable {s : Server} {step : Step} {j : JobId} {tests : List TestEntry}

/-- Requests of workers neither create nor remove jobs. -/
theorem keys_perform_of_workers (workers : step.IsWorkers) (orderly : s.dispatcher.Orderly) :
    (s.perform step).dispatcher.jobs.keys = s.dispatcher.jobs.keys := by
  cases step with
  | request now wall message =>
    cases message with
    | registerWorker w version =>
      obtain ⟨change, registered⟩ := s.exists_register w version now
      exact congrArg (·.dispatcher.jobs.keys) registered
    | dequeueBucket w =>
      have state : (s.perform (.request now wall (.dequeueBucket w))).dispatcher =
          (s.dispatcher.dequeue w now now).2.2 := rfl
      rw [state]
      generalize outcome : s.dispatcher.dequeue w now now = answer
      cases outcome ▸ s.dispatcher.dequeue_cases orderly w now now with
      | nothing => rfl
      | bucket => exact Directory.keys_modify _ _ _
    | bucketResult w report =>
      have state : (s.perform (.request now wall (.bucketResult w report))).dispatcher =
          (s.dispatcher.accept report.bucket w report now wall).2.2 := rfl
      rw [state]
      generalize outcome : s.dispatcher.accept report.bucket w report now wall = answer
      cases outcome ▸ s.dispatcher.accept_cases report.bucket w report now wall with
      | rejected => rfl
      | accepted =>
        rw [Dispatcher.settled_jobs]
        exact Directory.keys_modify _ _ _
    | heartbeat w => rfl
    | healthCheck => cases workers
    | scheduleTests => cases workers
    | jobState => cases workers
    | deleteJob => cases workers
    | cancelJob => cases workers
    | workerAliveness => cases workers
    | activeJobs => cases workers
  | sweep => cases workers
  | rebalance => cases workers
  | retire => cases workers

theorem schedules_of_workers (workers : step.IsWorkers) (s : Server) (j : JobId) :
    s.schedules j step = [] := by
  cases step with
  | request now wall message => cases message <;> first | rfl | cases workers
  | sweep => rfl
  | rebalance => rfl
  | retire => rfl

theorem keys_run_of_workers {steps : List Step} (workers : ∀ step ∈ steps, step.IsWorkers)
    (orderly : s.dispatcher.Orderly) :
    (s.run steps).dispatcher.jobs.keys = s.dispatcher.jobs.keys := by
  induction steps generalizing s with
  | nil => rfl
  | cons step steps ih =>
    obtain ⟨first, rest⟩ := List.forall_mem_cons.1 workers
    exact (ih rest (orderly_perform orderly step)).trans (keys_perform_of_workers first orderly)

/-- Requests of workers schedule nothing into a live job. -/
theorem scheduled_of_workers {steps : List Step} (workers : ∀ step ∈ steps, step.IsWorkers)
    (orderly : s.dispatcher.Orderly) (live : j ∈ s.dispatcher.jobs.keys) :
    s.scheduled j tests steps = tests := by
  induction steps generalizing s with
  | nil => rfl
  | cons step steps ih =>
    obtain ⟨first, rest⟩ := List.forall_mem_cons.1 workers
    rw [← keys_perform_of_workers first orderly] at live
    rw [scheduled, recorded, if_pos (Directory.contains_iff_mem_keys.2 live),
      schedules_of_workers first, List.append_nil]
    exact ih rest (orderly_perform orderly step) live

theorem scheduled_append (s : Server) (j : JobId) (tests : List TestEntry)
    (steps more : List Step) : s.scheduled j tests (steps ++ more) =
      (s.run steps).scheduled j (s.scheduled j tests steps) more := by
  induction steps generalizing s tests with
  | nil => rfl
  | cons step steps ih => exact ih _ _

end Server

/-- The server that went through `steps` has been drained: everything went smoothly, no more buckets
were handed out than there were attempts left, and every job is done, with one result for each test
that was scheduled into it. -/
structure Drained (setup : ServerSetup) (steps : List Server.Step) (o : Observed) : Prop where
  smooth : Smooth o.exchanges
  few : (bucketsIn o.exchanges).length ≤ (setup.server.run steps).dispatcher.attemptsLeft
  jobs : o.dispatcher.jobs.keys = (setup.server.run steps).dispatcher.jobs.keys
  done : ∀ j job, o.dispatcher.jobs.get? j = some job → job.queue.isDepleted = true ∧
    ((o.dispatcher.ledger.results j).map (·.entry)).Perm (setup.server.scheduled j [] steps)

/-- A server that only answered a worker until all jobs were done has been drained. -/
theorem Drained.of_goes {setup : ServerSetup} {steps : List Server.Step} {o o' : Observed} {n : Nat}
    (start : o.host.server = setup.server.run steps) (fresh : o.exchanges = [])
    (goes : o.Goes o' n) (few : n ≤ (setup.server.run steps).dispatcher.attemptsLeft)
    (done : ∀ j job, o'.dispatcher.jobs.get? j = some job → job.queue.isDepleted = true) :
    Drained setup steps o' := by
  obtain ⟨⟨more, workers, after⟩, exchanges, record, smooth, rfl⟩ := goes
  rw [fresh, List.nil_append] at record
  have server : o'.dispatcher = (setup.server.run (steps ++ more)).dispatcher := by
    rw [Observed.dispatcher, after, start, Server.run_append]
  have orderly : (setup.server.run steps).dispatcher.Orderly := (setup.composed_run steps).orderly
  have keys : o'.dispatcher.jobs.keys = (setup.server.run steps).dispatcher.jobs.keys := by
    rw [server, Server.run_append]
    exact Server.keys_run_of_workers workers orderly
  refine ⟨record ▸ smooth, record ▸ few, keys, fun j job live => ⟨done j job live, ?_⟩⟩
  have isDone := done j job live
  have wasLive : j ∈ (setup.server.run steps).dispatcher.jobs.keys := by
    rw [← keys]
    exact Directory.mem_keys.2 ⟨job, live⟩
  rw [server] at live ⊢
  have account := Server.results_perm_scheduled setup (steps ++ more) live isDone
  rwa [Server.scheduled_append, Server.scheduled_of_workers workers orderly wasLive] at account

/-! ### With and without a period -/

section Shift

variable {ρ : Type} {w : Worker Observed ρ} {s : Shift Observed ρ} {setup : ServerSetup}
  {steps : List Server.Step}

/-- The worker begins its shift at a server that went through `steps`, which left nothing in flight,
and no record is kept so far. It is of the server's version and not blocked, and leaves when the
queue is empty. The limit of buckets per worker is positive wherever it is read from. -/
structure Worker.ServesAlone (w : Worker Observed ρ) (s : Shift Observed ρ) (setup : ServerSetup)
    (steps : List Server.Step) : Prop where
  watched : w.connection = Observed.connection
  server : s.world.host.server = setup.server.run steps
  fresh : s.world.exchanges = []
  room : 0 < setup.dispatcher.bucketsPerWorker
  nothing : (setup.server.run steps).dispatcher.anyInFlight = false
  leaves : w.config.leavesWhenEmpty = true
  version : w.config.version = setup.version
  notBlocked : (setup.server.run steps).dispatcher.roster.liveness w.config.id ≠ .blocked

/-- The worker leaves because the queue is empty once it has asked for work at most once more than
there are attempts left, and it leaves the server drained. -/
def Worker.Drains (w : Worker Observed ρ) (s : Shift Observed ρ) (setup : ServerSetup)
    (steps : List Server.Step) (wall : Timestamp) : Prop :=
  ∃ s', (∀ polls, (setup.server.run steps).dispatcher.attemptsLeft < polls →
      w.work wall polls s = (.ok .queueEmpty, s')) ∧
    Drained setup steps s'.world

namespace Worker.ServesAlone

/-- The worker is registered, and then asks for work when it is idle. -/
theorem begins (alone : w.ServesAlone s setup steps) (wall : Timestamp) :
    ∃ o, (∀ polls, w.work wall polls s =
        w.loop wall polls w.config.checkAgain { s with world := o }) ∧
      o.dispatcher.Idle w.config.id ∧
      o.dispatcher.jobs = (setup.server.run steps).dispatcher.jobs ∧ s.world.Goes o 0 := by
  have same : s.world.dispatcher = (setup.server.run steps).dispatcher :=
    congrArg Server.dispatcher alone.server
  have version : w.config.version = s.world.host.server.version := by
    rw [alone.version, alone.server]
    exact (Server.version_run setup.server steps).symm
  obtain ⟨o, registered, idle, jobs, goes⟩ := Worker.register_of_nothing alone.watched
    (same ▸ setup.composed_run steps) (same ▸ setup.indexed_run steps)
    (by rw [same, setup.config_run]; exact alone.room) (same ▸ alone.nothing) version
    (same ▸ alone.notBlocked)
  refine ⟨o, fun polls => ?_, idle, same ▸ jobs, goes⟩
  rw [Worker.work, registered]

/-- With a period, the worker drains the server, whatever its runner does. -/
theorem drains (alone : w.ServesAlone s setup steps)
    (period : 0 < w.config.heartbeatEvery.nanoseconds) (wall : Timestamp) :
    w.Drains s setup steps wall := by
  obtain ⟨o, begins, idle, jobs, goes⟩ := alone.begins wall
  obtain ⟨s', n, drained, goes', few, done⟩ := Worker.loop_drains (s := { s with world := o })
    alone.watched alone.leaves period wall idle
  have left : o.dispatcher.attemptsLeft = (setup.server.run steps).dispatcher.attemptsLeft := by
    rw [Dispatcher.attemptsLeft, jobs, Dispatcher.attemptsLeft]
  have within : 0 + n ≤ (setup.server.run steps).dispatcher.attemptsLeft := by
    rw [Nat.zero_add]
    exact Nat.le_trans few (Nat.le_of_eq left)
  refine ⟨s', fun polls enough => ?_, .of_goes alone.server alone.fresh (goes.trans goes') within
    done⟩
  rw [begins]
  exact drained polls _ (Nat.lt_of_le_of_lt (Nat.le_of_eq left) enough)

/-- Where all jobs are done, there is nothing to drain. -/
theorem drains_of_done (alone : w.ServesAlone s setup steps)
    (done : ∀ j job, (setup.server.run steps).dispatcher.jobs.get? j = some job →
      job.queue.isDepleted = true) (wall : Timestamp) : w.Drains s setup steps wall := by
  obtain ⟨o, begins, idle, jobs, goes⟩ := alone.begins wall
  have isDone : ∀ j job, o.dispatcher.jobs.get? j = some job → job.queue.isDepleted = true :=
    jobs ▸ done
  obtain ⟨o', left, goes', same⟩ := Worker.loop_of_done (s := { s with world := o }) alone.watched
    alone.leaves wall idle isDone
  refine ⟨{ s with world := o' }, fun polls enough => ?_, .of_goes alone.server alone.fresh
    (goes.trans goes') (Nat.zero_le _) (same ▸ isDone)⟩
  obtain ⟨n, rfl⟩ := Nat.exists_eq_add_one.2 (Nat.zero_lt_of_lt enough)
  rw [begins]
  exact left n _

/-- Without a period, the worker breaks down over its first bucket if some job is not done, and the
bucket stays in flight. -/
theorem breaksDown (alone : w.ServesAlone s setup steps)
    (noPeriod : w.config.heartbeatEvery.nanoseconds = 0)
    (left : ¬∀ j job, (setup.server.run steps).dispatcher.jobs.get? j = some job →
      job.queue.isDepleted = true) (wall : Timestamp) :
    ∃ s', (∀ polls, 0 < polls → w.work wall polls s = (.error (.brokeDown .noPeriod), s')) ∧
      s'.world.dispatcher.anyInFlight = true := by
  obtain ⟨o, begins, idle, jobs, -⟩ := alone.begins wall
  obtain ⟨o', broke, inFlight⟩ := Worker.loop_breaksDown (s := { s with world := o })
    alone.watched noPeriod wall idle (jobs ▸ left)
  refine ⟨{ s with world := o' }, fun polls some => ?_, inFlight⟩
  obtain ⟨n, rfl⟩ := Nat.exists_eq_add_one.2 some
  rw [begins]
  exact broke n _

/-- Without a period, the worker only drains a server with nothing to drain. -/
theorem done_of_drains (alone : w.ServesAlone s setup steps)
    (noPeriod : w.config.heartbeatEvery.nanoseconds = 0) {wall : Timestamp}
    (drains : w.Drains s setup steps wall) :
    ∀ j job, (setup.server.run steps).dispatcher.jobs.get? j = some job →
      job.queue.isDepleted = true := by
  refine Classical.byContradiction fun left => ?_
  obtain ⟨s', drained, -⟩ := drains
  obtain ⟨s'', broke, -⟩ := alone.breaksDown noPeriod left wall
  have both := (drained _ (Nat.lt_succ_self _)).symm.trans (broke _ (Nat.succ_pos _))
  cases congrArg Prod.fst both

end Worker.ServesAlone

/-- A worker that serves a server alone drains it, whatever its runner does, exactly if its signs of
life have a period or all jobs are done. -/
theorem work_drains_iff (alone : w.ServesAlone s setup steps) (wall : Timestamp) :
    w.Drains s setup steps wall ↔ 0 < w.config.heartbeatEvery.nanoseconds ∨
      ∀ j job, (setup.server.run steps).dispatcher.jobs.get? j = some job →
        job.queue.isDepleted = true := by
  constructor
  · intro drains
    rcases Nat.eq_zero_or_pos w.config.heartbeatEvery.nanoseconds with noPeriod | period
    · exact .inr (alone.done_of_drains noPeriod drains)
    · exact .inl period
  · rintro (period | done)
    · exact alone.drains period wall
    · exact alone.drains_of_done done wall

end Shift

/-- Two tests that run once more if they fail, in one bucket. -/
def twoTests : List Server.Step :=
  [.request ⟨0⟩ ⟨0⟩ (.scheduleTests ⟨⟨"job"⟩, ⟨0⟩, .unsplit,
    [⟨⟨⟨"A", "a"⟩, [], none⟩, Dispatcher.onceMore⟩,
      ⟨⟨⟨"A", "b"⟩, [], none⟩, Dispatcher.onceMore⟩]⟩)]

/-- A worker whose runner says nothing of any test, so that all tests fail, with this time between
two signs of life. -/
def silentWorker (period : Duration) : Worker Observed Unit where
  config := { id := ⟨"worker"⟩, leavesWhenEmpty := true, heartbeatEvery := period }
  connection := Observed.connection
  runner := fun _ _ s => (⟨[], none⟩, s)

/-- The beginning of its shift. -/
def silentShift : Shift Observed Unit :=
  ⟨⟨⟨({} : ServerSetup).server.run twoTests, ⟨0⟩, ⟨0⟩, []⟩, []⟩, (), []⟩

theorem servesAlone_silentWorker (period : Duration) :
    (silentWorker period).ServesAlone silentShift {} twoTests := by
  have notBlocked : (({} : ServerSetup).server.run twoTests).dispatcher.roster.liveness
      ⟨"worker"⟩ ≠ .blocked := by decide
  exact ⟨rfl, rfl, rfl, by decide, by decide, rfl, rfl, notBlocked⟩

theorem work_drains_iff_twoTests :
    (silentWorker (.ofSeconds 5)).ServesAlone silentShift {} twoTests ∧
      (silentWorker (.ofSeconds 5)).Drains silentShift {} twoTests ⟨0⟩ :=
  have alone := servesAlone_silentWorker (.ofSeconds 5)
  ⟨alone, (work_drains_iff alone ⟨0⟩).2 (.inl (by decide))⟩

/-- A worker whose signs of life have no period breaks down over the bucket of the two tests, however
often it may ask for work, and the bucket stays in flight. -/
theorem not_drains :
    (silentWorker .zero).ServesAlone silentShift {} twoTests ∧
    ¬(silentWorker .zero).Drains silentShift {} twoTests ⟨0⟩ ∧
    ∃ s', (∀ polls, 0 < polls →
        (silentWorker .zero).work ⟨0⟩ polls silentShift = (.error (.brokeDown .noPeriod), s')) ∧
      s'.world.dispatcher.anyInFlight = true := by
  have alone := servesAlone_silentWorker .zero
  have left : ¬∀ j job, (({} : ServerSetup).server.run twoTests).dispatcher.jobs.get? j =
      some job → job.queue.isDepleted = true := by
    intro done
    have waiting : (({} : ServerSetup).server.run twoTests).dispatcher.attemptsLeft = 2 := by decide
    rw [Dispatcher.attemptsLeft_eq_zero done] at waiting
    cases waiting
  exact ⟨alone, fun drains => left (alone.done_of_drains rfl drains), alone.breaksDown rfl left ⟨0⟩⟩

end TestFleet
