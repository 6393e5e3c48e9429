import TestFleet.Proofs.Time.Backoff
import TestFleet.Worker.Shift

/-!
# What workers and clients break down over

A worker that breaks down does so because of the way it is set up, whatever the queue answers and the
runner does: its signs of life have no period, or its pauses grow too long for a duration. Without a
period, nothing of any bucket is run. A run may also be dropped where it is, and what was watched of
it is then the beginning of the whole run. A client that waits for a job can only break down over its
pauses, and the usual ones go on forever.

* `Backoff.Endless`: the sequences that yield a pause whenever they are asked for one;
* `watched_runBucket`: what was watched of the run of a bucket, however it ended;
* `WorkerConfig.Breaks`: what a worker that is set up in this way can break down over;
* `runBucket_noPeriod_iff`: a worker breaks down over the timer of a bucket exactly if there is no
  period;
* `breaks_of_work`: a worker does not break down over anything else in a whole shift;
* `waitForJob_ne_brokeDown`: a client that waits as usual does not break down.
-/

namespace TestFleet

/-! ## Endless sequences of pauses -/

namespace Backoff

/-- Whatever is done with the sequence, it yields a pause when it is asked for one. -/
def Endless (b : Backoff) : Prop := ∀ ops, (b.run ops).next?.isSome

variable {b later : Backoff} {pause start cap : Duration}

theorem Endless.next?_ne_none (endless : b.Endless) : b.next? ≠ none :=
  Option.isSome_iff_ne_none.1 (endless [])

theorem Endless.polled (endless : b.Endless) (next : b.next? = some (pause, later)) :
    later.Endless := by
  have polled : b.perform .poll = later := by
    rw [perform, next]
    rfl
  exact fun ops => polled ▸ endless (.poll :: ops)

theorem Endless.reset (endless : b.Endless) : b.reset.Endless :=
  fun ops => endless (.reset :: ops)

/-- A sequence that follows the law is endless. -/
theorem endless_doubling (le : start.nanoseconds ≤ cap.nanoseconds) (room : HasRoom start cap) :
    (doubling start cap).Endless :=
  (followsLaw_of_hasRoom le room).yields

end Backoff

/-! ## Failures that are tried again -/

/-- What fails a retry has failed an attempt or a pause. Both keep what `Keeps` says of the state. -/
theorem retryFrom_error {σ ε α : Type} {operation : Nat → σ → Except ε α × σ}
    {pause : Nat → σ → Except ε Unit × σ} (Keeps : σ → Prop) (Fails : ε → Prop)
    (tries : ∀ n s, Keeps s →
      Keeps (operation n s).2 ∧ ∀ e, (operation n s).1 = .error e → Fails e)
    (pauses : ∀ n s, Keeps s → Keeps (pause n s).2 ∧ ∀ e, (pause n s).1 = .error e → Fails e)
    (attempt left : Nat) {s : σ} (start : Keeps s) {e : ε}
    (failed : (retryFrom operation pause attempt left s).1 = .error e) : Fails e := by
  induction left generalizing attempt s with
  | zero => exact (tries attempt s start).2 e failed
  | succ left ih =>
    have tried := tries attempt s start
    rw [retryFrom] at failed
    split at failed
    next => cases failed
    next e' world attempted =>
      rw [attempted] at tried
      have paused := pauses attempt world tried.1
      split at failed
      next e'' world' broken =>
        rw [broken] at paused
        cases failed
        exact paused.2 e rfl
      next world' waited =>
        rw [waited] at paused
        exact ih (attempt + 1) paused.1 failed

/-- What a worker that is set up in this way can break down over. -/
inductive WorkerConfig.Breaks (c : WorkerConfig) : TimeFault → Prop
  | heartbeats : c.heartbeatEvery.nanoseconds = 0 → c.Breaks .noPeriod
  | checks : ¬c.checkAgain.Endless → c.Breaks .pauseTooLong
  | retries : ¬c.retryPauses.Endless → c.Breaks .pauseTooLong

theorem WorkerConfig.breaks_noPeriod_iff {c : WorkerConfig} :
    c.Breaks .noPeriod ↔ c.heartbeatEvery.nanoseconds = 0 :=
  ⟨fun | .heartbeats noPeriod => noPeriod, .heartbeats⟩

namespace Worker

variable {σ ρ α : Type} {w : Worker σ ρ} {s s' : Shift σ ρ} {fault : TimeFault}

/-! ## The run of a bucket -/

/-- Signs of life change nothing but the world. -/
theorem beat_keeps (moments : List Nat) :
    (w.beat moments s).2.runner = s.runner ∧ (w.beat moments s).2.events = s.events := by
  induction moments generalizing s with
  | nil => exact ⟨rfl, rfl⟩
  | cons moment later ih =>
    rw [beat]
    split
    · exact ⟨rfl, rfl⟩
    · exact ih

/-- Without a timer for the signs of life, nothing of a bucket is run. -/
theorem runBucket_of_noPeriod (noPeriod : w.config.heartbeatEvery.nanoseconds = 0)
    (wall : Timestamp) (b : Bucket) (s : Shift σ ρ) :
    w.runBucket wall b s = (.error (.brokeDown .noPeriod), s) := by
  have none : w.config.heartbeatTimer? (w.connection.now s.world) = none :=
    Timer.start?_of_zero noPeriod
  rw [runBucket, none]

/-- However the run of a bucket ended, what was watched of it is the beginning of the whole run, and
has led the runner to the state that it is in. After a report it is the whole run. -/
theorem watched_runBucket (w : Worker σ ρ) (wall : Timestamp) (b : Bucket) (s : Shift σ ρ) :
    ∃ events, events <+: (Runner.run w.runner wall (w.context b) b.entries s.runner).2.1 ∧
      (w.runBucket wall b s).2.events = s.events ++ events ∧
      (w.runBucket wall b s).2.runner =
        Runner.stateAfter w.runner (w.context b) events s.runner ∧
      ((w.runBucket wall b s).1 = .ok () →
        events = (Runner.run w.runner wall (w.context b) b.entries s.runner).2.1) := by
  have whole := Runner.stateAfter_run w.runner wall (w.context b) b.entries s.runner
  obtain ⟨runner, before⟩ := w.beat_keeps (s := s) (w.heartbeats b)
  rw [runBucket]
  split
  · exact ⟨[], List.nil_prefix, (List.append_nil _).symm, rfl, nofun⟩
  · generalize Runner.run w.runner wall (w.context b) b.entries s.runner = ran at whole
    obtain ⟨results, events, r⟩ := ran
    dsimp only
    split
    next moment after blocked =>
      rw [blocked] at runner before
      refine ⟨events.take moment, List.take_prefix _ _, ?_, ?_, nofun⟩
      · exact congrArg (· ++ events.take moment) before
      · exact congrArg (Runner.stateAfter w.runner (w.context b) (events.take moment)) runner
    next after alive =>
      rw [alive] at before
      exact ⟨events, List.prefix_refl _, congrArg (· ++ events) before, whole.symm, fun _ => rfl⟩

/-! ## Breaking down -/

theorem breaks_of_persist {request : σ → Except LinkFault α × σ}
    (broke : w.persist request s = (.error (.brokeDown fault), s')) : w.config.Breaks fault := by
  -- The pauses stay endless if they are to begin with, so only others can run out.
  refine retryFrom_error (fun t : σ × Backoff => w.config.retryPauses.Endless → t.2.Endless)
    (fun e => ∀ fault, e = .brokeDown fault → w.config.Breaks fault)
    (fun _ t keeps => ⟨keeps, ?_⟩) (fun _ t keeps => ?_) 1 _ id (congrArg Prod.fst broke) fault rfl
  · rintro e failed fault rfl
    change (request t.1).1.mapError WorkerError.link = .error (.brokeDown fault) at failed
    cases answer : (request t.1).1 with
    | ok a => rw [answer] at failed; cases failed
    | error f => rw [answer] at failed; cases failed
  · split
    next ends =>
      refine ⟨keeps, ?_⟩
      rintro e failed fault rfl
      cases failed
      exact .retries fun endless => (keeps endless).next?_ne_none ends
    next pause later next => exact ⟨fun endless => (keeps endless).polled next, nofun⟩

theorem breaks_of_register (broke : w.register s = (.error (.brokeDown fault), s')) :
    w.config.Breaks fault := by
  rw [register] at broke
  split at broke
  next failed =>
    cases broke
    exact breaks_of_persist failed
  all_goals cases broke

theorem breaks_of_runBucket {wall : Timestamp} {b : Bucket}
    (broke : w.runBucket wall b s = (.error (.brokeDown fault), s')) : w.config.Breaks fault := by
  rw [runBucket] at broke
  split at broke
  next timer =>
    cases broke
    refine .heartbeats (Nat.eq_zero_of_not_pos fun period => ?_)
    have starts : (w.config.heartbeatTimer? (w.connection.now s.world)).isSome :=
      Timer.start?_isSome_iff.2 period
    rw [timer] at starts
    cases starts
  next =>
    dsimp only at broke
    split at broke
    next => cases broke
    next after alive =>
      generalize answered : w.persist _ _ = answer at broke
      obtain ⟨answer, s''⟩ := answer
      cases answer with
      | ok a => cases broke
      | error e =>
        cases broke
        exact breaks_of_persist answered

/-- The worker breaks down over the timer of a bucket exactly if its signs of life have no period. -/
theorem runBucket_noPeriod_iff (wall : Timestamp) (b : Bucket) (s : Shift σ ρ) :
    (w.runBucket wall b s).1 = .error (.brokeDown .noPeriod) ↔
      w.config.heartbeatEvery.nanoseconds = 0 := by
  constructor
  · exact fun broke => WorkerConfig.breaks_noPeriod_iff.1 (breaks_of_runBucket (Prod.ext broke rfl))
  · exact fun noPeriod => by rw [runBucket_of_noPeriod noPeriod]

theorem breaks_of_idle {after : Duration} {pauses : Backoff}
    (endless : w.config.checkAgain.Endless → pauses.Endless)
    (broke : w.idle after pauses s = (.error (.brokeDown fault), s')) : w.config.Breaks fault := by
  rw [idle] at broke
  split at broke
  next ends =>
    cases broke
    exact .checks fun checks => (endless checks).next?_ne_none ends
  next => cases broke

/-- The pauses stay endless. -/
theorem endless_of_idle {after : Duration} {pauses later : Backoff} (endless : pauses.Endless)
    (idled : w.idle after pauses s = (.ok later, s')) : later.Endless := by
  rw [idle] at idled
  split at idled
  next => cases idled
  next next =>
    cases idled
    exact endless.polled next

theorem breaks_of_loop {wall : Timestamp} {polls : Nat} {pauses : Backoff}
    (endless : w.config.checkAgain.Endless → pauses.Endless)
    (broke : w.loop wall polls pauses s = (.error (.brokeDown fault), s')) :
    w.config.Breaks fault := by
  induction polls generalizing pauses s with
  | zero => cases broke
  | succ polls ih =>
    rw [loop] at broke
    split at broke
    next e _ failed =>
      cases broke
      exact breaks_of_persist failed
    next b _ _ =>
      split at broke
      next failed =>
        cases broke
        exact breaks_of_runBucket failed
      next => exact ih (fun checks => (endless checks).reset) broke
    -- It is to come again later, and idles until then.
    next =>
      split at broke
      next failed =>
        cases broke
        exact breaks_of_idle endless failed
      next idled => exact ih (fun checks => endless_of_idle (endless checks) idled) broke
    -- The queue is empty, and it leaves or idles.
    next =>
      split at broke
      next => cases broke
      next =>
        split at broke
        next failed =>
          cases broke
          exact breaks_of_idle endless failed
        next idled => exact ih (fun checks => endless_of_idle (endless checks) idled) broke
    next => cases broke
    -- The queue does not know it, and it announces itself again.
    next =>
      split at broke
      next failed =>
        cases broke
        exact breaks_of_register failed
      next => exact ih endless broke

/-- A worker only breaks down over what it is set up with, whatever the queue answers and the runner
does. -/
theorem breaks_of_work {wall : Timestamp} {polls : Nat}
    (broke : w.work wall polls s = (.error (.brokeDown fault), s')) : w.config.Breaks fault := by
  rw [work] at broke
  split at broke
  next failed =>
    cases broke
    exact breaks_of_register failed
  next => exact breaks_of_loop id broke

end Worker

namespace Client

variable {σ : Type} {c : Client σ} {j : JobId} {deadline : Option Instant} {fault : TimeFault}

theorem not_endless_of_waitForJob {looks : Nat} {pauses : Backoff} {s s' : σ}
    (broke : c.waitForJob j deadline looks pauses s = (.error (.brokeDown fault), s')) :
    ¬pauses.Endless := by
  induction looks generalizing pauses s with
  | zero => cases broke
  | succ looks ih =>
    intro endless
    rw [waitForJob] at broke
    split at broke
    next => cases broke
    next => cases broke
    next =>
      split at broke
      next => cases broke
      next =>
        split at broke
        next ends => exact endless.next?_ne_none ends
        next next =>
          dsimp only at broke
          split at broke
          next => cases broke
          next => exact ih broke (endless.polled next)

/-- With the usual pauses, a client never breaks down while it waits for a job. -/
theorem waitForJob_ne_brokeDown (looks : Nat) (s : σ) :
    (c.waitForJob j deadline looks waitPauses s).1 ≠ .error (.brokeDown fault) :=
  fun broke => not_endless_of_waitForJob (Prod.ext broke rfl)
    (Backoff.endless_doubling (by decide) (.inr (by decide)))

end Client

end TestFleet
