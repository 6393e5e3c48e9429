import TestFleet.Proofs.Queue.JobSteps

/-!
# The chronicle of a job

The events that are posted in the life of a job, from the operation that creates it to the one that
removes it, tell where each of its buckets goes. A bucket is handed out and taken back by turns, by
one worker each time; once a worker's report on it is accepted, or it is cancelled with the job,
nothing more is told of it.

* `Chronicle`: a log tells the course of every bucket, up to where the bucket is now;
* `Chronicle.step`, `Chronicle.run`: a step of the job's queue keeps the chronicle, and so does
  every run in which the job is live;
* `faithful_run`: so the events of a life are a faithful log.
-/

namespace TestFleet

variable {j : JobId} {b c : BucketId} {o o' : Option JobQueue} {q q' : JobQueue}
  {gone : List BucketId} {log more : List Event}

/-- A queue has a bucket where it had it before; only a bucket that it did not know may wait now. -/
structure JobQueue.Spares (q q' : JobQueue) (b : BucketId) : Prop where
  inFlight : q'.inFlight.get? b = q.inFlight.get? b
  waiting : b ∈ q.known.keys → b ∈ q'.waitingIds → b ∈ q.waitingIds

/-- A log tells the course of every bucket of a job up to where the bucket is now. While the job is
live, its queue knows every bucket that is told of, and a bucket that runs failed tests again is not
told of before the report that it comes from. -/
structure Chronicle (j : JobId) (o : Option JobQueue) (log : List Event) : Prop where
  course : ∀ b, ∃ s, Course j b (eventsAbout b log) s ∧ s.Fits (o.getD .empty) b
  known : ∀ q, o = some q → ∀ b, eventsAbout b log ≠ [] → b ∈ q.known.keys
  fresh : log.Pairwise fun earlier later =>
    ∀ b w r, later = .resultAccepted j b w (some r) → earlier.bucket? ≠ some r

/-- Nothing is told of a job before its life begins. -/
theorem chronicle_nil (j : JobId) (h : o.getD .empty = .empty) : Chronicle j o [] where
  course b := ⟨.atRest, .nil j b, by rw [h]; exact .empty b (.inl rfl)⟩
  known _ _ _ told := absurd rfl told
  fresh := .nil

namespace Chronicle

/-- The log of a life that begins is that of a job with an empty queue. -/
theorem begun (h : Chronicle j o log) (going : o = none → log = []) :
    Chronicle j (some (o.getD .empty)) log := by
  cases o with
  | none => exact going rfl ▸ chronicle_nil j rfl
  | some q => exact h

/-- A bucket that is spared stays in its stage, as a bucket that is done is known. -/
theorem stays (h : Chronicle j (some q) log) (spared : q.Spares q' b) {s : Stage}
    (course : Course j b (eventsAbout b log) s) (fits : s.Fits q b) : s.Fits q' b :=
  fits.congr spared.inFlight fun isDone =>
    spared.waiting (h.known q rfl b (isDone ▸ course).ne_nil_of_done)

/-- The log goes on with events about buckets that the queue knows already. -/
theorem advance (h : Chronicle j (some q) log)
    (step : ∀ b s, Course j b (eventsAbout b log) s → s.Fits q b →
      ∃ s', Advance j b s (eventsAbout b more) s' ∧ s'.Fits (o'.getD .empty) b)
    (new : ∀ b, eventsAbout b more ≠ [] → b ∈ q.known.keys)
    (kept : ∀ q', o' = some q' → ∀ b ∈ q.known.keys, b ∈ q'.known.keys)
    (retries : ∀ b w r, .resultAccepted j b w (some r) ∈ more → r ∉ q.known.keys) :
    Chronicle j o' (log ++ more) := by
  have told (b : BucketId) (some : eventsAbout b (log ++ more) ≠ []) : b ∈ q.known.keys := by
    rw [eventsAbout_append] at some
    by_cases none : eventsAbout b log = []
    · exact new b fun none' => some (by rw [none, none', List.append_nil])
    · exact h.known q rfl b none
  refine ⟨fun b => ?_, fun q' live b some => kept q' live b (told b some), ?_⟩
  · obtain ⟨s, course, fits⟩ := h.course b
    obtain ⟨s', advance, fits'⟩ := step b s course fits
    rw [eventsAbout_append]
    exact ⟨s', course.advance advance, fits'⟩
  · -- What is told of before is known, and the id of a retry is not.
    have unknown : ∀ earlier ∈ log ++ more, ∀ later ∈ more, ∀ b w r,
        later = .resultAccepted j b w (some r) → earlier.bucket? ≠ some r := by
      rintro earlier mem later memLater b w r rfl about
      refine retries b w r memLater (told r fun none => ?_)
      exact eventsAbout_eq_nil_iff.1 none earlier mem about
    refine List.pairwise_append.2 ⟨h.fresh, ?_, fun earlier mem later memLater =>
      unknown earlier (List.mem_append_left _ mem) later memLater⟩
    exact List.pairwise_of_forall_mem_list fun earlier mem later memLater =>
      unknown earlier (List.mem_append_right _ mem) later memLater

/-- The log goes on with an event about one bucket, and the other buckets are spared. -/
theorem told (h : Chronicle j (some q) log) {e : Event} (about : e.bucket? = some b)
    (isKnown : b ∈ q.known.keys)
    (this : ∀ s, s.Fits q b → ∃ s', Advance j b s [e] s' ∧ s'.Fits q' b)
    (others : ∀ c, c ≠ b → q.Spares q' c) (kept : ∀ c ∈ q.known.keys, c ∈ q'.known.keys)
    (retry : ∀ c w r, e = .resultAccepted j c w (some r) → r ∉ q.known.keys) :
    Chronicle j (some q') (log ++ [e]) := by
  have other {c : BucketId} (h : c ≠ b) : eventsAbout c [e] = [] := by
    rw [eventsAbout_eq_nil_iff, List.forall_mem_singleton, about]
    exact fun same => h (Option.some.inj same).symm
  refine h.advance (fun c s course fits => ?_) (fun c some => ?_) (fun _ e => ?_)
    fun c w r mem => retry c w r (List.mem_singleton.1 mem).symm
  · by_cases e : c = b
    · subst e
      rw [eventsAbout_cons, if_pos about]
      exact this s fits
    · rw [other e]
      exact ⟨s, .stays s, h.stays (others c e) course fits⟩
  · by_cases e : c = b
    · exact e ▸ isKnown
    · exact absurd (other e) some
  · cases e
    exact kept

/-- The log goes on with one event for each of some buckets that are in flight, all of which come
to one stage, and the other buckets are spared. -/
theorem toldOfAll (h : Chronicle j (some q) log) (placed : q.Placed gone)
    {fs : List InFlightBucket} (inFlight : ∀ f ∈ fs, q.inFlight.get? f.id = some f)
    (nodup : (fs.map InFlightBucket.id).Nodup) {event : InFlightBucket → Event}
    (about : ∀ f, (event f).bucket? = some f.id) {s : Stage}
    (these : ∀ f ∈ fs, Advance j f.id (.inFlight f.worker) [event f] s ∧ s.Fits q' f.id)
    (others : ∀ b, b ∉ fs.map InFlightBucket.id → q.Spares q' b)
    (kept : ∀ b ∈ q.known.keys, b ∈ q'.known.keys)
    (noRetry : ∀ f b w r, event f ≠ .resultAccepted j b w (some r)) :
    Chronicle j (some q') (log ++ fs.map event) := by
  refine h.advance (fun b before course fits => ?_) (fun b some => ?_) (fun _ e => ?_)
    fun b w r mem => ?_
  · by_cases isIn : b ∈ fs.map InFlightBucket.id
    · obtain ⟨f, mem, rfl⟩ := List.mem_map.1 isIn
      rw [eventsAbout_map_of_mem about nodup mem, fits.eq_inFlight (inFlight f mem)]
      exact ⟨s, these f mem⟩
    · rw [eventsAbout_map_of_not_mem about isIn]
      exact ⟨before, .stays before, h.stays (others b isIn) course fits⟩
  · by_cases isIn : b ∈ fs.map InFlightBucket.id
    · obtain ⟨f, mem, rfl⟩ := List.mem_map.1 isIn
      exact placed.known_of_inFlight (Directory.mem_keys.2 ⟨f, inFlight f mem⟩)
    · exact absurd (eventsAbout_map_of_not_mem about isIn) some
  · cases e
    exact kept
  · obtain ⟨f, -, same⟩ := List.mem_map.1 mem
    exact absurd same (noRetry f b w r)

/-! ## Steps -/

/-- New buckets are not told of yet. -/
theorem enqueued (h : Chronicle j (some q) log) {buckets : List Bucket}
    (unknown : ∀ b ∈ buckets.map (·.id), b ∉ q.known.keys)
    (nodup : (buckets.map (·.id)).Nodup) (now : Instant) :
    Chronicle j (some (q.appended buckets now)) (log ++ [.jobEnqueued j buckets.length]) := by
  refine h.advance (fun b s course fits => ⟨s, .stays s, ?_⟩) (fun b some => absurd rfl some)
    (fun _ e b hb => ?_) fun b w r mem => by simp at mem
  · have spared : q.Spares (q.appended buckets now) b := ⟨rfl, fun isKnown waits => by
      rw [JobQueue.waitingIds_appended] at waits
      exact (List.mem_append.1 waits).resolve_right fun isNew => unknown b isNew isKnown⟩
    exact h.stays spared course fits
  · cases e
    rw [(JobQueue.known_appended nodup unknown now).mem_iff]
    exact List.mem_append_right _ hb

theorem handedOut (h : Chronicle j (some q) log) (placed : q.Placed gone) {b : WaitingBucket}
    {rest : List WaitingBucket} (waiting : q.waiting = b :: rest) (w : WorkerId) (now : Instant) :
    Chronicle j (some (q.handedOut b rest w now)) (log ++ [.bucketDequeued j b.bucket.id w]) := by
  have isWaiting : b.bucket.id ∈ q.waitingIds :=
    List.mem_map.2 ⟨b, waiting ▸ List.mem_cons_self, rfl⟩
  refine h.told rfl (placed.known_of_waiting isWaiting) (fun s fits => ?_) (fun c other => ?_)
    (fun c hc => hc) nofun
  · cases s with
    | atRest => exact ⟨_, .dequeued w, _, Directory.get?_insert_self _ _ _, rfl⟩
    | inFlight v =>
      obtain ⟨f, inFlight, -⟩ := fits
      exact absurd (Directory.mem_keys.2 ⟨f, inFlight⟩)
        (placed.not_inFlight b (waiting ▸ List.mem_cons_self))
    | done => exact absurd isWaiting fits.1
  · refine ⟨Directory.get?_insert_of_ne _ _ other, fun _ waits => ?_⟩
    rw [JobQueue.waitingIds, waiting]
    exact List.mem_cons_of_mem _ waits

theorem reported (h : Chronicle j (some q) log) (placed : q.Placed gone) {w : WorkerId}
    {report : BucketReport} {now : Instant} {wall : Timestamp} {a : Acceptance}
    (ok : q.accept b w report now wall = .ok (a, q')) :
    Chronicle j (some q') (log ++ [.resultAccepted j b w a.retry]) := by
  obtain ⟨inFlight, worker, -, reported⟩ := JobQueue.of_accept_ok ok
  have left := (placed.accept ok).not_held List.mem_cons_self
  have erased : q'.inFlight = q.inFlight.erase b := by cases reported <;> rfl
  have isKnown := placed.known_of_inFlight (Directory.mem_keys.2 ⟨a.taken, inFlight⟩)
  refine h.told rfl isKnown (fun s fits => ?_) (fun c other => ⟨?_, fun isKnown waits => ?_⟩)
    (fun c hc => ?_) fun c v r e => ?_
  · rw [fits.eq_inFlight inFlight, worker]
    exact ⟨.done, .accepted w a.retry, left⟩
  · rw [erased, Directory.get?_erase_of_ne _ other]
  · cases reported with
    | final => exact waits
    | again failed _ _ fresh =>
      rcases List.mem_cons.1 waits with rfl | waits
      · exact absurd isKnown fresh
      · exact waits
  · cases reported with
    | final => exact hc
    | again => exact (Directory.mem_keys_insert ()).2 (.inr hc)
  · obtain ⟨-, -, -, retry⟩ := Event.resultAccepted.inj e
    cases reported with
    | final none =>
      rw [none] at retry
      cases retry
    | again failed _ _ fresh made =>
      rw [made] at retry
      cases retry
      exact fresh

theorem takenBack (h : Chronicle j (some q) log) (placed : q.Placed gone) (roster : Roster)
    (maximum : Duration) (now : Instant) :
    Chronicle j (some (q.takenBack roster maximum now))
      (log ++ JobQueue.reclaimEvents j (q.stuck roster maximum now)) := by
  have parts := placed.stuck_ids_perm roster maximum now
  have nodup := (List.nodup_append.1 (parts.nodup_iff.2 q.inFlight.keys_nodup)).1
  refine h.toldOfAll placed (fun f stuck => (placed.mem_stuck.1 stuck).1) nodup (fun _ => rfl)
    (s := .atRest) (fun f stuck => ⟨.reclaimed f.worker, ?_⟩) (fun b other => ⟨?_, ?_⟩)
    (fun b hb => hb) fun _ _ _ _ => nofun
  · exact Directory.get?_eq_none_iff.1 (placed.get?_takenBack_of_stuck stuck)
  · refine Option.ext fun f => ?_
    rw [placed.get?_inFlight_iff roster maximum now]
    exact (or_iff_right fun ⟨stuck, id⟩ => other (List.mem_map.2 ⟨f, stuck, id⟩)).symm
  · intro _ waits
    simp only [JobQueue.waitingIds, JobQueue.takenBack, List.map_append, List.map_map,
      List.mem_append] at waits
    exact waits.resolve_left other

/-- The life of a job ends with nothing in flight. -/
theorem closed (h : Chronicle j (some q) log) (none : q.inFlight.keys = []) {e : Event}
    (about : e.bucket? = .none) : Chronicle j .none (log ++ [e]) := by
  have silent (b : BucketId) : eventsAbout b [e] = [] := by
    rw [eventsAbout_eq_nil_iff, List.forall_mem_singleton, about]
    exact nofun
  refine h.advance (fun b s _ fits => ⟨s, ?_, .empty b ?_⟩)
    (fun b some => absurd (silent b) some) nofun fun b w r mem => ?_
  · rw [silent]
    exact .stays s
  · cases s with
    | atRest => exact .inl rfl
    | inFlight w =>
      obtain ⟨f, inFlight, -⟩ := fits
      have isIn : b ∈ q.inFlight.keys := Directory.mem_keys.2 ⟨f, inFlight⟩
      rw [none] at isIn
      cases isIn
    | done => exact .inr rfl
  · rw [← List.mem_singleton.1 mem] at about
    cases about

/-- All buckets that are in flight are cancelled with their job. -/
theorem cancelled (h : Chronicle j (some q) log) (placed : q.Placed gone) :
    Chronicle j none (log ++ (q.inFlight.values.map (fun f => .bucketCancelled j f.id f.worker) ++
      [.jobCancelled j])) := by
  have ids := JobQueue.ids_values placed.own
  have given : Chronicle j (some q.cancel.2)
      (log ++ q.inFlight.values.map fun f => .bucketCancelled j f.id f.worker) := by
    refine h.toldOfAll placed (fun f mem => ?_) (ids ▸ q.inFlight.keys_nodup) (fun _ => rfl)
      (s := .done) (fun f _ => ⟨.cancelled f.worker, List.not_mem_nil, List.not_mem_nil⟩)
      (fun b other => ⟨?_, nofun⟩) (fun b hb => hb) fun _ _ _ _ => nofun
    · obtain ⟨b, inFlight⟩ := Directory.mem_values.1 mem
      rwa [placed.own b f inFlight]
    · rw [ids] at other
      exact (Directory.get?_eq_none_iff.2 other).symm
  rw [← List.append_assoc]
  exact given.closed rfl rfl

/-- A step of the queue keeps the chronicle. -/
theorem step (h : Chronicle j o log) (going : o = none → log = [])
    (placed : (o.getD .empty).Placed gone) (step : JobStep j o more o') :
    Chronicle j o' (log ++ more) := by
  cases step with
  | idle => exact (List.append_nil log).symm ▸ h
  | enqueued unknown nodup now => exact (h.begun going).enqueued unknown nodup now
  | handedOut waiting w now => exact h.handedOut placed waiting w now
  | reported ok => exact h.reported placed ok
  | takenBack _ roster maximum now => exact h.takenBack placed roster maximum now
  | deleted depleted => exact h.closed (JobQueue.isDepleted_iff.1 depleted).2 rfl
  | cancelled => exact h.cancelled placed

end Chronicle

/-! ## Runs -/

namespace Dispatcher

/-- The job is live before each of the operations. -/
def LiveThrough (d : Dispatcher) (j : JobId) : List Operation → Prop
  | [] => True
  | op :: ops => d.jobs.contains j = true ∧ (d.perform op).LiveThrough j ops

end Dispatcher

namespace Chronicle

open Dispatcher

variable {d : Dispatcher}

theorem perform (h : Chronicle j (d.queue? j) log) (orderly : d.Orderly)
    (going : d.queue? j = none → log = []) (op : Dispatcher.Operation) :
    Chronicle j ((d.perform op).queue? j) (log ++ eventsOf j (d.posts op)) := by
  obtain ⟨gone, placed⟩ := orderly.placed_queueOf j
  rw [← getD_queue?] at placed
  exact h.step going placed (jobStep_perform orderly op j)

theorem run (h : Chronicle j (d.queue? j) log) (orderly : d.Orderly)
    {ops : List Dispatcher.Operation} (live : d.LiveThrough j ops) :
    Chronicle j ((d.run ops).queue? j) (log ++ eventsOf j (d.posted ops)) := by
  induction ops generalizing d log with
  | nil => exact (List.append_nil log).symm ▸ h
  | cons op ops ih =>
    have going : d.queue? j = none → log = [] := fun notLive => by
      rw [queue?_eq_none_iff, live.1] at notLive
      cases notLive
    rw [posted, eventsOf_append, ← List.append_assoc]
    exact ih (h.perform orderly going op) (orderly.perform (admitted_of_forall op)) live.2

end Chronicle

namespace Dispatcher

variable {d : Dispatcher}

/-- A log tells the truth about a job whose life it covers: every bucket goes its course, and is in
flight with a worker exactly if the last that is told of it is that this worker got it. At most one
report on a bucket is accepted, from the worker that got the bucket last, and the event says so. A
bucket that runs failed tests again is not told of before the report that it comes from. -/
structure Faithful (d : Dispatcher) (j : JobId) (log : List Event) : Prop where
  course : ∀ b, ∃ s, Course j b (eventsAbout b (eventsOf j log)) s
  inFlight : ∀ b w, (∃ f, (d.queueOf j).inFlight.get? b = some f ∧ f.worker = w) ↔
    (eventsAbout b (eventsOf j log)).getLast? = some (.bucketDequeued j b w)
  once : ∀ b, (eventsAbout b (eventsOf j log)).countP Event.isAcceptance ≤ 1
  pending : ∀ b w report now wall retry, (d.accept b w report now wall).1 = .ok ⟨j, retry⟩ →
    (d.accept b w report now wall).2.1 = [.resultAccepted j b w retry] ∧
      (eventsAbout b (eventsOf j log)).getLast? = some (.bucketDequeued j b w) ∧
      (eventsAbout b (eventsOf j log)).countP Event.isAcceptance = 0
  fresh : ∀ before b w r after, log = before ++ .resultAccepted j b w (some r) :: after →
    eventsAbout r (eventsOf j before) = []

theorem faithful_of_chronicle (h : Chronicle j (d.queue? j) (eventsOf j log)) :
    Faithful d j log := by
  have course := h.course
  rw [getD_queue?] at course
  refine ⟨fun b => ?_, fun b w => ?_, fun b => ?_, fun b w report now wall retry accepted => ?_,
    fun before b w r after split => ?_⟩
  · obtain ⟨s, course, -⟩ := course b
    exact ⟨s, course⟩
  · obtain ⟨s, course, fits⟩ := course b
    rw [fits.inFlight_iff, course.getLast?_eq_some_iff]
  · obtain ⟨s, course, -⟩ := course b
    exact course.countP_le_one
  · generalize outcome : d.accept b w report now wall = answer at accepted ⊢
    cases outcome ▸ d.accept_cases b w report now wall with
    | rejected => cases accepted
    | @accepted k job a q _ live ok =>
      simp only [Except.ok.injEq, Routed.mk.injEq] at accepted
      obtain ⟨rfl, rfl⟩ := accepted
      obtain ⟨inFlight, rfl, -, -⟩ := JobQueue.of_accept_ok ok
      obtain ⟨s, course, fits⟩ := course b
      rw [← queueOf_of_live live] at inFlight
      obtain rfl := fits.eq_inFlight inFlight
      exact ⟨rfl, (course.getLast?_eq_some_iff _).2 rfl, course.countP_of_inFlight⟩
  · have fresh := h.fresh
    rw [split, eventsOf_append] at fresh
    have later : .resultAccepted j b w (some r) ∈
        eventsOf j (.resultAccepted j b w (some r) :: after) :=
      List.mem_filter.2 ⟨List.mem_cons_self, decide_eq_true rfl⟩
    rw [eventsAbout_eq_nil_iff]
    exact fun e he => (List.pairwise_append.1 fresh).2.2 e he _ later b w r rfl

/-- Let a job not be live after some operations, and be live before each operation that follows the
next one: the operations from that one on are the life of the job, or its beginning. The events that
they post are a faithful log of it. -/
theorem faithful_run {config : DispatcherConfig} {silence : Duration} {before : List Operation}
    {j : JobId} (notLive : ((new config silence).run before).jobs.contains j = false)
    {op : Operation} {ops : List Operation}
    (live : ((new config silence).run (before ++ [op])).LiveThrough j ops) :
    Faithful ((new config silence).run (before ++ op :: ops)) j
      (((new config silence).run before).posted (op :: ops)) := by
  have orderly : ((new config silence).run before).Orderly :=
    composed_run config silence fun op _ => admitted_of_forall op
  rw [run_append] at live ⊢
  have begins := chronicle_nil j (o := ((new config silence).run before).queue? j)
    (by rw [queue?_eq_none_iff.2 notLive]; rfl)
  have first := begins.perform orderly (fun _ => rfl) op
  have life := first.run (orderly.perform (admitted_of_forall op)) live
  rw [List.nil_append, ← eventsOf_append] at life
  exact faithful_of_chronicle life

/-- The operation that such a life may begin with. -/
def enqueueOnce : Operation :=
  .enqueue ⟨"A"⟩ [⟨⟨"b"⟩, [⟨⟨"C", "a"⟩, [], none⟩], onceMore⟩] ⟨0⟩ ⟨0⟩

/-- A job whose bucket is handed out, taken back, handed out again and reported on with a failed
test; the bucket that runs the test again is handed out when the job is cancelled. -/
def cancelledLife : List Operation :=
  [.dequeue ⟨"w"⟩ ⟨0⟩ ⟨0⟩, .reclaim ⟨1000000000000⟩, .dequeue ⟨"w"⟩ ⟨0⟩ ⟨0⟩,
    .accept ⟨"b"⟩ ⟨"w"⟩ ⟨⟨"b"⟩, onceMore.destination,
      [⟨⟨⟨"C", "a"⟩, [], none⟩, [⟨false, [], .zero, ⟨0⟩, "host", "sim"⟩]⟩]⟩ ⟨0⟩ ⟨0⟩,
    .dequeue ⟨"w"⟩ ⟨0⟩ ⟨0⟩, .cancel ⟨"A"⟩]

theorem faithful_run_cancelledLife :
    Faithful ((new {} .zero).run ([.roster (.register ⟨"w"⟩ ⟨0⟩)] ++ enqueueOnce :: cancelledLife))
      ⟨"A"⟩ (((new {} .zero).run [.roster (.register ⟨"w"⟩ ⟨0⟩)]).posted
        (enqueueOnce :: cancelledLife)) ∧
    eventsAbout ⟨"b"⟩ (eventsOf ⟨"A"⟩ (((new {} .zero).run
        [.roster (.register ⟨"w"⟩ ⟨0⟩)]).posted (enqueueOnce :: cancelledLife))) =
      [.bucketDequeued ⟨"A"⟩ ⟨"b"⟩ ⟨"w"⟩, .bucketReclaimed ⟨"A"⟩ ⟨"b"⟩ ⟨"w"⟩,
        .bucketDequeued ⟨"A"⟩ ⟨"b"⟩ ⟨"w"⟩,
        .resultAccepted ⟨"A"⟩ ⟨"b"⟩ ⟨"w"⟩ (some ⟨"b-retry-1"⟩)] ∧
    eventsAbout ⟨"b-retry-1"⟩ (eventsOf ⟨"A"⟩ (((new {} .zero).run
        [.roster (.register ⟨"w"⟩ ⟨0⟩)]).posted (enqueueOnce :: cancelledLife))) =
      [.bucketDequeued ⟨"A"⟩ ⟨"b-retry-1"⟩ ⟨"w"⟩, .bucketCancelled ⟨"A"⟩ ⟨"b-retry-1"⟩ ⟨"w"⟩] :=
  ⟨faithful_run rfl ⟨rfl, rfl, rfl, rfl, rfl, rfl, trivial⟩, by decide, by decide⟩

end Dispatcher

end TestFleet
