import TestFleet.Proofs.Queue.Places

/-!
# The courses of buckets

What a log of events tells of one bucket of a job. A bucket goes its rounds, in each of which it is
handed out to a worker and taken back from it; in the end a report on it may be accepted from the
worker that it was handed out to last, or it may be cancelled with its job.

* `eventsOf`, `eventsAbout`: the events of a job, and those of them that are about one bucket;
* `Course`: what is told of a bucket that has come to a stage of its life;
* `Course.advance`: what one operation may add to it;
* `Course.getLast?_eq_some_iff`, `Course.countP_le_one`: what the events say of the stage;
* `Stage.Fits`: a queue has a bucket where its stage says.
-/

namespace TestFleet

/-- The job that an event is of. Rejected reports and news of workers are of no job. -/
def Event.job? : Event → Option JobId
  | .jobEnqueued j _ | .jobDeleted j | .jobCancelled j => some j
  | .bucketDequeued j _ _ | .bucketReclaimed j _ _ | .bucketCancelled j _ _ => some j
  | .resultAccepted j _ _ _ => some j
  | .resultRejected .. | .workerSilent _ | .workerBlocked .. => none

/-- The bucket that an event says the whereabouts of. -/
def Event.bucket? : Event → Option BucketId
  | .bucketDequeued _ b _ | .bucketReclaimed _ b _ | .bucketCancelled _ b _ => some b
  | .resultAccepted _ b _ _ => some b
  | _ => none

/-- Whether an event says that a report was accepted. -/
def Event.isAcceptance : Event → Bool
  | .resultAccepted .. => true
  | _ => false

/-- The events of a job. -/
def eventsOf (j : JobId) (log : List Event) : List Event := log.filter fun e => e.job? = some j

/-- The events that say the whereabouts of a bucket. -/
def eventsAbout (b : BucketId) (log : List Event) : List Event :=
  log.filter fun e => e.bucket? = some b

variable {j : JobId} {b : BucketId} {log more es : List Event}

theorem eventsOf_append (j : JobId) (log more : List Event) :
    eventsOf j (log ++ more) = eventsOf j log ++ eventsOf j more :=
  List.filter_append log more

theorem eventsOf_eq_nil_iff : eventsOf j log = [] ↔ ∀ e ∈ log, e.job? ≠ some j := by
  simp [eventsOf]

theorem eventsOf_eq_self_iff : eventsOf j log = log ↔ ∀ e ∈ log, e.job? = some j := by
  simp [eventsOf]

theorem eventsAbout_append (b : BucketId) (log more : List Event) :
    eventsAbout b (log ++ more) = eventsAbout b log ++ eventsAbout b more :=
  List.filter_append log more

theorem eventsAbout_eq_nil_iff : eventsAbout b log = [] ↔ ∀ e ∈ log, e.bucket? ≠ some b := by
  simp [eventsAbout]

theorem eventsAbout_cons (b : BucketId) (e : Event) (log : List Event) :
    eventsAbout b (e :: log) =
      if e.bucket? = some b then e :: eventsAbout b log else eventsAbout b log := by
  simp [eventsAbout, List.filter_cons]

theorem eventsAbout_map_of_not_mem {taken : List InFlightBucket} {event : InFlightBucket → Event}
    (own : ∀ f, (event f).bucket? = some f.id) (notTaken : b ∉ taken.map InFlightBucket.id) :
    eventsAbout b (taken.map event) = [] := by
  rw [eventsAbout_eq_nil_iff]
  intro e he
  obtain ⟨f, hf, rfl⟩ := List.mem_map.1 he
  rw [own]
  exact fun same => notTaken (List.mem_map.2 ⟨f, hf, Option.some.inj same⟩)

/-- What events, one for each bucket of a list, tell of a bucket of that list. -/
theorem eventsAbout_map_of_mem {taken : List InFlightBucket} {event : InFlightBucket → Event}
    (own : ∀ f, (event f).bucket? = some f.id) (nodup : (taken.map InFlightBucket.id).Nodup)
    {f : InFlightBucket} (mem : f ∈ taken) : eventsAbout f.id (taken.map event) = [event f] := by
  induction taken with
  | nil => cases mem
  | cons g gs ih =>
    obtain ⟨notIn, nodup⟩ := List.nodup_cons.1 nodup
    rw [List.map_cons, eventsAbout_cons, own]
    rcases List.mem_cons.1 mem with rfl | mem
    · rw [if_pos rfl, eventsAbout_map_of_not_mem own notIn]
    · have other : g.id ≠ f.id := fun same => notIn (List.mem_map.2 ⟨f, mem, same.symm⟩)
      rw [if_neg fun same => other (Option.some.inj same), ih nodup mem]

/-! ## Courses -/

/-- Where a bucket is in its life. -/
inductive Stage where
  /-- It is with no worker: it waits, or the job does not have it yet. -/
  | atRest
  | inFlight (w : WorkerId)
  /-- It was reported on, or given up with its job. -/
  | done

/-- A bucket was handed out to each of the workers and taken back again. -/
def rounds (j : JobId) (b : BucketId) (ws : List WorkerId) : List Event :=
  ws.flatMap fun w => [.bucketDequeued j b w, .bucketReclaimed j b w]

theorem rounds_concat (ws : List WorkerId) (w : WorkerId) : rounds j b (ws ++ [w]) =
    rounds j b ws ++ [.bucketDequeued j b w] ++ [.bucketReclaimed j b w] := by
  simp [rounds]

/-- What is told of a bucket after its rounds, in each stage. -/
inductive Ending (j : JobId) (b : BucketId) : Stage → List Event → Prop where
  | atRest : Ending j b .atRest []
  | inFlight (w : WorkerId) : Ending j b (.inFlight w) [.bucketDequeued j b w]
  | accepted (w : WorkerId) (retry : Option BucketId) :
      Ending j b .done [.bucketDequeued j b w, .resultAccepted j b w retry]
  | cancelled (w : WorkerId) :
      Ending j b .done [.bucketDequeued j b w, .bucketCancelled j b w]

/-- What is told of a bucket that has come to a stage: rounds, and an ending. -/
def Course (j : JobId) (b : BucketId) (es : List Event) (s : Stage) : Prop :=
  ∃ ws rest, es = rounds j b ws ++ rest ∧ Ending j b s rest

/-- What one operation may add to what is told of a bucket. -/
inductive Advance (j : JobId) (b : BucketId) : Stage → List Event → Stage → Prop where
  | stays (s : Stage) : Advance j b s [] s
  | dequeued (w : WorkerId) : Advance j b .atRest [.bucketDequeued j b w] (.inFlight w)
  | reclaimed (w : WorkerId) : Advance j b (.inFlight w) [.bucketReclaimed j b w] .atRest
  | accepted (w : WorkerId) (retry : Option BucketId) :
      Advance j b (.inFlight w) [.resultAccepted j b w retry] .done
  | cancelled (w : WorkerId) : Advance j b (.inFlight w) [.bucketCancelled j b w] .done

namespace Course

variable {s s' : Stage}

theorem nil (j : JobId) (b : BucketId) : Course j b [] .atRest := ⟨[], [], rfl, .atRest⟩

theorem advance (h : Course j b es s) (step : Advance j b s more s') :
    Course j b (es ++ more) s' := by
  obtain ⟨ws, rest, rfl, ending⟩ := h
  cases step with
  | stays => exact ⟨ws, rest, List.append_nil _, ending⟩
  | dequeued w =>
    cases ending
    exact ⟨ws, _, by rw [List.append_nil], .inFlight w⟩
  | reclaimed w =>
    cases ending
    -- The bucket is back from one more round.
    exact ⟨ws ++ [w], [], by rw [rounds_concat, List.append_nil], .atRest⟩
  | accepted w retry =>
    cases ending
    exact ⟨ws, _, List.append_assoc .., .accepted w retry⟩
  | cancelled w =>
    cases ending
    exact ⟨ws, _, List.append_assoc .., .cancelled w⟩

theorem ne_nil_of_done (h : Course j b es .done) : es ≠ [] := by
  obtain ⟨ws, rest, rfl, ending⟩ := h
  cases ending <;> simp

/-- After rounds alone, the last that is told of a bucket is not that it was handed out. -/
theorem getLast?_rounds (ws : List WorkerId) (w : WorkerId) :
    (rounds j b ws).getLast? ≠ some (.bucketDequeued j b w) := by
  rcases List.eq_nil_or_concat ws with rfl | ⟨ws, v, rfl⟩
  · exact nofun
  · simp [List.concat_eq_append, rounds_concat]

/-- A bucket is in flight if the last that is told of it is that it was handed out. -/
theorem getLast?_eq_some_iff (h : Course j b es s) (w : WorkerId) :
    es.getLast? = some (.bucketDequeued j b w) ↔ s = .inFlight w := by
  obtain ⟨ws, rest, rfl, ending⟩ := h
  cases ending with
  | atRest => simpa using getLast?_rounds ws w
  | inFlight v => simp
  | accepted => simp
  | cancelled => simp

theorem countP_rounds (ws : List WorkerId) :
    (rounds j b ws).countP Event.isAcceptance = 0 := by
  rw [List.countP_eq_zero, rounds]
  intro e he
  obtain ⟨w, -, he⟩ := List.mem_flatMap.1 he
  simp only [List.mem_cons, List.not_mem_nil, or_false] at he
  rcases he with rfl | rfl <;> exact nofun

theorem countP_le_one (h : Course j b es s) : es.countP Event.isAcceptance ≤ 1 := by
  obtain ⟨ws, rest, rfl, ending⟩ := h
  rw [List.countP_append, countP_rounds]
  cases ending <;> simp [Event.isAcceptance]

theorem countP_of_inFlight {w : WorkerId} (h : Course j b es (.inFlight w)) :
    es.countP Event.isAcceptance = 0 := by
  obtain ⟨ws, rest, rfl, ending⟩ := h
  rw [List.countP_append, countP_rounds]
  cases ending
  rfl

end Course

/-! ## Stages and queues -/

/-- The queue has a bucket where the stage says. -/
def Stage.Fits (q : JobQueue) (b : BucketId) : Stage → Prop
  | .atRest => b ∉ q.inFlight.keys
  | .inFlight w => ∃ f, q.inFlight.get? b = some f ∧ f.worker = w
  | .done => b ∉ q.waitingIds ∧ b ∉ q.inFlight.keys

namespace Stage.Fits

variable {q q' : JobQueue} {s : Stage}

theorem eq_inFlight (fits : s.Fits q b) {f : InFlightBucket}
    (inFlight : q.inFlight.get? b = some f) : s = .inFlight f.worker := by
  have isIn : b ∈ q.inFlight.keys := Directory.mem_keys.2 ⟨f, inFlight⟩
  cases s with
  | atRest => exact absurd isIn fits
  | inFlight w =>
    obtain ⟨g, inFlight', rfl⟩ := fits
    rw [inFlight] at inFlight'
    cases inFlight'
    rfl
  | done => exact absurd isIn fits.2

theorem inFlight_iff (fits : s.Fits q b) (w : WorkerId) :
    (∃ f, q.inFlight.get? b = some f ∧ f.worker = w) ↔ s = .inFlight w := by
  constructor
  · rintro ⟨f, inFlight, rfl⟩
    exact fits.eq_inFlight inFlight
  · rintro rfl
    exact fits

/-- The stage of a bucket that a queue treats as before, and that does not wait again once it is
done. -/
theorem congr (fits : s.Fits q b) (inFlight : q'.inFlight.get? b = q.inFlight.get? b)
    (waiting : s = .done → b ∈ q'.waitingIds → b ∈ q.waitingIds) : s.Fits q' b := by
  have keys : b ∈ q'.inFlight.keys ↔ b ∈ q.inFlight.keys := by
    rw [Directory.mem_keys, Directory.mem_keys, inFlight]
  cases s with
  | atRest => exact fun hb => fits (keys.1 hb)
  | inFlight w =>
    obtain ⟨f, hf, worker⟩ := fits
    exact ⟨f, inFlight.trans hf, worker⟩
  | done => exact ⟨fun hb => fits.1 (waiting rfl hb), fun hb => fits.2 (keys.1 hb)⟩

/-- In a queue without buckets every bucket is done, unless it never was there. -/
theorem empty (b : BucketId) (h : s = .atRest ∨ s = .done) : s.Fits .empty b := by
  rcases h with rfl | rfl
  · exact List.not_mem_nil
  · exact ⟨List.not_mem_nil, List.not_mem_nil⟩

end Stage.Fits

end TestFleet
