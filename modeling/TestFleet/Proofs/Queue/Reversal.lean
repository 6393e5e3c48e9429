import TestFleet.Proofs.Queue.Sweeps

/-!
# Taking back undoes handing out

If nothing is in flight, workers ask for buckets one after the other, and all that they got is then
found stuck, the queue is what it was before: the buckets are gathered in the order of the times they
were handed out at, which is the order they waited in, and go back to the front of the line. If only
some of them are found stuck, these go back in that order, in front of those that were never handed
out.

* `Dealing`, `Placed.dealing`: what becomes of a queue that is asked for buckets;
* `Placed.stuck_asked`: the stuck buckets, in the order in which they were handed out;
* `Roster.Becomes`: the rosters that note these buckets only for the workers that got them;
* `reclaim_undoes_dequeues`: all that taking back does after a queue was asked for buckets.
-/

namespace TestFleet

namespace JobQueue

variable {q : JobQueue} {gone : List BucketId} {calls : List (WorkerId × Instant)} {r : Roster}
  {maximum : Duration} {now : Instant}

/-! ## Asking for buckets -/

/-- The queue after workers asked it for buckets, one after the other. -/
def asked (q : JobQueue) (calls : List (WorkerId × Instant)) : JobQueue :=
  q.run (calls.map fun c => .dequeue c.1 c.2)

/-- The buckets that workers get that ask for them, one after the other. -/
def dealt (q : JobQueue) : List (WorkerId × Instant) → List InFlightBucket
  | [] => []
  | (w, now) :: calls => (q.dequeue w now).1.toList ++ (q.dequeue w now).2.dealt calls

/-- The workers get the buckets at the front of the line, each the one behind that of the worker
before it, as long as buckets wait. These are in flight then, and nothing else changes. -/
structure Dealing (q : JobQueue) (calls : List (WorkerId × Instant)) : Prop where
  buckets : (q.dealt calls).map (·.waiting) = q.waiting.take calls.length
  handouts : (q.dealt calls).map (fun f => (f.worker, f.dequeuedAt)) =
    calls.take q.waiting.length
  waiting : (q.asked calls).waiting = q.waiting.drop calls.length
  inFlight : (q.asked calls).inFlight.values.Perm (q.inFlight.values ++ q.dealt calls)
  known : (q.asked calls).known = q.known
  lineages : (q.asked calls).lineages = q.lineages

theorem Placed.dealing (h : Placed q gone) (calls : List (WorkerId × Instant)) :
    q.Dealing calls := by
  induction calls generalizing q with
  | nil =>
    have none : (q.dealt []).map (fun f => (f.worker, f.dequeuedAt)) = [] := rfl
    have all : q.inFlight.values ++ q.dealt [] = q.inFlight.values := List.append_nil _
    exact ⟨rfl, by rw [none, List.take_nil], rfl, .of_eq all.symm, rfl, rfl⟩
  | cons c calls ih =>
    obtain ⟨w, now⟩ := c
    have rest := ih (h.dequeue w now)
    have asked : q.asked ((w, now) :: calls) = (q.dequeue w now).2.asked calls := rfl
    have dealt : q.dealt ((w, now) :: calls) =
      (q.dequeue w now).1.toList ++ (q.dequeue w now).2.dealt calls := rfl
    rw [dequeue_eq h.not_inFlight] at rest asked dealt
    cases waiting : q.waiting with
    | nil =>
      -- The call leaves the queue as it is, and so do all that follow.
      simp only [waiting, Option.toList_none, List.nil_append] at rest asked dealt
      have none : q.dealt calls = [] := by simpa [waiting] using rest.buckets
      refine ⟨?_, ?_, ?_, ?_, ?_, ?_⟩
      · rw [dealt, none, waiting, List.take_nil, List.map_nil]
      · rw [dealt, none, waiting, List.length_nil, List.take_zero, List.map_nil]
      · rw [asked, rest.waiting, waiting, List.drop_nil, List.drop_nil]
      · rw [asked, dealt]
        exact rest.inFlight
      · rw [asked, rest.known]
      · rw [asked, rest.lineages]
    | cons b bs =>
      simp only [waiting, Option.toList_some, List.singleton_append] at rest asked dealt
      have notIn := h.not_inFlight b (waiting ▸ List.mem_cons_self)
      refine ⟨?_, ?_, ?_, ?_, ?_, ?_⟩
      · rw [dealt, List.map_cons, rest.buckets, waiting, List.length_cons, List.take_succ_cons]
        rfl
      · rw [dealt, List.map_cons, rest.handouts, waiting, List.length_cons, List.take_succ_cons]
        rfl
      · rw [asked, rest.waiting, waiting, List.length_cons, List.drop_succ_cons]
        rfl
      · rw [asked, dealt]
        have moved := Directory.values_insert_perm (⟨b, w, now⟩ : InFlightBucket) notIn
        exact rest.inFlight.trans ((moved.append_right _).trans List.perm_middle.symm)
      · rw [asked, rest.known]
        rfl
      · rw [asked, rest.lineages]
        rfl

theorem Placed.asked (h : Placed q gone) (calls : List (WorkerId × Instant)) :
    Placed (q.asked calls) gone := by
  induction calls generalizing q with
  | nil => exact h
  | cons c calls ih => exact ih (h.dequeue c.1 c.2)

/-- Each call is made later than those before it. -/
def Rising (calls : List (WorkerId × Instant)) : Prop :=
  calls.Pairwise fun c c' => c.2.nanoseconds < c'.2.nanoseconds

instance : Decidable (Rising calls) := inferInstanceAs (Decidable (calls.Pairwise _))

theorem Dealing.pairwise_dealt (dealing : q.Dealing calls) (rising : Rising calls) :
    (q.dealt calls).Pairwise InFlightBucket.Earlier := by
  have times : ((q.dealt calls).map fun f => (f.worker, f.dequeuedAt)).Pairwise
      fun c c' => c.2.nanoseconds < c'.2.nanoseconds := by
    rw [dealing.handouts]
    exact rising.sublist (List.take_sublist _ _)
  exact (List.pairwise_map.1 times).imp .inl

theorem Placed.inFlight_asked (h : Placed q gone) (idle : q.dequeuedCount = 0)
    (calls : List (WorkerId × Instant)) :
    (q.asked calls).inFlight.values.Perm (q.dealt calls) := by
  have inFlight := (h.dealing calls).inFlight
  have none : q.inFlight.values = [] := List.map_eq_nil_iff.2 (List.length_eq_zero_iff.1 idle)
  rwa [none, List.nil_append] at inFlight

/-- The stuck buckets are listed in the order in which they were handed out. -/
theorem Placed.stuck_asked (h : Placed q gone) (idle : q.dequeuedCount = 0)
    (rising : Rising calls) : (q.asked calls).stuck r maximum now =
      (q.dealt calls).filter (isStuck r maximum now) := by
  have same : ((q.asked calls).stuck r maximum now).Perm
      ((q.dealt calls).filter (isStuck r maximum now)) := by
    refine (perm_sortBy _ _).trans ?_
    rw [Directory.values_filter]
    exact (h.inFlight_asked idle calls).filter _
  -- In whatever order they are gathered, only one order of them is that of their times.
  exact same.eq_of_pairwise (fun a b _ _ before after => absurd after before.asymm)
    ((h.asked calls).pairwise_stuck r maximum now)
    (((h.dealing calls).pairwise_dealt rising).filter _)

theorem Placed.get?_asked_iff (h : Placed q gone) (idle : q.dequeuedCount = 0) {b : BucketId}
    {f : InFlightBucket} : (q.asked calls).inFlight.get? b = some f ↔
      f ∈ q.dealt calls ∧ f.id = b := by
  have own := (h.asked calls).own
  rw [← (h.inFlight_asked idle calls).mem_iff, Directory.mem_values]
  constructor
  · exact fun hf => ⟨⟨b, hf⟩, own b f hf⟩
  · rintro ⟨⟨c, hc⟩, rfl⟩
    rwa [own c f hc]

end JobQueue

namespace Roster

variable {fs : List InFlightBucket} {r r' : Roster} {w w' : WorkerId} {b b' : BucketId}
  {now : Instant}

/-- The rosters that a roster becomes when anything is noted of any worker and any bucket, but the
buckets `fs` are noted as handed out only for the workers they are in flight with. -/
inductive Becomes (fs : List InFlightBucket) (r : Roster) : Roster → Prop
  | refl : Becomes fs r r
  | perform {r' : Roster} (op : Operation) : Becomes fs r r' → Becomes fs r (r'.perform op)
  | didDequeue {r' : Roster} (w : WorkerId) (b : BucketId) (now : Instant)
      (holder : ∀ f ∈ fs, f.id = b → f.worker = w) :
      Becomes fs r r' → Becomes fs r (r'.didDequeue w b now)
  | didReceive {r' : Roster} (w : WorkerId) (b : BucketId) (now : Instant) :
      Becomes fs r r' → Becomes fs r (r'.didReceive w b now)
  | release {r' : Roster} (w : WorkerId) (b : BucketId) :
      Becomes fs r r' → Becomes fs r (r'.release w b)

/-- A bucket that was noted for nobody before is noted for nobody but the worker that got it. -/
theorem Becomes.eq_worker (h : r.Becomes fs r') (unnoted : ∀ f ∈ fs, ∀ w, f.id ∉ r.held w)
    {f : InFlightBucket} (hf : f ∈ fs) (held : f.id ∈ r'.held w) : w = f.worker := by
  induction h with
  | refl => exact absurd held (unnoted f hf w)
  | perform op _ ih =>
    rw [held_perform] at held
    exact ih held
  | didDequeue w' b now holder _ ih =>
    rcases of_mem_held_didDequeue held with ⟨rfl, same⟩ | held
    · exact (holder f hf same).symm
    · exact ih held
  | didReceive w' b now _ ih => exact ih (mem_held_didReceive.1 held).1
  | release w' b _ ih => exact ih (mem_held_release.1 held).1

end Roster

namespace JobQueue

variable {q : JobQueue} {gone : List BucketId} {calls : List (WorkerId × Instant)} {r : Roster}
  {maximum : Duration} {now : Instant}

/-! ## Taking back -/

/-- What is taken back of a queue that was asked for buckets, and what becomes of the queue and of
the roster. -/
structure PutBack (q : JobQueue) (calls : List (WorkerId × Instant)) (r : Roster)
    (maximum : Duration) (now : Instant) : Prop where
  /-- The workers got the buckets at the front of the line. -/
  buckets : (q.dealt calls).map (·.waiting) = q.waiting.take calls.length
  handouts : (q.dealt calls).map (fun f => (f.worker, f.dequeuedAt)) =
    calls.take q.waiting.length
  taken : ((q.asked calls).reclaim r maximum now).1 =
    (q.dealt calls).filter (isStuck r maximum now)
  waiting : ((q.asked calls).reclaim r maximum now).2.1.waiting =
    ((q.dealt calls).filter (isStuck r maximum now)).map (·.waiting) ++
      q.waiting.drop calls.length
  inFlight : ∀ b f, ((q.asked calls).reclaim r maximum now).2.1.inFlight.get? b = some f ↔
    f ∈ q.dealt calls ∧ isStuck r maximum now f = false ∧ f.id = b
  /-- What is taken back is in the order it waited in. -/
  order : (((q.asked calls).reclaim r maximum now).1.map (·.waiting)).Sublist q.waiting
  known : ((q.asked calls).reclaim r maximum now).2.1.known = q.known
  lineages : ((q.asked calls).reclaim r maximum now).2.1.lineages = q.lineages
  /-- If all is taken back, the queue is what it was. -/
  all : (∀ f ∈ q.dealt calls, isStuck r maximum now f = true) →
    ((q.asked calls).reclaim r maximum now).2.1 = q
  held : ∀ w b, b ∈ ((q.asked calls).reclaim r maximum now).2.2.held w ↔
    b ∈ r.held w ∧ ∀ f ∈ q.dealt calls, isStuck r maximum now f = true → ¬(w = f.worker ∧ b = f.id)
  /-- What was noted only for the workers that got it is noted for nobody once it is taken back. -/
  unnoted : ∀ r₀ : Roster, (∀ f ∈ q.dealt calls, ∀ w, f.id ∉ r₀.held w) →
    r₀.Becomes (q.dealt calls) r → ∀ f ∈ q.dealt calls, isStuck r maximum now f = true →
      ∀ w, f.id ∉ ((q.asked calls).reclaim r maximum now).2.2.held w

theorem Placed.takenBack_asked (h : Placed q gone) (idle : q.dequeuedCount = 0)
    (rising : Rising calls) (all : ∀ f ∈ q.dealt calls, isStuck r maximum now f = true) :
    (q.asked calls).takenBack r maximum now = q := by
  have dealing := h.dealing calls
  have waiting : ((q.asked calls).stuck r maximum now).map (·.waiting) ++
      (q.asked calls).waiting = q.waiting := by
    rw [h.stuck_asked idle rising, List.filter_eq_self.2 all, dealing.buckets, dealing.waiting,
      List.take_append_drop]
  have inFlight : ((q.asked calls).inFlight.filter fun _ f => !isStuck r maximum now f) =
      q.inFlight := by
    refine Directory.ext_get? fun b => ?_
    have none : q.inFlight.get? b = none := by
      have empty : q.inFlight.keys = [] := List.map_eq_nil_iff.2 (List.length_eq_zero_iff.1 idle)
      exact Directory.get?_eq_none_iff.2 (empty ▸ List.not_mem_nil)
    rw [none, Directory.get?_filter, Option.filter_eq_none_iff]
    intro f hf
    simp [all f ((h.get?_asked_iff idle).1 hf).1]
  rw [JobQueue.takenBack, waiting, inFlight, dealing.known, dealing.lineages]

theorem Placed.mem_held_reclaim (h : Placed q gone) (idle : q.dequeuedCount = 0)
    (rising : Rising calls) (w : WorkerId) (b : BucketId) :
    b ∈ ((q.asked calls).reclaim r maximum now).2.2.held w ↔
      b ∈ r.held w ∧ ∀ f ∈ q.dealt calls, isStuck r maximum now f = true →
        ¬(w = f.worker ∧ b = f.id) := by
  rw [JobQueue.reclaim]
  dsimp only
  rw [Roster.mem_held_foldl_release, h.stuck_asked idle rising]
  simp only [List.mem_filter, and_imp]

theorem Placed.putBack (h : Placed q gone) (idle : q.dequeuedCount = 0) (rising : Rising calls)
    (r : Roster) (maximum : Duration) (now : Instant) : q.PutBack calls r maximum now where
  buckets := (h.dealing calls).buckets
  handouts := (h.dealing calls).handouts
  taken := h.stuck_asked idle rising
  waiting := by
    rw [← (h.dealing calls).waiting, ← h.stuck_asked idle rising]
    rfl
  inFlight b f := by
    have kept : ((q.asked calls).reclaim r maximum now).2.1.inFlight =
        (q.asked calls).inFlight.filter fun _ f => !isStuck r maximum now f := rfl
    rw [kept, Directory.get?_filter, Option.filter_eq_some_iff, h.get?_asked_iff idle,
      Bool.not_eq_true', and_assoc]
    exact and_congr_right fun _ => and_comm
  order := by
    have some : ((q.dealt calls).filter (isStuck r maximum now)).Sublist (q.dealt calls) :=
      List.filter_sublist
    have sublist := some.map (·.waiting)
    rw [(h.dealing calls).buckets] at sublist
    rw [JobQueue.reclaim, h.stuck_asked idle rising]
    exact sublist.trans (List.take_sublist _ _)
  known := (h.dealing calls).known
  lineages := (h.dealing calls).lineages
  all := h.takenBack_asked idle rising
  held := h.mem_held_reclaim idle rising
  unnoted r₀ unnoted becomes f hf stuck w held := by
    obtain ⟨noted, others⟩ := (h.mem_held_reclaim idle rising w f.id).1 held
    exact others f hf stuck ⟨becomes.eq_worker unnoted hf noted, rfl⟩

/-- After any run of a new queue that left nothing in flight, and whatever workers then ask for
buckets, taking back undoes that for the buckets that are stuck. -/
theorem reclaim_undoes_dequeues (ops : List Operation)
    (idle : (empty.run ops).dequeuedCount = 0) (calls : List (WorkerId × Instant))
    (rising : Rising calls) (r : Roster) (maximum : Duration) (now : Instant) :
    (empty.run ops).PutBack calls r maximum now :=
  (placed_run ops).putBack idle rising r maximum now

/-- Five buckets that wait. -/
def fiveWaiting : List Operation :=
  [.enqueue [single "b3", single "b1", single "b2", single "b5", single "b4"] ⟨0⟩]
where
  single (name : String) : Bucket := ⟨⟨name⟩, [⟨⟨"C", name⟩, [], none⟩], Dispatcher.onceMore⟩

/-- Four workers that ask for a bucket. -/
def fourCalls : List (WorkerId × Instant) :=
  [(⟨"slow"⟩, ⟨1⟩), (⟨"silent"⟩, ⟨10⟩), (⟨"blocked"⟩, ⟨11⟩), (⟨"unknown"⟩, ⟨12⟩)]

/-- The buckets that three of them got are noted; then one of these is marked silent, and another
is blocked. -/
def threeNoted : Roster :=
  ((((((((Roster.new (.ofSeconds 30)).perform (.register ⟨"slow"⟩ ⟨0⟩)).perform
    (.register ⟨"silent"⟩ ⟨0⟩)).perform (.register ⟨"blocked"⟩ ⟨0⟩)).didDequeue
    ⟨"slow"⟩ ⟨"b3"⟩ ⟨1⟩).didDequeue ⟨"silent"⟩ ⟨"b1"⟩ ⟨10⟩).didDequeue
    ⟨"blocked"⟩ ⟨"b2"⟩ ⟨11⟩).perform (.markSilent ⟨"silent"⟩)).perform (.block ⟨"blocked"⟩ ⟨12⟩)

theorem becomes_threeNoted : (Roster.new (.ofSeconds 30)).Becomes
    ((empty.run fiveWaiting).dealt fourCalls) threeNoted :=
  .perform _ <| .perform _ <| .didDequeue _ _ _ (by decide) <| .didDequeue _ _ _ (by decide) <|
    .didDequeue _ _ _ (by decide) <| .perform _ <| .perform _ <| .perform _ .refl

/-- A bucket that is in flight for too long, one of a silent worker, one of a blocked worker and one
of a worker that is not on the roster all go back. -/
theorem reclaim_undoes_dequeues_mixture :
    ⟨"b1"⟩ ∈ threeNoted.held ⟨"silent"⟩ ∧
    (((empty.run fiveWaiting).asked fourCalls).reclaim threeNoted (.ofNanos 10) ⟨12⟩).2.1 =
      empty.run fiveWaiting ∧
    ∀ f ∈ (empty.run fiveWaiting).dealt fourCalls, ∀ w, f.id ∉
      (((empty.run fiveWaiting).asked fourCalls).reclaim threeNoted (.ofNanos 10) ⟨12⟩).2.2.held
        w := by
  have putBack := reclaim_undoes_dequeues fiveWaiting rfl fourCalls (by decide) threeNoted
    (.ofNanos 10) ⟨12⟩
  have stuck : ∀ f ∈ (empty.run fiveWaiting).dealt fourCalls,
      isStuck threeNoted (.ofNanos 10) ⟨12⟩ f = true := by decide
  have unnoted (f : InFlightBucket) (w : WorkerId) :
      f.id ∉ (Roster.new (.ofSeconds 30)).held w := List.not_mem_nil
  exact ⟨by decide, putBack.all stuck, fun f hf =>
    putBack.unnoted _ (fun f _ => unnoted f) becomes_threeNoted f hf (stuck f hf)⟩

end JobQueue

end TestFleet
