import TestFleet.Proofs.Queue.BucketNames
import TestFleet.Proofs.Queue.Indexes

/-!
# Names of enqueued buckets

As long as all buckets that are enqueued to a job have ids that a split of the job makes, all ids
that its queue knows are of the job, those of buckets that run failed tests again included. So no
two live jobs ever make up one id, and no run clashes.

* `JobQueue.NamedFor`: the ids that a queue knows are of one job;
* `JobQueue.NamedFor.run`: they stay so along every run of a queue;
* `clashFree_of_admitted`: a run of the dispatcher with such ids has no clash.
-/

namespace TestFleet

/-- All buckets have ids that a split of the job makes. -/
def Derived (j : JobId) (buckets : List Bucket) : Prop := ∀ b ∈ buckets, IsDerived j b.id

namespace JobQueue

/-- All ids that a queue knows are of the job, and every bucket goes back to one that was
enqueued. -/
structure NamedFor (q : JobQueue) (j : JobId) : Prop where
  known : ∀ b ∈ q.known.keys, OfJob j b
  lineages : ∀ b l, q.lineages.get? b = some l → IsDerived j l.root
  roots : ∀ b ∈ q.known.keys, IsDerived j (q.lineageOf b).root

theorem namedFor_empty (j : JobId) : empty.NamedFor j := ⟨nofun, nofun, nofun⟩

namespace NamedFor

variable {q q' : JobQueue} {j : JobId}

theorem congr (h : q.NamedFor j) (known : q'.known = q.known)
    (lineages : q'.lineages = q.lineages) : q'.NamedFor j := by
  refine ⟨?_, ?_, ?_⟩
  · rw [known]
    exact h.known
  · rw [lineages]
    exact h.lineages
  · simp only [known, lineageOf, lineages]
    exact h.roots

/-- The id of a bucket that runs failed tests again is of the job. -/
theorem ofJob_next (h : q.NamedFor j) {b : Bucket} (known : b.id ∈ q.known.keys)
    (left : (q.lineageOf b.id).attempt < b.retries.toNat) :
    OfJob j (q.lineageOf b.id).next.bucketId := by
  have small : b.retries.toNat < UInt32.size := b.retries.toNat_lt
  have next : (q.lineageOf b.id).next.attempt = (q.lineageOf b.id).attempt + 1 := rfl
  exact .inr ⟨(q.lineageOf b.id).next, h.roots b.id known, by omega, rfl⟩

theorem appended (h : q.NamedFor j) {buckets : List Bucket} (derived : Derived j buckets)
    (unknown : ∀ b ∈ buckets.map (·.id), b ∉ q.known.keys) (nodup : (buckets.map (·.id)).Nodup)
    (now : Instant) : (q.appended buckets now).NamedFor j := by
  have keys := known_appended nodup unknown now
  have ids : ∀ b ∈ buckets.map (·.id), IsDerived j b := List.forall_mem_map.2 derived
  refine ⟨fun b hb => ?_, h.lineages, fun b hb => ?_⟩
  · rcases List.mem_append.1 (keys.mem_iff.1 hb) with new | old
    · exact .inl (ids b new)
    · exact h.known b old
  · rcases List.mem_append.1 (keys.mem_iff.1 hb) with new | old
    · have root : (q.appended buckets now).lineageOf b = (q.lineages.get? b).getD ⟨b, 0⟩ := rfl
      rw [root]
      cases lineage : q.lineages.get? b with
      | none => exact ids b new
      | some l => exact h.lineages b l lineage
    · exact h.roots b old

theorem retried (h : q.NamedFor j) {b : Bucket} (known : b.id ∈ q.known.keys)
    (left : (q.lineageOf b.id).attempt < b.retries.toNat) (id : BucketId)
    (failed : List TestEntry) (configuration : TestConfiguration) (now : Instant) :
    (q.retried id (q.lineageOf b.id).next failed configuration now).NamedFor j := by
  have root : IsDerived j (q.lineageOf b.id).next.root := h.roots b.id known
  refine ⟨fun c hc => ?_, fun c l hl => ?_, fun c hc => ?_⟩
  · rcases (Directory.mem_keys_insert ()).1 hc with rfl | old
    · exact h.ofJob_next known left
    · exact h.known c old
  · by_cases e : c = (q.lineageOf b.id).next.bucketId
    · rw [JobQueue.retried, e, Directory.get?_insert_self] at hl
      cases hl
      exact root
    · rw [JobQueue.retried, Directory.get?_insert_of_ne _ _ e] at hl
      exact h.lineages c l hl
  · by_cases e : c = (q.lineageOf b.id).next.bucketId
    · rw [lineageOf, JobQueue.retried, e, Directory.get?_insert_self]
      exact root
    · rw [lineageOf, JobQueue.retried, Directory.get?_insert_of_ne _ _ e]
      exact h.roots c (((Directory.mem_keys_insert ()).1 hc).resolve_left e)

/-- Reports leave names of the job only. -/
theorem reported (h : q.NamedFor j) {gone : List BucketId} (placed : q.Placed gone) {b : BucketId}
    {a : Acceptance} {now : Instant} (inFlight : q.inFlight.get? b = some a.taken)
    (reported : Reported q b a now q') : q'.NamedFor j := by
  have id : a.taken.bucket.id = b := placed.own b a.taken inFlight
  have known : a.taken.bucket.id ∈ q.known.keys := by
    rw [id]
    exact placed.known_of_inFlight (Directory.mem_keys.2 ⟨a.taken, inFlight⟩)
  cases reported with
  | final => exact h.congr rfl rfl
  | again failed _ left => exact h.retried known left b failed _ now

theorem perform (h : q.NamedFor j) {gone : List BucketId} (placed : q.Placed gone)
    {op : Operation} (admitted : op.Admitted (Derived j)) : (q.perform op).NamedFor j := by
  cases op with
  | enqueue buckets now =>
    rw [JobQueue.perform]
    cases ok : q.enqueue buckets now with
    | error => exact h
    | ok q' =>
      obtain ⟨unknown, nodup, rfl⟩ := enqueue_eq_ok_iff.1 ok
      exact h.appended admitted unknown nodup now
  | dequeue w now =>
    rw [JobQueue.perform, dequeue_eq placed.not_inFlight]
    split <;> exact h.congr rfl rfl
  | accept b w report now wall =>
    rw [JobQueue.perform]
    cases ok : q.accept b w report now wall with
    | error => exact h
    | ok accepted =>
      obtain ⟨inFlight, -, -, reported⟩ := of_accept_ok ok
      exact h.reported placed inFlight reported
  | reclaim => exact h.congr rfl rfl
  | cancel => exact h.congr rfl rfl

theorem run (h : q.NamedFor j) {gone : List BucketId} (placed : q.Placed gone)
    {ops : List Operation} (admitted : ∀ op ∈ ops, op.Admitted (Derived j)) :
    (q.run ops).NamedFor j := by
  induction ops generalizing q gone with
  | nil => exact h
  | cons op ops ih =>
    obtain ⟨first, rest⟩ := List.forall_mem_cons.1 admitted
    exact ih (h.perform placed first) (placed.perform op) rest

end NamedFor

end JobQueue

namespace Dispatcher

variable {d : Dispatcher}

theorem Composed.namedFor (h : d.Composed Derived) (j : JobId) : (d.queueOf j).NamedFor j := by
  obtain ⟨ops, admitted, run⟩ := h.queueOf j
  rw [run]
  exact (JobQueue.namedFor_empty j).run JobQueue.placed_empty admitted

/-- A bucket that runs failed tests again has an id of its own job, which no other job knows. -/
theorem Composed.not_clashes (h : d.Composed Derived) (op : Operation) : ¬d.Clashes op := by
  intro clash
  cases op with
  | accept b w report now wall =>
    obtain ⟨j, r, outcome, k, other, hk, live', known⟩ := clash
    generalize result : d.accept b w report now wall = answer at outcome
    cases result ▸ d.accept_cases b w report now wall with
    | rejected => cases outcome
    | @accepted i job a q owned live ok =>
      simp only [Except.ok.injEq, Routed.mk.injEq] at outcome
      obtain ⟨rfl, retry⟩ := outcome
      obtain ⟨inFlight, -, -, reported⟩ := JobQueue.of_accept_ok ok
      obtain ⟨gone, placed⟩ := h.placed live
      have named := h.namedFor i
      rw [queueOf_of_live live] at named
      have after := named.reported placed inFlight reported
      have ofOther := (h.namedFor k).known r (mem_known_queueOf.2 ⟨other, live', known⟩)
      cases reported with
      | final none =>
        rw [none] at retry
        cases retry
      | again failed _ _ _ made =>
        rw [made] at retry
        cases retry
        have ofOwn := after.known _ ((Directory.mem_keys_insert ()).2 (.inl rfl))
        exact hk (ofOther.eq_job ofOwn)
  | _ => exact clash

theorem clashFree_of_admitted {ops : List Operation} (h : d.Composed Derived)
    (admitted : ∀ op ∈ ops, op.Admitted Derived) : d.ClashFree ops := by
  induction ops generalizing d with
  | nil => trivial
  | cons op ops ih =>
    obtain ⟨first, rest⟩ := List.forall_mem_cons.1 admitted
    exact ⟨h.not_clashes op, ih (h.perform first) rest⟩

end Dispatcher

end TestFleet
