import Mathlib.Algebra.GroupWithZero.Nat
import Mathlib.Algebra.Order.BigOperators.Group.List
import Mathlib.Algebra.Order.Group.Nat
import TestFleet.Proofs.Queue.Attempts

/-!
# Failed tests run again within their budget

Whatever the buckets, workers, reports and times are, the attempts that a queue accepts part into
the descents of the buckets that it took in, and each descent keeps to the budget of its bucket.

* `attempted_of_accept_ok`: what an accepted report makes of the queue, and how the attempt ends;
* `Traced`: the lineages that the queue keeps are those of the descents so far;
* `Traced.perform`, `Traced.run`: every operation keeps them so;
* `budget_respected`: all attempts of a run are within the budgets.
-/

namespace TestFleet.JobQueue

variable {q q' : JobQueue} {b : BucketId} {w : WorkerId} {report : BucketReport} {now : Instant}
  {wall : Timestamp} {a : Acceptance}

/-! ## One attempt -/

/-- All outcomes of a bucket that was reported on are final, or the failed tests run again. -/
theorem SplitOff.final_or_again {c : Bucket} {l : Lineage} {merged results : List EntryResult}
    {retry : Option BucketId} (h : SplitOff q b c l merged now (results, retry, q')) :
    (retry = none ∧ q' = q.settled b ∧ results.Perm merged ∧
      ((∀ x ∈ merged, x.succeeded = true) ∨ c.retries.toNat ≤ l.attempt ∨
        l.next.bucketId ∈ q.known.keys)) ∨
    l.attempt < c.retries.toNat ∧ l.next.bucketId ∉ q.known.keys ∧
      results = merged.filter EntryResult.succeeded ∧ retry = some l.next.bucketId ∧
      q' = q.retried b l.next ((merged.filter fun r => !r.succeeded).map (·.entry))
        c.configuration now := by
  cases h with
  | spent noneLeft => exact .inl ⟨rfl, rfl, .refl _, .inr (.inl noneLeft)⟩
  | passed _ all => exact .inl ⟨rfl, rfl, .refl _, .inl all⟩
  | clash _ _ known => exact .inl ⟨rfl, rfl, List.filter_append_perm _ _, .inr (.inr known)⟩
  | again left _ fresh => exact .inr ⟨left, fresh, rfl, rfl, rfl⟩

/-- What an attempt at the bucket `b` in flight makes of the queue. -/
inductive Attempted (q : JobQueue) (b : BucketId) (x : Attempt) (now : Instant) :
    JobQueue → Prop where
  | final (none : x.retry = none) : Attempted q b x now (q.settled b)
  | again {r : Bucket} (some : x.retry = some r)
      (id : r.id = (q.lineageOf x.bucket.id).next.bucketId) (fresh : r.id ∉ q.known.keys) :
      Attempted q b x now ⟨⟨r, now⟩ :: q.waiting, q.inFlight.erase b, q.known.insert r.id (),
        q.lineages.insert r.id (q.lineageOf x.bucket.id).next⟩

/-- An accepted report is an attempt that ends as the lineage of its bucket says. -/
theorem attempted_of_accept_ok (ok : q.accept b w report now wall = .ok (a, q')) :
    ∃ x, q.attempt (.accept b w report now wall) = [x] ∧ x.bucket = a.taken.bucket ∧
      x.known = q.known.keys ∧ x.outcomes.map (·.entry) = x.bucket.entries ∧
      x.Ends (q.lineageOf x.bucket.id) ∧ Attempted q b x now q' := by
  obtain ⟨-, -, -, parts⟩ := accept_eq_ok_iff.1 ok
  have entries := entries_mergeResults wall report.results [] a.taken.bucket.entries
  have split := splitOff_settled q b a.taken.bucket
    (mergeResults wall report.results [] a.taken.bucket.entries) now
  rw [attempt, ok]
  rw [parts] at split
  refine ⟨_, rfl, rfl, rfl, entries, ?_⟩
  rcases split.final_or_again with ⟨noRetry, rfl, perm, why⟩ | ⟨left, fresh, results, retry, rfl⟩
  · have notFound : ((q.settled b).waiting.map (·.bucket)).find?
        (fun c => decide (some c.id = a.retry)) = none :=
      List.find?_eq_none.2 fun c _ => by simp [noRetry]
    exact ⟨.final notFound perm why, .final notFound⟩
  · have found : ((q.retried b (q.lineageOf a.taken.bucket.id).next
        (((mergeResults wall report.results [] a.taken.bucket.entries).filter
          fun r => !r.succeeded).map (·.entry)) a.taken.bucket.configuration now).waiting.map
            (·.bucket)).find? (fun c => decide (some c.id = a.retry)) =
        some ⟨(q.lineageOf a.taken.bucket.id).next.bucketId,
          ((mergeResults wall report.results [] a.taken.bucket.entries).filter
            fun r => !r.succeeded).map (·.entry), a.taken.bucket.configuration⟩ :=
      List.find?_cons_of_pos (decide_eq_true retry.symm)
    exact ⟨.again left results found, .again found rfl fresh⟩

/-! ## Lineages and descents -/

/-- A bucket waits or is in flight. -/
def Holds (q : JobQueue) (b : Bucket) : Prop :=
  (∃ c ∈ q.waiting, c.bucket = b) ∨ ∃ k d, q.inFlight.get? k = some d ∧ d.bucket = b

theorem not_holds_empty (b : Bucket) : ¬empty.Holds b := by
  rintro (⟨c, hc, -⟩ | ⟨k, d, hd, -⟩)
  · cases hc
  · cases hd

theorem holds_appended {buckets : List Bucket} {c : Bucket}
    (held : (q.appended buckets now).Holds c) : q.Holds c ∨ c ∈ buckets := by
  rcases held with ⟨d, hd, rfl⟩ | inFlight
  · rcases List.mem_append.1 hd with old | new
    · exact .inl (.inl ⟨d, old, rfl⟩)
    · obtain ⟨c, hc, rfl⟩ := List.mem_map.1 new
      exact .inr hc
  · exact .inl (.inr inFlight)

/-- A bucket that is handed out was held before. -/
theorem Placed.holds_dequeue {gone : List BucketId} (placed : Placed q gone) {c : Bucket}
    (held : (q.dequeue w now).2.Holds c) : q.Holds c := by
  rw [dequeue_eq placed.not_inFlight] at held
  split at held
  · exact held
  rename_i b rest waiting
  rcases held with ⟨d, hd, rfl⟩ | ⟨k, d, hd, rfl⟩
  · exact .inl ⟨d, waiting ▸ List.mem_cons_of_mem _ hd, rfl⟩
  · by_cases e : k = b.bucket.id
    · rw [handedOut, e, Directory.get?_insert_self] at hd
      cases hd
      exact .inl ⟨b, waiting ▸ List.mem_cons_self, rfl⟩
    · rw [handedOut, Directory.get?_insert_of_ne _ _ e] at hd
      exact .inr ⟨k, d, hd, rfl⟩

/-- A bucket that was reported on is held no more. -/
theorem Placed.holds_settled {gone : List BucketId} (placed : Placed q gone)
    (inFlight : b ∈ q.inFlight.keys) {c : Bucket} (held : (q.settled b).Holds c) :
    q.Holds c ∧ c.id ≠ b := by
  rcases held with ⟨c, hc, rfl⟩ | ⟨k, d, hd, rfl⟩
  · exact ⟨.inl ⟨c, hc, rfl⟩, fun same => placed.not_inFlight c hc (same ▸ inFlight)⟩
  · by_cases e : k = b
    · rw [settled, e, Directory.get?_erase_self] at hd
      cases hd
    · rw [settled, Directory.get?_erase_of_ne _ e] at hd
      exact ⟨.inr ⟨k, d, hd, rfl⟩, fun same => e ((placed.own k d hd).symm.trans same)⟩

/-- A bucket that is taken back was held before. -/
theorem Placed.holds_reclaim {gone : List BucketId} (placed : Placed q gone) {roster : Roster}
    {maximum : Duration} {c : Bucket} (held : (q.reclaim roster maximum now).2.1.Holds c) :
    q.Holds c := by
  rcases held with ⟨d, hd, rfl⟩ | ⟨k, d, hd, rfl⟩
  · rcases List.mem_append.1 hd with hd | hd
    · obtain ⟨f, stuck, rfl⟩ := List.mem_map.1 hd
      exact .inr ⟨f.id, f, (placed.mem_stuck.1 stuck).1, rfl⟩
    · exact .inl ⟨d, hd, rfl⟩
  · exact .inr ⟨k, d, (placed.get?_inFlight_iff roster maximum now k d).2 (.inr hd), rfl⟩

theorem not_holds_cancel (b : Bucket) : ¬q.cancel.2.Holds b := by
  rintro (⟨c, hc, -⟩ | ⟨k, d, hd, -⟩)
  · cases hc
  · cases hd

/-- The lineages that the queue keeps are those of the descents of the buckets `rs` through the
attempts `as`, and every bucket that the queue holds comes next in one of them. -/
structure Traced (q : JobQueue) (rs : List Bucket) (as : List Attempt) : Prop where
  known : ∀ r ∈ rs, r.id ∈ q.known.keys
  distinct : (rs.map (·.id)).Nodup
  attempted : ∀ a ∈ as, a.bucket.id ∈ q.known.keys
  lineages : ∀ b l, q.lineages.get? b = some l → b ∈ q.known.keys
  tried : ∀ r ∈ rs, Tried r (descent r as)
  next : ∀ r ∈ rs, ∀ b, (descent r as).next = some b → b.id ∈ q.known.keys ∧
    q.lineageOf b.id = ⟨r.id, (descent r as).attempts.length⟩
  held : ∀ b, q.Holds b → ∃ r ∈ rs, (descent r as).next = some b
  parts : (rs.flatMap fun r => (descent r as).attempts).Perm as

theorem lineageOf_congr (same : q'.lineages.get? b = q.lineages.get? b) :
    q'.lineageOf b = q.lineageOf b := by
  rw [lineageOf, same, lineageOf]

/-- Going on with one of several lists. -/
theorem flatMap_perm_concat {α β : Type} {rs : List α} {r : α} {f g : α → List β} {x : β}
    (distinct : rs.Nodup) (mem : r ∈ rs) (this : g r = f r ++ [x])
    (others : ∀ s ∈ rs, s ≠ r → g s = f s) : (rs.flatMap g).Perm (rs.flatMap f ++ [x]) := by
  induction rs with
  | nil => cases mem
  | cons s rs ih =>
    obtain ⟨notIn, rest⟩ := List.nodup_cons.1 distinct
    rw [List.flatMap_cons, List.flatMap_cons]
    by_cases e : s = r
    · subst e
      have same : rs.flatMap g = rs.flatMap f := by
        rw [List.flatMap_def, List.flatMap_def]
        refine congrArg _ (List.map_congr_left fun t ht => ?_)
        exact others t (List.mem_cons_of_mem _ ht) fun e => notIn (e ▸ ht)
      rw [this, same, List.append_assoc, List.append_assoc]
      exact List.perm_append_comm.append_left _
    · have inRest := (List.mem_cons.1 mem).resolve_left (Ne.symm e)
      rw [others s List.mem_cons_self e, List.append_assoc]
      exact (ih rest inRest fun t ht => others t (List.mem_cons_of_mem _ ht)).append_left _

namespace Traced

variable {rs : List Bucket} {as : List Attempt}

/-- A queue that knows the same ids and lineages, and holds nothing more. -/
theorem of_holds (h : Traced q rs as) (known : q'.known = q.known)
    (lineages : q'.lineages = q.lineages) (held : ∀ b, q'.Holds b → q.Holds b) :
    Traced q' rs as where
  known := known ▸ h.known
  distinct := h.distinct
  attempted := known ▸ h.attempted
  lineages := by
    rw [known, lineages]
    exact h.lineages
  tried := h.tried
  next r hr b next := by
    rw [known, lineageOf_congr (q := q) (by rw [lineages])]
    exact h.next r hr b next
  held b hb := h.held b (held b hb)
  parts := h.parts

theorem appended (h : Traced q rs as) {buckets : List Bucket}
    (fresh : ∀ b ∈ buckets.map (·.id), b ∉ q.known.keys) (nodup : (buckets.map (·.id)).Nodup)
    (now : Instant) : Traced (q.appended buckets now) (rs ++ buckets) as := by
  have mem (b : BucketId) : b ∈ (q.appended buckets now).known.keys ↔
      b ∈ buckets.map (·.id) ∨ b ∈ q.known.keys := by
    rw [(known_appended nodup fresh now).mem_iff, List.mem_append]
  -- No attempt so far was at one of the new buckets.
  have new (r : Bucket) (hr : r ∈ buckets) : descent r as = ⟨[], some r⟩ := by
    refine descent_of_forall_ne fun a ha same => ?_
    exact fresh r.id (List.mem_map_of_mem hr) (same ▸ h.attempted a ha)
  refine ⟨?known, ?distinct, ?attempted, ?lineages, ?tried, ?next, ?held, ?parts⟩
  case known =>
    intro r hr
    rw [mem]
    exact (List.mem_append.1 hr).symm.imp List.mem_map_of_mem (h.known r)
  case distinct =>
    rw [List.map_append]
    refine List.nodup_append.2 ⟨h.distinct, nodup, fun b hb c hc same => ?_⟩
    obtain ⟨r, hr, rfl⟩ := List.mem_map.1 hb
    exact fresh c hc (same ▸ h.known r hr)
  case attempted => exact fun a ha => (mem _).2 (.inr (h.attempted a ha))
  case lineages => exact fun b l lineage => (mem _).2 (.inr (h.lineages b l lineage))
  case tried =>
    intro r hr
    rcases List.mem_append.1 hr with hr | hr
    · exact h.tried r hr
    · rw [new r hr]
      exact .start
  case next =>
    intro r hr b next
    rcases List.mem_append.1 hr with hr | hr
    · obtain ⟨known, lineage⟩ := h.next r hr b next
      exact ⟨(mem _).2 (.inr known), lineage⟩
    · rw [new r hr] at next ⊢
      cases next
      have none : q.lineages.get? r.id = none := by
        cases lineage : q.lineages.get? r.id with
        | none => rfl
        | some l => exact absurd (h.lineages _ _ lineage) (fresh _ (List.mem_map_of_mem hr))
      refine ⟨(mem _).2 (.inl (List.mem_map_of_mem hr)), ?_⟩
      rw [lineageOf, show (q.appended buckets now).lineages = q.lineages from rfl, none]
      rfl
  case held =>
    intro b held
    rcases holds_appended held with old | isNew
    · obtain ⟨r, hr, next⟩ := h.held b old
      exact ⟨r, List.mem_append_left _ hr, next⟩
    · exact ⟨b, List.mem_append_right _ isNew, by rw [new b isNew]⟩
  case parts =>
    have none : (buckets.flatMap fun r => (descent r as).attempts) = [] :=
      List.flatMap_eq_nil_iff.2 fun r hr => by rw [new r hr]
    rw [List.flatMap_append, none, List.append_nil]
    exact h.parts

/-- The bucket `r` whose descent goes on, and what becomes of the descents. -/
theorem exists_descent (h : Traced q rs as) {x : Attempt} (held : q.Holds x.bucket) :
    ∃ r ∈ rs, (descent r as).next = some x.bucket ∧
      q.lineageOf x.bucket.id = ⟨r.id, (descent r as).attempts.length⟩ ∧
      descent r (as ++ [x]) = ⟨(descent r as).attempts ++ [x], x.retry⟩ ∧
      ∀ s ∈ rs, s ≠ r → descent s (as ++ [x]) = descent s as := by
  obtain ⟨r, hr, next⟩ := h.held x.bucket held
  have lineage := (h.next r hr x.bucket next).2
  refine ⟨r, hr, next, lineage, ?_, fun s hs other => ?_⟩
  · rw [descent_concat, Descent.step_of_eq next]
  · rw [descent_concat]
    refine Descent.step_of_ne fun b next' same => other ?_
    -- One id has one lineage, so the two descents would be of one bucket.
    have lineage' := (h.next s hs b next').2
    rw [same, lineage] at lineage'
    exact List.inj_on_of_nodup_map h.distinct hs hr (congrArg Lineage.root lineage').symm

/-- One more attempt at a bucket that the queue holds. What the queue holds afterwards it held
before, or it is what the attempt put back. -/
theorem concat (h : Traced q rs as) {x : Attempt} (isHeld : q.Holds x.bucket)
    (outcomes : x.outcomes.map (·.entry) = x.bucket.entries)
    (ends : x.Ends (q.lineageOf x.bucket.id))
    (known : ∀ c ∈ q.known.keys, c ∈ q'.known.keys)
    (lineages : ∀ c l, q'.lineages.get? c = some l → c ∈ q'.known.keys)
    (kept : ∀ c ∈ q.known.keys, q'.lineageOf c = q.lineageOf c)
    (retry : ∀ c, x.retry = some c → c.id ∈ q'.known.keys ∧
      q'.lineageOf c.id = (q.lineageOf x.bucket.id).next)
    (held : ∀ c, q'.Holds c → x.retry = some c ∨ q.Holds c ∧ c.id ≠ x.bucket.id) :
    Traced q' rs (as ++ [x]) := by
  obtain ⟨r, hr, next, lineage, this, others⟩ := h.exists_descent isHeld
  refine ⟨fun r hr => known _ (h.known r hr), h.distinct, ?attempted, lineages, ?tried, ?next,
    ?held, ?parts⟩
  case attempted =>
    intro a ha
    rcases List.mem_append.1 ha with ha | ha
    · exact known _ (h.attempted a ha)
    · rw [List.mem_singleton.1 ha]
      exact known _ (h.next r hr x.bucket next).1
  case tried =>
    intro s hs
    by_cases e : s = r
    · subst e
      have before := h.tried s hs
      rw [show descent s as = ⟨(descent s as).attempts, some x.bucket⟩ from next ▸ rfl] at before
      rw [this]
      exact before.step outcomes (lineage ▸ ends)
    · rw [others s hs e]
      exact h.tried s hs
  case next =>
    intro s hs c nextOf
    by_cases e : s = r
    · subst e
      rw [this] at nextOf ⊢
      obtain ⟨isKnown, lineage'⟩ := retry c nextOf
      refine ⟨isKnown, ?_⟩
      rw [lineage', lineage, List.length_append]
      rfl
    · rw [others s hs e] at nextOf ⊢
      obtain ⟨isKnown, lineage'⟩ := h.next s hs c nextOf
      exact ⟨known _ isKnown, (kept _ isKnown).trans lineage'⟩
  case held =>
    intro c hc
    rcases held c hc with put | ⟨before, other⟩
    · exact ⟨r, hr, by rw [this, put]⟩
    · obtain ⟨s, hs, nextOf⟩ := h.held c before
      have e : s ≠ r := by
        rintro rfl
        rw [next] at nextOf
        cases nextOf
        exact other rfl
      exact ⟨s, hs, by rw [others s hs e, nextOf]⟩
  case parts =>
    refine (flatMap_perm_concat (f := fun s => (descent s as).attempts) (.of_map _ h.distinct) hr
      (congrArg Descent.attempts this) fun s hs other => ?_).trans (h.parts.append_right _)
    exact congrArg Descent.attempts (others s hs other)

end Traced

namespace Traced

variable {rs : List Bucket} {as : List Attempt}

theorem accept (h : Traced q rs as) {gone : List BucketId} (placed : Placed q gone)
    (ok : q.accept b w report now wall = .ok (a, q')) :
    Traced q' rs (as ++ q.attempt (.accept b w report now wall)) := by
  obtain ⟨inFlight, -⟩ := of_accept_ok ok
  obtain ⟨x, attempt, bucket, -, outcomes, ends, attempted⟩ := attempted_of_accept_ok ok
  have own : x.bucket.id = b := bucket ▸ placed.own b a.taken inFlight
  have isHeld : q.Holds x.bucket := .inr ⟨b, a.taken, inFlight, bucket.symm⟩
  have settled (c : Bucket) (held : (q.settled b).Holds c) : q.Holds c ∧ c.id ≠ x.bucket.id :=
    own ▸ placed.holds_settled (Directory.mem_keys.2 ⟨_, inFlight⟩) held
  rw [attempt]
  cases attempted with
  | final noRetry =>
    refine h.concat isHeld outcomes ends (fun _ => id) h.lineages (fun _ _ => rfl)
      (fun c retry => ?_) fun c held => .inr (settled c held)
    rw [noRetry] at retry
    cases retry
  | @again r someRetry id fresh =>
    refine h.concat isHeld outcomes ends (fun c hc => (Directory.mem_keys_insert _).2 (.inr hc))
      (fun c l lineage => ?_) (fun c hc => lineageOf_congr ?_) (fun c retry => ?_) fun c held => ?_
    · rw [Directory.mem_keys_insert]
      by_cases e : c = r.id
      · exact .inl e
      · exact .inr (h.lineages c l (by rwa [Directory.get?_insert_of_ne _ _ e] at lineage))
    · exact Directory.get?_insert_of_ne _ _ fun e => fresh (e ▸ hc)
    · rw [someRetry] at retry
      cases retry
      refine ⟨(Directory.mem_keys_insert _).2 (.inl rfl), ?_⟩
      rw [lineageOf, Directory.get?_insert_self]
      rfl
    · rcases held with ⟨d, hd, rfl⟩ | flies
      · rcases List.mem_cons.1 hd with rfl | hd
        · exact .inl someRetry
        · exact .inr (settled d.bucket (.inl ⟨d, hd, rfl⟩))
      · exact .inr (settled c (.inr flies))

theorem perform (h : Traced q rs as) {gone : List BucketId} (placed : Placed q gone)
    (op : Operation) : Traced (q.perform op) (rs ++ q.takesIn op) (as ++ q.attempt op) := by
  cases op with
  | enqueue buckets now =>
    simp only [JobQueue.perform, takesIn, attempt, List.append_nil]
    cases ok : q.enqueue buckets now with
    | error e =>
      rw [if_neg (fun isOk => by cases isOk), List.append_nil]
      exact h
    | ok q' =>
      obtain ⟨fresh, nodup, rfl⟩ := enqueue_eq_ok_iff.1 ok
      exact h.appended fresh nodup now
  | dequeue w now =>
    simp only [takesIn, attempt, List.append_nil]
    refine h.of_holds ?_ ?_ fun c held => placed.holds_dequeue held
    · rw [JobQueue.perform, dequeue_eq placed.not_inFlight]
      split <;> rfl
    · rw [JobQueue.perform, dequeue_eq placed.not_inFlight]
      split <;> rfl
  | accept b w report now wall =>
    simp only [takesIn, List.append_nil]
    cases ok : q.accept b w report now wall with
    | error e =>
      rw [JobQueue.perform, attempt, ok, List.append_nil]
      exact h
    | ok accepted =>
      rw [JobQueue.perform, ok]
      exact h.accept placed ok
  | reclaim roster maximum now =>
    simp only [takesIn, attempt, List.append_nil]
    exact h.of_holds rfl rfl fun c held => placed.holds_reclaim held
  | cancel =>
    simp only [takesIn, attempt, List.append_nil]
    exact h.of_holds rfl rfl fun c held => absurd held (not_holds_cancel c)

theorem run (h : Traced q rs as) {gone : List BucketId} (placed : Placed q gone)
    (ops : List Operation) : Traced (q.run ops) (rs ++ q.tookIn ops) (as ++ q.attempts ops) := by
  induction ops generalizing q rs as gone with
  | nil =>
    rw [tookIn, attempts, List.append_nil, List.append_nil]
    exact h
  | cons op ops ih =>
    rw [tookIn, attempts, ← List.append_assoc, ← List.append_assoc]
    exact ih (h.perform placed op) (placed.perform op)

end Traced

theorem traced_empty : Traced empty [] [] where
  known _ hr := absurd hr List.not_mem_nil
  distinct := List.nodup_nil
  attempted _ ha := absurd ha List.not_mem_nil
  lineages b l lineage := by cases lineage
  tried _ hr := absurd hr List.not_mem_nil
  next _ hr := absurd hr List.not_mem_nil
  held b hb := absurd hb (not_holds_empty b)
  parts := .refl _

theorem traced_run (ops : List Operation) :
    Traced (empty.run ops) (empty.tookIn ops) (empty.attempts ops) :=
  traced_empty.run placed_empty ops

/-- The attempts are at the buckets whose reports were accepted. -/
theorem ids_attempt {gone : List BucketId} (placed : Placed q gone) (op : Operation) :
    (q.attempt op).map (·.bucket.id) = q.accepts op := by
  cases op with
  | accept b w report now wall =>
    rw [accepts]
    cases ok : q.accept b w report now wall with
    | error e =>
      rw [attempt, ok]
      rfl
    | ok accepted =>
      obtain ⟨inFlight, -⟩ := of_accept_ok ok
      obtain ⟨x, attempt, bucket, -⟩ := attempted_of_accept_ok ok
      rw [attempt, List.map_singleton, bucket]
      exact congrArg (fun c => [c]) (placed.own b _ inFlight)
  | enqueue => rfl
  | dequeue => rfl
  | reclaim => rfl
  | cancel => rfl

theorem ids_attempts {gone : List BucketId} (placed : Placed q gone) (ops : List Operation) :
    (q.attempts ops).map (·.bucket.id) = q.accepted ops := by
  induction ops generalizing q gone with
  | nil => rfl
  | cons op ops ih =>
    rw [attempts, accepted, List.map_append, ids_attempt placed, ih (placed.perform op)]

/-- After any run of a new queue: of a bucket that was taken in with different tests, the attempts
are within its budget; every attempt is in the descent of one of these buckets; and so no more
reports were accepted than all budgets together allow. -/
theorem budget_respected (ops : List Operation) :
    (∀ r ∈ empty.tookIn ops, r.entries.Nodup →
      WithinBudget r (descent r (empty.attempts ops)).attempts) ∧
    ((empty.tookIn ops).flatMap fun r => (descent r (empty.attempts ops)).attempts).Perm
      (empty.attempts ops) ∧
    (empty.attempts ops).map (·.bucket.id) = empty.accepted ops ∧
    (empty.accepted ops).length ≤
      ((empty.tookIn ops).map fun r => r.retries.toNat + 1).sum := by
  have h := traced_run ops
  have ids := ids_attempts placed_empty ops
  refine ⟨fun r hr distinct => (h.tried r hr).withinBudget distinct, h.parts, ids, ?_⟩
  rw [← ids, List.length_map, ← h.parts.length_eq, List.length_flatMap]
  exact List.sum_le_sum fun r hr => (h.tried r hr).length_le

end TestFleet.JobQueue
