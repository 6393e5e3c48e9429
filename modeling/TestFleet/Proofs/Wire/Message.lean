import TestFleet.Proofs.Wire.Parts
import TestFleet.Wire.Message

/-!
# Messages, read back

Every request and every reply is read as what it was written of: `X.reads` for a type `X`, and for
the bytes of the messages that cross the wire `wire_round_trips`.
-/

namespace TestFleet

open Json (Reads Gathers Reader Draft)

variable {level : Nat}

/-! ## Requests -/

theorem JobPriority.reads (p : JobPriority) : Reads level JobPriority.reader p.toJson p :=
  .map (.uint32 p.rank)

theorem Submission.reads (s : Submission) : Reads level Submission.reader s.toJson s := by
  obtain ⟨job, priority, strategy, tests⟩ := s
  refine .fields (.seq (.seq (.seq (.map (.required rfl ?_)) (.required rfl ?_)) (.required rfl ?_))
    (.required rfl ?_)) rfl (by decide)
  · exact job.reads
  · exact priority.reads
  · exact strategy.reads
  · exact .list fun t _ => t.reads

theorem Message.reads (m : Message) : Reads level Message.reader m.toJson m := by
  cases m with
  | healthCheck => exact .bare rfl
  | registerWorker w version =>
    refine .carrying rfl
      (.fields (.seq (.map (.required rfl ?_)) (.required rfl ?_)) rfl (by decide))
    · exact w.reads
    · exact .text version
  | dequeueBucket w =>
    exact .carrying rfl (.fields (.map (.required rfl w.reads)) rfl (by decide))
  | bucketResult w report =>
    refine .carrying rfl
      (.fields (.seq (.map (.required rfl ?_)) (.required rfl ?_)) rfl (by decide))
    · exact w.reads
    · exact report.reads
  | heartbeat w =>
    exact .carrying rfl (.fields (.map (.required rfl w.reads)) rfl (by decide))
  | scheduleTests s => exact .carrying rfl (.map s.reads)
  | jobState j => exact .carrying rfl (.map j.reads)
  | deleteJob j => exact .carrying rfl (.map j.reads)
  | cancelJob j => exact .carrying rfl (.map j.reads)
  | workerAliveness => exact .bare rfl
  | activeJobs => exact .bare rfl

theorem Request.reads (r : Request) : Reads level Request.reader r.toJson r := by
  obtain ⟨sender, message⟩ := r
  refine .fields (.seq (.map (.required rfl ?_)) (.required rfl ?_)) rfl (by decide)
  · exact sender.reads
  · exact message.reads

/-! ## Replies -/

theorem keepItems_strings {f : α → String} (as : List α) :
    Draft.keepItems level (Draft.ofItems (as.map fun a => .string (f a))) = none := by
  induction as with
  | nil => rfl
  | cons a as ih => exact ih

/-- The state of a worker is read in two steps, for which it must not be too deep inside. -/
theorem Liveness.reads (shallow : level + 1 < Draft.depthLimit) (l : Liveness) :
    Reads level Liveness.reader l.toJson l := by
  cases l with
  | notRegistered => exact .amongNothing rfl
  | registering => exact .amongNothing rfl
  | alive => exact .amongNothing rfl
  | blocked => exact .amongNothing rfl
  | silent buckets =>
    refine .amongRecord (by decide) rfl ?_ (.fields (.map (.required rfl ?_)) rfl (by decide))
    · rw [Json.ofList, Draft.ofJson, Draft.keepFault, if_pos shallow]
      exact congrArg (·.or none) (keepItems_strings (f := BucketId.text) buckets)
    · exact .list fun b _ => b.reads

theorem RegisterReply.reads (r : RegisterReply) :
    Reads level RegisterReply.reader r.toJson r := by
  cases r with
  | registered => exact .bare rfl
  | blocked reason =>
    exact .carrying rfl (.fields (.map (.required rfl (.text reason))) rfl (by decide))

theorem DequeueReply.reads (r : DequeueReply) : Reads level DequeueReply.reader r.toJson r := by
  cases r with
  | bucket b => exact .carrying rfl (.map b.reads)
  | checkAgainLater after =>
    exact .carrying rfl (.fields (.map (.required rfl after.reads)) rfl (by decide))
  | queueIsEmpty after =>
    exact .carrying rfl (.fields (.map (.required rfl after.reads)) rfl (by decide))
  | workerBlocked => exact .bare rfl
  | workerNotRegistered => exact .bare rfl

theorem Rejection.reads (r : Rejection) : Reads level Rejection.reader r.toJson r := by
  cases r with
  | bucketNotFound => exact .bare rfl
  | workerDoesNotOwnBucket owner =>
    exact .carrying rfl (.fields (.map (.required rfl owner.reads)) rfl (by decide))
  | resultsDoNotMatchRequest unexpected =>
    refine .carrying rfl (.fields (.map (.required rfl ?_)) rfl (by decide))
    exact .list fun e _ => e.reads

theorem ReportReply.reads (r : ReportReply) : Reads level ReportReply.reader r.toJson r := by
  cases r with
  | accepted => exact .bare rfl
  | rejected reason => exact .carrying rfl (.map reason.reads)

theorem HeartbeatReply.reads (r : HeartbeatReply) :
    Reads level HeartbeatReply.reader r.toJson r := by
  cases r <;> exact .named rfl

theorem ScheduleReply.reads (r : ScheduleReply) :
    Reads level ScheduleReply.reader r.toJson r := by
  cases r with
  | scheduled n =>
    exact .carrying rfl (.fields (.map (.required rfl (.uint64 n))) rfl (by decide))
  | rejected reason =>
    exact .carrying rfl (.fields (.map (.required rfl (.text reason))) rfl (by decide))

theorem JobState.reads (s : JobState) : Reads level JobState.reader s.toJson s := by
  obtain ⟨job, enqueued, dequeued, results⟩ := s
  refine .fields (.seq (.seq (.seq (.map (.required rfl ?_)) (.required rfl ?_)) (.required rfl ?_))
    (.required rfl ?_)) rfl (by decide)
  · exact job.reads
  · exact .uint64 enqueued
  · exact .uint64 dequeued
  · exact .list fun r _ => r.reads

theorem JobStateReply.reads (r : JobStateReply) :
    Reads level JobStateReply.reader r.toJson r := by
  cases r with
  | state s => exact .carrying rfl (.map s.reads)
  | notFound => exact .bare rfl

theorem DeleteReply.reads (r : DeleteReply) : Reads level DeleteReply.reader r.toJson r := by
  cases r with
  | deleted => exact .bare rfl
  | notFound => exact .bare rfl
  | stillInFlight enqueued dequeued =>
    refine .carrying rfl
      (.fields (.seq (.map (.required rfl ?_)) (.required rfl ?_)) rfl (by decide))
    · exact .uint64 enqueued
    · exact .uint64 dequeued

theorem CancelReply.reads (r : CancelReply) : Reads level CancelReply.reader r.toJson r := by
  cases r with
  | cancelled n =>
    exact .carrying rfl (.fields (.map (.required rfl (.uint64 n))) rfl (by decide))
  | notFound => exact .bare rfl

theorem AlivenessReply.reads (shallow : level + 3 < Draft.depthLimit) (r : AlivenessReply) :
    Reads level AlivenessReply.reader r.toJson r := by
  obtain ⟨aliveness⟩ := r
  have texts : Reads (level + 1) (Reader.pairs Liveness.reader)
      (.object ((aliveness.entries.map fun e => (e.1.text, e.2)).map fun e => (e.1, e.2.toJson)))
      (aliveness.entries.map fun e => (e.1.text, e.2)) :=
    .pairs fun e _ => e.2.reads shallow
  rw [List.map_map] at texts
  have same : Directory.ofList ((aliveness.entries.map fun e => (e.1.text, e.2)).map
      fun e => ((⟨e.1⟩ : WorkerId), e.2)) = aliveness := by
    rw [List.map_map]
    exact (congrArg _ (List.map_id _)).trans aliveness.ofList_entries
  have read : Reads level AlivenessReply.reader (AlivenessReply.toJson ⟨aliveness⟩) ⟨_⟩ :=
    .fields (.map (.required rfl texts)) rfl (by decide)
  rwa [same] at read

theorem ActiveJobsReply.reads (r : ActiveJobsReply) :
    Reads level ActiveJobsReply.reader r.toJson r :=
  .fields (.map (.required rfl (.list fun j _ => j.reads))) rfl (by decide)

theorem Health.reads (h : Health) : Reads level Health.reader h.toJson h := by
  obtain ⟨isHealthy, version⟩ := h
  refine .fields (.seq (.map (.required rfl ?_)) (.required rfl ?_)) rfl (by decide)
  · exact .bool isHealthy
  · exact .text version

/-! ## Bytes -/

/-- Whatever is written of a type is read from its bytes as what it was written of. -/
def RoundTrips {α : Type} (toJson : α → Json) (r : Reader α) : Prop :=
  ∀ a, r.ofBytes (toJson a).bytes = .ok a

theorem RoundTrips.of_reads {α : Type} {toJson : α → Json} {r : Reader α}
    (reads : ∀ a, Reads 0 r (toJson a) a) : RoundTrips toJson r :=
  fun a => (reads a).ofBytes

/-- Requests and the replies to each message survive their way over the wire. -/
theorem wire_round_trips :
    RoundTrips Request.toJson Request.reader ∧
      RoundTrips RegisterReply.toJson RegisterReply.reader ∧
      RoundTrips DequeueReply.toJson DequeueReply.reader ∧
      RoundTrips ReportReply.toJson ReportReply.reader ∧
      RoundTrips HeartbeatReply.toJson HeartbeatReply.reader ∧
      RoundTrips ScheduleReply.toJson ScheduleReply.reader ∧
      RoundTrips JobStateReply.toJson JobStateReply.reader ∧
      RoundTrips DeleteReply.toJson DeleteReply.reader ∧
      RoundTrips CancelReply.toJson CancelReply.reader ∧
      RoundTrips AlivenessReply.toJson AlivenessReply.reader ∧
      RoundTrips ActiveJobsReply.toJson ActiveJobsReply.reader ∧
      RoundTrips Health.toJson Health.reader :=
  ⟨.of_reads Request.reads, .of_reads RegisterReply.reads, .of_reads DequeueReply.reads,
    .of_reads ReportReply.reads, .of_reads HeartbeatReply.reads, .of_reads ScheduleReply.reads,
    .of_reads JobStateReply.reads, .of_reads DeleteReply.reads, .of_reads CancelReply.reads,
    .of_reads (AlivenessReply.reads (by decide)), .of_reads ActiveJobsReply.reads,
    .of_reads Health.reads⟩

end TestFleet
