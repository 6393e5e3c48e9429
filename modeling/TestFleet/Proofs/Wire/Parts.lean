import TestFleet.Proofs.Directory
import TestFleet.Proofs.Identity
import TestFleet.Proofs.Json.Reader
import TestFleet.Wire.Report
import TestFleet.Wire.Strategy

/-!
# What messages are made of, read back

Each part of a message is read as what it was written of: `X.reads` for a type `X`, from the same
for the types that it is made of.
-/

namespace TestFleet

open Json (Reads Gathers Reader)

variable {level : Nat}

/-! ## Identities -/

theorem JobId.reads (j : JobId) : Reads level JobId.reader j.toJson j := .map (.text j.text)

theorem BucketId.reads (b : BucketId) : Reads level BucketId.reader b.toJson b :=
  .map (.text b.text)

theorem WorkerId.reads (w : WorkerId) : Reads level WorkerId.reader w.toJson w :=
  .map (.text w.text)

theorem ClientId.reads (c : ClientId) : Reads level ClientId.reader c.toJson c :=
  .restrict (.text c.shown) c.ofText?_shown

theorem Party.reads (p : Party) : Reads level Party.reader p.toJson p := by
  cases p with
  | worker w => exact .carrying rfl (.map w.reads)
  | client c => exact .carrying rfl (.map c.reads)

/-! ## Resources -/

theorem ResourceKind.reads (k : ResourceKind) : Reads level ResourceKind.reader k.toJson k := by
  cases k <;> exact .named rfl

theorem ResourceLocation.reads (l : ResourceLocation) :
    Reads level ResourceLocation.reader l.toJson l := by
  cases l with
  | localPath path => exact .besideOne (by decide) rfl (.map (.text path.text))
  | remoteUrl url => exact .besideOne (by decide) rfl (.map (.text url))

theorem Resource.reads (r : Resource) : Reads level Resource.reader r.toJson r := by
  obtain ⟨kind, location⟩ := r
  refine .fields (.seq (.map (.required rfl ?_)) (.required rfl ?_)) rfl (by decide)
  · exact kind.reads
  · exact location.reads

theorem Resource.reads_option (r : Option Resource) :
    Reads level Resource.reader.optional (.ofOption Resource.toJson r) r :=
  .optional Resource.reads nofun r

/-! ## Tests -/

theorem TestName.reads (n : TestName) : Reads level TestName.reader n.toJson n := by
  obtain ⟨className, methodName⟩ := n
  refine .fields (.seq (.map (.required rfl ?_)) (.required rfl ?_)) rfl (by decide)
  · exact .text className
  · exact .text methodName

theorem TestEntry.reads (e : TestEntry) : Reads level TestEntry.reader e.toJson e := by
  obtain ⟨name, tags, caseId⟩ := e
  refine .fields (.seq (.seq (.map (.required rfl ?_)) (.defaulted rfl ?_)) (.defaulted rfl ?_))
    rfl (by decide)
  · exact name.reads
  · exact .list fun tag _ => .text tag
  · exact .optional .uint64 nofun caseId

/-! ## Configurations -/

theorem BuildArtifacts.reads (a : BuildArtifacts) :
    Reads level BuildArtifacts.reader a.toJson a := by
  obtain ⟨appBundle, runner, testBundle, additionalBundles⟩ := a
  refine .fields (.seq (.seq (.seq (.map (.optional rfl ?_)) (.optional rfl ?_)) (.required rfl ?_))
    (.defaulted rfl ?_)) rfl (by decide)
  · exact Resource.reads_option appBundle
  · exact Resource.reads_option runner
  · exact testBundle.reads
  · exact .list fun r _ => r.reads

theorem SimulatorSettings.reads (s : SimulatorSettings) :
    Reads level SimulatorSettings.reader s.toJson s := by
  obtain ⟨localization, watchdog, globalPreference⟩ := s
  refine .fields (.seq (.seq (.map (.optional rfl ?_)) (.optional rfl ?_)) (.optional rfl ?_))
    rfl (by decide)
  · exact Resource.reads_option localization
  · exact Resource.reads_option watchdog
  · exact Resource.reads_option globalPreference

theorem TestDestination.reads (d : TestDestination) :
    Reads level TestDestination.reader d.toJson d := by
  obtain ⟨deviceType, runtime⟩ := d
  refine .fields (.seq (.map (.required rfl ?_)) (.required rfl ?_)) rfl (by decide)
  · exact .text deviceType
  · exact .text runtime

theorem TestBehavior.reads (b : TestBehavior) : Reads level TestBehavior.reader b.toJson b := by
  obtain ⟨environment, retries⟩ := b
  refine .fields (.seq (.map (.defaulted rfl ?_)) (.defaulted rfl ?_)) rfl (by decide)
  · have read : Reads (level + 1) (Reader.pairs Reader.text)
        (.object (environment.entries.map fun e => (e.1, .string e.2))) environment.entries :=
      .pairs fun e _ => .text e.2
    have made : Reads (level + 1) ((Reader.pairs Reader.text).map Directory.ofList)
        (.object (environment.entries.map fun e => (e.1, .string e.2)))
        (Directory.ofList environment.entries) := read.map
    rwa [environment.ofList_entries] at made
  · exact .uint32 retries

theorem TestType.reads (t : TestType) : Reads level TestType.reader t.toJson t := by
  cases t <;> exact .named rfl

theorem Toolchain.reads (t : Toolchain) : Reads level Toolchain.reader t.toJson t :=
  .fields (.map (.required rfl (.text t.developerDir))) rfl (by decide)

theorem TestConfiguration.reads (c : TestConfiguration) :
    Reads level TestConfiguration.reader c.toJson c := by
  obtain ⟨artifacts, simulator, destination, behavior, type, toolchain⟩ := c
  refine .fields (.seq (.seq (.seq (.seq (.seq (.map (.required rfl ?_)) (.defaulted rfl ?_))
    (.required rfl ?_)) (.defaulted rfl ?_)) (.required rfl ?_)) (.required rfl ?_)) rfl (by decide)
  · exact artifacts.reads
  · exact simulator.reads
  · exact destination.reads
  · exact behavior.reads
  · exact type.reads
  · exact toolchain.reads

theorem ConfiguredTest.reads (t : ConfiguredTest) :
    Reads level ConfiguredTest.reader t.toJson t := by
  obtain ⟨entry, configuration⟩ := t
  refine .fields (.seq (.map (.required rfl ?_)) (.required rfl ?_)) rfl (by decide)
  · exact entry.reads
  · exact configuration.reads

theorem Bucket.reads (b : Bucket) : Reads level Bucket.reader b.toJson b := by
  obtain ⟨id, entries, configuration⟩ := b
  refine .fields (.seq (.seq (.map (.required rfl ?_)) (.required rfl ?_)) (.required rfl ?_))
    rfl (by decide)
  · exact id.reads
  · exact .list fun e _ => e.reads
  · exact configuration.reads

theorem SplitStrategy.reads (s : SplitStrategy) : Reads level SplitStrategy.reader s.toJson s := by
  cases s with
  | unsplit => exact .besideNothing rfl
  | individual => exact .besideNothing rfl
  | equallyDivided => exact .besideNothing rfl
  | fixedBucketSize size => exact .besideOne (by decide) rfl (.map (.uint32 size))

/-! ## Reports -/

theorem Duration.reads (d : Duration) : Reads level Duration.reader d.toJson d := by
  have whole : d.seconds * nanosPerSecond + d.subsecondNanos = d.nanoseconds :=
    Nat.div_add_mod' d.nanoseconds nanosPerSecond
  have parts : ofParts? d.seconds d.subsecondNanos = some d := by
    unfold ofParts?
    simp only [whole]
    exact dif_pos d.inRange
  refine .restrict (.fields (.seq (.map (.required rfl ?_)) (.required rfl ?_)) rfl (by decide))
    parts
  · exact .below (Nat.div_lt_of_lt_mul (Nat.mul_comm _ _ ▸ d.inRange)) (by decide)
  · exact .below (Nat.lt_trans (Nat.mod_lt _ (by decide)) (by decide)) (by decide)

theorem Timestamp.reads (t : Timestamp) : Reads level Timestamp.reader t.toJson t :=
  .map (.uint64 t.millis)

theorem TestException.reads (e : TestException) :
    Reads level TestException.reader e.toJson e := by
  obtain ⟨reason, file, line⟩ := e
  refine .fields (.seq (.seq (.map (.required rfl ?_)) (.required rfl ?_)) (.required rfl ?_))
    rfl (by decide)
  · exact .text reason
  · exact .text file
  · exact .uint32 line

theorem TestRun.reads (r : TestRun) : Reads level TestRun.reader r.toJson r := by
  obtain ⟨succeeded, exceptions, duration, start, host, simulator⟩ := r
  refine .fields (.seq (.seq (.seq (.seq (.seq (.map (.required rfl ?_)) (.required rfl ?_))
    (.required rfl ?_)) (.required rfl ?_)) (.required rfl ?_)) (.required rfl ?_)) rfl (by decide)
  · exact .bool succeeded
  · exact .list fun e _ => e.reads
  · exact duration.reads
  · exact start.reads
  · exact .text host
  · exact .text simulator

theorem EntryResult.reads (r : EntryResult) : Reads level EntryResult.reader r.toJson r := by
  obtain ⟨entry, runs⟩ := r
  refine .fields (.seq (.map (.required rfl ?_)) (.required rfl ?_)) rfl (by decide)
  · exact entry.reads
  · exact .list fun r _ => r.reads

theorem BucketReport.reads (r : BucketReport) : Reads level BucketReport.reader r.toJson r := by
  obtain ⟨bucket, destination, results⟩ := r
  refine .fields (.seq (.seq (.map (.required rfl ?_)) (.required rfl ?_)) (.required rfl ?_))
    rfl (by decide)
  · exact bucket.reads
  · exact destination.reads
  · exact .list fun r _ => r.reads

end TestFleet
