import TestFleet.Queue.JobQueue
import TestFleet.Queue.Split

/-!
# Names of buckets

The id that a split gives a bucket ends in a dash and sixteen digits, and the id of a bucket that
runs failed tests again in a dash and the number of the attempt. Neither kind of digits has a dash,
so an id can be read back from its last dash on, whatever the digest made of the tests and whatever
the names of the jobs are.

* `isDerived_derivedBy`: the id of a bucket by a digest, of which only the digits count;
* `IsDerived.eq_job`: the ids of two jobs' splits differ;
* `not_isDerived_bucketId`: no split makes the id of a bucket that runs failed tests again;
* `Lineage.bucketId_inj`: such an id tells the bucket that it began with, and the attempt;
* `OfJob.eq_job`: of all these ids, none is of two jobs;
* `neverClash_of_writesHex`: so it is with every digest that is written in hexadecimal digits.
-/

namespace TestFleet

/-- A text is cut at its last dash in one way only. -/
theorem eq_of_last_dash {xs ys xs' ys' : List Char} (h : xs ++ '-' :: ys = xs' ++ '-' :: ys')
    (hys : '-' ∉ ys) (hys' : '-' ∉ ys') : xs = xs' ∧ ys = ys' := by
  rcases List.append_eq_append_iff.1 h with ⟨cs, hx, hy⟩ | ⟨cs, hx, hy⟩
  · cases cs with
    | nil => exact ⟨by simp [hx], (List.cons.inj hy).2⟩
    | cons c cs =>
      rw [(List.cons.inj hy).2] at hys
      simp at hys
  · cases cs with
    | nil => exact ⟨by simp [hx], (List.cons.inj hy).2.symm⟩
    | cons c cs =>
      rw [(List.cons.inj hy).2] at hys'
      simp at hys'

/-! ## Digits -/

theorem isSome_hexValue?_of_mem_hexDigits {bytes : List UInt8} {c : Char}
    (h : c ∈ Text.hexDigits bytes) : (Text.hexValue? c).isSome := by
  have digit : ∀ n : Fin 16, (Text.hexValue? (Nat.digitChar n.val)).isSome := by decide
  obtain ⟨b, -, hc⟩ := List.mem_flatMap.1 h
  have := b.toNat_lt
  simp only [Text.hexByte, List.mem_cons, List.not_mem_nil, or_false] at hc
  rcases hc with rfl | rfl
  · exact digit ⟨b.toNat / 16, by omega⟩
  · exact digit ⟨b.toNat % 16, by omega⟩

theorem length_hexDigits (bytes : List UInt8) :
    (Text.hexDigits bytes).length = 2 * bytes.length := by
  induction bytes with
  | nil => rfl
  | cons b bs ih =>
    rw [Text.hexDigits, List.flatMap_cons, List.length_append, ← Text.hexDigits, ih]
    simp only [Text.hexByte, List.length_cons, List.length_nil]
    omega

theorem dash_not_mem_decimalDigits (n : Nat) : '-' ∉ Text.decimalDigits n := by
  intro h
  have digit := Nat.isDigit_of_mem_toDigits (b := 10) (by decide) (by decide) h
  revert digit
  decide

theorem decimalDigits_inj {m n : Nat} (h : Text.decimalDigits m = Text.decimalDigits n) :
    m = n := by
  rw [Text.decimalDigits, Text.decimalDigits] at h
  rw [← Nat.ofDigitChars_ten_toDigits (n := m), h, Nat.ofDigitChars_ten_toDigits]

/-! ## Ids that splits make -/

/-- All that is asked of a digest of bytes: it is written as 64 hexadecimal digits. -/
structure WritesHex (digest : List UInt8 → List Char) : Prop where
  length : ∀ bytes, (digest bytes).length = 64
  digits : ∀ bytes, ∀ c ∈ digest bytes, (Text.hexValue? c).isSome

theorem writesHex_digestDigits : WritesHex Digest.digestDigits where
  length bytes := by rw [Digest.digestDigits, length_hexDigits, Digest.length_digest]
  digits _ _ hc := isSome_hexValue?_of_mem_hexDigits hc

/-- The id of the bucket at a place among the buckets of a job, by some digest. -/
def BucketId.derivedBy (digest : List UInt8 → List Char) (job : JobId) (place : Nat)
    (entries : List TestEntry) : BucketId :=
  ⟨job.text ++ "-" ++ String.ofList ((digest (seed job place entries)).take 16)⟩

/-- The id consists of the job's, a dash and sixteen digits. -/
def IsDerived (j : JobId) (b : BucketId) : Prop :=
  ∃ digits : List Char, digits.length = 16 ∧ '-' ∉ digits ∧
    b.text.toList = j.text.toList ++ '-' :: digits

theorem isDerived_derivedBy {digest : List UInt8 → List Char} (hex : WritesHex digest) (j : JobId)
    (place : Nat) (entries : List TestEntry) :
    IsDerived j (.derivedBy digest j place entries) := by
  refine ⟨(digest (BucketId.seed j place entries)).take 16, ?_, fun h => ?_, ?_⟩
  · rw [List.length_take, hex.length]
    rfl
  · have digit := hex.digits _ _ (List.mem_of_mem_take h)
    revert digit
    decide
  · simp [BucketId.derivedBy, String.toList_append]

theorem isDerived_derived (j : JobId) (place : Nat) (entries : List TestEntry) :
    IsDerived j (.derived j place entries) :=
  isDerived_derivedBy writesHex_digestDigits j place entries

theorem IsDerived.eq_job {j k : JobId} {b : BucketId} (hj : IsDerived j b) (hk : IsDerived k b) :
    j = k := by
  obtain ⟨digits, -, noDash, text⟩ := hj
  obtain ⟨digits', -, noDash', text'⟩ := hk
  have same := (eq_of_last_dash (text.symm.trans text') noDash noDash').1
  exact Key.text_injective (String.toList_inj.1 same)

/-! ## Ids of buckets that run failed tests again -/

theorem Lineage.toList_bucketId (l : Lineage) : l.bucketId.text.toList =
    (l.root.text.toList ++ "-retry".toList) ++ '-' :: Text.decimalDigits l.attempt := by
  simp [bucketId, Text.decimal, String.toList_append]

theorem Lineage.bucketId_inj {l l' : Lineage} (h : l.bucketId = l'.bucketId) : l = l' := by
  have text := congrArg (·.text.toList) h
  simp only [toList_bucketId] at text
  obtain ⟨before, after⟩ := eq_of_last_dash text (dash_not_mem_decimalDigits _)
    (dash_not_mem_decimalDigits _)
  have attempt : l.attempt = l'.attempt := decimalDigits_inj after
  have root : l.root = l'.root :=
    Key.text_injective (String.toList_inj.1 (List.append_cancel_right before))
  cases l
  cases l'
  cases root
  cases attempt
  rfl

theorem not_isDerived_bucketId (j : JobId) {l : Lineage} (h : l.attempt < UInt32.size) :
    ¬IsDerived j l.bucketId := by
  rintro ⟨digits, length, noDash, text⟩
  rw [l.toList_bucketId] at text
  have same := (eq_of_last_dash text (dash_not_mem_decimalDigits _) noDash).2
  have short : (Text.decimalDigits l.attempt).length ≤ 10 :=
    (Nat.length_toDigits_le_iff (by decide) (by decide)).2 (Nat.lt_trans h (by decide))
  rw [same, length] at short
  omega

/-! ## Ids of one job -/

/-- The id is one that a split of the job makes, or that a bucket of such an id runs failed tests
again under. -/
def OfJob (j : JobId) (b : BucketId) : Prop :=
  IsDerived j b ∨ ∃ l : Lineage, IsDerived j l.root ∧ l.attempt < UInt32.size ∧ b = l.bucketId

theorem OfJob.eq_job {j k : JobId} {b : BucketId} (hj : OfJob j b) (hk : OfJob k b) : j = k := by
  rcases hj with derived | ⟨l, root, small, rfl⟩
  · rcases hk with derived' | ⟨l, -, small, rfl⟩
    · exact derived.eq_job derived'
    · exact absurd derived (not_isDerived_bucketId j small)
  · rcases hk with derived' | ⟨l', root', -, same⟩
    · exact absurd derived' (not_isDerived_bucketId k small)
    · rw [Lineage.bucketId_inj same] at root
      exact root.eq_job root'

/-! ## Splits by any digest -/

/-- The buckets of a list of tests, with ids by some digest. -/
def splitBy (digest : List UInt8 → List Char) (job : JobId) (strategy : SplitStrategy)
    (workers : Nat) (tests : List ConfiguredTest) : Except SplitError (List Bucket) :=
  if strategy = .fixedBucketSize 0 then .error .zeroBucketSize
  else .ok ((splitParts strategy workers tests).mapIdx fun i (part, configuration) =>
    ⟨.derivedBy digest job i part, part, configuration⟩)

/-- The id is that of a bucket which some split of the job makes. -/
def Splits (digest : List UInt8 → List Char) (j : JobId) (b : BucketId) : Prop :=
  ∃ strategy workers tests buckets, splitBy digest j strategy workers tests = .ok buckets ∧
    b ∈ buckets.map (·.id)

theorem Splits.isDerived {digest : List UInt8 → List Char} (hex : WritesHex digest) {j : JobId}
    {b : BucketId} (h : Splits digest j b) : IsDerived j b := by
  obtain ⟨strategy, workers, tests, buckets, ok, hb⟩ := h
  rw [splitBy] at ok
  split at ok
  · cases ok
  cases ok
  obtain ⟨bucket, made, rfl⟩ := List.mem_map.1 hb
  obtain ⟨i, less, rfl⟩ := List.mem_mapIdx.1 made
  exact isDerived_derivedBy hex j i _

/-- No id stands for two buckets of different jobs or attempts. An attempt has at most ten digits,
since attempts are counted in 32 bits. -/
structure NeverClash (digest : List UInt8 → List Char) : Prop where
  jobs : ∀ j k b, j ≠ k → Splits digest j b → ¬Splits digest k b
  retries : ∀ j k (l : Lineage), Splits digest j l.root → l.attempt < UInt32.size →
    ¬Splits digest k l.bucketId
  lineages : ∀ l l' : Lineage, l.bucketId = l'.bucketId → l = l'

theorem neverClash_of_writesHex {digest : List UInt8 → List Char} (hex : WritesHex digest) :
    NeverClash digest where
  jobs _ _ _ other hj hk := other ((hj.isDerived hex).eq_job (hk.isDerived hex))
  retries _ k _ _ small hk := not_isDerived_bucketId k small (hk.isDerived hex)
  lineages _ _ same := Lineage.bucketId_inj same

/-- Whatever the digest makes of the tests, ids never clash as long as it is written in hexadecimal
digits; the digest by which jobs are split is one that is. -/
theorem ids_neverClash :
    (∀ digest : List UInt8 → List Char, WritesHex digest → NeverClash digest) ∧
      WritesHex Digest.digestDigits ∧ split = splitBy Digest.digestDigits :=
  ⟨fun _ hex => neverClash_of_writesHex hex, writesHex_digestDigits, rfl⟩

end TestFleet
