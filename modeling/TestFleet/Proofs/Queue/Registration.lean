import Mathlib.Data.List.Induction
import TestFleet.Proofs.Queue.Clearance
import TestFleet.Proofs.Queue.Handouts
import TestFleet.Proofs.Queue.Notices

/-!
# Registrations under way

A worker whose registration has begun is to get no work before the registration ends. That holds as
long as nobody marks the worker silent: one that is silent counts as registered from then on, and is
handed work when it next asks, although its registration never ended.

* `mem_usable_iff`, `served_iff`: the workers that are listed as usable, and those that a dispatcher
  may hand a bucket, are the ones that are cleared;
* `effect_note`: what a notice makes of a worker's clearance;
* `underWay_noteAll`: the clearance of a worker whose registration has neither ended nor been
  overridden;
* `heldBack_iff`: when such a worker gets no work;
* `not_heldBack`: one that does get work.
-/

namespace TestFleet.Roster

variable {r : Roster} {v w : WorkerId} {n : Notice} {ns : List Notice} {now : Instant}

/-! ## Who may be handed work -/

/-- Some dispatcher with this roster hands the worker a bucket. -/
def Served (r : Roster) (w : WorkerId) : Prop :=
  ∃ (d : Dispatcher) (now clock : Instant) (taken : InFlightBucket),
    d.roster = r ∧ (d.dequeue w now clock).1 = .ok (.bucket taken)

/-- The worker is to get no work. -/
structure HeldBack (r : Roster) (w : WorkerId) : Prop where
  unusable : w ∉ r.usable
  unserved : ¬r.Served w

theorem mem_usable_iff : w ∈ r.usable ↔ r.clearance w = some .alive := by
  rw [usable, clearance, Directory.mem_keys]
  simp only [Directory.get?_filter, Option.filter_eq_some_iff, Option.map_eq_some_iff,
    WorkerRecord.clearance]
  refine exists_congr fun s => and_congr_right fun _ => ?_
  cases s.standing <;> simp

/-- A dispatcher with a single bucket, and room for one more with the worker `w`. -/
def offering (r : Roster) (w : WorkerId) : Dispatcher :=
  ((Dispatcher.new { bucketsPerWorker := (r.held w).length + 1 } r.threshold).perform
    (.enqueue ⟨"job"⟩ [⟨⟨"bucket"⟩, [], Dispatcher.onceMore⟩] ⟨0⟩ ⟨0⟩)).withRoster fun _ => r

theorem mayWork_of_cleared {d : Dispatcher} (cleared : d.roster.clearance w = some .alive) :
    d.MayWork w := by
  rcases clearance_eq_alive_iff.1 cleared with alive | ⟨bs, silent⟩
  · simp [Dispatcher.MayWork, alive]
  · simp [Dispatcher.MayWork, silent]

theorem served_iff : r.Served w ↔ r.clearance w = some .alive := by
  constructor
  · rintro ⟨d, now, clock, taken, rfl, handed⟩
    exact Dispatcher.clearance_of_dequeue_ok handed
  · intro cleared
    let add : Dispatcher.Operation :=
      .enqueue ⟨"job"⟩ [⟨⟨"bucket"⟩, [], Dispatcher.onceMore⟩] ⟨0⟩ ⟨0⟩
    let config : DispatcherConfig := { bucketsPerWorker := (r.held w).length + 1 }
    have orderly : (offering r w).Orderly :=
      Dispatcher.composed_run config r.threshold (List.forall_mem_singleton.2
        (Dispatcher.admitted_of_forall add))
    have aged : (offering r w).Aged :=
      have h := (Dispatcher.aged_new config r.threshold).perform
        (Dispatcher.composed_new _ config r.threshold) add
      ⟨h.below, h.distinct⟩
    have room : (offering r w).HasRoom w := ⟨mayWork_of_cleared cleared, Nat.lt_succ_self _⟩
    have offers : (offering r w).candidates w ≠ [] := List.cons_ne_nil _ _
    rcases Dispatcher.dequeue_of_room orderly aged rfl room ⟨0⟩ ⟨0⟩ with
      ⟨none, -⟩ | ⟨none, -⟩ | ⟨j, job, first, rest, -, -, handed⟩
    · exact absurd none offers
    · exact absurd none offers
    · exact ⟨_, _, _, _, rfl, handed⟩

/-- A worker gets no work exactly if it is not cleared. -/
theorem heldBack_iff_clearance : r.HeldBack w ↔ r.clearance w ≠ some .alive :=
  ⟨fun h => mem_usable_iff.not.1 h.unusable,
    fun h => ⟨mem_usable_iff.not.2 h, served_iff.not.2 h⟩⟩

/-! ## Notices and clearances -/

/-- The notice says that the registration of `w` has begun. -/
def Notice.Begins (w : WorkerId) (n : Notice) : Prop := ∃ now, n = .told (.beginRegistration w now)

/-- The notice says that `w` has registered or that it is blocked no more. -/
def Notice.Clears (w : WorkerId) (n : Notice) : Prop :=
  ∃ now, n = .told (.register w now) ∨ n = .told (.unblock w now)

/-- The notice says that `w` is blocked. -/
def Notice.Blocks (w : WorkerId) (n : Notice) : Prop := ∃ now, n = .told (.block w now)

/-- What a notice makes of the clearance of the worker `w`. -/
inductive Effect (r : Roster) (w : WorkerId) (n : Notice) : Option Standing → Prop where
  | cleared (clears : n.Clears w) (c : Option Standing) : Effect r w n c
  | begun (begins : n.Begins w) :
      Effect r w n (if r.clearance w = some .blocked then some .blocked else some .registering)
  | blocked (blocks : n.Blocks w) : Effect r w n (some .blocked)
  | silenced (silences : n = .told (.markSilent w)) :
      Effect r w n ((r.clearance w).map fun c => if c = .registering then .alive else c)
  | kept (begins : ¬n.Begins w) (blocks : ¬n.Blocks w) (silences : n ≠ .told (.markSilent w)) :
      Effect r w n (r.clearance w)

theorem clearance_beginRegistration (r : Roster) (w : WorkerId) (now : Instant) :
    (r.beginRegistration w now).clearance w =
      if r.clearance w = some .blocked then some .blocked else some .registering := by
  rw [beginRegistration, clearance_enter_self, clearance]
  cases r.workers.get? w with
  | none => rfl
  | some s => cases standing : s.standing <;> simp [WorkerRecord.clearance, standing]

theorem clearance_markSilent (r : Roster) (w : WorkerId) :
    (r.markSilent w).clearance w =
      (r.clearance w).map fun c => if c = .registering then .alive else c := by
  rw [clearance, markSilent, modify, Directory.get?_modify_self, clearance, Option.map_map,
    Option.map_map]
  congr 1
  funext s
  cases standing : s.standing <;> simp [WorkerRecord.clearance, standing]

theorem clearance_release (r : Roster) (v : WorkerId) (b : BucketId) (w : WorkerId) :
    (r.release v b).clearance w = r.clearance w :=
  clearance_modify (f := fun s => { s with buckets := s.buckets.erase b }) (fun _ => rfl) r v w

/-- A notice about another worker. -/
theorem effect_of_ne (about : n.worker? = some v) (other : w ≠ v) :
    Effect r w n ((r.note n).clearance w) := by
  rw [clearance, get?_note_of_ne about other, ← clearance]
  refine .kept ?_ ?_ ?_
  · rintro ⟨_, rfl⟩
    exact other (Option.some.inj about)
  · rintro ⟨_, rfl⟩
    exact other (Option.some.inj about)
  · rintro rfl
    exact other (Option.some.inj about)

/-- A notice that is news of no registration, block or silence. -/
theorem effect_kept (begins : ¬n.Begins w) (blocks : ¬n.Blocks w)
    (silences : n ≠ .told (.markSilent w)) (same : (r.note n).clearance w = r.clearance w) :
    Effect r w n ((r.note n).clearance w) :=
  same ▸ .kept begins blocks silences

theorem effect_note (r : Roster) (w : WorkerId) (n : Notice) :
    Effect r w n ((r.note n).clearance w) := by
  cases about : n.worker? with
  | none =>
    cases n with
    | told op =>
      cases op with
      | markQuietSilent now =>
        exact effect_kept nofun nofun nofun (clearance_markQuietSilent r now w)
      | _ => cases about
    | _ => cases about
  | some v =>
    by_cases e : w = v
    · subst e
      cases n with
      | told op =>
        cases op with
        | beginRegistration _ now =>
          cases about
          exact clearance_beginRegistration r w now ▸ .begun ⟨now, rfl⟩
        | register _ now => cases about; exact .cleared ⟨now, .inl rfl⟩ _
        | heartbeat _ now =>
          exact effect_kept nofun nofun nofun (clearance_setAlive ..)
        | block _ now => cases about; exact clearance_block r w now ▸ .blocked ⟨now, rfl⟩
        | unblock _ now => cases about; exact .cleared ⟨now, .inr rfl⟩ _
        | markSilent _ => cases about; exact clearance_markSilent r w ▸ .silenced rfl
        | markQuietSilent => cases about
      | handedOut => exact effect_kept nofun nofun nofun (clearance_didDequeue ..)
      | reported => exact effect_kept nofun nofun nofun (clearance_didReceive ..)
      | released => exact effect_kept nofun nofun nofun (clearance_release ..)
    · exact effect_of_ne about e

/-! ## Registrations that have not ended -/

/-- The worker was marked silent, and its registration has not begun anew since. -/
def FellSilent (w : WorkerId) (ns : List Notice) : Prop :=
  ∃ earlier later, ns = earlier ++ .told (.markSilent w) :: later ∧ ∀ n ∈ later, ¬n.Begins w

theorem not_fellSilent_nil (w : WorkerId) : ¬FellSilent w [] := by
  rintro ⟨earlier, later, none, -⟩
  exact absurd none (by simp)

theorem fellSilent_concat : FellSilent w (ns ++ [n]) ↔
    n = .told (.markSilent w) ∨ FellSilent w ns ∧ ¬n.Begins w := by
  constructor
  · rintro ⟨earlier, later, split, calm⟩
    rcases later.eq_nil_or_concat with rfl | ⟨later, last, rfl⟩
    · exact .inl (List.singleton_inj.1 (List.append_inj' split rfl).2)
    · rw [List.concat_eq_append] at split calm
      rw [← List.cons_append, ← List.append_assoc] at split
      obtain ⟨before, same⟩ := List.append_inj' split rfl
      obtain rfl := List.singleton_inj.1 same
      exact .inr ⟨⟨earlier, later, before, fun m hm => calm m (List.mem_append_left _ hm)⟩,
        calm n (List.mem_append_right _ List.mem_cons_self)⟩
  · rintro (rfl | ⟨⟨earlier, later, rfl, calm⟩, notBegun⟩)
    · exact ⟨ns, [], rfl, nofun⟩
    · refine ⟨earlier, later ++ [n], by simp, fun m hm => ?_⟩
      rcases List.mem_append.1 hm with old | new
      · exact calm m old
      · exact List.mem_singleton.1 new ▸ notBegun

/-- A registration that begins anew makes up for a silence. -/
theorem not_fellSilent_concat (begins : n.Begins w) : ¬FellSilent w (ns ++ [n]) := fun silent => by
  rcases fellSilent_concat.1 silent with rfl | ⟨-, notBegun⟩
  · obtain ⟨now, same⟩ := begins
    cases same
  · exact notBegun begins

/-- The worker was blocked on the roster `r`, or is blocked by one of the notices. -/
def Barred (r : Roster) (w : WorkerId) (ns : List Notice) : Prop :=
  r.clearance w = some .blocked ∨ ∃ n ∈ ns, n.Blocks w

theorem barred_concat : r.Barred w (ns ++ [n]) ↔ r.Barred w ns ∨ n.Blocks w := by
  simp [Barred, or_and_right, exists_or, or_assoc]

theorem not_barred_concat (free : ¬r.Barred w ns) (notBlocks : ¬n.Blocks w) :
    ¬r.Barred w (ns ++ [n]) :=
  fun barred => (barred_concat.1 barred).elim free notBlocks

/-- The clearance of a worker whose registration has begun on the roster `r`, after notices that
neither end it nor unblock the worker. -/
inductive UnderWay (r : Roster) (w : WorkerId) (ns : List Notice) : Option Standing → Prop where
  | blocked (barred : r.Barred w ns) : UnderWay r w ns (some .blocked)
  | silent (free : ¬r.Barred w ns) (silent : FellSilent w ns) : UnderWay r w ns (some .alive)
  | registering (free : ¬r.Barred w ns) (heard : ¬FellSilent w ns) :
      UnderWay r w ns (some .registering)

/-- One more notice, which neither ends the registration nor unblocks the worker. -/
theorem UnderWay.note {r' : Roster} (h : UnderWay r w ns (r'.clearance w)) (ends : ¬n.Clears w) :
    UnderWay r w (ns ++ [n]) ((r'.note n).clearance w) := by
  generalize before : r'.clearance w = c at h
  generalize after : (r'.note n).clearance w = c'
  cases after ▸ effect_note r' w n with
  | cleared clears => exact absurd clears ends
  | begun begins =>
    have notBlocks : ¬n.Blocks w := by
      obtain ⟨now, rfl⟩ := begins
      exact nofun
    have heard : ¬FellSilent w (ns ++ [n]) := not_fellSilent_concat begins
    rw [before]
    cases h with
    | blocked barred => exact .blocked (barred_concat.2 (.inl barred))
    | silent free => exact .registering (not_barred_concat free notBlocks) heard
    | registering free => exact .registering (not_barred_concat free notBlocks) heard
  | blocked blocks => exact .blocked (barred_concat.2 (.inr blocks))
  | silenced silences =>
    have notBlocks : ¬n.Blocks w := silences ▸ nofun
    have silent : FellSilent w (ns ++ [n]) := fellSilent_concat.2 (.inl silences)
    rw [before]
    cases h with
    | blocked barred => exact .blocked (barred_concat.2 (.inl barred))
    | silent free => exact .silent (not_barred_concat free notBlocks) silent
    | registering free => exact .silent (not_barred_concat free notBlocks) silent
  | kept begins notBlocks silences =>
    have same : FellSilent w (ns ++ [n]) ↔ FellSilent w ns := by
      rw [fellSilent_concat]
      simp [begins, silences]
    rw [before]
    cases h with
    | blocked barred => exact .blocked (barred_concat.2 (.inl barred))
    | silent free silent => exact .silent (not_barred_concat free notBlocks) (same.2 silent)
    | registering free heard =>
      exact .registering (not_barred_concat free notBlocks) (same.not.2 heard)

theorem underWay_begin (r : Roster) (w : WorkerId) (now : Instant) :
    UnderWay r w [] ((r.beginRegistration w now).clearance w) := by
  rw [clearance_beginRegistration]
  split
  · rename_i blocked
    exact .blocked (.inl blocked)
  · rename_i free
    exact .registering (fun h => h.elim free (by simp)) (not_fellSilent_nil w)

theorem underWay_noteAll (r : Roster) (w : WorkerId) (now : Instant)
    (ends : ∀ n ∈ ns, ¬n.Clears w) :
    UnderWay r w ns ((r.noteAll (.told (.beginRegistration w now) :: ns)).clearance w) := by
  induction ns using List.reverseRecOn with
  | nil => exact underWay_begin r w now
  | append_singleton ns n ih =>
    obtain ⟨earlier, last⟩ := List.forall_mem_append.1 ends
    rw [← List.cons_append, noteAll_append]
    exact (ih earlier).note (last n List.mem_cons_self)

/-- A worker whose registration has begun, and that has neither registered nor been unblocked since,
gets no work exactly if it is blocked, or was not marked silent since it last began to register. If
it does get work, it is both listed as usable and handed buckets. -/
theorem heldBack_iff (threshold : Duration) (before : List Notice) (w : WorkerId) (now : Instant)
    {since : List Notice} (ends : ∀ n ∈ since, ¬n.Clears w) :
    let r := (new threshold).noteAll (before ++ .told (.beginRegistration w now) :: since)
    (r.HeldBack w ↔ ((new threshold).noteAll before).Barred w since ∨ ¬FellSilent w since) ∧
      (¬r.HeldBack w → w ∈ r.usable ∧ r.Served w) := by
  have underWay := underWay_noteAll ((new threshold).noteAll before) w now ends
  rw [← noteAll_append] at underWay
  intro r
  change UnderWay _ w since (r.clearance w) at underWay
  refine ⟨?_, fun works => ?_⟩
  · rw [heldBack_iff_clearance]
    generalize r.clearance w = c at underWay
    cases underWay with
    | blocked barred => simp [barred]
    | silent free silent => simp [free, silent]
    | registering free heard => simp [heard]
  · have cleared := not_not.1 (heldBack_iff_clearance.not.1 works)
    exact ⟨mem_usable_iff.2 cleared, served_iff.2 cleared⟩

/-- A worker is heard from, and marked silent, and then begins to register anew. -/
def secondAttempt : List Notice :=
  [.told (.heartbeat ⟨"w"⟩ ⟨1⟩), .told (.markSilent ⟨"w"⟩), .told (.beginRegistration ⟨"w"⟩ ⟨2⟩)]

theorem heldBack_secondAttempt : (∀ n ∈ secondAttempt, ¬n.Clears ⟨"w"⟩) ∧
    ((new .zero).noteAll (.told (.beginRegistration ⟨"w"⟩ ⟨0⟩) :: secondAttempt)).HeldBack
      ⟨"w"⟩ := by
  have ends : ∀ n ∈ secondAttempt, ¬n.Clears ⟨"w"⟩ := by simp [secondAttempt, Notice.Clears]
  have heard : ¬FellSilent ⟨"w"⟩ (secondAttempt.dropLast ++ [_]) := not_fellSilent_concat ⟨⟨2⟩, rfl⟩
  exact ⟨ends, (heldBack_iff .zero [] ⟨"w"⟩ ⟨0⟩ ends).1.2 (.inr heard)⟩

/-- A worker begins to register, and is marked silent before anything else is heard of it. -/
def unanswered : List Operation := [.beginRegistration ⟨"w"⟩ ⟨0⟩, .markSilent ⟨"w"⟩]

/-- A bucket for that worker. -/
def awaited : Bucket := ⟨⟨"b"⟩, [⟨⟨"C", "a"⟩, [], none⟩], Dispatcher.onceMore⟩

/-- The worker never registered, but it is listed as usable and handed the bucket. -/
theorem not_heldBack :
    let d := (Dispatcher.new {} .zero).run
      (.enqueue ⟨"A"⟩ [awaited] ⟨0⟩ ⟨0⟩ :: unanswered.map .roster)
    d.roster = (new .zero).noteAll (unanswered.map .told) ∧ ¬d.roster.HeldBack ⟨"w"⟩ ∧
      d.roster.usable = [⟨"w"⟩] ∧
      (d.dequeue ⟨"w"⟩ ⟨0⟩ ⟨0⟩).1 = .ok (.bucket ⟨⟨awaited, ⟨0⟩⟩, ⟨"w"⟩, ⟨0⟩⟩) := by
  refine ⟨rfl, fun held => held.unserved ?_, by decide, rfl⟩
  exact ⟨_, ⟨0⟩, ⟨0⟩, ⟨⟨awaited, ⟨0⟩⟩, ⟨"w"⟩, ⟨0⟩⟩, rfl, rfl⟩

end TestFleet.Roster
