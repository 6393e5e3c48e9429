import TestFleet.Proofs.Queue.Activity

/-!
# Notices on the roster

All that may ever be noted on a roster, in any order, and what one notice does to what is known of a
worker. News of a worker is noted as it comes; a worker is handed buckets, reports on them, and has
them taken away.

* `Notice`, `noteAll`: the notices, and the roster after some of them;
* `get?_note_of_ne`: a notice about one worker is of no concern to the others;
* `pulse?`: the standing of a worker and when it was last heard of;
* `Notice.sign?`: whether a notice is a sign of life of a worker;
* `beat_note`: all that a notice may do to a pulse.
-/

namespace TestFleet.Roster

/-- Something that may be noted on the roster. -/
inductive Notice where
  | told (operation : Operation)
  | handedOut (worker : WorkerId) (bucket : BucketId) (now : Instant)
  | reported (worker : WorkerId) (bucket : BucketId) (now : Instant)
  | released (worker : WorkerId) (bucket : BucketId)

/-- The roster after a notice. -/
def note (r : Roster) : Notice → Roster
  | .told op => r.perform op
  | .handedOut w b now => r.didDequeue w b now
  | .reported w b now => r.didReceive w b now
  | .released w b => r.release w b

/-- The roster after some notices. -/
def noteAll (r : Roster) (ns : List Notice) : Roster := ns.foldl note r

theorem noteAll_append (r : Roster) (ns more : List Notice) :
    r.noteAll (ns ++ more) = (r.noteAll ns).noteAll more :=
  List.foldl_append

/-- The worker that a notice is about, if it is about one only. -/
def Notice.worker? : Notice → Option WorkerId
  | .told op => op.worker?
  | .handedOut w _ _ => some w
  | .reported w _ _ => some w
  | .released w _ => some w

/-- When a notice is a sign of life of the worker `w`. Registering is none of a worker that is
blocked, and being unblocked is none of one that is not. -/
def Notice.sign? (r : Roster) (w : WorkerId) : Notice → Option Instant
  | .told (.register v now) => if v = w ∧ r.liveness w ≠ .blocked then some now else none
  | .told (.unblock v now) => if v = w ∧ r.liveness w = .blocked then some now else none
  | .told (.heartbeat v now) => if v = w then some now else none
  | .handedOut v _ now => if v = w then some now else none
  | .reported v _ now => if v = w then some now else none
  | _ => none

variable {r : Roster} {v w : WorkerId} {n : Notice} {now t : Instant} {standing : Standing}

theorem threshold_note (r : Roster) (n : Notice) : (r.note n).threshold = r.threshold := by
  cases n with
  | told op => cases op <;> rfl
  | _ => rfl

/-- How long a worker may stay quiet is what the roster was set up with. -/
theorem threshold_noteAll (r : Roster) (ns : List Notice) :
    (r.noteAll ns).threshold = r.threshold := by
  induction ns generalizing r with
  | nil => rfl
  | cons n ns ih => exact (ih (r.note n)).trans (r.threshold_note n)

/-- A notice about one worker leaves the records of the others alone. -/
theorem get?_note_of_ne (about : n.worker? = some v) (other : w ≠ v) :
    (r.note n).workers.get? w = r.workers.get? w := by
  cases n with
  | told op =>
    cases op <;> cases about <;>
      first
      | exact Directory.get?_modify_of_ne _ _ other
      | exact Directory.get?_insert_of_ne _ _ other
  | _ => cases about; exact Directory.get?_modify_of_ne _ _ other

/-! ## Pulses -/

/-- The standing of a worker and when it was last heard of. -/
def pulse? (r : Roster) (w : WorkerId) : Option (Standing × Instant) :=
  (r.workers.get? w).map fun s => (s.standing, s.lastActivity)

theorem pulse?_of_known {s : WorkerRecord} (known : r.workers.get? w = some s) :
    r.pulse? w = some (s.standing, s.lastActivity) := by
  rw [pulse?, known, Option.map_some]

theorem pulse?_of_unknown (unknown : r.workers.get? w = none) : r.pulse? w = none := by
  rw [pulse?, unknown, Option.map_none]

theorem liveness_eq_blocked_iff_pulse :
    r.liveness w = .blocked ↔ ∃ t, r.pulse? w = some (.blocked, t) := by
  rw [liveness, pulse?]
  cases r.workers.get? w with
  | none => simp
  | some s => cases standing : s.standing <;> simp [WorkerRecord.liveness, standing]

theorem liveness_eq_alive_iff : r.liveness w = .alive ↔ ∃ t, r.pulse? w = some (.alive, t) := by
  rw [liveness, pulse?]
  cases r.workers.get? w with
  | none => simp
  | some s => cases standing : s.standing <;> simp [WorkerRecord.liveness, standing]

theorem isSilent_liveness_iff :
    (r.liveness w).isSilent = true ↔ ∃ t, r.pulse? w = some (.silent, t) := by
  rw [liveness, pulse?]
  cases r.workers.get? w with
  | none => simp [Liveness.isSilent]
  | some s =>
    cases standing : s.standing <;> simp [WorkerRecord.liveness, Liveness.isSilent, standing]

theorem pulse?_note_of_ne (about : n.worker? = some v) (other : w ≠ v) :
    (r.note n).pulse? w = r.pulse? w := by
  rw [pulse?, get?_note_of_ne about other, pulse?]

theorem pulse?_enter_self (r : Roster) (f : WorkerRecord → WorkerRecord) :
    (r.enter w standing now f).pulse? w =
      some ((f ((r.workers.get? w).getD (.new standing now))).standing,
        (f ((r.workers.get? w).getD (.new standing now))).lastActivity) := by
  rw [pulse?, enter, Directory.get?_insert_self, Option.map_some]

/-- Taking buckets away leaves the pulses alone. -/
theorem pulse?_relieved (r : Roster) (taken : List InFlightBucket) (w : WorkerId) :
    (r.relieved taken).pulse? w = r.pulse? w := by
  rw [pulse?, get?_relieved, Option.map_map]
  rfl

theorem pulse?_release (r : Roster) (v : WorkerId) (b : BucketId) (w : WorkerId) :
    (r.release v b).pulse? w = r.pulse? w := by
  by_cases e : w = v
  · rw [e, pulse?, release, modify, Directory.get?_modify_self, Option.map_map]
    rfl
  · exact pulse?_note_of_ne (n := .released v b) rfl e

/-! ## What one notice does -/

/-- What a notice makes of the pulse of the worker `w`. A worker that is not on the roster is not
entered by a sign of life alone. -/
inductive Beat (r : Roster) (w : WorkerId) (n : Notice) : Option (Standing × Instant) → Prop where
  | kept (noSign : n.sign? r w = none) : Beat r w n (r.pulse? w)
  | unlisted (notListed : r.pulse? w = none) : Beat r w n none
  | heard (now : Instant) (sign : n.sign? r w = some now) {standing : Standing}
      (notSilent : standing ≠ .silent) : Beat r w n (some (standing, now))
  | barred {standing : Standing} (barred : standing = .registering ∨ standing = .blocked)
      (t : Instant) : Beat r w n (some (standing, t))
  | silenced (marks : n = .told (.markSilent w)) (t : Instant) : Beat r w n (some (.silent, t))
  | swept {now : Instant} (sweeps : n = .told (.markQuietSilent now))
      (quiet : w ∈ r.quietWorkers now) (t : Instant) : Beat r w n (some (.silent, t))

/-- A notice about another worker. -/
theorem beat_of_ne (about : n.worker? = some v) (other : w ≠ v) :
    Beat r w n ((r.note n).pulse? w) := by
  have noSign : n.sign? r w = none := by
    cases n with
    | told op => cases op <;> cases about <;> simp [Notice.sign?, Ne.symm other]
    | _ => cases about; simp [Notice.sign?, Ne.symm other]
  rw [pulse?_note_of_ne about other]
  exact .kept noSign

/-- A sign of life of a worker, if the worker is on the roster. -/
theorem beat_touch {f : WorkerRecord → WorkerRecord} (sign : n.sign? r w = some now)
    (touches : ∀ s, ∃ s' : WorkerRecord, f s = s'.touch now) :
    Beat r w n ((r.modify w f).pulse? w) := by
  rw [pulse?, modify, Directory.get?_modify_self]
  cases known : r.workers.get? w with
  | none => exact .unlisted (pulse?_of_unknown known)
  | some s =>
    obtain ⟨s', touched⟩ := touches s
    rw [Option.map_some, Option.map_some, touched]
    refine .heard now sign ?_
    rw [WorkerRecord.touch]
    dsimp only
    split
    · decide
    · rename_i notSilent
      exact notSilent

theorem beat_register (r : Roster) (w : WorkerId) (now : Instant) :
    Beat r w (.told (.register w now)) ((r.register w now).pulse? w) := by
  rw [register, pulse?_enter_self]
  generalize record : (r.workers.get? w).getD (.new .alive now) = s
  by_cases blocked : s.standing = .blocked
  · rw [if_pos blocked]
    exact .barred (.inr blocked) _
  · have notBlocked : r.liveness w ≠ .blocked := fun same => by
      obtain ⟨t, pulse⟩ := liveness_eq_blocked_iff_pulse.1 same
      obtain ⟨s', known, same⟩ := Option.map_eq_some_iff.1 pulse
      rw [known, Option.getD_some] at record
      exact blocked (record ▸ (Prod.mk.inj same).1)
    have sign : (Notice.told (.register w now)).sign? r w = some now := if_pos ⟨rfl, notBlocked⟩
    rw [if_neg blocked]
    exact .heard now sign (by simp)

theorem beat_beginRegistration (r : Roster) (w : WorkerId) (now : Instant) :
    Beat r w (.told (.beginRegistration w now)) ((r.beginRegistration w now).pulse? w) := by
  rw [beginRegistration, pulse?_enter_self]
  by_cases blocked : ((r.workers.get? w).getD (.new .registering now)).standing = .blocked
  · rw [if_pos blocked]
    exact .barred (.inr blocked) _
  · rw [if_neg blocked]
    exact .barred (.inl rfl) _

theorem beat_unblock (r : Roster) (w : WorkerId) (now : Instant) :
    Beat r w (.told (.unblock w now)) ((r.unblock w now).pulse? w) := by
  by_cases blocked : r.liveness w = .blocked
  · obtain ⟨t, pulse⟩ := liveness_eq_blocked_iff_pulse.1 blocked
    obtain ⟨s, known, same⟩ := Option.map_eq_some_iff.1 pulse
    have sign : (Notice.told (.unblock w now)).sign? r w = some now := if_pos ⟨rfl, blocked⟩
    rw [pulse?, unblock, modify, Directory.get?_modify_self, known, Option.map_some,
      Option.map_some, if_pos (Prod.mk.inj same).1]
    exact .heard now sign (by simp)
  · have same : (r.unblock w now).pulse? w = r.pulse? w := by
      rw [pulse?, unblock, modify, Directory.get?_modify_self, pulse?, Option.map_map]
      refine Option.map_congr fun s known => ?_
      rw [Function.comp_apply, if_neg fun standing => blocked ?_]
      exact liveness_eq_blocked_iff_pulse.2 ⟨s.lastActivity, standing ▸ pulse?_of_known known⟩
    rw [same]
    exact .kept (if_neg fun both => blocked both.2)

theorem beat_markSilent (r : Roster) (w : WorkerId) :
    Beat r w (.told (.markSilent w)) ((r.markSilent w).pulse? w) := by
  rw [markSilent, pulse?, modify, Directory.get?_modify_self]
  cases known : r.workers.get? w with
  | none => exact .unlisted (pulse?_of_unknown known)
  | some s =>
    rw [Option.map_some, Option.map_some]
    split
    · exact .silenced rfl _
    · rw [← pulse?_of_known known]
      exact .kept rfl

theorem beat_markQuietSilent (r : Roster) (w : WorkerId) (now : Instant) :
    Beat r w (.told (.markQuietSilent now)) ((r.markQuietSilent now).pulse? w) := by
  rw [pulse?, get?_markQuietSilent]
  cases known : r.workers.get? w with
  | none => exact .unlisted (pulse?_of_unknown known)
  | some s =>
    rw [Option.map_some, Option.map_some]
    split
    · rename_i quiet
      exact .swept rfl (mem_quietWorkers.2 ⟨s, known, quiet⟩) _
    · rw [← pulse?_of_known known]
      exact .kept rfl

theorem beat_note (r : Roster) (w : WorkerId) (n : Notice) : Beat r w n ((r.note n).pulse? w) := by
  cases about : n.worker? with
  | none =>
    cases n with
    | told op =>
      cases op with
      | markQuietSilent now => exact beat_markQuietSilent r w now
      | _ => cases about
    | _ => cases about
  | some v =>
    by_cases e : w = v
    · subst e
      cases n with
      | told op =>
        cases op with
        | beginRegistration _ now => cases about; exact beat_beginRegistration r w now
        | register _ now => cases about; exact beat_register r w now
        | heartbeat _ now => cases about; exact beat_touch (if_pos rfl) fun s => ⟨s, rfl⟩
        | block _ now =>
          cases about
          rw [note, perform, block, pulse?_enter_self]
          exact .barred (.inr rfl) _
        | unblock _ now => cases about; exact beat_unblock r w now
        | markSilent _ => cases about; exact beat_markSilent r w
        | markQuietSilent => cases about
      | handedOut _ b now => cases about; exact beat_touch (if_pos rfl) fun s => ⟨_, rfl⟩
      | reported _ b now => cases about; exact beat_touch (if_pos rfl) fun s => ⟨_, rfl⟩
      | released _ b =>
        cases about
        rw [note, pulse?_release]
        exact .kept rfl
    · exact beat_of_ne about e

end TestFleet.Roster
