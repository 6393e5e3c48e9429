import TestFleet.CommandLine.Execution
import TestFleet.Proofs.Json.Parser
import TestFleet.Proofs.Server.Timers
import TestFleet.Proofs.Toml.Integers
import TestFleet.Proofs.Worker.Breakdowns

/-!
# Settings that keep the periodic work going

Stuck buckets are taken back, preferred workers found out and signs of life given whenever a timer
ticks, and each of the three timers has its period from the settings. A settings file may leave a
period out, and then has the usual one, or give it any number of seconds that it can write. It may
also give it none at all: that is accepted like any other number, the timer does not start, and the
work is never done. A worker breaks down over its first bucket then.

* `Interval.written?`, `seconds_of_ofToml?`: what a file gives a period, and what becomes of it;
* `Interval.IsZeroIn`, `seconds_eq_zero_iff`: a period is zero exactly if it is written so;
* `Starts`, `seconds_eq_zero_of_breaks`: the workers that are started, and when they break down;
* `KeepsWorking`: the three timers start, the work of the server is done whenever it is due, and no
  worker breaks down;
* `keepsWorking_iff`: so it is with a file that is accepted, exactly if no period in it is zero;
* `not_keepsWorking`: a file for each period with which it is not so.
-/

namespace TestFleet

open Toml.Value (setting word?)

/-! ## Numbers in a file -/

namespace Toml

/-- The members of a group have whatever its numbers have. -/
theorem Value.Holds.member {p : Int → Prop} {v w : Value} {names : List String}
    {member : String → Option Value} {name : String} (holds : v.Holds p)
    (members : v.members? names = some member) (given : member name = some w) : w.Holds p := by
  cases holds with
  | table holds =>
    rw [Value.members?] at members
    split at members
    next =>
      cases members
      obtain ⟨before, after, rfl, -⟩ := List.lookup_eq_some_iff.1 given
      exact holds (name, w) (List.mem_append_right _ List.mem_cons_self)
    next => cases members
  | array holds =>
    cases members
    exact holds w (List.mem_of_getElem? given)
  | tables holds =>
    cases members
    obtain ⟨t, nth, rfl⟩ := Option.map_eq_some_iff.1 given
    exact Value.holds_table.2 (holds t (List.mem_of_getElem? nth))
  | _ => cases members

/-- A word is read off a whole number that is not negative, and is that number if it has 64 bits. -/
theorem Value.word?_eq_some_zero_iff {v : Value} (holds : v.Holds Is64Bit) :
    v.word? = some 0 ↔ v = .integer 0 := by
  constructor
  · intro zero
    rw [word?, Option.map_eq_some_iff] at zero
    obtain ⟨n, natural, zero⟩ := zero
    cases holds with
    | @integer m within =>
      cases m with
      | ofNat m =>
        cases natural
        have small : (n : Int) ≤ Int64.maxValue.toInt := within.2
        have word := congrArg UInt64.toNat zero
        rw [UInt64.toNat_ofNat_of_lt' (Int.ofNat_lt.1 (Int.lt_of_le_of_lt small (by decide)))] at word
        rw [word]
        rfl
      | negSucc m => cases natural
    | _ => cases natural
  · rintro rfl
    rfl

end Toml

/-! ## Periods in a file -/

/-- The settings that are periods of timers. -/
inductive Interval where
  | sweep
  | rebalance
  | heartbeat

namespace Interval

/-- The group that the setting is in. -/
def group : Interval → String
  | sweep | rebalance => "queue"
  | heartbeat => "worker"

/-- The names of all settings of the group. -/
def siblings : Interval → List String
  | sweep | rebalance => QueueSettings.names
  | heartbeat => WorkerSettings.names

/-- The name of the setting. -/
def name : Interval → String
  | sweep => "sweep_interval_secs"
  | rebalance => "rebalance_interval_secs"
  | heartbeat => "heartbeat_interval_secs"

/-- The seconds that settings give it. -/
def seconds (s : Settings) : Interval → UInt64
  | sweep => s.queue.sweepInterval
  | rebalance => s.queue.rebalanceInterval
  | heartbeat => s.worker.heartbeatInterval

/-- What the table of a file gives it. -/
def written? (i : Interval) (document : Toml.Table) : Option Toml.Value := do
  let groups ← (Toml.Value.table .header document).members? ["queue", "worker"]
  let members ← (← groups i.group).members? i.siblings
  members i.name

/-- A settings file gives it no time at all. -/
def IsZeroIn (file : Option (List UInt8)) (i : Interval) : Prop :=
  ∃ bytes text document, file = some bytes ∧ Text.ofUtf8? bytes = some text ∧
    Toml.ofText? text = some document ∧ i.written? document = some (.integer 0)

variable {s : Settings} {document : Toml.Table}

theorem sweep_and_rebalance_of_ofToml? {v : Toml.Value} {q : QueueSettings}
    (read : QueueSettings.ofToml? v = some q) :
    ∃ member, v.members? QueueSettings.names = some member ∧
      setting (member sweep.name) word? 5 = some q.sweepInterval ∧
      setting (member rebalance.name) word? 30 = some q.rebalanceInterval := by
  rw [QueueSettings.ofToml?] at read
  -- One step for each setting of the group, in the order of their names.
  obtain ⟨member, members, read⟩ := Option.bind_eq_some_iff.1 read
  obtain ⟨_, -, read⟩ := Option.bind_eq_some_iff.1 read
  obtain ⟨_, -, read⟩ := Option.bind_eq_some_iff.1 read
  obtain ⟨_, sweep, read⟩ := Option.bind_eq_some_iff.1 read
  obtain ⟨_, -, read⟩ := Option.bind_eq_some_iff.1 read
  obtain ⟨_, -, read⟩ := Option.bind_eq_some_iff.1 read
  obtain ⟨_, -, read⟩ := Option.bind_eq_some_iff.1 read
  obtain ⟨_, -, read⟩ := Option.bind_eq_some_iff.1 read
  obtain ⟨_, -, read⟩ := Option.bind_eq_some_iff.1 read
  obtain ⟨_, rebalance, read⟩ := Option.bind_eq_some_iff.1 read
  obtain ⟨_, -, read⟩ := Option.bind_eq_some_iff.1 read
  obtain ⟨_, -, same⟩ := Option.bind_eq_some_iff.1 read
  cases same
  exact ⟨member, members, sweep, rebalance⟩

theorem heartbeat_of_ofToml? {v : Toml.Value} {w : WorkerSettings}
    (read : WorkerSettings.ofToml? v = some w) :
    ∃ member, v.members? WorkerSettings.names = some member ∧
      setting (member heartbeat.name) word? 5 = some w.heartbeatInterval := by
  rw [WorkerSettings.ofToml?] at read
  obtain ⟨member, members, read⟩ := Option.bind_eq_some_iff.1 read
  obtain ⟨_, -, read⟩ := Option.bind_eq_some_iff.1 read
  obtain ⟨_, -, read⟩ := Option.bind_eq_some_iff.1 read
  obtain ⟨_, -, read⟩ := Option.bind_eq_some_iff.1 read
  obtain ⟨_, heartbeat, read⟩ := Option.bind_eq_some_iff.1 read
  obtain ⟨_, -, read⟩ := Option.bind_eq_some_iff.1 read
  obtain ⟨_, -, same⟩ := Option.bind_eq_some_iff.1 read
  cases same
  exact ⟨member, members, heartbeat⟩

/-- A member of a group that has a usual value itself. -/
theorem setting_of_group {α : Type} {group : Option Toml.Value} {read : Toml.Value → Option α}
    {usual a : α} {names : List String} {name : String} (field : α → UInt64)
    (given : setting group read usual = some a)
    (member : ∀ v, read v = some a → ∃ member, v.members? names = some member ∧
      setting (member name) word? (field usual) = some (field a)) :
    setting (group.bind fun v => (v.members? names).bind fun member => member name) word?
      (field usual) = some (field a) := by
  cases group with
  | none => cases given; rfl
  | some v =>
    obtain ⟨member, members, value⟩ := member v given
    rw [Option.bind_some, members, Option.bind_some, value]

/-- A period is what the table of the file gives it, or the usual one. -/
theorem seconds_of_ofToml? (read : Settings.ofToml? (.table .header document) = some s)
    (i : Interval) : setting (i.written? document) word? (i.seconds {}) = some (i.seconds s) := by
  rw [Settings.ofToml?] at read
  simp only [bind, Option.bind_eq_some_iff] at read
  obtain ⟨groups, groupsRead, q, queue, w, worker, same⟩ := read
  cases same
  rw [written?, groupsRead]
  cases i with
  | sweep =>
    refine setting_of_group QueueSettings.sweepInterval queue fun v read => ?_
    obtain ⟨member, members, value, -⟩ := sweep_and_rebalance_of_ofToml? read
    exact ⟨member, members, value⟩
  | rebalance =>
    refine setting_of_group QueueSettings.rebalanceInterval queue fun v read => ?_
    obtain ⟨member, members, -, value⟩ := sweep_and_rebalance_of_ofToml? read
    exact ⟨member, members, value⟩
  | heartbeat =>
    exact setting_of_group WorkerSettings.heartbeatInterval worker fun v read =>
      heartbeat_of_ofToml? read

theorem holds_written? {i : Interval} {v : Toml.Value} (holds : document.Holds Toml.Is64Bit)
    (written : i.written? document = some v) : v.Holds Toml.Is64Bit := by
  simp only [written?, Option.bind_eq_bind, Option.bind_eq_some_iff] at written
  obtain ⟨groups, groupsRead, group, given, member, members, written⟩ := written
  have holds := (Toml.Value.holds_table.2 holds).member groupsRead given
  exact holds.member members written

/-- The usual periods are not zero, so a period is zero only if it is written so. -/
theorem seconds_eq_zero_iff_written (read : Settings.ofToml? (.table .header document) = some s)
    (holds : document.Holds Toml.Is64Bit) (i : Interval) :
    i.seconds s = 0 ↔ i.written? document = some (.integer 0) := by
  have value := seconds_of_ofToml? read i
  cases written : i.written? document with
  | none =>
    rw [written] at value
    have usual : i.seconds {} ≠ 0 := by cases i <;> decide
    rw [← Option.some.inj value]
    exact iff_of_false usual nofun
  | some v =>
    rw [written, setting] at value
    rw [← Option.some_inj, ← value, Option.some_inj]
    exact Toml.Value.word?_eq_some_zero_iff (holds_written? holds written)

theorem seconds_eq_zero_iff {isUsual : Bool} {file : Option (List UInt8)}
    (accepted : Settings.load isUsual file = .ok s) (i : Interval) :
    i.seconds s = 0 ↔ i.IsZeroIn file := by
  cases file with
  | none =>
    cases isUsual with
    | false => cases accepted
    | true =>
      cases accepted
      refine iff_of_false (by cases i <;> decide) ?_
      rintro ⟨bytes, text, document, missing, -⟩
      cases missing
  | some bytes =>
    rw [Settings.load, Settings.ofBytes] at accepted
    split at accepted
    next => cases accepted
    next text decoded =>
      split at accepted
      next => cases accepted
      next settings read =>
        cases accepted
        obtain ⟨document, parsed, read⟩ := Option.bind_eq_some_iff.1 read
        rw [seconds_eq_zero_iff_written read (Toml.holds_ofText? parsed)]
        constructor
        · exact fun zero => ⟨bytes, text, document, rfl, decoded, parsed, zero⟩
        · rintro ⟨_, _, _, same, decoded', parsed', zero⟩
          cases same
          cases decoded.symm.trans decoded'
          cases parsed.symm.trans parsed'
          exact zero

end Interval

/-! ## Periodic work -/

theorem Duration.ofSeconds_pos_iff {n : UInt64} : 0 < (ofSeconds n).nanoseconds ↔ n ≠ 0 := by
  have seconds : (ofSeconds n).nanoseconds = n.toNat * nanosPerSecond := rfl
  have zero : n.toNat = 0 ↔ n = 0 := UInt64.toNat_inj (b := 0)
  rw [seconds, nanosPerSecond, Ne, ← zero]
  omega

namespace Settings

/-- What a worker with these settings is started with, whatever the command line says. -/
def Starts (s : Settings) (c : WorkerConfig) : Prop :=
  ∃ worker hostName leaves,
    c = { s.worker.config worker hostName with leavesWhenEmpty := leaves }

/-- The pauses of workers are always the usual ones, which go on forever. -/
theorem seconds_eq_zero_of_breaks {s : Settings} {c : WorkerConfig} {fault : TimeFault}
    (starts : s.Starts c) (breaks : c.Breaks fault) : Interval.heartbeat.seconds s = 0 := by
  obtain ⟨worker, hostName, leaves, rfl⟩ := starts
  cases breaks with
  | heartbeats noPeriod =>
    refine Classical.byContradiction fun seconds => ?_
    exact Nat.ne_of_gt (Duration.ofSeconds_pos_iff.2 seconds) noPeriod
  | checks ends => exact absurd (Backoff.endless_doubling (by decide) (.inr (by decide))) ends
  | retries ends => exact absurd (Backoff.endless_doubling (by decide) (.inr (by decide))) ends

/-- Whatever the command line says, the timers of a server and a worker with these settings start,
and the server does its periodic work whenever it is due. No worker breaks down over a bucket, or
otherwise in its shift, whatever the queue answers and its runner does. -/
structure KeepsWorking (s : Settings) : Prop where
  sweepTimer : ∀ bind workers buckets now,
    ((s.queue.overridden bind workers buckets).setup.sweepTimer? now).isSome
  rebalanceTimer : ∀ bind workers buckets now,
    ((s.queue.overridden bind workers buckets).setup.rebalanceTimer? now).isSome
  heartbeatTimer : ∀ worker hostName now,
    ((s.worker.config worker hostName).heartbeatTimer? now).isSome
  sweeps : ∀ bind workers buckets,
    (s.queue.overridden bind workers buckets).setup.SweepsOnTime
  rebalances : ∀ bind workers buckets,
    (s.queue.overridden bind workers buckets).setup.RebalancesOnTime
  buckets : ∀ {σ ρ : Type} (w : Worker σ ρ), s.Starts w.config → ∀ wall b shift fault,
    (w.runBucket wall b shift).1 ≠ .error (.brokeDown fault)
  shifts : ∀ {σ ρ : Type} (w : Worker σ ρ), s.Starts w.config → ∀ wall polls shift fault,
    (w.work wall polls shift).1 ≠ .error (.brokeDown fault)

theorem keepsWorking_iff_seconds {s : Settings} :
    s.KeepsWorking ↔ ∀ i : Interval, i.seconds s ≠ 0 := by
  constructor
  · intro keeps i
    cases i with
    | sweep =>
      exact Duration.ofSeconds_pos_iff.1 (Timer.start?_isSome_iff.1
        (keeps.sweepTimer none none none ⟨0⟩))
    | rebalance =>
      exact Duration.ofSeconds_pos_iff.1 (Timer.start?_isSome_iff.1
        (keeps.rebalanceTimer none none none ⟨0⟩))
    | heartbeat =>
      exact Duration.ofSeconds_pos_iff.1 (Timer.start?_isSome_iff.1
        (keeps.heartbeatTimer ⟨""⟩ none ⟨0⟩))
  · intro pos
    have sweep := Duration.ofSeconds_pos_iff.2 (pos .sweep)
    have rebalance := Duration.ofSeconds_pos_iff.2 (pos .rebalance)
    have heartbeat := Duration.ofSeconds_pos_iff.2 (pos .heartbeat)
    refine ⟨fun _ _ _ _ => Timer.start?_isSome_iff.2 sweep,
      fun _ _ _ _ => Timer.start?_isSome_iff.2 rebalance,
      fun _ _ _ => Timer.start?_isSome_iff.2 heartbeat,
      fun _ _ _ => ServerSetup.sweepsOnTime sweep,
      fun _ _ _ => ServerSetup.rebalancesOnTime rebalance,
      fun w starts wall b shift fault broke => ?_, fun w starts wall polls shift fault broke => ?_⟩
    · exact pos .heartbeat
        (seconds_eq_zero_of_breaks starts (Worker.breaks_of_runBucket (Prod.ext broke rfl)))
    · exact pos .heartbeat
        (seconds_eq_zero_of_breaks starts (Worker.breaks_of_work (Prod.ext broke rfl)))

/-- With a settings file that is accepted, the periodic work is kept going exactly if the file makes
no period zero, whatever else it sets or leaves out. -/
theorem keepsWorking_iff {isUsual : Bool} {file : Option (List UInt8)} {s : Settings}
    (accepted : load isUsual file = .ok s) :
    s.KeepsWorking ↔ ∀ i : Interval, ¬i.IsZeroIn file := by
  rw [keepsWorking_iff_seconds]
  exact forall_congr' fun i => not_congr (Interval.seconds_eq_zero_iff accepted i)

/-- A text is read back from its bytes, so a file that holds one is accepted if its text is. -/
theorem load_utf8 {text : String} {s : Settings} (read : ofText? text = some s) (isUsual : Bool) :
    load isUsual (some (Text.utf8 text)) = .ok s := by
  rw [load, ofBytes, Json.ofUtf8?_utf8]
  dsimp only
  rw [read]

/-- A text with the shortest and the longest period that can be written, and with a group that is an
array. -/
def extremeText : String :=
  "queue = \x7b sweep_interval_secs = 1, rebalance_interval_secs = 0x7fffffffffffffff \x7d
worker = ['127.0.0.1:7000', 'mac-1', 'mac', +1]
"

/-- The settings that it writes. -/
def extreme : Settings where
  queue := { sweepInterval := 1, rebalanceInterval := 0x7fffffffffffffff }
  worker := {
    queue := some ⟨.v4 127 0 0 1, 7000⟩, worker := some "mac-1", host := some "mac",
    heartbeatInterval := 1 }

theorem keepsWorking_iff_extreme :
    load false (some (Text.utf8 extremeText)) = .ok extreme ∧ extreme.KeepsWorking ∧
      ∀ i : Interval, ¬i.IsZeroIn (some (Text.utf8 extremeText)) := by
  have accepted := load_utf8 (show ofText? extremeText = some extreme by decide +kernel) false
  have keeps : extreme.KeepsWorking := keepsWorking_iff_seconds.2 fun i => by cases i <;> decide
  exact ⟨accepted, keeps, (keepsWorking_iff accepted).1 keeps⟩

/-- A text in which all three periods are zero. -/
def idleText : String :=
  "[queue]
sweep_interval_secs = 0
rebalance_interval_secs = 0
spread_workers = true

[worker]
heartbeat_interval_secs = 0
"

/-- The settings that it writes. -/
def idle : Settings where
  queue := { sweepInterval := 0, rebalanceInterval := 0, spreadsWorkers := true }
  worker := { heartbeatInterval := 0 }

/-- A file with periods of zero is accepted. Then no worker has a timer for its signs of life, so it
breaks down over any bucket without running it, and no server ever takes stuck buckets back or finds
out anew which workers each job prefers. -/
theorem not_keepsWorking :
    load false (some (Text.utf8 idleText)) = .ok idle ∧ ¬idle.KeepsWorking ∧
    (∀ worker hostName now, (idle.worker.config worker hostName).heartbeatTimer? now = none) ∧
    (∀ (σ ρ : Type) (w : Worker σ ρ), idle.Starts w.config → ∀ wall b shift,
      w.runBucket wall b shift = (.error (.brokeDown .noPeriod), shift)) ∧
    ∀ start now arrivals,
      ((idle.queue.setup.start start).run arrivals).sweep now =
          ([], (idle.queue.setup.start start).run arrivals) ∧
        ((idle.queue.setup.start start).run arrivals).rebalance now =
          (idle.queue.setup.start start).run arrivals := by
  have accepted := load_utf8 (show ofText? idleText = some idle by decide +kernel) false
  have sweep : idle.queue.setup.sweepEvery.nanoseconds = 0 := by decide
  have rebalance : idle.queue.setup.rebalanceEvery.nanoseconds = 0 := by decide
  have heartbeat : (Duration.ofSeconds 0).nanoseconds = 0 := by decide
  refine ⟨accepted, fun keeps => keepsWorking_iff_seconds.1 keeps .sweep rfl,
    fun worker hostName now => Timer.start?_of_zero heartbeat,
    fun σ ρ w starts wall b shift => Worker.runBucket_of_noPeriod ?_ wall b shift,
    fun start now arrivals => ⟨?_, ?_⟩⟩
  · obtain ⟨worker, hostName, leaves, same⟩ := starts
    rw [same]
    exact heartbeat
  · exact ServerSetup.sweep_run_of_zero sweep start now arrivals
  · exact ServerSetup.rebalance_run_of_zero rebalance start now arrivals

end Settings

end TestFleet
