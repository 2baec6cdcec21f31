import Mathlib
import TaskFabric.Proofs.Deadlines
import TaskFabric.Script

/-! The loop that runs gossip and reaping in the background. It starts only if neither interval is
empty, and then goes on until it is stopped: both chores are due again within one interval, and what
is due before the stop is served. A configuration that sets an interval to zero is accepted all the
same, and its loop never starts.
-/

namespace TaskFabric

-----------------------------------------------------------------------------------------
-- Intervals of a configuration
-----------------------------------------------------------------------------------------

/-- What the loop does again and again. -/
inductive Chore where
  | gossip
  | reaping
deriving DecidableEq

/-- How long after its last turn a chore is due again. -/
def Knobs.period (knobs : Knobs) : Chore → Nat
  | .gossip => knobs.synInterval.toNanos
  | .reaping => knobs.expiryInterval.toNanos

/-- Where the interval of a chore stands among the settings of gossip. -/
def Chore.place : Chore → Nat
  | .gossip => 1
  | .reaping => 2

/-- The milliseconds that a text sets for the interval of a chore. A text that leaves them out, or
has no such table, sets none.
-/
def Chore.interval? (text : String) (c : Chore) : Option UInt64 := do
  let root ← Toml.parse? text
  let table ← root.lookup "gossip"
  let settings ← table.settings? ["gossip_num", "syn_interval_ms", "collaborator_expiry_ms"]
  let setting ← settings[c.place]?
  setting.bind Toml.count?

theorem Duration.toNanos_ofMillis_eq_zero_iff (ms : UInt64)
    : (Duration.ofMillis ms).toNanos = 0 ↔ ms = 0 := by
  rw [Duration.toNanos_ofMillis, ← UInt64.toNat_inj, UInt64.toNat_zero]
  omega

/-- A setting whose default is not zero is zero only if it is set so. -/
theorem Toml.setting_eq_zero_iff {default ms : UInt64} (nonzero : default ≠ 0)
    {written : Option Toml} (read : Toml.setting default Toml.count? written = some ms)
    : ms = 0 ↔ written.bind Toml.count? = some 0 := by
  cases written with
  | none =>
      have same : default = ms := Option.some.inj read
      subst same
      simp [nonzero]
  | some value =>
      have count : value.count? = some ms := read
      simp [count]

theorem GossipSettings.ofToml?_intervals {table : Toml} {settings : GossipSettings}
    (read : GossipSettings.ofToml? table = some settings)
    : ∃ fanout syn expiry,
        table.settings? ["gossip_num", "syn_interval_ms", "collaborator_expiry_ms"]
          = some [fanout, syn, expiry]
        ∧ Toml.setting 5000 Toml.count? syn = some settings.synIntervalMs
        ∧ Toml.setting 15000 Toml.count? expiry = some settings.expiryIntervalMs := by
  unfold GossipSettings.ofToml? at read
  split at read
  · next fanout syn expiry found =>
      simp only [Option.bind_eq_bind, Option.bind_eq_some_iff, Option.pure_def,
        Option.some.injEq] at read
      obtain ⟨_, _, ms, gossip, ms', reaping, same⟩ := read
      subst same
      exact ⟨fanout, syn, expiry, found, gossip, reaping⟩
  · nomatch read

/-- The gossip table of an accepted text is the one that it has, or the default if it has none. -/
theorem Config.gossip_of_parse {text : String} {config : Config}
    (accepted : Config.parse text = .ok config)
    : ∃ root,
        Toml.parse? text = some root
        ∧ Toml.setting GossipSettings.default GossipSettings.ofToml? (root.lookup "gossip")
          = some config.gossip := by
  unfold Config.parse at accepted
  split at accepted
  · next read =>
      have same := Except.ok.inj accepted
      subst same
      obtain ⟨root, parsed, made⟩ := Option.bind_eq_some_iff.mp read
      unfold Config.ofToml? at made
      simp only [Option.bind_eq_bind, Option.bind_eq_some_iff, Option.pure_def,
        Option.some.injEq] at made
      obtain ⟨_, _, _, gossip, _, _, same⟩ := made
      subst same
      exact ⟨root, parsed, gossip⟩
  · nomatch accepted

/-- An interval of an accepted configuration is empty exactly if the text sets it to zero. -/
theorem Config.period_eq_zero_iff {text : String} {config : Config}
    (accepted : Config.parse text = .ok config) (c : Chore)
    : config.knobs.period c = 0 ↔ c.interval? text = some 0 := by
  obtain ⟨root, parsed, gossip⟩ := Config.gossip_of_parse accepted
  cases found : root.lookup "gossip" with
  | none =>
      rw [found] at gossip
      have default := Option.some.inj gossip
      have unset : c.interval? text = none := by simp [Chore.interval?, parsed, found]
      rw [unset]
      cases c <;>
        simp [Knobs.period, Config.knobs, Config.synInterval, Config.expiryInterval,
          Duration.toNanos_ofMillis_eq_zero_iff, ← default, GossipSettings.default]
  | some table =>
      rw [found] at gossip
      obtain ⟨fanout, syn, expiry, settings, synMs, expiryMs⟩ :=
        GossipSettings.ofToml?_intervals gossip
      cases c with
      | gossip =>
          have set : Chore.gossip.interval? text = syn.bind Toml.count? := by
            simp [Chore.interval?, parsed, found, settings, Chore.place]
          rw [set, ← Toml.setting_eq_zero_iff (by decide) synMs]
          exact Duration.toNanos_ofMillis_eq_zero_iff _
      | reaping =>
          have set : Chore.reaping.interval? text = expiry.bind Toml.count? := by
            simp [Chore.interval?, parsed, found, settings, Chore.place]
          rw [set, ← Toml.setting_eq_zero_iff (by decide) expiryMs]
          exact Duration.toNanos_ofMillis_eq_zero_iff _

-----------------------------------------------------------------------------------------
-- One turn of the loop
-----------------------------------------------------------------------------------------

/-- Where the loop stands: what time it is, when gossip and reaping are due, and the host. -/
structure Loop (σ : Type) where
  now : Nat
  syn : Nat
  reap : Nat
  host : Host σ

namespace Loop

variable {σ : Type} {t : Transport σ} {clock : Int64} {l : Loop σ} {stop : Nat} {c : Chore}

/-- The loop as it starts, with both chores due. -/
def start (h : Host σ) : Loop σ := ⟨0, 0, 0, h⟩

/-- When a chore is due. -/
def due (l : Loop σ) : Chore → Nat
  | .gossip => l.syn
  | .reaping => l.reap

/-- The chore that has the next turn: the one that is due first, and gossip if both are. -/
def chore (l : Loop σ) : Chore := if l.syn ≤ l.reap then .gossip else .reaping

/-- When it has its turn: as soon as it is due, but not in the past. -/
def served (l : Loop σ) : Nat := max l.now (l.due l.chore)

/-- How long after its last turn a chore of the loop is due again. -/
def period (l : Loop σ) : Chore → Nat := l.host.node.knobs.period

/-- The loop behind the next turn. A catchup takes as long as it waits for answers in vain; to
remove peers takes no time.
-/
def tick (t : Transport σ) (clock : Int64) (l : Loop σ) : Loop σ :=
  match l.chore with
  | .gossip =>
      let (_, waited, host) := l.host.catchup t clock
      ⟨l.served + waited, Host.nextTick l.syn l.served (host.node.knobs.period .gossip), l.reap,
        host⟩
  | .reaping =>
      let (_, host) := l.host.clean clock
      ⟨l.served, l.syn, Host.nextTick l.reap l.served (host.node.knobs.period .reaping), host⟩

theorem ticks_succ (fuel : Nat)
    : Host.ticks t clock stop (fuel + 1) l.now l.syn l.reap l.host
      = if l.served < stop then
          Host.ticks t clock stop fuel (l.tick t clock).now (l.tick t clock).syn
            (l.tick t clock).reap (l.tick t clock).host
        else
          l.host := by
  rw [Host.ticks]
  by_cases first : l.syn ≤ l.reap
  · have gossip : l.chore = .gossip := if_pos first
    simp only [tick, served, gossip, due, if_pos first]
    rfl
  · have reaping : l.chore = .reaping := if_neg first
    simp only [tick, served, reaping, due, if_neg first]
    rfl

/-- The chore that has its turn is due no later than the other. -/
theorem due_chore_le (l : Loop σ) (c : Chore) : l.due l.chore ≤ l.due c := by
  by_cases first : l.syn ≤ l.reap
  · have gossip : l.chore = .gossip := if_pos first
    rw [gossip]
    cases c with
    | gossip => exact Nat.le_refl _
    | reaping => exact first
  · have reaping : l.chore = .reaping := if_neg first
    rw [reaping]
    cases c with
    | gossip => exact Nat.le_of_lt (Nat.lt_of_not_le first)
    | reaping => exact Nat.le_refl _

theorem now_le_served (l : Loop σ) : l.now ≤ l.served := Nat.le_max_left _ _

theorem due_le_served (l : Loop σ) : l.due l.chore ≤ l.served := Nat.le_max_right _ _

/-- The next tick lies one interval behind the tick at least, and behind its turn at most. -/
theorem nextTick_bounds {due now : Nat} (reached : due ≤ now) (period : Nat)
    : due + period ≤ Host.nextTick due now period
      ∧ Host.nextTick due now period ≤ now + period := by
  unfold Host.nextTick Host.tolerance
  split <;> omega

theorem period_tick (t : Transport σ) (clock : Int64) (l : Loop σ)
    : (l.tick t clock).period = l.period := by
  unfold period tick
  split <;> rfl

theorem served_le_now_tick : l.served ≤ (l.tick t clock).now := by
  unfold tick
  split
  · exact Nat.le_add_right _ _
  · exact Nat.le_refl _

/-- A turn leaves it as it is when the other chore is due. -/
theorem due_tick_of_ne (other : c ≠ l.chore) : (l.tick t clock).due c = l.due c := by
  unfold tick
  split
  · next turn =>
      cases c with
      | gossip => exact absurd turn.symm other
      | reaping => rfl
  · next turn =>
      cases c with
      | gossip => rfl
      | reaping => exact absurd turn.symm other

theorem due_tick_chore
    : (l.tick t clock).due l.chore
      = Host.nextTick (l.due l.chore) l.served (l.period l.chore) := by
  cases turn : l.chore with
  | gossip =>
      simp only [tick, turn, due]
      rfl
  | reaping =>
      simp only [tick, turn, due]
      rfl

-----------------------------------------------------------------------------------------
-- The course of the loop
-----------------------------------------------------------------------------------------

/-- The loop behind so many turns. -/
def course (t : Transport σ) (clock : Int64) (l : Loop σ) (turns : Nat) : Loop σ :=
  (tick t clock)^[turns] l

theorem course_succ (n : Nat) : l.course t clock (n + 1) = (l.course t clock n).tick t clock :=
  Function.iterate_succ_apply' _ _ _

theorem period_course (t : Transport σ) (clock : Int64) (l : Loop σ) (n : Nat)
    : (l.course t clock n).period = l.period := by
  induction n with
  | zero => rfl
  | succ n ih => rw [course_succ, period_tick, ih]

/-- The loop takes turns until the next one would come too late, or its fuel is spent. -/
theorem exists_turns_of_ticks (t : Transport σ) (clock : Int64) (stop fuel : Nat) (l : Loop σ)
    : ∃ count ≤ fuel,
        Host.ticks t clock stop fuel l.now l.syn l.reap l.host = (l.course t clock count).host
        ∧ (∀ i < count, (l.course t clock i).served < stop)
        ∧ (count < fuel → stop ≤ (l.course t clock count).served) := by
  induction fuel generalizing l with
  | zero =>
      exact ⟨0, Nat.le_refl _, rfl, fun i less => (nomatch less), fun less => (nomatch less)⟩
  | succ fuel ih =>
      rw [ticks_succ]
      by_cases early : l.served < stop
      · obtain ⟨count, bounded, ends, before, past⟩ := ih (l.tick t clock)
        refine ⟨count + 1, Nat.succ_le_succ bounded, ?_, ?_, ?_⟩
        · rw [if_pos early]
          exact ends
        · intro i less
          cases i with
          | zero => exact early
          | succ i => exact before i (Nat.lt_of_succ_lt_succ less)
        · intro less
          exact past (Nat.lt_of_succ_lt_succ less)
      · have late := Nat.le_of_not_lt early
        refine ⟨0, Nat.zero_le _, ?_, fun i less => (nomatch less), fun _ => late⟩
        rw [if_neg early]
        rfl

/-- How many of so many turns a chore has. -/
def share (t : Transport σ) (clock : Int64) (l : Loop σ) (c : Chore) (turns : Nat) : Nat :=
  (List.range turns).countP fun i => (l.course t clock i).chore = c

theorem share_succ (n : Nat)
    : l.share t clock c (n + 1)
      = l.share t clock c n + if (l.course t clock n).chore = c then 1 else 0 := by
  simp [share, List.range_succ, List.countP_append, List.countP_singleton]

theorem share_gossip_add_share_reaping (t : Transport σ) (clock : Int64) (l : Loop σ) (n : Nat)
    : l.share t clock .gossip n + l.share t clock .reaping n = n := by
  induction n with
  | zero => rfl
  | succ n ih =>
      rw [share_succ, share_succ]
      cases (l.course t clock n).chore <;> simp <;> omega

/-- Each of its turns moves a chore on by its interval at least. -/
theorem share_mul_period_le_due (t : Transport σ) (clock : Int64) (l : Loop σ) (c : Chore)
    (n : Nat)
    : l.share t clock c n * l.period c ≤ (l.course t clock n).due c := by
  induction n with
  | zero => simp [share]
  | succ n ih =>
      rw [share_succ, course_succ]
      have same := congrFun (period_course t clock l n) c
      generalize l.course t clock n = m at ih same ⊢
      by_cases turn : m.chore = c
      · subst turn
        have next := (nextTick_bounds m.due_le_served (l.period m.chore)).1
        rw [if_pos rfl, due_tick_chore, same, Nat.add_mul, Nat.one_mul]
        omega
      · rw [if_neg turn, Nat.add_zero, due_tick_of_ne (Ne.symm turn)]
        exact ih

/-- As long as all turns come before the stop, a chore has no more of them than its intervals fit in
the time, and the one at the start.
-/
theorem share_le {n : Nat} (interval : 0 < l.period c)
    (before : ∀ i < n, (l.course t clock i).served < stop)
    : l.share t clock c n ≤ stop / l.period c + 1 := by
  induction n with
  | zero => exact Nat.zero_le _
  | succ n ih =>
      rw [share_succ]
      by_cases turn : (l.course t clock n).chore = c
      · have moved := share_mul_period_le_due t clock l c n
        have reached := (l.course t clock n).due_le_served
        have early := before n (Nat.lt_succ_self n)
        rw [turn] at reached
        have fits := (Nat.le_div_iff_mul_le interval).mpr
          (Nat.le_trans moved (Nat.le_trans reached (Nat.le_of_lt early)))
        rw [if_pos turn]
        exact Nat.succ_le_succ fits
      · rw [if_neg turn, Nat.add_zero]
        exact ih fun i less => before i (Nat.lt_succ_of_lt less)

/-- So the fuel of the loop is not spent before the time is. -/
theorem stop_le_served_of_fuel (intervals : ∀ c, 0 < l.period c)
    {fuel : Nat} (enough : stop / l.period .gossip + stop / l.period .reaping + 2 ≤ fuel)
    (before : ∀ i < fuel, (l.course t clock i).served < stop)
    : stop ≤ (l.course t clock fuel).served := by
  apply Nat.le_of_not_lt
  intro early
  -- With one more turn before the stop, one of the two shares is too great.
  have longer : ∀ i < fuel + 1, (l.course t clock i).served < stop := by
    intro i less
    rcases Nat.lt_succ_iff_lt_or_eq.mp less with less | rfl
    · exact before i less
    · exact early
  have gossip := share_le (intervals .gossip) longer
  have reaping := share_le (intervals .reaping) longer
  have total := share_gossip_add_share_reaping t clock l (fuel + 1)
  omega

-----------------------------------------------------------------------------------------
-- Every due chore is served
-----------------------------------------------------------------------------------------

/-- Both chores are due within their intervals, at the start and behind every turn. -/
theorem due_le_now_add_period (t : Transport σ) (clock : Int64)
    (fresh : ∀ c, l.due c ≤ l.now + l.period c) (n : Nat) (c : Chore)
    : (l.course t clock n).due c ≤ (l.course t clock n).now + l.period c := by
  induction n with
  | zero => exact fresh c
  | succ n ih =>
      rw [course_succ]
      have same := congrFun (period_course t clock l n) c
      generalize l.course t clock n = m at ih same ⊢
      have later : m.served ≤ (m.tick t clock).now := served_le_now_tick
      by_cases turn : c = m.chore
      · subst turn
        have next := (nextTick_bounds m.due_le_served (l.period m.chore)).2
        rw [due_tick_chore, same]
        omega
      · have began := m.now_le_served
        rw [due_tick_of_ne turn]
        omega

/-- What is due before the stop has its turn, unless the last turn lasts until the stop. -/
theorem exists_turn {i count : Nat} (begun : i ≤ count)
    (pending : (l.course t clock i).due c < stop) (ended : (l.course t clock count).now < stop)
    (past : stop ≤ (l.course t clock count).served)
    : ∃ j,
        i ≤ j
        ∧ j < count
        ∧ (l.course t clock j).chore = c
        ∧ (l.course t clock j).due c = (l.course t clock i).due c := by
  -- By induction on the turns that are left: one that is not the chore's leaves it due.
  induction left : count - i generalizing i with
  | zero =>
      have same : i = count := by omega
      subst same
      have first := (l.course t clock i).due_chore_le c
      unfold served at past
      omega
  | succ k ih =>
      by_cases turn : (l.course t clock i).chore = c
      · exact ⟨i, Nat.le_refl _, by omega, turn, rfl⟩
      · have still : (l.course t clock (i + 1)).due c = (l.course t clock i).due c := by
          rw [course_succ, due_tick_of_ne (Ne.symm turn)]
        obtain ⟨j, later, less, has, due⟩ := ih (by omega) (still ▸ pending) (by omega)
        exact ⟨j, by omega, less, has, due.trans still⟩

-----------------------------------------------------------------------------------------
-- Runs
-----------------------------------------------------------------------------------------

/-- A run of the loop up to its stop: all turns begin before it and the next one would not; both
chores are always due within their intervals, and one that is due before the stop has its turn,
unless the last turn lasts until then.
-/
structure RunsUntil (t : Transport σ) (clock : Int64) (stop : Nat) (l : Loop σ) (count : Nat)
    : Prop where
  before : ∀ i < count, (l.course t clock i).served < stop
  past : stop ≤ (l.course t clock count).served
  due : ∀ i ≤ count, ∀ c, (l.course t clock i).due c ≤ (l.course t clock i).now + l.period c
  turn
    : (l.course t clock count).now < stop
      → ∀ i ≤ count, ∀ c,
          (l.course t clock i).due c < stop
          → ∃ j,
              i ≤ j
              ∧ j < count
              ∧ (l.course t clock j).chore = c
              ∧ (l.course t clock j).due c = (l.course t clock i).due c

end Loop

theorem Host.canRun_iff (knobs : Knobs)
    : Host.canRun knobs = true ↔ ∀ c, knobs.period c ≠ 0 := by
  simp only [Host.canRun, Duration.isZero, Bool.and_eq_true, Bool.not_eq_true',
    beq_eq_false_iff_ne]
  constructor
  · rintro ⟨gossip, reaping⟩ c
    cases c with
    | gossip => exact gossip
    | reaping => exact reaping
  · intro all
    exact ⟨all .gossip, all .reaping⟩

theorem Host.exists_runsUntil {σ : Type} {t : Transport σ} {clock : Int64} {stop : Nat}
    {h after : Host σ} (ran : h.runFor? t clock stop = some after)
    : ∃ count,
        ((Loop.start h).course t clock count).host = after
        ∧ (Loop.start h).RunsUntil t clock stop count := by
  unfold Host.runFor? at ran
  split at ran
  · next can =>
      have intervals (c : Chore) : 0 < (Loop.start h).period c :=
        Nat.pos_of_ne_zero ((Host.canRun_iff _).mp can c)
      obtain ⟨count, bounded, ends, before, past⟩ := Loop.exists_turns_of_ticks t clock stop
        (stop / h.node.knobs.synInterval.toNanos + stop / h.node.knobs.expiryInterval.toNanos + 2)
        (Loop.start h)
      have reached : stop ≤ ((Loop.start h).course t clock count).served := by
        rcases Nat.lt_or_eq_of_le bounded with less | same
        · exact past less
        · exact Loop.stop_le_served_of_fuel intervals (Nat.le_of_eq same.symm) before
      have due := Loop.due_le_now_add_period t clock (l := Loop.start h)
        (fun c => by cases c <;> exact Nat.zero_le _)
      exact
        ⟨count, ends.symm.trans (Option.some.inj ran), before, reached, fun i _ c => due i c,
          fun ended i begun c pending => Loop.exists_turn begun pending ended reached⟩
  · nomatch ran

/-- The background loop of a node starts exactly if its configuration, once accepted, sets neither
interval to zero, and then it gossips and reaps until it is stopped.
-/
theorem Loop.runs_until_stop_unless_interval_is_zero {text : String} {config : Config}
    (accepted : Config.parse text = .ok config) {σ : Type} (t : Transport σ) (clock : Int64)
    (stop : Nat) (h : Host σ) (configured : h.node.knobs = config.knobs)
    : ((h.runFor? t clock stop).isSome ↔ ∀ c : Chore, c.interval? text ≠ some 0)
      ∧ ∀ after,
          h.runFor? t clock stop = some after
          → ∃ count,
              ((Loop.start h).course t clock count).host = after
              ∧ (Loop.start h).RunsUntil t clock stop count := by
  refine ⟨?_, fun after ran => Host.exists_runsUntil ran⟩
  have starts : (h.runFor? t clock stop).isSome ↔ Host.canRun h.node.knobs = true := by
    unfold Host.runFor?
    split <;> simp_all
  rw [starts, Host.canRun_iff, configured]
  exact forall_congr' fun c => not_congr (Config.period_eq_zero_iff accepted c)

/-- A node that has no peers. -/
def Host.lonely (knobs : Knobs) : Host Script :=
  ⟨{ (default : Node) with knobs }, .empty, ⟨[], .empty, []⟩⟩

/-- With gossip every second, the loop starts and goes on for a minute. -/
theorem Loop.runs_for_a_minute
    : let config : Config := { Config.default with gossip := ⟨3, 1000, 15000⟩ }
      Config.parse "[gossip]\nsyn_interval_ms = 1000\n" = .ok config
      ∧ ∃ after count,
          (Host.lonely config.knobs).runFor? Script.transport 0 60000000000 = some after
          ∧ ((Loop.start (.lonely config.knobs)).course Script.transport 0 count).host = after
          ∧ (Loop.start (.lonely config.knobs)).RunsUntil Script.transport 0 60000000000
              count := by
  intro config
  have accepted : Config.parse "[gossip]\nsyn_interval_ms = 1000\n" = .ok config := by cbv
  have gossip : Chore.gossip.interval? "[gossip]\nsyn_interval_ms = 1000\n" = some 1000 := by cbv
  have reaping : Chore.reaping.interval? "[gossip]\nsyn_interval_ms = 1000\n" = none := by cbv
  have runs := Loop.runs_until_stop_unless_interval_is_zero accepted Script.transport 0 60000000000
    (.lonely config.knobs) rfl
  have starts := runs.1.mpr fun c => by cases c <;> simp [gossip, reaping]
  obtain ⟨after, ran⟩ := Option.isSome_iff_exists.mp starts
  obtain ⟨count, ends, run⟩ := runs.2 after ran
  exact ⟨accepted, after, count, ran, ends, run⟩

/-- A text that sets an interval to zero is accepted like any other, and no node that runs under it
ever starts its loop.
-/
theorem Loop.never_starts_on_interval_of_zero
    : let config : Config := { Config.default with gossip := ⟨3, 0, 15000⟩ }
      Config.parse "[gossip]\nsyn_interval_ms = 0\n" = .ok config
      ∧ ∀ {σ : Type} (t : Transport σ) (clock : Int64) (stop : Nat) (h : Host σ),
          h.node.knobs = config.knobs → h.runFor? t clock stop = none := by
  intro config
  refine ⟨by cbv, ?_⟩
  intro σ t clock stop h configured
  have empty : Host.canRun config.knobs = false := by decide
  unfold Host.runFor?
  rw [configured, empty]
  rfl

end TaskFabric
