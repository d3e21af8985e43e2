import XdpProfile.Ordering
import Mathlib.Tactic.NormNum

/-!
# Emulation mode: the device clock, the duplicate rule and the memory sides

*The device clock.*  Emulation mode keeps the running device time of a monitor type in
`mPrevTimestamp[type]` and the 32-bit local `timestamp` (lines 163-166): each record adds
its `Timestamp`, and `LOOP_ADD_TIME` when its counter wrapped, before the duplicate rule
looks at it.  So the time a record is decoded at is the exact running sum modulo 2^32
(`samplesOf_emu_time`), over the calls of a device as well (`emu_running_time`).  A
record ends at the time of the record that completes it and starts at a time an earlier
record left in a queue or in `mAccelMonCuTime`, so over any sequence of calls its
`EndTime`, and its `StartTime` unless the device held that before the calls, are running
times modulo 2^32 (`runCalls_emu_times`); `emu_time_wraps` is a batch whose records are
timed past the wrap.  The
`Kernel` interval of a compute unit that ends in the cycle it started has
`EndTime - StartTime = 0`, and line 310 divides by twice that
(`kernel_zero_cycles`).

*The duplicate rule.*  Line 168 drops a record whose `HostTimestamp` equals the 32-bit
local `prevHostTimestamp`, widened, and whose `Timestamp` is 1; `prevHostTimestamp`
starts every call at `0xFFFFFFFF` and keeps the low 32 bits of the last host time handed
on (`clockTraining_emu_skip`).  `duplicate_rule_truncates` is a batch where this drops a
first record and keeps a duplicate.

*The memory sides.*  A memory record runs its write side, then its read side.  A write end
on an empty write queue ends the iteration (line 227), so the read side of that record is
skipped; otherwise the read side does what it would do on the record with its write bits
cleared (`emu_read_side`, `read_side_skipped`).

*The padding.*  A single-beat transaction, whose `End` equals its `Start`, is padded by
`mEmuTraceMsecOneCycle`, which only a completed `Kernel` interval sets (line 310).  After a
call it is the estimate from the last `Kernel` record the call wrote, or what it was before
(`logTraceOps_emu_msecOneCycle`).
-/

namespace XdpProfile

/-! ## The running device time -/

/-- What one record adds to the running device time of its type (lines 163-165): its
`Timestamp`, and `LOOP_ADD_TIME` when `Overflow` is set. -/
def clockInc (cfg : Config) (t : XclTraceResults) : Nat :=
  t.timestamp.toNat + if t.overflow = 1 then cfg.loopAddTime else 0

/-- The exact running device time after each record of a batch, from `p`. -/
def runningTime (cfg : Config) (p : Nat) : List XclTraceResults → List Nat
  | [] => []
  | t :: ts => (p + clockInc cfg t) :: runningTime cfg (p + clockInc cfg t) ts

/-- Running times from starting points that agree modulo 2^32 agree modulo 2^32. -/
theorem runningTime_mod (cfg : Config) (p q : Nat) (h : p % 2 ^ 32 = q % 2 ^ 32)
    (ts : List XclTraceResults) :
    (runningTime cfg p ts).map (· % 2 ^ 32) = (runningTime cfg q ts).map (· % 2 ^ 32) := by
  induction ts generalizing p q with
  | nil => rfl
  | cons t ts ih =>
    have h' : (p + clockInc cfg t) % 2 ^ 32 = (q + clockInc cfg t) % 2 ^ 32 := by
      rw [Nat.add_mod, h, ← Nat.add_mod]
    simp only [runningTime, List.map_cons, h', ih _ _ h']

/-- The 32-bit `timestamp` of line 163 is the running time modulo 2^32. -/
theorem emuTimestamp_toNat (cfg : Config) (prev : UInt32) (t : XclTraceResults) :
    (emuTimestamp cfg prev t).toNat = (prev.toNat + clockInc cfg t) % 2 ^ 32 := by
  have hadd : ∀ a b : UInt32, (a + b).toNat = (a.toNat + b.toNat) % 2 ^ 32 := fun _ _ => rfl
  have h64 : t.timestamp.toUInt32.toNat = t.timestamp.toNat % 2 ^ 32 := rfl
  have hof : (UInt32.ofNat cfg.loopAddTime).toNat = cfg.loopAddTime % 2 ^ 32 := rfl
  unfold emuTimestamp clockInc
  split_ifs <;> simp only [hadd, h64, hof, add_zero] <;> omega

/-- One record of the emulation clock part: it moves the running time of its type, and
hands the record on, if at all, at that time. -/
theorem clockTraining_emu_time (cfg : Config) (rd : Readings) (type : Nat) (f : Front) (i : Nat)
    (t : XclTraceResults) :
    (clockTraining cfg rd true type f i t).1.training.mPrevTimestamp =
        Function.update f.training.mPrevTimestamp type
          (emuTimestamp cfg (f.training.mPrevTimestamp type) t) ∧
      ∀ smp ∈ (clockTraining cfg rd true type f i t).2,
        smp.trace = t ∧ smp.timestamp = emuTimestamp cfg (f.training.mPrevTimestamp type) t := by
  simp only [clockTraining, if_true]
  split_ifs <;> simp

/-- In emulation mode the clock part hands on records of the batch in order, each with the
running device time of its type up to and including it, modulo 2^32, dropped records
included; it leaves that running time, after the whole batch, in `mPrevTimestamp[type]`,
and the running times of the other types alone. -/
theorem samplesOf_emu_time (cfg : Config) (rd : Readings) (type : Nat) (f : Front) (i : Nat)
    (tv : List XclTraceResults) :
    ((samplesOf cfg rd true type f i tv).2.map fun smp => (smp.trace, smp.timestamp.toNat)).Sublist
        (tv.zip ((runningTime cfg (f.training.mPrevTimestamp type).toNat tv).map (· % 2 ^ 32))) ∧
      ((samplesOf cfg rd true type f i tv).1.training.mPrevTimestamp type).toNat =
        ((f.training.mPrevTimestamp type).toNat + (tv.map (clockInc cfg)).sum) % 2 ^ 32 ∧
      ∀ type', type' ≠ type →
        (samplesOf cfg rd true type f i tv).1.training.mPrevTimestamp type' =
          f.training.mPrevTimestamp type' := by
  induction tv generalizing f i with
  | nil => simp [samplesOf, Nat.mod_eq_of_lt (f.training.mPrevTimestamp type).toNat_lt_size]
  | cons t ts ih =>
    obtain ⟨h1, h2⟩ := clockTraining_emu_time cfg rd type f i t
    obtain ⟨i1, i2, i3⟩ := ih (clockTraining cfg rd true type f i t).1 (i + 1)
    have hts : ((clockTraining cfg rd true type f i t).1.training.mPrevTimestamp type).toNat =
        ((f.training.mPrevTimestamp type).toNat + clockInc cfg t) % 2 ^ 32 := by
      rw [h1, Function.update_same, emuTimestamp_toNat]
    rw [hts, runningTime_mod cfg _ _ (Nat.mod_mod _ _)] at i1
    rw [hts] at i2
    refine ⟨?_, ?_, fun type' hne => ?_⟩
    · rw [samplesOf_cons, List.map_append, runningTime, List.map_cons, List.zip_cons_cons]
      cases hc : (clockTraining cfg rd true type f i t).2 with
      | none => exact i1.cons _
      | some smp =>
        obtain ⟨rfl, hsmp⟩ := h2 smp (by simp [hc])
        rw [Option.toList_some, List.map_singleton, hsmp, emuTimestamp_toNat]
        exact i1.cons₂ _
    · rw [samplesOf_cons, i2, List.map_cons, List.sum_cons, Nat.mod_add_mod, Nat.add_assoc]
    · rw [samplesOf_cons, i3 type' hne, h1, Function.update_noteq hne]

/-- `mPrevTimestamp[type]` after a call: the running time of the type continued over the
whole batch, modulo 2^32, when the call passes the guard; the other types keep theirs. -/
theorem logTraceOps_prevTimestamp (cfg : Config) (names : PerfMonKind → Nat → String)
    (rd : Readings) (dev : RTProfileDevice) (type type' : Nat) (tv : List XclTraceResults) :
    ((logTraceOps cfg ⟨true, names⟩ rd dev type tv).1.training.mPrevTimestamp type').toNat =
      if type' = type ∧ dev.mNumTraceEvents < dev.mMaxTraceEvents then
        ((dev.training.mPrevTimestamp type).toNat + (tv.map (clockInc cfg)).sum) % 2 ^ 32
      else (dev.training.mPrevTimestamp type').toNat := by
  obtain ⟨-, h2, h3⟩ := samplesOf_emu_time cfg rd type ⟨dev.training, 0xFFFFFFFF, 0, 0⟩ 0 tv
  rw [logTraceOps_training]
  by_cases hc : dev.mMaxTraceEvents ≤ dev.mNumTraceEvents
  · simp [hc, Nat.not_lt.mpr hc]
  · have hlt : dev.mNumTraceEvents < dev.mMaxTraceEvents := by omega
    by_cases ht : tv = []
    · subst ht
      by_cases hty : type' = type
      · subst hty
        simp [Nat.mod_eq_of_lt (dev.training.mPrevTimestamp type').toNat_lt_size]
      · simp [hty]
    · simp only [hc, ht, or_self, if_false, hlt, and_true]
      split_ifs with hty
      · subst hty; exact h2
      · rw [h3 type' hty]

theorem emuEnd_burst (cfg : Config) (d : Dir) (s : Nat) (ts : UInt32) (host : UInt64) (b : Back) :
    ∀ e ∈ sideOps (emuEnd cfg d s ts host b),
      e.record.burstLength = e.record.endTime - e.record.startTime + 1 := by
  intro e he
  unfold emuEnd at he
  split at he
  · simp [sideOps] at he
  · rw [List.mem_singleton.1 (List.mem_ite_nil_right.1 he).2]
    rfl

theorem emuSide_burst (cfg : Config) (d : Dir) (s : Nat) (ts : UInt32) (host : UInt64)
    (flags : UInt8) (b : Back) : ∀ e ∈ sideOps (emuSide cfg d s ts host flags b),
      e.record.burstLength = e.record.endTime - e.record.startTime + 1 := by
  intro e he
  simp only [emuSide] at he
  split at he
  · exact emuEnd_burst cfg d s ts host _ e he
  · simp [sideOps] at he

/-- Every record the emulation memory path writes counts its burst from both ends. -/
theorem emuMemory_burst (cfg : Config) (b : Back) (smp : Sample) :
    ∀ e ∈ (emuMemory cfg b smp).2, e.record.burstLength = e.record.endTime - e.record.startTime + 1 := by
  have hside := fun d b' => emuSide_burst cfg d (smp.trace.traceID / 2) smp.timestamp
    smp.hostTimestampNsec smp.trace.eventFlags b'
  simp only [emuMemory]
  split
  · simp
  · rename_i b1 o hw
    have ho := hside .write b
    rw [hw] at ho
    split
    · exact ho
    · rename_i b2 o' hr
      have ho' := hside .read b1
      rw [hr] at ho'
      intro e he
      rcases List.mem_append.mp he with he | he
      exacts [ho e he, ho' e he]

/-- The compute unit path writes its `Kernel` records with `BurstLength` 0. -/
theorem emuCu_burst (b : Back) (smp : Sample) : ∀ e ∈ (emuCu b smp).2, e.record.burstLength = 0 := by
  simp only [emuCu]
  split_ifs <;> simp [Emit.record]

/-! ## The device times of the records -/

/-- The running device times, modulo 2^32, of the records of a sequence of emulation calls,
from the exact running times `p` of the types, a count `n` and a cap: every call that passes
the guard continues the running time of its type over its batch. -/
def runTimes (cfg : Config) : (Nat → Nat) → Nat → Nat → List Call → List Nat
  | _, _, _, [] => []
  | p, n, cap, c :: cs =>
    if cap ≤ n ∨ c.traceVector = [] then runTimes cfg p n cap cs
    else (runningTime cfg (p c.type) c.traceVector).map (· % 2 ^ 32) ++
      runTimes cfg (Function.update p c.type (p c.type + (c.traceVector.map (clockInc cfg)).sum))
        (n + c.traceVector.length) cap cs

/-- A device time the slot members keep for a later record: an open start of a memory
queue, or the start of an open compute unit interval. -/
def Monitors.Holds (m : Monitors) (x : UInt64) : Prop :=
  (∃ d s, x ∈ m.starts d s) ∨
    ∃ s, m.mAccelMonStartedEvents s &&& xsamTraceCuMask ≠ 0 ∧ m.mAccelMonCuTime s = x

/-- One side of an emulation memory record: its record ends at the record's device time and
starts at an open start of its queue or at that time; the queues keep only what they held
and that time. -/
theorem emuSide_times (cfg : Config) (d : Dir) (s : Nat) (ts : UInt32) (host : UInt64)
    (flags : UInt8) (b : Back) :
    (∀ x d' s', x ∈ (sideBack (emuSide cfg d s ts host flags b)).monitors.starts d' s' →
      x ∈ b.monitors.starts d' s' ∨ x = ts.toUInt64) ∧
      ∀ e ∈ sideOps (emuSide cfg d s ts host flags b), e.record.endTime = ts.toUInt64 ∧
        (e.record.startTime ∈ b.monitors.starts d s ∨ e.record.startTime = ts.toUInt64) := by
  have hpush : ∀ x d' s', x ∈ (if getBit flags (cfg.firstBit d) then
      b.pushStart d s ts.toUInt64 host else b).monitors.starts d' s' →
      x ∈ b.monitors.starts d' s' ∨ x = ts.toUInt64 := by
    intro x d' s' hx
    split_ifs at hx
    · simp only [Back.pushStart, Monitors.starts_setHostStarts, Monitors.starts_setStarts] at hx
      split_ifs at hx with h
      · obtain ⟨rfl, rfl⟩ := h
        simpa using hx
      · exact .inl hx
    · exact .inl hx
  simp only [emuSide]
  generalize (if getBit flags (cfg.firstBit d) = true then b.pushStart d s ts.toUInt64 host else b) = b1
    at hpush ⊢
  split
  · unfold emuEnd
    split
    · exact ⟨hpush, by simp [sideOps]⟩
    · rename_i startTime rest hq
      refine ⟨fun x d' s' hx => hpush x d' s' ?_, ?_⟩
      · simp only [sideBack, Monitors.starts_setHostStarts, Monitors.starts_setStarts] at hx
        split_ifs at hx with h
        · obtain ⟨rfl, rfl⟩ := h
          exact hq ▸ .tail _ hx
        · exact hx
      · intro e he
        simp only [sideOps] at he
        rw [List.mem_singleton.1 (List.mem_ite_nil_right.1 he).2]
        exact ⟨rfl, hpush _ _ _ (hq ▸ .head _)⟩
  · exact ⟨hpush, by simp [sideOps]⟩

/-- An emulation memory record writes records that end at its device time and start at an
open start or at that time; the queues keep only what they held and that time. -/
theorem emuMemory_times (cfg : Config) (b : Back) (smp : Sample) :
    (∀ x d s, x ∈ (emuMemory cfg b smp).1.monitors.starts d s →
      x ∈ b.monitors.starts d s ∨ x = smp.timestamp.toUInt64) ∧
      ∀ e ∈ (emuMemory cfg b smp).2, e.record.endTime = smp.timestamp.toUInt64 ∧
        ((∃ d s, e.record.startTime ∈ b.monitors.starts d s) ∨
          e.record.startTime = smp.timestamp.toUInt64) := by
  obtain ⟨w1, w2⟩ := emuSide_times cfg .write (smp.trace.traceID / 2) smp.timestamp
    smp.hostTimestampNsec smp.trace.eventFlags b
  simp only [emuMemory]
  cases hw : emuSide cfg .write (smp.trace.traceID / 2) smp.timestamp smp.hostTimestampNsec
    smp.trace.eventFlags b with
  | error b1 =>
    simp only [hw, sideBack] at w1
    exact ⟨w1, by simp⟩
  | ok p =>
    obtain ⟨b1, o⟩ := p
    simp only [hw, sideBack, sideOps] at w1 w2
    obtain ⟨r1, r2⟩ := emuSide_times cfg .read (smp.trace.traceID / 2) smp.timestamp
      smp.hostTimestampNsec smp.trace.eventFlags b1
    have hw2 : ∀ e ∈ o, e.record.endTime = smp.timestamp.toUInt64 ∧
        ((∃ d s, e.record.startTime ∈ b.monitors.starts d s) ∨
          e.record.startTime = smp.timestamp.toUInt64) := fun e he =>
      (w2 e he).imp_right (Or.imp_left fun h => ⟨_, _, h⟩)
    have hr2 : ∀ e ∈ sideOps (emuSide cfg .read (smp.trace.traceID / 2) smp.timestamp
        smp.hostTimestampNsec smp.trace.eventFlags b1), e.record.endTime = smp.timestamp.toUInt64 ∧
        ((∃ d s, e.record.startTime ∈ b.monitors.starts d s) ∨
          e.record.startTime = smp.timestamp.toUInt64) := fun e he =>
      (r2 e he).imp_right fun h => h.elim (fun h => (w1 _ _ _ h).imp_left fun h => ⟨_, _, h⟩) .inr
    have hr1 : ∀ x d s, x ∈ (sideBack (emuSide cfg .read (smp.trace.traceID / 2) smp.timestamp
        smp.hostTimestampNsec smp.trace.eventFlags b1)).monitors.starts d s →
        x ∈ b.monitors.starts d s ∨ x = smp.timestamp.toUInt64 := fun x d s hx =>
      (r1 x d s hx).elim (w1 x d s) .inr
    dsimp only
    cases hr : emuSide cfg .read (smp.trace.traceID / 2) smp.timestamp smp.hostTimestampNsec
      smp.trace.eventFlags b1 with
    | error b2 =>
      simp only [hr, sideBack] at hr1
      exact ⟨hr1, hw2⟩
    | ok p2 =>
      obtain ⟨b2, o'⟩ := p2
      simp only [hr, sideBack, sideOps] at hr1 hr2
      exact ⟨hr1, fun e he => (List.mem_append.mp he).elim (hw2 e) (hr2 e)⟩

/-- An emulation compute unit record leaves the members holding what they held and its own
device time; its `Kernel` record ends at that time and starts at the held start of its
compute unit. -/
theorem emuCu_times (b : Back) (smp : Sample) :
    (∀ x, (emuCu b smp).1.monitors.Holds x → b.monitors.Holds x ∨ x = smp.timestamp.toUInt64) ∧
      ∀ e ∈ (emuCu b smp).2, e.record.endTime = smp.timestamp.toUInt64 ∧
        b.monitors.Holds e.record.startTime := by
  obtain ⟨h1, h2, -, h4⟩ := emuCu_spec b smp
  have hq := (emuCu_queues b smp).1
  refine ⟨fun x hx => ?_, fun e he => ?_⟩
  · rcases hx with ⟨d, s, hx⟩ | ⟨s, hs, rfl⟩
    · exact .inl (.inl ⟨d, s, hq ▸ hx⟩)
    · rw [h1] at hs
      rw [h2]
      by_cases hs' : s = smp.trace.traceID - 64
      · subst hs'
        split_ifs at hs ⊢ with hf hst
        · exact .inl (.inr ⟨_, hst, rfl⟩)
        · exact .inr (Function.update_same _ _ _)
        · exact .inl (.inr ⟨_, hs, rfl⟩)
      · split_ifs at hs ⊢
        · rw [Function.update_noteq hs'] at hs
          exact .inl (.inr ⟨s, hs, rfl⟩)
        · rw [Function.update_noteq hs'] at hs
          rw [Function.update_noteq hs']
          exact .inl (.inr ⟨s, hs, rfl⟩)
        · exact .inl (.inr ⟨s, hs, rfl⟩)
  · rw [h4] at he
    split_ifs at he with hf hst
    · rw [List.mem_singleton.1 he]
      exact ⟨rfl, .inr ⟨_, hst, rfl⟩⟩
    all_goals exact absurd he (List.not_mem_nil e)

/-- An emulation record writes records that end at its device time and start at a time
the members held or at that time; the members keep only what they held and that time. -/
theorem decodeSample_emu_times (cfg : Config) (conv : UInt64 → ℚ) (b : Back) (smp : Sample) :
    (∀ x, (decodeSample cfg true conv b smp).1.monitors.Holds x →
      b.monitors.Holds x ∨ x = smp.timestamp.toUInt64) ∧
      ∀ e ∈ (decodeSample cfg true conv b smp).2, e.record.endTime = smp.timestamp.toUInt64 ∧
        (b.monitors.Holds e.record.startTime ∨ e.record.startTime = smp.timestamp.toUInt64) := by
  simp only [decodeSample, if_true]
  split_ifs
  · obtain ⟨m1, m2⟩ := emuMemory_times cfg b smp
    obtain ⟨f, -⟩ := emuMemory_frame (fun m => (m.mAccelMonStartedEvents, m.mAccelMonCuTime))
      (fun _ d _ _ => by cases d <;> exact ⟨rfl, rfl⟩) cfg b smp
    simp only [Prod.mk.injEq] at f
    refine ⟨fun x hx => ?_, fun e he => (m2 e he).imp_right (Or.imp_left .inl)⟩
    rcases hx with ⟨d, s, hx⟩ | hx
    · exact (m1 x d s hx).imp_left fun h => .inl ⟨d, s, h⟩
    · exact .inl (.inr (f.1 ▸ f.2 ▸ hx))
  · exact ⟨(emuCu_times b smp).1, fun e he => ((emuCu_times b smp).2 e he).imp_right .inl⟩
  · exact ⟨fun x hx => .inl hx, by simp⟩

/-- The record loop over a list of emulation samples: its records end at the device time of
one of the samples and start at a time the members held or at such a time; the members keep
only what they held and those times. -/
theorem mealyRun_emu_times (cfg : Config) (conv : UInt64 → ℚ) (b : Back) (smps : List Sample) :
    (∀ x, (mealyRun (decodeSample cfg true conv) b smps).1.monitors.Holds x →
      b.monitors.Holds x ∨ x.toNat ∈ smps.map (·.timestamp.toNat)) ∧
      ∀ e ∈ (mealyRun (decodeSample cfg true conv) b smps).2,
        e.record.endTime.toNat ∈ smps.map (·.timestamp.toNat) ∧
          (b.monitors.Holds e.record.startTime ∨ e.record.startTime.toNat ∈ smps.map (·.timestamp.toNat)) := by
  induction smps generalizing b with
  | nil => simp
  | cons smp smps ih =>
    obtain ⟨h1, h2⟩ := decodeSample_emu_times cfg conv b smp
    obtain ⟨i1, i2⟩ := ih (decodeSample cfg true conv b smp).1
    have hts : ∀ x : UInt64, x = smp.timestamp.toUInt64 → x.toNat = smp.timestamp.toNat :=
      fun x h => h ▸ rfl
    simp only [mealyRun_cons, List.map_cons, List.mem_cons, List.mem_append]
    refine ⟨fun x hx => ?_, fun e he => ?_⟩
    · rcases i1 x hx with h | h
      · exact (h1 x h).imp_right fun h => .inl (hts x h)
      · exact .inr (.inr h)
    · rcases he with he | he
      · obtain ⟨he1, he2⟩ := h2 e he
        exact ⟨.inl (hts _ he1), he2.imp_right fun h => .inl (hts _ h)⟩
      · obtain ⟨he1, he2⟩ := i2 e he
        refine ⟨.inr he1, ?_⟩
        rcases he2 with h | h
        · exact (h1 _ h).imp_right fun h => .inl (hts _ h)
        · exact .inr (.inr h)

/-- Emulation mode does not read the conversion. -/
theorem decodeSample_emu_conv (cfg : Config) (conv conv' : UInt64 → ℚ) (b : Back) (smp : Sample) :
    decodeSample cfg true conv b smp = decodeSample cfg true conv' b smp := by
  simp only [decodeSample, if_true]

/-- An emulation call: its records end at a running device time of the call, modulo 2^32,
and start at such a time or at one the device held before the call; afterwards the device
holds only what it held and such times. -/
theorem logTraceOps_emu_times (cfg : Config) (names : PerfMonKind → Nat → String) (rd : Readings)
    (dev : RTProfileDevice) (type : Nat) (tv : List XclTraceResults) :
    (∀ x, (logTraceOps cfg ⟨true, names⟩ rd dev type tv).1.monitors.Holds x →
      dev.monitors.Holds x ∨
        x.toNat ∈ (runningTime cfg (dev.training.mPrevTimestamp type).toNat tv).map (· % 2 ^ 32)) ∧
      ∀ e ∈ (logTraceOps cfg ⟨true, names⟩ rd dev type tv).2,
        e.record.endTime.toNat ∈ (runningTime cfg (dev.training.mPrevTimestamp type).toNat tv).map (· % 2 ^ 32) ∧
          (dev.monitors.Holds e.record.startTime ∨
            e.record.startTime.toNat ∈
              (runningTime cfg (dev.training.mPrevTimestamp type).toNat tv).map (· % 2 ^ 32)) := by
  by_cases hg : dev.mMaxTraceEvents ≤ dev.mNumTraceEvents ∨ tv = []
  · rw [logTraceOps_of_full cfg _ rd dev type tv hg]
    exact ⟨fun x hx => .inl hx, by simp⟩
  · have hsub := (samplesOf_emu_time cfg rd type ⟨dev.training, 0xFFFFFFFF, 0, 0⟩ 0 tv).1
    have hmem : ∀ n, n ∈ (samplesOf cfg rd true type ⟨dev.training, 0xFFFFFFFF, 0, 0⟩ 0 tv).2.map
        (·.timestamp.toNat) →
        n ∈ (runningTime cfg (dev.training.mPrevTimestamp type).toNat tv).map (· % 2 ^ 32) := by
      intro n hn
      obtain ⟨smp, hs, rfl⟩ := List.mem_map.1 hn
      exact (List.of_mem_zip (hsub.subset (List.mem_map_of_mem _ hs))).2
    obtain ⟨-, h1, h2⟩ := recordLoop_sim cfg rd true type (decodeSample cfg true fun _ => 0) id some
      (fun _ => True) (fun _ _ _ _ => trivial) (fun conv b smp _ =>
        ⟨congrArg Prod.fst (decodeSample_emu_conv cfg conv _ b smp),
          (List.filterMap_some _).trans (congrArg Prod.snd (decodeSample_emu_conv cfg conv _ b smp))⟩)
      ⟨dev.training, 0xFFFFFFFF, 0, 0⟩ ⟨dev.monitors, cfg.defaultTrace⟩ 0 tv trivial
    simp only [id, List.filterMap_some] at h1 h2
    obtain ⟨m1, m2⟩ := mealyRun_emu_times cfg (fun _ => 0) ⟨dev.monitors, cfg.defaultTrace⟩
      (samplesOf cfg rd true type ⟨dev.training, 0xFFFFFFFF, 0, 0⟩ 0 tv).2
    simp only [logTraceOps, hg, if_false, if_true, recordLoop, List.append_nil, h1, h2]
    refine ⟨fun x hx => (m1 x ?_).imp_right (hmem _), fun e he =>
      ⟨hmem _ (m2 e he).1, (m2 e he).2.imp_right (hmem _)⟩⟩
    rcases hx with ⟨d, s, hx⟩ | ⟨s, hs, hx⟩
    · exact .inl ⟨d, s, by simpa using hx⟩
    · refine .inr ⟨s, ?_, hx⟩
      simp only [Monitors.clearStarted] at hs
      split_ifs at hs
      · simp [xsamTraceCuMask] at hs
      · exact hs

/-- Over a sequence of emulation calls from exact running times `p` that the device's
`mPrevTimestamp` agrees with modulo 2^32, every record ends at one of the run's running
times modulo 2^32, and starts at one or at a time the device held before the run. -/
theorem runCalls_emu_times (cfg : Config) (names : PerfMonKind → Nat → String) (calls : List Call) :
    ∀ (dev : RTProfileDevice) (p : Nat → Nat),
      (∀ ty, (dev.training.mPrevTimestamp ty).toNat = p ty % 2 ^ 32) →
      ∀ e ∈ (runCalls cfg ⟨true, names⟩ dev calls).2,
        e.record.endTime.toNat ∈ runTimes cfg p dev.mNumTraceEvents dev.mMaxTraceEvents calls ∧
          (dev.monitors.Holds e.record.startTime ∨
            e.record.startTime.toNat ∈ runTimes cfg p dev.mNumTraceEvents dev.mMaxTraceEvents calls) := by
  induction calls with
  | nil => simp [runCalls]
  | cons c cs ih =>
    intro dev p hp e he
    simp only [runCalls, mealyRun_cons, List.mem_append] at he
    by_cases hg : dev.mMaxTraceEvents ≤ dev.mNumTraceEvents ∨ c.traceVector = []
    · rw [logTraceOps_of_full cfg _ c.readings dev c.type _ hg] at he
      simp only [List.not_mem_nil, false_or] at he
      simpa [runTimes, hg] using ih dev p hp e he
    · obtain ⟨h1, h2⟩ := logTraceOps_emu_times cfg names c.readings dev c.type c.traceVector
      have hR : (runningTime cfg (dev.training.mPrevTimestamp c.type).toNat c.traceVector).map
          (· % 2 ^ 32) = (runningTime cfg (p c.type) c.traceVector).map (· % 2 ^ 32) :=
        runningTime_mod cfg _ _ (by rw [hp, Nat.mod_mod]) _
      rw [hR] at h1 h2
      have hn := logTraceOps_count cfg ⟨true, names⟩ c.readings dev c.type c.traceVector
      rw [if_neg hg] at hn
      have hlt : dev.mNumTraceEvents < dev.mMaxTraceEvents := by omega
      have hp' : ∀ ty, ((logTraceOps cfg ⟨true, names⟩ c.readings dev c.type
          c.traceVector).1.training.mPrevTimestamp ty).toNat =
          Function.update p c.type (p c.type + (c.traceVector.map (clockInc cfg)).sum) ty % 2 ^ 32 := by
        intro ty
        rw [logTraceOps_prevTimestamp]
        by_cases hty : ty = c.type
        · subst hty
          rw [if_pos ⟨rfl, hlt⟩, Function.update_same, hp, Nat.mod_add_mod]
        · rw [if_neg fun h => hty h.1, Function.update_noteq hty, hp]
      have hih := ih _ _ hp'
      rw [hn, logTraceOps_max] at hih
      simp only [runTimes, hg, if_false, List.mem_append]
      rcases he with he | he
      · exact ⟨.inl (h2 e he).1, (h2 e he).2.imp_right .inl⟩
      · obtain ⟨k1, k2⟩ := hih e he
        refine ⟨.inr k1, ?_⟩
        rcases k2 with k | k
        · exact (h1 _ k).imp_right .inl
        · exact .inr (.inr k)

/-- An emulation batch from the constructed device: a compute unit starts on slot 0 at
device time 5 and host time 1 ms, and ends at host time 2 ms on a record whose `Timestamp`
is 0, so in the same device cycle.  Its `Kernel` record has `EndTime - StartTime = 0` and
`End - Start = 1`, and line 310 divides by twice that zero. -/
theorem kernel_zero_cycles :
    ((logTraceOps sampleConfig ⟨true, fun _ _ => ""⟩ ⟨0, 0, id⟩ (RTProfileDevice.construct sampleConfig .blank) 0
        [⟨5, 0, 64, 0, 1000000, 1, 0⟩, ⟨0, 0, 64, 0, 2000000, 1, 0⟩]).2.map
        fun e => (e.record.type, e.record.endTime - e.record.startTime, e.record.«end» - e.record.start)) =
      [("Kernel", 0, 1)] ∧
    (logTraceOps sampleConfig ⟨true, fun _ _ => ""⟩ ⟨0, 0, id⟩ (RTProfileDevice.construct sampleConfig .blank) 0
        [⟨5, 0, 64, 0, 1000000, 1, 0⟩, ⟨0, 0, 64, 0, 2000000, 1, 0⟩]).1.monitors.mEmuTraceMsecOneCycle =
      (2000000 / 1000000 - 1000000 / 1000000) / ((2 * (5 - 5 : UInt64)).toNat : ℚ) := by
  constructor
  · simp +decide [logTraceOps, recordLoop, recordStep, clockTraining, decodeSample, emuCu,
      RTProfileDevice.construct, RTProfileDevice.blank, emuTimestamp]
    norm_num [Emit.record]
  · simp +decide [logTraceOps, recordLoop, recordStep, clockTraining, decodeSample, emuCu,
      RTProfileDevice.construct, RTProfileDevice.blank, emuTimestamp, Monitors.clearStarted]

/-! ## The duplicate rule -/

/-- The duplicate rule of line 168 on one record: it drops the record exactly when its
64-bit `HostTimestamp` equals the 32-bit `prevHostTimestamp` and its `Timestamp` is 1; a
record handed on leaves the low 32 bits of its `HostTimestamp` there. -/
theorem clockTraining_emu_skip (cfg : Config) (rd : Readings) (type : Nat) (f : Front) (i : Nat)
    (t : XclTraceResults) :
    ((clockTraining cfg rd true type f i t).2 = none ↔
        t.hostTimestamp.toNat = f.prevHostTimestamp.toNat ∧ t.timestamp = 1) ∧
      (clockTraining cfg rd true type f i t).1.prevHostTimestamp.toNat =
        if t.hostTimestamp.toNat = f.prevHostTimestamp.toNat ∧ t.timestamp = 1 then
          f.prevHostTimestamp.toNat
        else t.hostTimestamp.toNat % 2 ^ 32 := by
  have heq : t.hostTimestamp = f.prevHostTimestamp.toUInt64 ↔
      t.hostTimestamp.toNat = f.prevHostTimestamp.toNat :=
    ⟨congrArg UInt64.toNat, fun h => by exact UInt64.toNat.inj h⟩
  simp only [clockTraining, if_true, heq]
  split_ifs with h <;> exact ⟨by simp [h], rfl⟩

/-- An emulation batch whose first record has `HostTimestamp` `0xFFFFFFFF` and `Timestamp`
1, then two records with `HostTimestamp` `2^32`, the second with `Timestamp` 1: from the
state a call starts in, the clock part drops the first record and hands on the other two. -/
theorem duplicate_rule_truncates :
    ((samplesOf sampleConfig ⟨0, 0, id⟩ true 0
        ⟨(RTProfileDevice.construct sampleConfig .blank).training, 0xFFFFFFFF, 0, 0⟩ 0
        [⟨1, 0, 64, 0, 0xFFFFFFFF, 0, 0⟩, ⟨5, 0, 64, 0, 0x100000000, 0, 0⟩,
          ⟨1, 0, 64, 0, 0x100000000, 0, 0⟩]).2.map
        fun smp => (smp.trace.timestamp, smp.trace.hostTimestamp)) =
      [(5, 0x100000000), (1, 0x100000000)] := by
  decide

/-! ## The memory sides -/

section SideView

variable (cfg : Config) (d : Dir) (s : Nat) (ts : UInt32) (host : UInt64) (b b' : Back)
  (h1 : b'.monitors.starts d s = b.monitors.starts d s)
  (h2 : b'.monitors.hostStarts d s = b.monitors.hostStarts d s)
  (h3 : b'.monitors.mEmuTraceMsecOneCycle = b.monitors.mEmuTraceMsecOneCycle)
include h1 h2 h3

theorem emuEnd_view :
    (sideBack (emuEnd cfg d s ts host b')).monitors.starts d s =
        (sideBack (emuEnd cfg d s ts host b)).monitors.starts d s ∧
      (sideBack (emuEnd cfg d s ts host b')).monitors.hostStarts d s =
        (sideBack (emuEnd cfg d s ts host b)).monitors.hostStarts d s ∧
      sideOps (emuEnd cfg d s ts host b') = sideOps (emuEnd cfg d s ts host b) := by
  unfold emuEnd
  rw [h1]
  cases b.monitors.starts d s <;> simp [sideBack, sideOps, h1, h2, h3]

theorem emuSide_view (flags : UInt8) :
    (sideBack (emuSide cfg d s ts host flags b')).monitors.starts d s =
        (sideBack (emuSide cfg d s ts host flags b)).monitors.starts d s ∧
      (sideBack (emuSide cfg d s ts host flags b')).monitors.hostStarts d s =
        (sideBack (emuSide cfg d s ts host flags b)).monitors.hostStarts d s ∧
      sideOps (emuSide cfg d s ts host flags b') = sideOps (emuSide cfg d s ts host flags b) := by
  have hv : ∀ c : Bool,
      (if c then b'.pushStart d s ts.toUInt64 host else b').monitors.starts d s =
        (if c then b.pushStart d s ts.toUInt64 host else b).monitors.starts d s ∧
      (if c then b'.pushStart d s ts.toUInt64 host else b').monitors.hostStarts d s =
        (if c then b.pushStart d s ts.toUInt64 host else b).monitors.hostStarts d s ∧
      (if c then b'.pushStart d s ts.toUInt64 host else b').monitors.mEmuTraceMsecOneCycle =
        (if c then b.pushStart d s ts.toUInt64 host else b).monitors.mEmuTraceMsecOneCycle := by
    intro c
    cases c
    · exact ⟨h1, h2, h3⟩
    · exact ⟨by simp [Back.pushStart, h1], by simp [Back.pushStart, h2], by cases d <;> exact h3⟩
  obtain ⟨v1, v2, v3⟩ := hv (getBit flags (cfg.firstBit d))
  simp only [emuSide]
  split
  · exact emuEnd_view cfg d s ts host _ _ v1 v2 v3
  · exact ⟨v1, v2, rfl⟩

end SideView

/-- One side of an emulation memory record leaves the queues of the other direction and
the padding alone. -/
theorem emuSide_other (cfg : Config) (d : Dir) (s : Nat) (ts : UInt32) (host : UInt64)
    (flags : UInt8) (b : Back) (d' : Dir) (hd : d' ≠ d) (s' : Nat) :
    (sideBack (emuSide cfg d s ts host flags b)).monitors.starts d' s' = b.monitors.starts d' s' ∧
      (sideBack (emuSide cfg d s ts host flags b)).monitors.hostStarts d' s' =
        b.monitors.hostStarts d' s' := by
  have hp : ∀ c : Bool, (if c then b.pushStart d s ts.toUInt64 host else b).monitors.starts d' s' =
      b.monitors.starts d' s' ∧
      (if c then b.pushStart d s ts.toUInt64 host else b).monitors.hostStarts d' s' =
        b.monitors.hostStarts d' s' := by
    intro c; cases c <;> simp [Back.pushStart, hd]
  obtain ⟨p1, p2⟩ := hp (getBit flags (cfg.firstBit d))
  simp only [emuSide]
  split
  · unfold emuEnd
    split
    · exact ⟨p1, p2⟩
    · simp [sideBack, hd, p1, p2]
  · exact ⟨p1, p2⟩

/-- A side ends the iteration exactly when the record ends a transaction of its direction,
starts none, and the start queue is empty; it then leaves the state as it was. -/
theorem emuSide_eq_error (cfg : Config) (d : Dir) (s : Nat) (ts : UInt32) (host : UInt64)
    (flags : UInt8) (b b1 : Back) :
    emuSide cfg d s ts host flags b = .error b1 ↔
      (getBit flags (cfg.lastBit d) && !getBit flags (cfg.firstBit d) &&
        (b.monitors.starts d s).isEmpty) = true ∧ b1 = b := by
  simp only [emuSide]
  cases hf : getBit flags (cfg.firstBit d) <;> cases hl : getBit flags (cfg.lastBit d) <;>
    simp only [if_true, if_false, Bool.false_eq_true, reduceCtorEq, false_iff, Bool.and_false,
      Bool.false_and, Bool.not_true, Bool.not_false, Bool.true_and, false_and, not_false_eq_true]
  · unfold emuEnd
    cases hq : b.monitors.starts d s <;> simp [eq_comm]
  · unfold emuEnd
    cases hq : b.monitors.starts d s <;> simp [Back.pushStart, hq]

/-- `EventFlags` with the bits `XAPM_WRITE_FIRST` and `XAPM_WRITE_LAST` cleared. -/
def Config.clearWriteBits (cfg : Config) (flags : UInt8) : UInt8 :=
  flags &&& ~~~(UInt8.ofNat (2 ^ cfg.xapmWriteFirst ||| 2 ^ cfg.xapmWriteLast))

/-- A record with the write bits of its `EventFlags` cleared. -/
def Sample.clearWriteBits (cfg : Config) (smp : Sample) : Sample :=
  { smp with trace := { smp.trace with eventFlags := cfg.clearWriteBits smp.trace.eventFlags } }

/-- The write side of an emulation memory record ends the iteration (line 227): the record
ends a write, starts none, and the write start queue of its slot is empty. -/
def writeSideEnds (cfg : Config) (m : Monitors) (smp : Sample) : Bool :=
  getBit smp.trace.eventFlags (cfg.lastBit .write) && !getBit smp.trace.eventFlags (cfg.firstBit .write) &&
    (m.starts .write (smp.trace.traceID / 2)).isEmpty

theorem getBit_clearWriteBits (cfg : Config) (flags : UInt8) (k : Nat) (hk : k < 8) :
    getBit (cfg.clearWriteBits flags) k =
      (getBit flags k && !decide (cfg.xapmWriteFirst = k) && !decide (cfg.xapmWriteLast = k)) := by
  rw [getBit_eq_testBit, getBit_eq_testBit]
  show (flags.toBitVec &&& ~~~(BitVec.ofNat 8 (2 ^ cfg.xapmWriteFirst ||| 2 ^ cfg.xapmWriteLast))).toNat.testBit k = _
  rw [BitVec.testBit_toNat, BitVec.getLsbD_and, BitVec.getLsbD_not, BitVec.getLsbD_ofNat,
    Nat.testBit_lor, Nat.testBit_two_pow, Nat.testBit_two_pow, ← BitVec.testBit_toNat]
  simp [hk, Bool.and_assoc]
  rfl

/-- Clearing the write bits clears the write side's bits and keeps the read side's. -/
theorem Config.clearWriteBits_getBit (cfg : Config) (flags : UInt8) :
    getBit (cfg.clearWriteBits flags) (cfg.firstBit .write) = false ∧
      getBit (cfg.clearWriteBits flags) (cfg.lastBit .write) = false ∧
      getBit (cfg.clearWriteBits flags) (cfg.firstBit .read) = getBit flags (cfg.firstBit .read) ∧
      getBit (cfg.clearWriteBits flags) (cfg.lastBit .read) = getBit flags (cfg.lastBit .read) := by
  obtain ⟨hn, h1, h2, h3, h4⟩ := cfg.flagBits
  simp only [List.nodup_cons, List.mem_cons, List.mem_singleton, not_or] at hn
  obtain ⟨⟨a1, a2, a3, -⟩, ⟨b1, b2, -⟩, -⟩ := hn
  simp [Config.firstBit, Config.lastBit, getBit_clearWriteBits cfg flags _ h1,
    getBit_clearWriteBits cfg flags _ h2, getBit_clearWriteBits cfg flags _ h3,
    getBit_clearWriteBits cfg flags _ h4, a1, a2, a3, b1, b2]

/-- In emulation mode, the read side of a memory record does to the read queues of its slot,
and writes, what it would on the record with its write bits cleared; unless the write side
ends the iteration, in which case the record leaves those queues as they were and writes no
`Read` record. -/
theorem emu_read_side (cfg : Config) (conv : UInt64 → ℚ) (b : Back) (smp : Sample)
    (h : smp.trace.traceID < 61) :
    (decodeSample cfg true conv b smp).1.monitors.starts .read (smp.trace.traceID / 2) =
        (if writeSideEnds cfg b.monitors smp then b.monitors.starts .read (smp.trace.traceID / 2)
        else (decodeSample cfg true conv b (smp.clearWriteBits cfg)).1.monitors.starts .read
          (smp.trace.traceID / 2)) ∧
      (decodeSample cfg true conv b smp).1.monitors.hostStarts .read (smp.trace.traceID / 2) =
        (if writeSideEnds cfg b.monitors smp then b.monitors.hostStarts .read (smp.trace.traceID / 2)
        else (decodeSample cfg true conv b (smp.clearWriteBits cfg)).1.monitors.hostStarts .read
          (smp.trace.traceID / 2)) ∧
      ((decodeSample cfg true conv b smp).2.map Emit.record).filter (·.type = "Read") =
        (if writeSideEnds cfg b.monitors smp then []
        else ((decodeSample cfg true conv b (smp.clearWriteBits cfg)).2.map Emit.record).filter
          (·.type = "Read")) := by
  obtain ⟨c1, c2, c3, c4⟩ := cfg.clearWriteBits_getBit smp.trace.eventFlags
  have hdec : ∀ smp' : Sample, smp'.trace.traceID = smp.trace.traceID →
      decodeSample cfg true conv b smp' = emuMemory cfg b smp' := fun smp' h' => by
    simp [decodeSample, h', h]
  have hclear : decodeSample cfg true conv b (smp.clearWriteBits cfg) =
      (sideBack (emuSide cfg .read (smp.trace.traceID / 2) smp.timestamp smp.hostTimestampNsec
          smp.trace.eventFlags b),
        sideOps (emuSide cfg .read (smp.trace.traceID / 2) smp.timestamp smp.hostTimestampNsec
          smp.trace.eventFlags b)) := by
    rw [hdec (smp.clearWriteBits cfg) rfl, emuMemory_of_ok cfg b b _ [] (by simp [emuSide, Sample.clearWriteBits, c1, c2])]
    simp only [emuSide, Sample.clearWriteBits, c3, c4, List.nil_append]
  rw [hdec smp rfl, hclear]
  cases hw : emuSide cfg .write (smp.trace.traceID / 2) smp.timestamp smp.hostTimestampNsec
      smp.trace.eventFlags b with
  | error b1 =>
    obtain ⟨hends, rfl⟩ := (emuSide_eq_error cfg .write _ _ _ _ b b1).1 hw
    simp [emuMemory, hw, writeSideEnds, hends]
  | ok p =>
    obtain ⟨b1, o⟩ := p
    have hne : writeSideEnds cfg b.monitors smp = false := by
      cases hc : writeSideEnds cfg b.monitors smp
      · rfl
      · rw [(emuSide_eq_error cfg .write _ _ _ _ b b).2 ⟨hc, rfl⟩] at hw
        cases hw
    obtain ⟨o1, o2⟩ := emuSide_other cfg .write (smp.trace.traceID / 2) smp.timestamp
      smp.hostTimestampNsec smp.trace.eventFlags b .read (by decide) (smp.trace.traceID / 2)
    have o3 := (emuSide_frame (fun m => m.mEmuTraceMsecOneCycle)
      (fun m d _ _ => by cases d <;> exact ⟨rfl, rfl⟩) cfg .write (smp.trace.traceID / 2)
      smp.timestamp smp.hostTimestampNsec smp.trace.eventFlags b)
    have hwr := (emuSide_frame (fun _ => ()) (fun _ _ _ _ => ⟨rfl, rfl⟩) cfg .write
      (smp.trace.traceID / 2) smp.timestamp smp.hostTimestampNsec smp.trace.eventFlags b).2
    rw [hw] at o1 o2 o3 hwr
    obtain ⟨v1, v2, v3⟩ := emuSide_view cfg .read (smp.trace.traceID / 2) smp.timestamp
      smp.hostTimestampNsec b b1 o1 o2 o3.1 smp.trace.eventFlags
    have ho : (o.map Emit.record).filter (·.type = "Read") = [] := by
      refine List.filter_eq_nil_iff.2 fun r hr => ?_
      obtain ⟨e, he, rfl⟩ := List.mem_map.1 hr
      simp [(hwr e he).2.1, Dir.type]
    rw [emuMemory_of_ok cfg b b1 smp o hw, hne, if_neg Bool.false_ne_true, if_neg Bool.false_ne_true,
      if_neg Bool.false_ne_true]
    refine ⟨v1, v2, ?_⟩
    rw [List.map_append, List.filter_append, ho, List.nil_append, v3]

/-- An emulation memory record on slot 1 that ends a write, with the write queue empty,
and starts a read: its read queue is the one `emu_read_side` gives. -/
theorem emu_read_side_write_end :
    (2 < 61) ∧
      (decodeSample sampleConfig true (fun _ => 0) ⟨(RTProfileDevice.construct sampleConfig .blank).monitors,
          sampleConfig.defaultTrace⟩ ⟨⟨1, 0, 2, 0, 5, 36, 0⟩, 1, 5, 0⟩).1.monitors.starts .read (2 / 2) =
        (if writeSideEnds sampleConfig (RTProfileDevice.construct sampleConfig .blank).monitors
            ⟨⟨1, 0, 2, 0, 5, 36, 0⟩, 1, 5, 0⟩ then
          (RTProfileDevice.construct sampleConfig .blank).monitors.starts .read (2 / 2)
        else (decodeSample sampleConfig true (fun _ => 0) ⟨(RTProfileDevice.construct sampleConfig .blank).monitors,
          sampleConfig.defaultTrace⟩ (Sample.clearWriteBits sampleConfig ⟨⟨1, 0, 2, 0, 5, 36, 0⟩, 1, 5, 0⟩)).1.monitors.starts
            .read (2 / 2)) :=
  ⟨by decide, (emu_read_side sampleConfig (fun _ => 0) _ ⟨⟨1, 0, 2, 0, 5, 36, 0⟩, 1, 5, 0⟩ (by decide)).1⟩

/-- An emulation record on memory slot 1 that ends a write, with the write queue empty, and
starts a read, from the constructed device: the call leaves the read queue of slot 1 empty.
With its write bits cleared, the record starts the read. -/
theorem read_side_skipped :
    (logTraceOps sampleConfig ⟨true, fun _ _ => ""⟩ ⟨0, 0, id⟩ (RTProfileDevice.construct sampleConfig .blank) 0
        [⟨1, 0, 2, 0, 5, 36, 0⟩]).1.monitors.mReadStarts 1 = [] ∧
      (logTraceOps sampleConfig ⟨true, fun _ _ => ""⟩ ⟨0, 0, id⟩ (RTProfileDevice.construct sampleConfig .blank) 0
        [⟨1, 0, 2, 0, 5, sampleConfig.clearWriteBits 36, 0⟩]).1.monitors.mReadStarts 1 = [1] := by
  decide

/-! ## The padding of single-beat transactions -/

/-- Line 310: the host milliseconds of one device cycle, estimated from a completed
`Kernel` interval as half its host length over its device length. -/
def DeviceTrace.msecOneCycle (r : DeviceTrace) : ℚ :=
  (r.«end» - r.start) / ((2 * (r.endTime - r.startTime)).toNat : ℚ)

/-- A value a machine keeps, except that an output of kind `p` sets it to `f` of the
last such output: after a run it is `f` of the run's last output of that kind, or its
first value when the run has none. -/
theorem mealyRun_last {σ α β γ : Type} (step : σ → α → σ × List β) (x : σ → γ) (g : β → DeviceTrace)
    (p : DeviceTrace → Bool) (f : DeviceTrace → γ)
    (h : ∀ s a, x (step s a).1 = (((step s a).2.map g).filter p).getLast?.elim (x s) f) (s : σ)
    (as : List α) :
    x (mealyRun step s as).1 = (((mealyRun step s as).2.map g).filter p).getLast?.elim (x s) f := by
  induction as generalizing s with
  | nil => rfl
  | cons a as ih =>
    rw [mealyRun_cons, ih, h, List.map_append, List.filter_append, List.getLast?_append]
    cases (((mealyRun step (step s a).1 as).2.map g).filter p).getLast? <;> rfl

/-- An emulation record sets `mEmuTraceMsecOneCycle` exactly when it completes a `Kernel`
interval, from that interval. -/
theorem decodeSample_emu_msecOneCycle (cfg : Config) (conv : UInt64 → ℚ) (b : Back) (smp : Sample) :
    (decodeSample cfg true conv b smp).1.monitors.mEmuTraceMsecOneCycle =
      ((((decodeSample cfg true conv b smp).2.map Emit.record).filter (·.type = "Kernel")).getLast?).elim
        b.monitors.mEmuTraceMsecOneCycle DeviceTrace.msecOneCycle := by
  simp only [decodeSample, if_true]
  split_ifs
  · obtain ⟨h1, h2⟩ := emuMemory_frame (fun m => m.mEmuTraceMsecOneCycle)
      (fun m d _ _ => by cases d <;> exact ⟨rfl, rfl⟩) cfg b smp
    rw [h1, List.filter_eq_nil_iff.2 fun r hr => ?_]
    · rfl
    obtain ⟨e, he, rfl⟩ := List.mem_map.1 hr
    obtain ⟨d, hd⟩ := (h2 e he).2.1
    simp [hd, Dir.type_ne_kernel]
  · simp only [emuCu]
    split_ifs <;> simp [DeviceTrace.msecOneCycle, Emit.record]
  · rfl

/-- In emulation mode a call leaves `mEmuTraceMsecOneCycle`, the padding of the
single-beat memory transactions of later records and calls, as the estimate from the
last `Kernel` record it writes, and as it was when it writes none. -/
theorem logTraceOps_emu_msecOneCycle (cfg : Config) (names : PerfMonKind → Nat → String)
    (rd : Readings) (dev : RTProfileDevice) (type : Nat) (tv : List XclTraceResults) :
    (logTraceOps cfg ⟨true, names⟩ rd dev type tv).1.monitors.mEmuTraceMsecOneCycle =
      ((((logTraceOps cfg ⟨true, names⟩ rd dev type tv).2.map Emit.record).filter
        (·.type = "Kernel")).getLast?).elim dev.monitors.mEmuTraceMsecOneCycle DeviceTrace.msecOneCycle := by
  by_cases hg : dev.mMaxTraceEvents ≤ dev.mNumTraceEvents ∨ tv = []
  · rw [logTraceOps_of_full cfg _ rd dev type tv hg]
    rfl
  · simp only [logTraceOps, hg, if_false, if_true, List.append_nil]
    refine mealyRun_last (recordStep cfg rd true type) (fun fb => fb.2.monitors.mEmuTraceMsecOneCycle)
      Emit.record _ _ (fun fb p => ?_) _ _
    simp only [recordStep]
    split
    · rfl
    · exact decodeSample_emu_msecOneCycle cfg _ _ _

end XdpProfile
