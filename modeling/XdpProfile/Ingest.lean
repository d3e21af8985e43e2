import XdpProfile.LogTrace
import Mathlib.Tactic.NormNum

/-!
# The entry guard, the event count and the program start anchor

`logTrace` tests the cap once, at entry (line 115): a call that finds the count below
the cap and a non-empty batch adds the whole batch length, however far past the cap
that takes the count.  So the count is monotone, the cap never moves, and a call past
the cap changes nothing at all (`logTrace_noop`); but the count can end above the cap,
by less than one batch (`count_lt_cap_add_maxBatch`).  The count depends only on the batch
lengths (`runCalls_count`), so batches no longer than the trace FIFO take it past the cap
as well (`count_passes_cap`).

The count also bounds what `resultVector` receives.  A record of the batch writes at most
two records in emulation mode (a write and a read end) and four in hardware mode (one per
category), and the post-pass at most one per accelerator slot; so over any sequence of
calls the records written are at most twice the events counted, or four times plus
`XSAM_MAX_NUMBER_SLOTS` per call (`runCalls_writes_le`).

The program start anchor `mTrainProgramStart[type]` is written by
`trainDeviceHostTimestamps` at record 1 of every hardware batch (line 192), from the
clocks as they read during that call (`programStart_per_batch`).
-/

namespace XdpProfile

/-! ## The count and the cap -/

/-- For every sequence of calls the count never decreases; a call with an empty batch or
past the cap returns the device and the caller's vector unchanged; and from a device past
the cap, every sequence of calls changes nothing and writes nothing. -/
theorem logTrace_noop (cfg : Config) (env : Env) :
    (∀ dev calls, dev.mNumTraceEvents ≤ (runCalls cfg env dev calls).1.mNumTraceEvents ∧
      (runCalls cfg env dev calls).1.mMaxTraceEvents = dev.mMaxTraceEvents) ∧
    (∀ rd dev type tv resultVector, dev.mMaxTraceEvents ≤ dev.mNumTraceEvents ∨ tv = [] →
      logTrace cfg env rd dev type tv resultVector = (dev, resultVector)) ∧
    (∀ dev calls, dev.mMaxTraceEvents ≤ dev.mNumTraceEvents → runCalls cfg env dev calls = (dev, [])) := by
  refine ⟨fun dev calls => ?_, fun rd dev type tv v h => ?_, fun dev calls h => ?_⟩
  · induction calls generalizing dev with
    | nil => simp [runCalls]
    | cons c cs ih =>
      obtain ⟨h1, h2⟩ := ih (logTraceOps cfg env c.readings dev c.type c.traceVector).1
      simp only [runCalls, mealyRun_cons, logTraceOps_max] at h1 h2 ⊢
      exact ⟨(count_le_logTraceOps ..).trans h1, h2⟩
  · simp [logTrace, logTraceOps_of_full cfg env rd dev type tv h, applyOps]
  · induction calls with
    | nil => rfl
    | cons c cs ih =>
      simp only [runCalls, mealyRun_cons, logTraceOps_of_full cfg env _ dev _ _ (.inl h)] at ih ⊢
      simp [ih]

/-- The longest batch of a sequence of calls. -/
def maxBatch (calls : List Call) : Nat := (calls.map fun c => c.traceVector.length).foldr max 0

/-- The count a sequence of calls leaves, from their batch lengths: a call that finds the
count below the cap and a non-empty batch adds the batch length (lines 115 and 134). -/
def countRun (cap : Nat) : Nat → List Nat → Nat
  | n, [] => n
  | n, k :: ks => countRun cap (if cap ≤ n ∨ k = 0 then n else n + k) ks

/-- The count after a sequence of calls depends only on the batch lengths. -/
theorem runCalls_count (cfg : Config) (env : Env) (calls : List Call) :
    ∀ dev : RTProfileDevice, (runCalls cfg env dev calls).1.mNumTraceEvents =
      countRun dev.mMaxTraceEvents dev.mNumTraceEvents (calls.map fun c => c.traceVector.length) := by
  induction calls with
  | nil => exact fun _ => rfl
  | cons c cs ih =>
    intro dev
    have h := ih (logTraceOps cfg env c.readings dev c.type c.traceVector).1
    simp only [runCalls, mealyRun_cons, logTraceOps_count, logTraceOps_max] at h ⊢
    simp only [h, List.map_cons, countRun, List.length_eq_zero]

/-- No call moves the cap. -/
theorem runCalls_max (cfg : Config) (env : Env) (dev : RTProfileDevice) (calls : List Call) :
    (runCalls cfg env dev calls).1.mMaxTraceEvents = dev.mMaxTraceEvents :=
  mealyRun_invariant _ (fun d => d.mMaxTraceEvents = dev.mMaxTraceEvents)
    (fun d c h => (logTraceOps_max cfg env c.readings d c.type c.traceVector).trans h) _ _ rfl

/-- Hardware calls from the constructed device with batches of at most 8192 records, the
trace FIFO size line 146 warns at: one record, then 32 full batches.  The count ends at
`0x40001`, above the cap of `0x40000`: the last call starts at `0x3e001`. -/
theorem count_passes_cap :
    (∀ c ∈ (⟨0, [⟨0, 0, 0, 0, 0, 0, 0⟩], ⟨0, 0, id⟩⟩ :: List.replicate 32
        ⟨0, List.replicate 8192 ⟨0, 0, 0, 0, 0, 0, 0⟩, ⟨0, 0, id⟩⟩ : List Call), c.traceVector.length ≤ 8192) ∧
      (runCalls sampleConfig ⟨false, fun _ _ => ""⟩ (RTProfileDevice.construct sampleConfig .blank)
        (⟨0, [⟨0, 0, 0, 0, 0, 0, 0⟩], ⟨0, 0, id⟩⟩ :: List.replicate 32
          ⟨0, List.replicate 8192 ⟨0, 0, 0, 0, 0, 0, 0⟩, ⟨0, 0, id⟩⟩)).1.mNumTraceEvents = 0x40001 ∧
      (runCalls sampleConfig ⟨false, fun _ _ => ""⟩ (RTProfileDevice.construct sampleConfig .blank)
        (⟨0, [⟨0, 0, 0, 0, 0, 0, 0⟩], ⟨0, 0, id⟩⟩ :: List.replicate 32
          ⟨0, List.replicate 8192 ⟨0, 0, 0, 0, 0, 0, 0⟩, ⟨0, 0, id⟩⟩)).1.mMaxTraceEvents = 0x40000 := by
  refine ⟨fun c hc => ?_, ?_, runCalls_max _ _ _ _⟩
  · rcases List.mem_cons.1 hc with rfl | hc
    · decide
    · rw [(List.mem_replicate.1 hc).2, List.length_replicate]
  · rw [runCalls_count]
    simp only [List.map_cons, List.map_replicate, List.length_replicate, List.length_singleton]
    decide

/-- From the constructed device, the count stays below the cap plus the longest batch. -/
theorem count_lt_cap_add_maxBatch (cfg : Config) (env : Env) (raw : RTProfileDevice) (calls : List Call) :
    (runCalls cfg env (RTProfileDevice.construct cfg raw) calls).1.mNumTraceEvents <
      (runCalls cfg env (RTProfileDevice.construct cfg raw) calls).1.mMaxTraceEvents + maxBatch calls := by
  suffices ∀ dev M, dev.mNumTraceEvents < dev.mMaxTraceEvents + M →
      (runCalls cfg env dev calls).1.mNumTraceEvents <
        (runCalls cfg env dev calls).1.mMaxTraceEvents + max M (maxBatch calls) by
    simpa using this _ 0 (by simp [RTProfileDevice.construct])
  induction calls with
  | nil => intro dev M h; simpa [runCalls, maxBatch] using h
  | cons c cs ih =>
    intro dev M h
    have step := ih (logTraceOps cfg env c.readings dev c.type c.traceVector).1
      (max M c.traceVector.length) (by rw [logTraceOps_count, logTraceOps_max]; split_ifs <;> omega)
    simp only [runCalls, mealyRun_cons, maxBatch, List.map_cons, List.foldr_cons] at step ⊢
    have : max (max M c.traceVector.length) (maxBatch cs) =
        max M (max c.traceVector.length (maxBatch cs)) := max_assoc ..
    unfold maxBatch at this
    omega

/-! ## The records a call writes -/

/-- A Mealy run whose steps write at most `k` outputs each writes at most `k` per input. -/
theorem mealyRun_length_le {σ α β : Type} (step : σ → α → σ × List β) (k : Nat)
    (h : ∀ s a, (step s a).2.length ≤ k) (s : σ) (as : List α) :
    (mealyRun step s as).2.length ≤ k * as.length := by
  induction as generalizing s with
  | nil => simp
  | cons a as ih =>
    have h1 := h s a
    have h2 := ih (step s a).1
    simp only [mealyRun_cons, List.length_append, List.length_cons, Nat.mul_succ]
    omega

theorem spmTranx_length (cfg : Config) (conv : UInt64 → ℚ) (d : Dir) (b : Back) (smp : Sample) :
    (spmTranx cfg conv d b smp).2.length ≤ 1 := by
  unfold spmTranx
  split_ifs <;> simp

/-- An accelerator monitor record completes at most one interval per category. -/
theorem samTrace_length (conv : UInt64 → ℚ) (b : Back) (smp : Sample) :
    (samTrace conv b smp).2.length ≤ 4 :=
  mealyRun_length_le _ 1 (fun b c => by rw [samCategory_eq]; split_ifs <;> simp) _ Category.all

/-- An emulation memory record ends at most one transaction per direction. -/
theorem emuMemory_length (cfg : Config) (b : Back) (smp : Sample) :
    (emuMemory cfg b smp).2.length ≤ 2 := by
  have side : ∀ d b', (sideOps (emuSide cfg d (smp.trace.traceID / 2) smp.timestamp
      smp.hostTimestampNsec smp.trace.eventFlags b')).length ≤ 1 := fun d b' => by
    rcases emuSide_ops cfg d (smp.trace.traceID / 2) smp.timestamp smp.hostTimestampNsec
      smp.trace.eventFlags b' with h | ⟨r, h, -⟩ <;> simp [h]
  cases hw : emuSide cfg .write (smp.trace.traceID / 2) smp.timestamp smp.hostTimestampNsec
    smp.trace.eventFlags b with
  | error => simp [emuMemory, hw]
  | ok p =>
    obtain ⟨b1, o⟩ := p
    have hw1 := side .write b
    rw [hw] at hw1
    rw [emuMemory_of_ok cfg b b1 smp o hw, List.length_append]
    exact Nat.add_le_add hw1 (side .read b1)

/-- The decoding part writes at most two records in emulation mode and four in hardware
mode. -/
theorem decodeSample_length (cfg : Config) (isHwEmu : Bool) (conv : UInt64 → ℚ) (b : Back)
    (smp : Sample) : (decodeSample cfg isHwEmu conv b smp).2.length ≤ if isHwEmu then 2 else 4 := by
  have hcu : (emuCu b smp).2.length ≤ 1 := by
    rw [(emuCu_spec b smp).2.2.2]
    split_ifs <;> simp
  unfold decodeSample
  cases isHwEmu with
  | true =>
    simp only [if_true]
    split_ifs
    · exact emuMemory_length cfg b smp
    · exact hcu.trans (by decide)
    · simp
  | false =>
    simp only [Bool.false_eq_true, if_false]
    split_ifs
    · exact samTrace_length conv b smp
    · exact (spmTranx_length cfg conv .read b smp).trans (by decide)
    · exact (spmTranx_length cfg conv .write b smp).trans (by decide)
    · simp

theorem recordLoop_length (cfg : Config) (rd : Readings) (isHwEmu : Bool) (type : Nat) (f : Front)
    (b : Back) (tv : List XclTraceResults) :
    (recordLoop cfg rd isHwEmu type f b tv).2.length ≤ (if isHwEmu then 2 else 4) * tv.length := by
  rw [← @List.enumFrom_length _ 0 tv]
  refine mealyRun_length_le _ _ (fun fb p => ?_) _ _
  simp only [recordStep]
  split
  · simp
  · exact decodeSample_length cfg isHwEmu _ _ _

/-- The post-pass approximates at most one end per accelerator slot. -/
theorem approximateCuEnds_length (cfg : Config) (env : Env) (conv : UInt64 → ℚ) (b : Back) :
    (approximateCuEnds cfg env conv b).2.length ≤ cfg.xsamMaxNumberSlots := by
  have h := mealyRun_length_le (approximateCu cfg env conv) 1
    (fun b i => by unfold approximateCu; dsimp only; split_ifs <;> simp) b
    (List.range cfg.xsamMaxNumberSlots)
  simpa using h

/-- A call writes at most two records per event it counts in emulation mode, and at most
four per event plus one per accelerator slot in hardware mode. -/
theorem logTraceOps_length (cfg : Config) (env : Env) (rd : Readings) (dev : RTProfileDevice)
    (type : Nat) (tv : List XclTraceResults) :
    (logTraceOps cfg env rd dev type tv).2.length + (if env.isHwEmu then 2 else 4) * dev.mNumTraceEvents ≤
      (if env.isHwEmu then 2 else 4) * (logTraceOps cfg env rd dev type tv).1.mNumTraceEvents +
        if env.isHwEmu then 0 else cfg.xsamMaxNumberSlots := by
  by_cases hg : dev.mMaxTraceEvents ≤ dev.mNumTraceEvents ∨ tv = []
  · rw [logTraceOps_of_full cfg env rd dev type tv hg]
    simp
  · rcases env with ⟨_ | _, names⟩
    · have hl := recordLoop_length cfg rd false type ⟨dev.training, 0xFFFFFFFF, 0, 0⟩
        ⟨dev.monitors, cfg.defaultTrace⟩ tv
      have ha := approximateCuEnds_length cfg ⟨false, names⟩ (fun t => convertDeviceToHostTimestamp
        (recordLoop cfg rd false type ⟨dev.training, 0xFFFFFFFF, 0, 0⟩
          ⟨dev.monitors, cfg.defaultTrace⟩ tv).1.1.training t type)
        (recordLoop cfg rd false type ⟨dev.training, 0xFFFFFFFF, 0, 0⟩
          ⟨dev.monitors, cfg.defaultTrace⟩ tv).1.2
      simp only [logTraceOps, hg, if_false, Bool.false_eq_true, List.length_append] at hl ⊢
      omega
    · have hl := recordLoop_length cfg rd true type ⟨dev.training, 0xFFFFFFFF, 0, 0⟩
        ⟨dev.monitors, cfg.defaultTrace⟩ tv
      simp only [logTraceOps, hg, if_false, if_true, List.length_append, List.length_nil] at hl ⊢
      omega

/-- Over any sequence of calls, the records written are at most `k` per event counted
plus `p` per call, when each call keeps that bound. -/
theorem runCalls_length_le (cfg : Config) (env : Env) (k p : Nat)
    (hcall : ∀ rd dev type tv, (logTraceOps cfg env rd dev type tv).2.length + k * dev.mNumTraceEvents ≤
      k * (logTraceOps cfg env rd dev type tv).1.mNumTraceEvents + p)
    (dev : RTProfileDevice) (calls : List Call) :
    (runCalls cfg env dev calls).2.length + k * dev.mNumTraceEvents ≤
      k * (runCalls cfg env dev calls).1.mNumTraceEvents + p * calls.length := by
  induction calls generalizing dev with
  | nil => simp [runCalls]
  | cons c cs ih =>
    have h1 := hcall c.readings dev c.type c.traceVector
    have h2 := ih (logTraceOps cfg env c.readings dev c.type c.traceVector).1
    simp only [runCalls, mealyRun_cons, List.length_append, List.length_cons, Nat.mul_succ] at h2 ⊢
    omega

/-- The records `logTrace` writes to `resultVector` are bounded by the events it counts:
over any sequence of calls, at most two per counted event in emulation mode, and at most
four per counted event plus `XSAM_MAX_NUMBER_SLOTS` per call in hardware mode. -/
theorem runCalls_writes_le (cfg : Config) (names : PerfMonKind → Nat → String)
    (dev : RTProfileDevice) (calls : List Call) :
    (runCalls cfg ⟨true, names⟩ dev calls).2.length ≤
        2 * ((runCalls cfg ⟨true, names⟩ dev calls).1.mNumTraceEvents - dev.mNumTraceEvents) ∧
      (runCalls cfg ⟨false, names⟩ dev calls).2.length ≤
        4 * ((runCalls cfg ⟨false, names⟩ dev calls).1.mNumTraceEvents - dev.mNumTraceEvents) +
          cfg.xsamMaxNumberSlots * calls.length := by
  have he := runCalls_length_le cfg ⟨true, names⟩ 2 0
    (fun rd dev type tv => by simpa using logTraceOps_length cfg ⟨true, names⟩ rd dev type tv) dev calls
  have hh := runCalls_length_le cfg ⟨false, names⟩ 4 cfg.xsamMaxNumberSlots
    (fun rd dev type tv => by simpa using logTraceOps_length cfg ⟨false, names⟩ rd dev type tv) dev calls
  omega

/-! ## The program start anchor -/

/-- The clock part writes the program start of `type` at record 1 of a hardware batch. -/
theorem clockTraining_programStart (cfg : Config) (rd : Readings) (isHwEmu : Bool) (type : Nat)
    (f : Front) (i : Nat) (t : XclTraceResults) :
    (clockTraining cfg rd isHwEmu type f i t).1.training.mTrainProgramStart =
      if isHwEmu = false ∧ i = 1 then
        Function.update f.training.mTrainProgramStart type ((rd.highResolutionNow - rd.timeNs).toNat : ℚ)
      else f.training.mTrainProgramStart := by
  cases isHwEmu
  · by_cases h0 : i = 0
    · simp [clockTraining, h0]
    · by_cases h1 : i = 1 <;> simp [clockTraining, h0, h1, trainAt, trainDeviceHostTimestamps]
  · rw [if_neg (by simp)]
    simp only [clockTraining, if_true]
    split_ifs <;> rfl

/-- Over the clock part of a batch from index `i`, the program start of `type` is written
exactly when the run passes record 1 in hardware mode. -/
theorem samplesOf_programStart (cfg : Config) (rd : Readings) (isHwEmu : Bool) (type : Nat)
    (f : Front) (i : Nat) (batch : List XclTraceResults) :
    (samplesOf cfg rd isHwEmu type f i batch).1.training.mTrainProgramStart =
      if isHwEmu = false ∧ i ≤ 1 ∧ 1 < i + batch.length then
        Function.update f.training.mTrainProgramStart type ((rd.highResolutionNow - rd.timeNs).toNat : ℚ)
      else f.training.mTrainProgramStart := by
  induction batch generalizing f i with
  | nil => exact (if_neg fun ⟨_, h1, h2⟩ => by simp at h2; omega).symm
  | cons t ts ih =>
    rw [samplesOf_cons, ih, clockTraining_programStart]
    cases isHwEmu
    · simp only [true_and, List.length_cons]
      by_cases h1 : i = 1
      · subst h1
        simp
      · simp only [h1, if_false]
        split_ifs <;> first | rfl | (exfalso; omega)
    · simp

/-- `mTrainProgramStart[type]` after a call: rewritten from that call's clock readings by
every hardware call that passes the guard with at least two records, else unchanged. -/
theorem programStart_per_batch (cfg : Config) (env : Env) (rd : Readings) (dev : RTProfileDevice)
    (type : Nat) (tv : List XclTraceResults) :
    (logTraceOps cfg env rd dev type tv).1.training.mTrainProgramStart =
      if env.isHwEmu = false ∧ dev.mNumTraceEvents < dev.mMaxTraceEvents ∧ 2 ≤ tv.length then
        Function.update dev.training.mTrainProgramStart type ((rd.highResolutionNow - rd.timeNs).toNat : ℚ)
      else dev.training.mTrainProgramStart := by
  rw [logTraceOps_training]
  by_cases h : dev.mMaxTraceEvents ≤ dev.mNumTraceEvents ∨ tv = []
  · have : ¬ (dev.mNumTraceEvents < dev.mMaxTraceEvents ∧ 2 ≤ tv.length) := by
      rintro ⟨h1, h2⟩
      rcases h with h | rfl
      · omega
      · simp at h2
    simp [h, this]
  · rw [if_neg h, samplesOf_programStart]
    have : tv ≠ [] := fun e => h (.inr e)
    have hl := List.length_pos.mpr this
    simp only [Nat.zero_le, true_and, zero_add]
    congr 1
    apply propext
    constructor <;> rintro ⟨h1, h2⟩ <;> refine ⟨h1, ?_⟩ <;> omega

/-- Two hardware calls of two records each, from the constructed device, whose clocks read
`5` and `7` apart: the first writes the anchor `5`, the second rewrites it to `7`. -/
theorem programStart_moves :
    (runCalls sampleConfig ⟨false, fun _ _ => ""⟩ (RTProfileDevice.construct sampleConfig .blank)
        [⟨0, [⟨0, 0, 0, 0, 0, 0, 0⟩, ⟨0, 0, 0, 0, 0, 0, 0⟩], ⟨5, 0, id⟩⟩]).1.training.mTrainProgramStart 0 = 5 ∧
      (runCalls sampleConfig ⟨false, fun _ _ => ""⟩ (RTProfileDevice.construct sampleConfig .blank)
        [⟨0, [⟨0, 0, 0, 0, 0, 0, 0⟩, ⟨0, 0, 0, 0, 0, 0, 0⟩], ⟨5, 0, id⟩⟩,
          ⟨0, [⟨0, 0, 0, 0, 0, 0, 0⟩, ⟨0, 0, 0, 0, 0, 0, 0⟩], ⟨7, 0, id⟩⟩]).1.training.mTrainProgramStart 0 = 7 := by
  generalize (⟨0, 0, 0, 0, 0, 0, 0⟩ : XclTraceResults) = r
  generalize sampleConfig = cfg
  generalize (fun _ _ => "" : PerfMonKind → Nat → String) = names
  have hcall : ∀ (dev : RTProfileDevice) (a : UInt64), dev.mNumTraceEvents + 2 < dev.mMaxTraceEvents →
      (logTraceOps cfg ⟨false, names⟩ ⟨a, 0, id⟩ dev 0 [r, r]).1.training.mTrainProgramStart 0 =
        (a.toNat : ℚ) ∧
      (logTraceOps cfg ⟨false, names⟩ ⟨a, 0, id⟩ dev 0 [r, r]).1.mNumTraceEvents =
        dev.mNumTraceEvents + 2 := by
    intro dev a h
    have hg : ¬ (dev.mMaxTraceEvents ≤ dev.mNumTraceEvents ∨ [r, r] = []) := by simp; omega
    rw [logTraceOps_training, logTraceOps_count, if_neg hg, if_neg hg, samplesOf_programStart]
    simp [UInt64.sub_def]
  have h0 := hcall (RTProfileDevice.construct cfg .blank) 5 (by simp [RTProfileDevice.construct])
  have h1 := hcall (logTraceOps cfg ⟨false, names⟩ ⟨5, 0, id⟩ (RTProfileDevice.construct cfg .blank) 0
    [r, r]).1 7 (by rw [h0.2, logTraceOps_max]; simp [RTProfileDevice.construct])
  simp only [runCalls, mealyRun_cons, mealyRun_nil]
  exact ⟨by simpa using h0.1, by simpa using h1.1⟩

end XdpProfile
