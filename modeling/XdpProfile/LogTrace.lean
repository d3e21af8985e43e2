import XdpProfile.Decode

/-!
# `logTrace`

`logTrace` (lines 113-495) returns at once when the event count has reached the cap or
the batch is empty.  Otherwise it adds the batch length to the count, runs the record
loop, approximates the ends of compute units left open (hardware mode only), and clears
the started masks.

`recordLoop` is the loop: each iteration is the clock part (`clockTraining`) followed,
unless that ended the iteration, by the decoding part (`decodeSample`) with the
conversion of the current training.  `approximateCuEnds` is the post-pass of lines
453-487, over the slots in increasing order, with the same reused `kernelTrace`.

`logTraceOps` gives the new state and the writes to `resultVector`; `logTrace` performs
the writes on the caller's vector.  `runCalls` is a sequence of calls on one device.

`recordLoop_sim` is the one induction over the record loop.  The decoding part never
reads what the clock part writes, so anything the decoding part does sample by sample,
the loop does over the samples of `samplesOf`: every per-slot theorem of the later
modules is an instance.
-/

namespace XdpProfile

/-- The monitor types the slot directory is asked about. -/
inductive PerfMonKind where
  /-- `XCL_PERF_MON_MEMORY`. -/
  | memory
  /-- `XCL_PERF_MON_ACCEL`. -/
  | accel
deriving DecidableEq, Repr

/-- The collaborators of a device that do not change between calls. -/
structure Env where
  /-- `getFlowMode() == HW_EM`: emulation mode. -/
  isHwEmu : Bool
  /-- `getProfileSlotName(kind, deviceName, index, name)`. -/
  getProfileSlotName : PerfMonKind → Nat → String

/-! ## The record loop -/

/-- One iteration of the record loop, on record `p.2` at index `p.1`. -/
def recordStep (cfg : Config) (rd : Readings) (isHwEmu : Bool) (type : Nat) (fb : Front × Back)
    (p : Nat × XclTraceResults) : (Front × Back) × List Emit :=
  let c := clockTraining cfg rd isHwEmu type fb.1 p.1 p.2
  match c.2 with
  | none => ((c.1, fb.2), [])
  | some smp =>
    let r := decodeSample cfg isHwEmu (fun t => convertDeviceToHostTimestamp c.1.training t type)
      fb.2 smp
    ((c.1, r.1), r.2)

/-- The record loop, lines 152-450. -/
def recordLoop (cfg : Config) (rd : Readings) (isHwEmu : Bool) (type : Nat) (f : Front) (b : Back)
    (traceVector : List XclTraceResults) : (Front × Back) × List Emit :=
  mealyRun (recordStep cfg rd isHwEmu type) (f, b) (traceVector.enumFrom 0)

theorem samplesOf_cons (cfg : Config) (rd : Readings) (isHwEmu : Bool) (type : Nat) (f : Front)
    (i : Nat) (t : XclTraceResults) (ts : List XclTraceResults) :
    samplesOf cfg rd isHwEmu type f i (t :: ts) =
      ((samplesOf cfg rd isHwEmu type (clockTraining cfg rd isHwEmu type f i t).1 (i + 1) ts).1,
        (clockTraining cfg rd isHwEmu type f i t).2.toList ++
          (samplesOf cfg rd isHwEmu type (clockTraining cfg rd isHwEmu type f i t).1 (i + 1) ts).2) :=
  rfl

section Sim

variable (cfg : Config) (rd : Readings) (isHwEmu : Bool) (type : Nat)

/-- The record loop simulates every abstraction of the decoding part that moves, sample by
sample, like a Mealy machine, under an invariant each sample keeps: the final decoding
state and the writes, seen through the abstraction, are the abstract run over the samples
of the clock part alone. -/
theorem recordLoop_sim {τ γ : Type} (absStep : τ → Sample → τ × List γ) (abs : Back → τ)
    (view : Emit → Option γ) (inv : Back → Prop)
    (hinv : ∀ conv b smp, inv b → inv (decodeSample cfg isHwEmu conv b smp).1)
    (hstep : ∀ conv b smp, inv b →
      abs (decodeSample cfg isHwEmu conv b smp).1 = (absStep (abs b) smp).1 ∧
        (decodeSample cfg isHwEmu conv b smp).2.filterMap view = (absStep (abs b) smp).2)
    (f : Front) (b : Back) (i : Nat) (batch : List XclTraceResults) (hb : inv b) :
    inv (mealyRun (recordStep cfg rd isHwEmu type) (f, b) (batch.enumFrom i)).1.2 ∧
      abs (mealyRun (recordStep cfg rd isHwEmu type) (f, b) (batch.enumFrom i)).1.2 =
        (mealyRun absStep (abs b) (samplesOf cfg rd isHwEmu type f i batch).2).1 ∧
      (mealyRun (recordStep cfg rd isHwEmu type) (f, b) (batch.enumFrom i)).2.filterMap view =
        (mealyRun absStep (abs b) (samplesOf cfg rd isHwEmu type f i batch).2).2 := by
  induction batch generalizing f b i with
  | nil => simp [samplesOf, hb]
  | cons t ts ih =>
    rw [samplesOf_cons, List.enumFrom_cons, mealyRun_cons]
    cases hc : (clockTraining cfg rd isHwEmu type f i t).2 with
    | none =>
      have hr : recordStep cfg rd isHwEmu type (f, b) (i, t) =
          (((clockTraining cfg rd isHwEmu type f i t).1, b), []) := by
        simp [recordStep, hc]
      simpa [hr] using ih (clockTraining cfg rd isHwEmu type f i t).1 b (i + 1) hb
    | some smp =>
      set conv := fun t' => convertDeviceToHostTimestamp
        (clockTraining cfg rd isHwEmu type f i t).1.training t' type
      have hr : recordStep cfg rd isHwEmu type (f, b) (i, t) =
          (((clockTraining cfg rd isHwEmu type f i t).1,
            (decodeSample cfg isHwEmu conv b smp).1), (decodeSample cfg isHwEmu conv b smp).2) := by
        simp [recordStep, hc, conv]
      obtain ⟨h1, h2⟩ := hstep conv b smp hb
      obtain ⟨i1, i2, i3⟩ := ih (clockTraining cfg rd isHwEmu type f i t).1 _ (i + 1)
        (hinv conv b smp hb)
      simp only [hr, Option.toList_some, List.singleton_append, mealyRun_cons,
        List.filterMap_append, ← h1, ← h2]
      exact ⟨i1, i2, by rw [i3]⟩

/-- The clock part of the loop is `samplesOf`. -/
theorem recordLoop_front (f : Front) (b : Back) (i : Nat) (batch : List XclTraceResults) :
    (mealyRun (recordStep cfg rd isHwEmu type) (f, b) (batch.enumFrom i)).1.1 =
      (samplesOf cfg rd isHwEmu type f i batch).1 := by
  induction batch generalizing f b i with
  | nil => rfl
  | cons t ts ih =>
    rw [samplesOf_cons, List.enumFrom_cons, mealyRun_cons]
    cases hc : (clockTraining cfg rd isHwEmu type f i t).2 <;> simp [recordStep, hc, ih]

end Sim

/-! ## The post-pass -/

/-- `cuPortName.substr(0, cuPortName.find_first_of("/"))`: the compute unit a memory
slot belongs to. -/
def cuNameSPM (cuPortName : String) : String := cuPortName.takeWhile (· ≠ '/')

/-- `lastTimeStamp` of lines 467-474: the last activity of the memory slots of the
compute unit of SAM slot `i`, and of the slot itself. -/
def lastTimeStamp (cfg : Config) (env : Env) (m : Monitors) (i : Nat) : UInt64 :=
  let cuNameSAM := env.getProfileSlotName .accel i
  let l := (List.range cfg.xspmMaxNumberSlots).foldl (fun l j =>
    if cuNameSAM = cuNameSPM (env.getProfileSlotName .memory j) ∧ l < m.mPerfMonLastTranx j
    then m.mPerfMonLastTranx j else l) 0
  if l < m.mAccelMonLastTranx i then m.mAccelMonLastTranx i else l

/-- One slot of the post-pass, lines 457-485. -/
def approximateCu (cfg : Config) (env : Env) (conv : UInt64 → ℚ) (b : Back) (i : Nat) :
    Back × List Emit :=
  let m := b.monitors
  if m.mAccelMonStartedEvents i &&& xsamTraceCuMask ≠ 0 then
    let kt := { b.kernelTrace with
      slotNum := i, name := "OCL Region", type := "Kernel", kind := .deviceKernel,
      startTime := m.mAccelMonCuTime i, start := conv (m.mAccelMonCuTime i),
      burstLength := 0, numBytes := 0 }
    let last := lastTimeStamp cfg env m i
    if last ≠ 0 then
      let kt := { kt with endTime := last, «end» := conv last }
      ({ b with kernelTrace := kt }, [.insertBegin kt])
    else ({ b with kernelTrace := kt }, [])
  else (b, [])

/-- The post-pass, lines 453-487: the slots in increasing order. -/
def approximateCuEnds (cfg : Config) (env : Env) (conv : UInt64 → ℚ) (b : Back) :
    Back × List Emit :=
  mealyRun (approximateCu cfg env conv) b (List.range cfg.xsamMaxNumberSlots)

@[simp] theorem approximateCu_monitors (cfg : Config) (env : Env) (conv : UInt64 → ℚ) (b : Back)
    (i : Nat) : (approximateCu cfg env conv b i).1.monitors = b.monitors := by
  unfold approximateCu
  dsimp only
  split_ifs <;> rfl

/-- The post-pass writes only `kernelTrace` and `resultVector`. -/
theorem approximateCuEnds_monitors (cfg : Config) (env : Env) (conv : UInt64 → ℚ) (b : Back) :
    (approximateCuEnds cfg env conv b).1.monitors = b.monitors := by
  unfold approximateCuEnds
  induction List.range cfg.xsamMaxNumberSlots generalizing b with
  | nil => rfl
  | cons i is ih => simp [ih]

/-- The post-pass writes only `Kernel` records, all at the front. -/
theorem approximateCuEnds_ops (cfg : Config) (env : Env) (conv : UInt64 → ℚ) (b : Back) :
    ∀ e ∈ (approximateCuEnds cfg env conv b).2, e = .insertBegin e.record ∧ e.record.type = "Kernel" := by
  refine mealyRun_forall _ (fun _ => True) _ (by simp) (fun b i _ e he => ?_) b _ trivial
  unfold approximateCu at he
  dsimp only at he
  split_ifs at he <;> simp_all [Emit.record]

/-! ## `logTrace` -/

/-- `logTrace`, lines 113-495: the new state and the writes to `resultVector`. -/
def logTraceOps (cfg : Config) (env : Env) (rd : Readings) (dev : RTProfileDevice) (type : Nat)
    (traceVector : List XclTraceResults) : RTProfileDevice × List Emit :=
  if dev.mMaxTraceEvents ≤ dev.mNumTraceEvents ∨ traceVector = [] then (dev, [])
  else
    let l := recordLoop cfg rd env.isHwEmu type ⟨dev.training, 0xFFFFFFFF, 0, 0⟩
      ⟨dev.monitors, cfg.defaultTrace⟩ traceVector
    let conv t := convertDeviceToHostTimestamp l.1.1.training t type
    let a := if env.isHwEmu then (l.1.2, []) else approximateCuEnds cfg env conv l.1.2
    ({ mNumTraceEvents := dev.mNumTraceEvents + traceVector.length
       mMaxTraceEvents := dev.mMaxTraceEvents
       training := l.1.1.training
       monitors := a.1.monitors.clearStarted cfg.xsamMaxNumberSlots },
      l.2 ++ a.2)

/-- `logTrace`: the new state and `resultVector` after the call. -/
def logTrace (cfg : Config) (env : Env) (rd : Readings) (dev : RTProfileDevice) (type : Nat)
    (traceVector : List XclTraceResults) (resultVector : List DeviceTrace) :
    RTProfileDevice × List DeviceTrace :=
  ((logTraceOps cfg env rd dev type traceVector).1,
    applyOps resultVector (logTraceOps cfg env rd dev type traceVector).2)

section Guard

/-! ## The entry guard -/

variable (cfg : Config) (env : Env) (rd : Readings) (dev : RTProfileDevice) (type : Nat)
  (tv : List XclTraceResults)

theorem logTraceOps_of_full (h : dev.mMaxTraceEvents ≤ dev.mNumTraceEvents ∨ tv = []) :
    logTraceOps cfg env rd dev type tv = (dev, []) := by
  simp [logTraceOps, h]

theorem logTraceOps_count :
    (logTraceOps cfg env rd dev type tv).1.mNumTraceEvents =
      if dev.mMaxTraceEvents ≤ dev.mNumTraceEvents ∨ tv = [] then dev.mNumTraceEvents
      else dev.mNumTraceEvents + tv.length := by
  unfold logTraceOps
  split_ifs <;> rfl

@[simp] theorem logTraceOps_max :
    (logTraceOps cfg env rd dev type tv).1.mMaxTraceEvents = dev.mMaxTraceEvents := by
  unfold logTraceOps
  split_ifs <;> rfl

theorem logTraceOps_training :
    (logTraceOps cfg env rd dev type tv).1.training =
      if dev.mMaxTraceEvents ≤ dev.mNumTraceEvents ∨ tv = [] then dev.training
      else (samplesOf cfg rd env.isHwEmu type ⟨dev.training, 0xFFFFFFFF, 0, 0⟩ 0 tv).1.training := by
  unfold logTraceOps
  split_ifs <;> simp only [recordLoop, recordLoop_front]

theorem count_le_logTraceOps : dev.mNumTraceEvents ≤ (logTraceOps cfg env rd dev type tv).1.mNumTraceEvents := by
  rw [logTraceOps_count]
  split_ifs <;> omega

end Guard

/-- One call of `logTrace`: its monitor type, its batch and its clock readings. -/
structure Call where
  /-- The `xclPerfMonType`. -/
  type : Nat
  /-- The batch. -/
  traceVector : List XclTraceResults
  /-- What the host clocks read during the call. -/
  readings : Readings

/-- A sequence of calls on one device: the final state and all writes, in order. -/
def runCalls (cfg : Config) (env : Env) (dev : RTProfileDevice) (calls : List Call) :
    RTProfileDevice × List Emit :=
  mealyRun (fun dev c => logTraceOps cfg env c.readings dev c.type c.traceVector) dev calls

/-- The records a sequence of calls hands from the clock part to the decoding part, from
the clock members `tr`, a count `n` and a cap: the samples of every batch that passes the
entry guard, each call starting from the clock members the one before left. -/
def decodedSamples (cfg : Config) (isHwEmu : Bool) : Training → Nat → Nat → List Call → List Sample
  | _, _, _, [] => []
  | tr, n, cap, c :: cs =>
    if cap ≤ n ∨ c.traceVector = [] then decodedSamples cfg isHwEmu tr n cap cs
    else (samplesOf cfg c.readings isHwEmu c.type ⟨tr, 0xFFFFFFFF, 0, 0⟩ 0 c.traceVector).2 ++
      decodedSamples cfg isHwEmu
        (samplesOf cfg c.readings isHwEmu c.type ⟨tr, 0xFFFFFFFF, 0, 0⟩ 0 c.traceVector).1.training
        (n + c.traceVector.length) cap cs

/-- A call hands on the samples of its batch when it passes the guard, and the next call
starts from the count and the clock members it leaves. -/
theorem decodedSamples_cons (cfg : Config) (env : Env) (dev : RTProfileDevice) (c : Call)
    (cs : List Call) :
    decodedSamples cfg env.isHwEmu dev.training dev.mNumTraceEvents dev.mMaxTraceEvents (c :: cs) =
      (if dev.mMaxTraceEvents ≤ dev.mNumTraceEvents ∨ c.traceVector = [] then []
        else (samplesOf cfg c.readings env.isHwEmu c.type ⟨dev.training, 0xFFFFFFFF, 0, 0⟩ 0
          c.traceVector).2) ++
      decodedSamples cfg env.isHwEmu (logTraceOps cfg env c.readings dev c.type c.traceVector).1.training
        (logTraceOps cfg env c.readings dev c.type c.traceVector).1.mNumTraceEvents
        (logTraceOps cfg env c.readings dev c.type c.traceVector).1.mMaxTraceEvents cs := by
  rw [logTraceOps_training, logTraceOps_count, logTraceOps_max, decodedSamples]
  split_ifs <;> rfl

end XdpProfile
