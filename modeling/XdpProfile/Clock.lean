import XdpProfile.Records

/-!
# The clock part of the record loop

Each iteration of the record loop of `logTrace` starts with its "Clock Training"
section, lines 158-206.  It reads and writes only the clock members (`Training`) and
three loop locals (`prevHostTimestamp`, `x1`, `y1`), and either ends the iteration by
`continue` or hands the record on with its device timestamp, its host time and its
slot.  `clockTraining` is that section and `Sample` what it hands on.

* Emulation mode accumulates the device time in the 32-bit `mPrevTimestamp[type]`
  (`emuTimestamp`), drops a record that repeats the last host timestamp with
  `Timestamp == 1`, and converts the host time by `getTimestampNsec`.
* Hardware mode uses record 0 of a batch only to remember one calibration point, and
  record 1 also to train the slope, the offset and the program start of the type.
  From record 1 on, the timestamp (`hwTimestamp`) and the slot (`hwSlotID`) are
  functions of the record alone (`hwSample`).

`samplesOf` runs the clock part alone over a batch.  Since the rest of the loop never
touches what the clock part reads, the records the loop decodes are exactly these
samples (`LogTrace.lean`).
-/

namespace XdpProfile

/-- What the host clocks read during one call of `logTrace`. -/
structure Readings where
  /-- `high_resolution_clock::now().time_since_epoch()`, in nanoseconds. -/
  highResolutionNow : UInt64
  /-- `xrt::time_ns()`: the device "time now" oracle, in nanoseconds. -/
  timeNs : UInt64
  /-- `getTimestampNsec`, declared in the header.  Emulation mode anchors it at the least
  `HostTimestamp` of the batch (lines 136-143) before any record is read, so within a call
  it is one function. -/
  getTimestampNsec : UInt64 → UInt64

/-- `trainDeviceHostTimestamps`, lines 624-633: the program start of a type is the
difference of the two clocks. -/
def trainDeviceHostTimestamps (rd : Readings) (tr : Training) (type : Nat) : Training :=
  { tr with
    mTrainProgramStart :=
      Function.update tr.mTrainProgramStart type ((rd.highResolutionNow - rd.timeNs).toNat : ℚ) }

/-- `convertDeviceToHostTimestamp`, lines 635-639: `y = m*x + b` in msec, with `b`
relative to the program start. -/
def convertDeviceToHostTimestamp (tr : Training) (deviceTimestamp : UInt64) (type : Nat) : ℚ :=
  tr.mTrainSlope type * deviceTimestamp.toNat / 1000000 +
    (tr.mTrainOffset type - tr.mTrainProgramStart type) / 1000000

/-- The state of the clock part: the clock members and the loop locals it keeps. -/
structure Front where
  /-- The clock members. -/
  training : Training
  /-- `prevHostTimestamp`, a `uint32_t`, initially `0xFFFFFFFF`. -/
  prevHostTimestamp : UInt32
  /-- `x1`: the device time of record 0. -/
  x1 : ℚ
  /-- `y1`: the host time of record 0, plus the transport delay. -/
  y1 : ℚ

/-- A record the clock part hands on to the decoding part. -/
structure Sample where
  /-- The record. -/
  trace : XclTraceResults
  /-- `timestamp`, a `uint32_t`. -/
  timestamp : UInt32
  /-- `hostTimestampNsec`; only emulation mode assigns it, so it is `0` in hardware
  mode. -/
  hostTimestampNsec : UInt64
  /-- `slotID`; only hardware mode assigns it, so it is `0` in emulation mode. -/
  slotID : Nat

/-- The slot of a hardware record, lines 197-206; `none` is `continue`. -/
def hwSlotID (traceID : Nat) : Option Nat :=
  if 64 ≤ traceID ∧ traceID ≤ 544 then some ((traceID - 64) / 16)
  else if 2 ≤ traceID ∧ traceID ≤ 61 then some (traceID / 2)
  else none

/-- The device time of a hardware record, lines 194-196: the 64-bit `Timestamp`, moved
past the wrap when `Overflow` is set, truncated to the 32-bit `timestamp`. -/
def hwTimestamp (cfg : Config) (trace : XclTraceResults) : UInt32 :=
  (if trace.overflow = 1 then trace.timestamp + UInt64.ofNat cfg.loopAddTimeSpm
    else trace.timestamp).toUInt32

/-- What hardware mode hands on for a record after the first of its batch. -/
def hwSample (cfg : Config) (trace : XclTraceResults) : Option Sample :=
  (hwSlotID trace.traceID).map fun s => ⟨trace, hwTimestamp cfg trace, 0, s⟩

/-- The device time of an emulation record, lines 163-165: the 32-bit running sum. -/
def emuTimestamp (cfg : Config) (prev : UInt32) (trace : XclTraceResults) : UInt32 :=
  if trace.overflow = 1 then trace.timestamp.toUInt32 + prev + UInt32.ofNat cfg.loopAddTime
  else trace.timestamp.toUInt32 + prev

/-- The training at record 1 of a hardware batch, lines 187-193. -/
def trainAt (rd : Readings) (type : Nat) (f : Front) (trace : XclTraceResults) : Training :=
  let y2 : ℚ := trace.hostTimestamp.toNat + 1000
  let x2 : ℚ := trace.timestamp.toNat
  let slope := (y2 - f.y1) / (x2 - f.x1)
  trainDeviceHostTimestamps rd
    { f.training with
      mTrainSlope := Function.update f.training.mTrainSlope type slope
      mTrainOffset := Function.update f.training.mTrainOffset type (y2 - slope * x2) } type

/-- The "Clock Training" section of iteration `i`, lines 158-206. -/
def clockTraining (cfg : Config) (rd : Readings) (isHwEmu : Bool) (type : Nat) (f : Front)
    (i : Nat) (trace : XclTraceResults) : Front × Option Sample :=
  if isHwEmu then
    let ts := emuTimestamp cfg (f.training.mPrevTimestamp type) trace
    let f := { f with
      training := { f.training with
        mPrevTimestamp := Function.update f.training.mPrevTimestamp type ts } }
    if trace.hostTimestamp = f.prevHostTimestamp.toUInt64 ∧ trace.timestamp = 1 then (f, none)
    else
      ({ f with prevHostTimestamp := trace.hostTimestamp.toUInt32 },
        some ⟨trace, ts, rd.getTimestampNsec trace.hostTimestamp, 0⟩)
  else if i = 0 then
    ({ f with y1 := trace.hostTimestamp.toNat + 1000, x1 := trace.timestamp.toNat }, none)
  else
    ((if i = 1 then { f with training := trainAt rd type f trace } else f), hwSample cfg trace)

/-- The clock part run alone over a batch from index `i`: its final state and the
samples it hands on. -/
def samplesOf (cfg : Config) (rd : Readings) (isHwEmu : Bool) (type : Nat) (f : Front) (i : Nat)
    (batch : List XclTraceResults) : Front × List Sample :=
  mealyRun (fun f p => ((clockTraining cfg rd isHwEmu type f p.1 p.2).1,
    (clockTraining cfg rd isHwEmu type f p.1 p.2).2.toList)) f (batch.enumFrom i)

@[simp] theorem clockTraining_hw_succ (cfg : Config) (rd : Readings) (type : Nat) (f : Front)
    (i : Nat) (trace : XclTraceResults) :
    (clockTraining cfg rd false type f (i + 1) trace).2 = hwSample cfg trace := by
  simp [clockTraining]

/-- From record 1 on, hardware mode hands on `hwSample` of every record. -/
theorem samplesOf_hw_succ (cfg : Config) (rd : Readings) (type : Nat) (f : Front) (i : Nat)
    (batch : List XclTraceResults) :
    (samplesOf cfg rd false type f (i + 1) batch).2 = batch.filterMap (hwSample cfg) := by
  induction batch generalizing f i with
  | nil => rfl
  | cons t ts ih =>
    have h := ih (clockTraining cfg rd false type f (i + 1) t).1 (i + 1)
    simp only [samplesOf, List.enumFrom_cons, mealyRun_cons] at h ⊢
    rw [h, clockTraining_hw_succ]
    rw [List.filterMap_cons]
    cases hwSample cfg t <;> rfl

/-- A hardware batch: record 0 is only a calibration point. -/
theorem samplesOf_hw (cfg : Config) (rd : Readings) (type : Nat) (f : Front)
    (batch : List XclTraceResults) :
    (samplesOf cfg rd false type f 0 batch).2 = batch.tail.filterMap (hwSample cfg) := by
  cases batch with
  | nil => rfl
  | cons t ts =>
    have h := samplesOf_hw_succ cfg rd type (clockTraining cfg rd false type f 0 t).1 0 ts
    simp only [samplesOf, List.enumFrom_cons, mealyRun_cons] at h ⊢
    rw [h]
    simp [clockTraining]

end XdpProfile
