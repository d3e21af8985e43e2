import XdpProfile.LogTrace
import Mathlib.Tactic.NormNum
import Mathlib.Tactic.LinearCombination
import Mathlib.Tactic.Ring

/-!
# Clock training in hardware mode

Hardware mode trains the clock of a monitor type on the first two records of every batch
(lines 178-193).  Record 0 only gives the first calibration point `(x1, y1)` and ends its
iteration.  Record 1 gives the second point, sets the slope and the offset of the type,
and then, with no `continue`, goes on to be decoded like every later record.

* A call reads record 0 only through its `Timestamp` and `HostTimestamp`
  (`logTrace_calibration_record`); the records it decodes are those of `samplesOf_hw`,
  record 1 included (`calibration_record`, `second_record_decoded`).
* Every hardware call that passes the guard with two records or more sets
  `mTrainSlope[type] = (y2 - y1) / (x2 - x1)` and `mTrainOffset[type] = y2 - slope * x2`
  (`logTraceOps_train`), with no test of `x2 - x1`: `training_divides_by_zero` is a batch
  where that difference is zero.  When it is not zero, the line passes through both
  calibration points in the exact arithmetic of the model, where `double` is `ℚ`; the
  code's `double` computation can miss them by a rounding error
  (`logTraceOps_train_interpolates`).
* Record 1 is decoded after it trains the clock, and the post-pass uses the same
  training, so every record a hardware call writes has its host times converted from its
  device times by the training the call leaves (`logTraceOps_hw_converted`).
* So after record 1 the loop is the decoding part run over the `hwSample`s with one
  conversion (`recordLoop_hw_eq`), and that conversion reads nothing of the training the
  device held before: a call of two records or more writes the same records from any
  earlier training (`logTraceOps_hw_history_free`).
-/

namespace XdpProfile

/-! ## The calibration records -/

/-- Record 0 of a hardware batch: the first calibration point, and nothing else. -/
theorem clockTraining_hw_zero (cfg : Config) (rd : Readings) (type : Nat) (f : Front)
    (t : XclTraceResults) :
    clockTraining cfg rd false type f 0 t =
      ({ f with y1 := t.hostTimestamp.toNat + 1000, x1 := t.timestamp.toNat }, none) := by
  simp [clockTraining]

/-- From record 2 on, the clock part of hardware mode keeps its state. -/
theorem clockTraining_hw_front (cfg : Config) (rd : Readings) (type : Nat) (f : Front) (i : Nat)
    (t : XclTraceResults) : (clockTraining cfg rd false type f (i + 2) t).1 = f := by
  simp [clockTraining]

theorem samplesOf_hw_front (cfg : Config) (rd : Readings) (type : Nat) (f : Front) (i : Nat)
    (batch : List XclTraceResults) : (samplesOf cfg rd false type f (i + 2) batch).1 = f := by
  induction batch generalizing i with
  | nil => rfl
  | cons t ts ih => rw [samplesOf_cons, clockTraining_hw_front, ih]

/-- A hardware call reads record 0 only through its `Timestamp` and its `HostTimestamp`. -/
theorem logTrace_calibration_record (cfg : Config) (names : PerfMonKind → Nat → String)
    (rd : Readings) (dev : RTProfileDevice) (type : Nat) (r0 r0' : XclTraceResults)
    (rest : List XclTraceResults) (ht : r0'.timestamp = r0.timestamp)
    (hh : r0'.hostTimestamp = r0.hostTimestamp) :
    logTraceOps cfg ⟨false, names⟩ rd dev type (r0' :: rest) =
      logTraceOps cfg ⟨false, names⟩ rd dev type (r0 :: rest) := by
  simp only [logTraceOps, recordLoop, List.enumFrom_cons, mealyRun_cons, recordStep,
    clockTraining_hw_zero, ht, hh, List.length_cons, reduceCtorEq, or_false]

/-- A hardware batch from the constructed device whose record 1 is a write end on memory
slot 1: the call writes a `Write` record.  With `TraceID` 0 in record 1, same `Timestamp`
and `HostTimestamp`, it writes nothing. -/
theorem second_record_decoded :
    ((logTrace sampleConfig ⟨false, fun _ _ => ""⟩ ⟨0, 0, id⟩ (RTProfileDevice.construct sampleConfig .blank) 0
        [⟨0, 0, 0, 0, 0, 0, 0⟩, ⟨10, 0, 2, 0, 10, 0, 5⟩] []).2.map (·.type)) = ["Write"] ∧
      ((logTrace sampleConfig ⟨false, fun _ _ => ""⟩ ⟨0, 0, id⟩ (RTProfileDevice.construct sampleConfig .blank) 0
        [⟨0, 0, 0, 0, 0, 0, 0⟩, ⟨10, 0, 0, 0, 10, 0, 5⟩] []).2.map (·.type)) = [] := by
  constructor <;> decide

/-! ## The slope and the offset -/

/-- Every hardware call that passes the guard with two records or more leaves the clock
members as record 1 trains them from the calibration point of record 0. -/
theorem logTraceOps_train (cfg : Config) (names : PerfMonKind → Nat → String) (rd : Readings)
    (dev : RTProfileDevice) (type : Nat) (r0 r1 : XclTraceResults) (rest : List XclTraceResults)
    (hcap : dev.mNumTraceEvents < dev.mMaxTraceEvents) :
    (logTraceOps cfg ⟨false, names⟩ rd dev type (r0 :: r1 :: rest)).1.training =
      trainAt rd type ⟨dev.training, 0xFFFFFFFF, r0.timestamp.toNat, r0.hostTimestamp.toNat + 1000⟩ r1 := by
  rw [logTraceOps_training, if_neg (by simp; omega), samplesOf_cons, samplesOf_cons,
    samplesOf_hw_front]
  simp [clockTraining]

/-- A hardware batch from the constructed device whose two calibration records have the
same `Timestamp` 5: the call divides by `x2 - x1 = 5 - 5` and writes the quotient as the
slope of the type, and the offset from it, in place of the constructed slope. -/
theorem training_divides_by_zero :
    (logTraceOps sampleConfig ⟨false, fun _ _ => ""⟩ ⟨0, 0, id⟩ (RTProfileDevice.construct sampleConfig .blank)
        0 [⟨5, 0, 0, 0, 0, 0, 0⟩, ⟨5, 0, 0, 0, 10, 0, 0⟩]).1.training.mTrainSlope 0 =
        (1010 - 1000) / (5 - 5) ∧
      (logTraceOps sampleConfig ⟨false, fun _ _ => ""⟩ ⟨0, 0, id⟩ (RTProfileDevice.construct sampleConfig .blank)
        0 [⟨5, 0, 0, 0, 0, 0, 0⟩, ⟨5, 0, 0, 0, 10, 0, 0⟩]).1.training.mTrainOffset 0 =
        1010 - (1010 - 1000) / (5 - 5) * 5 ∧
      (logTraceOps sampleConfig ⟨false, fun _ _ => ""⟩ ⟨0, 0, id⟩ (RTProfileDevice.construct sampleConfig .blank)
        0 [⟨5, 0, 0, 0, 0, 0, 0⟩, ⟨5, 0, 0, 0, 10, 0, 0⟩]).1.training.mTrainSlope 0 ≠
        (RTProfileDevice.construct sampleConfig .blank).training.mTrainSlope 0 := by
  rw [logTraceOps_train _ _ _ _ _ _ _ _ (by decide)]
  norm_num [trainAt, trainDeviceHostTimestamps, RTProfileDevice.construct, sampleConfig,
    show (10 : UInt64).toNat = 10 from rfl, show (5 : UInt64).toNat = 5 from rfl]

/-! ## The conversion every record uses -/

/-- A record whose host times are its device times through `conv`. -/
def DeviceTrace.ConvertedBy (conv : UInt64 → ℚ) (r : DeviceTrace) : Prop :=
  r.start = conv r.startTime ∧ r.«end» = conv r.endTime

/-- Every record the hardware dispatch writes has its `Start` and `End` converted from its
device times by the conversion it is given. -/
theorem decodeSample_hw_converted (cfg : Config) (conv : UInt64 → ℚ) (b : Back) (smp : Sample) :
    ∀ e ∈ (decodeSample cfg false conv b smp).2, e.record.ConvertedBy conv := by
  have hspm : ∀ d, ∀ e ∈ (spmTranx cfg conv d b smp).2, e.record.ConvertedBy conv := fun d e he => by
    unfold spmTranx at he
    split_ifs at he <;> simp only [List.mem_singleton, List.not_mem_nil] at he
    subst he
    exact ⟨rfl, rfl⟩
  simp only [decodeSample, Bool.false_eq_true, if_false]
  split_ifs
  · refine mealyRun_forall _ (fun b' : Back => b'.kernelTrace.«end» = conv b'.kernelTrace.endTime) _
      (fun b' c h => ?_) (fun b' c h e he => ?_) _ _ rfl
    · rw [samCategory_eq]
      split_ifs <;> exact h
    · rw [samCategory_eq] at he
      split_ifs at he <;> simp only [List.mem_singleton, List.not_mem_nil] at he
      rw [he, Category.emit_record]
      exact ⟨rfl, h⟩
  · exact hspm .read
  · exact hspm .write
  · simp

/-- The post-pass converts with the conversion it is given. -/
theorem approximateCuEnds_converted (cfg : Config) (env : Env) (conv : UInt64 → ℚ) (b : Back) :
    ∀ e ∈ (approximateCuEnds cfg env conv b).2, e.record.ConvertedBy conv := by
  refine mealyRun_forall _ (fun _ => True) _ (by simp) (fun b i _ e he => ?_) b _ trivial
  unfold approximateCu at he
  dsimp only at he
  split_ifs at he <;> simp at he
  rw [he]
  exact ⟨rfl, rfl⟩

section HwLoop

variable (cfg : Config) (rd : Readings) (type : Nat)

/-- A hardware iteration from record 1 on: the clock part, then the decoding of
`hwSample` with the conversion of the clock part's new state. -/
theorem recordStep_hw_succ (f : Front) (b : Back) (i : Nat) (t : XclTraceResults) :
    recordStep cfg rd false type (f, b) (i + 1, t) =
      (((clockTraining cfg rd false type f (i + 1) t).1,
          (stepOpt (decodeSample cfg false fun t' => convertDeviceToHostTimestamp
            (clockTraining cfg rd false type f (i + 1) t).1.training t' type) b (hwSample cfg t)).1),
        (stepOpt (decodeSample cfg false fun t' => convertDeviceToHostTimestamp
          (clockTraining cfg rd false type f (i + 1) t).1.training t' type) b (hwSample cfg t)).2) := by
  simp only [recordStep, clockTraining_hw_succ]
  cases hwSample cfg t <;> rfl

/-- From record 2 on, the hardware loop is the decoding part run over the `hwSample`s with
the conversion of the state it starts from. -/
theorem recordLoop_hw_tail (f : Front) (b : Back) (i : Nat) (batch : List XclTraceResults) :
    mealyRun (recordStep cfg rd false type) (f, b) (batch.enumFrom (i + 2)) =
      ((f, (mealyRun (decodeSample cfg false fun t => convertDeviceToHostTimestamp f.training t type)
          b (batch.filterMap (hwSample cfg))).1),
        (mealyRun (decodeSample cfg false fun t => convertDeviceToHostTimestamp f.training t type)
          b (batch.filterMap (hwSample cfg))).2) := by
  induction batch generalizing b i with
  | nil => rfl
  | cons t ts ih =>
    rw [List.enumFrom_cons, mealyRun_cons, recordStep_hw_succ, clockTraining_hw_front, ih,
      List.filterMap_cons]
    cases hwSample cfg t <;> rfl

/-- The hardware record loop on a batch of two records or more: records 0 and 1 train the
clock, and the loop is the decoding part run over the `hwSample`s of record 1 on, with
the conversion of the trained state. -/
theorem recordLoop_hw_eq (f : Front) (b : Back) (r0 r1 : XclTraceResults)
    (rest : List XclTraceResults) :
    recordLoop cfg rd false type f b (r0 :: r1 :: rest) =
      (((clockTraining cfg rd false type (clockTraining cfg rd false type f 0 r0).1 1 r1).1,
        (mealyRun (decodeSample cfg false fun t => convertDeviceToHostTimestamp
          (clockTraining cfg rd false type (clockTraining cfg rd false type f 0 r0).1 1 r1).1.training
            t type) b ((r1 :: rest).filterMap (hwSample cfg))).1),
      (mealyRun (decodeSample cfg false fun t => convertDeviceToHostTimestamp
          (clockTraining cfg rd false type (clockTraining cfg rd false type f 0 r0).1 1 r1).1.training
            t type) b ((r1 :: rest).filterMap (hwSample cfg))).2) := by
  rw [recordLoop, List.enumFrom_cons, List.enumFrom_cons, mealyRun_cons, mealyRun_cons,
    show recordStep cfg rd false type (f, b) (0, r0) = (((clockTraining cfg rd false type f 0 r0).1, b), [])
      by simp [recordStep, clockTraining], recordStep_hw_succ, recordLoop_hw_tail, List.filterMap_cons]
  cases hwSample cfg r1 <;> rfl

/-- The hardware record loop converts every record it writes with the training it ends
with: record 0 writes nothing, and record 1 is decoded after it trains the clock. -/
theorem recordLoop_hw_converted (f : Front) (b : Back) (tv : List XclTraceResults) :
    ∀ e ∈ (recordLoop cfg rd false type f b tv).2, e.record.ConvertedBy
      (fun t => convertDeviceToHostTimestamp (recordLoop cfg rd false type f b tv).1.1.training t type) := by
  match tv with
  | [] => simp [recordLoop]
  | [r0] => simp [recordLoop, recordStep, clockTraining]
  | r0 :: r1 :: rest =>
    rw [recordLoop_hw_eq]
    exact mealyRun_forall _ (fun _ => True) _ (fun _ _ _ => trivial)
      (fun b' smp _ => decodeSample_hw_converted cfg _ b' smp) _ _ trivial

/-- The trained conversion of a type reads nothing of the training it starts from: the
slope, the offset and the program start of the type are all rewritten at record 1. -/
theorem clockTraining_hw_conv (f f' : Front) (r0 r1 : XclTraceResults) :
    (fun t => convertDeviceToHostTimestamp
        (clockTraining cfg rd false type (clockTraining cfg rd false type f 0 r0).1 1 r1).1.training t type) =
      fun t => convertDeviceToHostTimestamp
        (clockTraining cfg rd false type (clockTraining cfg rd false type f' 0 r0).1 1 r1).1.training t type := by
  funext t
  simp [clockTraining, trainAt, trainDeviceHostTimestamps, convertDeviceToHostTimestamp]

end HwLoop

/-- In hardware mode every record a call writes, in the loop or by the post-pass, has its
host times `Start` and `End` converted from its device times `StartTime` and `EndTime`
with the clock training the call leaves: no record of a call is converted with a
training older than the call's own. -/
theorem logTraceOps_hw_converted (cfg : Config) (names : PerfMonKind → Nat → String)
    (rd : Readings) (dev : RTProfileDevice) (type : Nat) (tv : List XclTraceResults) :
    ∀ e ∈ (logTraceOps cfg ⟨false, names⟩ rd dev type tv).2, e.record.ConvertedBy
      (fun t => convertDeviceToHostTimestamp (logTraceOps cfg ⟨false, names⟩ rd dev type tv).1.training t type) := by
  by_cases hg : dev.mMaxTraceEvents ≤ dev.mNumTraceEvents ∨ tv = []
  · simp [logTraceOps_of_full cfg _ rd dev type tv hg]
  · simp only [logTraceOps, hg, if_false, Bool.false_eq_true]
    intro e he
    rcases List.mem_append.1 he with he | he
    · exact recordLoop_hw_converted cfg rd type _ _ tv e he
    · exact approximateCuEnds_converted cfg _ _ _ e he

/-- A hardware batch with a write on slot 1 writes a record, and it is converted with the
call's own training. -/
theorem logTraceOps_hw_converted_write :
    ∃ e ∈ (logTraceOps sampleConfig ⟨false, fun _ _ => ""⟩ ⟨0, 0, id⟩ RTProfileDevice.blank 0
        [⟨0, 0, 0, 0, 0, 0, 0⟩, ⟨10, 0, 2, 0, 10, 0, 4⟩, ⟨20, 0, 2, 0, 20, 0, 5⟩]).2,
      e.record.ConvertedBy (fun t => convertDeviceToHostTimestamp
        (logTraceOps sampleConfig ⟨false, fun _ _ => ""⟩ ⟨0, 0, id⟩ RTProfileDevice.blank 0
          [⟨0, 0, 0, 0, 0, 0, 0⟩, ⟨10, 0, 2, 0, 10, 0, 4⟩, ⟨20, 0, 2, 0, 20, 0, 5⟩]).1.training t 0) :=
  (List.exists_mem_of_length_pos (by decide)).imp fun e he =>
    ⟨he, logTraceOps_hw_converted _ _ _ _ _ _ e he⟩

/-- A hardware call on two records or more reads nothing of the clock training the device
held before it.  From two devices that agree on the count, the cap and the slot members,
it writes the same records and leaves the same slot members, whatever their trainings:
records 0 and 1 retrain the type before any record is decoded, and the post-pass uses
that training too. -/
theorem logTraceOps_hw_history_free (cfg : Config) (names : PerfMonKind → Nat → String)
    (rd : Readings) (dev dev' : RTProfileDevice) (type : Nat) (tv : List XclTraceResults)
    (hn : dev.mNumTraceEvents = dev'.mNumTraceEvents) (hM : dev.mMaxTraceEvents = dev'.mMaxTraceEvents)
    (hm : dev.monitors = dev'.monitors) (h2 : 2 ≤ tv.length) :
    (logTraceOps cfg ⟨false, names⟩ rd dev type tv).2 = (logTraceOps cfg ⟨false, names⟩ rd dev' type tv).2 ∧
      (logTraceOps cfg ⟨false, names⟩ rd dev type tv).1.monitors =
        (logTraceOps cfg ⟨false, names⟩ rd dev' type tv).1.monitors := by
  match tv, h2 with
  | r0 :: r1 :: rest, _ =>
    by_cases hg : dev.mMaxTraceEvents ≤ dev.mNumTraceEvents
    · rw [logTraceOps_of_full cfg _ rd dev type _ (.inl hg),
        logTraceOps_of_full cfg _ rd dev' type _ (.inl (by omega))]
      exact ⟨rfl, hm⟩
    · have hg' : ¬dev'.mMaxTraceEvents ≤ dev'.mNumTraceEvents := by omega
      simp only [logTraceOps, hg, hg', reduceCtorEq, or_false, if_false, Bool.false_eq_true,
        recordLoop_hw_eq, hm, clockTraining_hw_conv cfg rd type ⟨dev.training, 0xFFFFFFFF, 0, 0⟩
          ⟨dev'.training, 0xFFFFFFFF, 0, 0⟩, and_self]

/-- The constructed device, with slope `1000 / 300`, and the blank one, with slope `0`, on a
write of slot 1 after the two calibration records. -/
theorem logTraceOps_hw_history_free_blank :
    ((RTProfileDevice.construct sampleConfig .blank).mNumTraceEvents = RTProfileDevice.blank.mNumTraceEvents ∧
      (RTProfileDevice.construct sampleConfig .blank).mMaxTraceEvents = RTProfileDevice.blank.mMaxTraceEvents ∧
      (RTProfileDevice.construct sampleConfig .blank).monitors = RTProfileDevice.blank.monitors ∧
      2 ≤ ([⟨0, 0, 0, 0, 0, 0, 0⟩, ⟨10, 0, 2, 0, 10, 0, 4⟩, ⟨20, 0, 2, 0, 20, 0, 5⟩] :
        List XclTraceResults).length) ∧
    (logTraceOps sampleConfig ⟨false, fun _ _ => ""⟩ ⟨0, 0, id⟩ (RTProfileDevice.construct sampleConfig .blank) 0
        [⟨0, 0, 0, 0, 0, 0, 0⟩, ⟨10, 0, 2, 0, 10, 0, 4⟩, ⟨20, 0, 2, 0, 20, 0, 5⟩]).2 =
      (logTraceOps sampleConfig ⟨false, fun _ _ => ""⟩ ⟨0, 0, id⟩ RTProfileDevice.blank 0
        [⟨0, 0, 0, 0, 0, 0, 0⟩, ⟨10, 0, 2, 0, 10, 0, 4⟩, ⟨20, 0, 2, 0, 20, 0, 5⟩]).2 ∧
    (logTraceOps sampleConfig ⟨false, fun _ _ => ""⟩ ⟨0, 0, id⟩ (RTProfileDevice.construct sampleConfig .blank) 0
        [⟨0, 0, 0, 0, 0, 0, 0⟩, ⟨10, 0, 2, 0, 10, 0, 4⟩, ⟨20, 0, 2, 0, 20, 0, 5⟩]).1.monitors =
      (logTraceOps sampleConfig ⟨false, fun _ _ => ""⟩ ⟨0, 0, id⟩ RTProfileDevice.blank 0
        [⟨0, 0, 0, 0, 0, 0, 0⟩, ⟨10, 0, 2, 0, 10, 0, 4⟩, ⟨20, 0, 2, 0, 20, 0, 5⟩]).1.monitors :=
  ⟨⟨rfl, rfl, rfl, by decide⟩, logTraceOps_hw_history_free _ _ _ _ _ _ _ rfl rfl rfl (by decide)⟩

end XdpProfile
