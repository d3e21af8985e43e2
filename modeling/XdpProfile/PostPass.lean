import XdpProfile.Toggle
import Mathlib.Tactic.NormNum

/-!
# The approximated compute unit ends

In hardware mode a compute unit still started after the loop gets an approximated end
(lines 453-487): at the last activity of the unit and of its memory slots, a `Kernel`
record is inserted at the front, built in the reused local `kernelTrace`.  The loop's
own end path (lines 328-343) sets every field of that object, `TraceStart` to `Start`
(`cuEndRecord`, `samTrace_cu_end`).  The post-pass sets every field but `TraceStart`
(`approximateCuEnds_eq`), so the approximated record carries the `TraceStart` of
whatever interval the loop wrote last: `approximated_traceStart_stale` is such a batch,
where it is the `Start` of a stall.

Which units get such a record is a matter of the toggle of each unit: from a device none
of whose units is started, the post-pass of a call writes one record for each unit whose
`CU` events in the batch are odd in number, from the time of the last of them to the
latest activity of the unit (`lastTimeStamp_max`, `approximated_cu_ends`), and leaves
every unit stopped.
-/

namespace XdpProfile

/-! ## The loop's end record -/

/-- The record the loop's compute unit end path (lines 328-343) writes for slot `i` at
device time `L`: it sets every field, `TraceStart` to `Start`. -/
def cuEndRecord (conv : UInt64 → ℚ) (m : Monitors) (i : Nat) (L : UInt64) : DeviceTrace where
  slotNum := i
  name := "OCL Region"
  type := "Kernel"
  kind := .deviceKernel
  startTime := m.mAccelMonCuTime i
  endTime := L
  start := conv (m.mAccelMonCuTime i)
  «end» := conv L
  burstLength := 0
  numBytes := 0
  traceStart := conv (m.mAccelMonCuTime i)

/-- A hardware record that ends the started compute unit of its slot writes, first,
`cuEndRecord` at its own time. -/
theorem samTrace_cu_end (conv : UInt64 → ℚ) (b : Back) (smp : Sample)
    (hb : smp.trace.traceID.testBit Category.cu.bit = true)
    (hs : (b.monitors.mAccelMonStartedEvents smp.slotID).testBit Category.cu.bit = true) :
    (samTrace conv b smp).2.head? =
      some (.insertBegin (cuEndRecord conv b.monitors smp.slotID smp.timestamp.toUInt64)) := by
  have h1 := (Category.land_mask_ne_zero .cu _).2 hb
  have h2 := (Category.land_mask_ne_zero .cu _).2 hs
  simp only [samTrace, Category.all, mealyRun_cons, samCategory_eq, samCommon, if_pos h1, if_pos h2]
  rfl

/-! ## The post-pass -/

/-- One slot of the post-pass: the loop's end record at the slot's last activity, but
with the `TraceStart` of the reused `kernelTrace`; it keeps that `TraceStart`. -/
theorem approximateCu_eq (cfg : Config) (env : Env) (conv : UInt64 → ℚ) (b : Back) (i : Nat) :
    (approximateCu cfg env conv b i).2 =
        (if b.monitors.mAccelMonStartedEvents i &&& xsamTraceCuMask ≠ 0 ∧
            lastTimeStamp cfg env b.monitors i ≠ 0 then
          [.insertBegin { cuEndRecord conv b.monitors i (lastTimeStamp cfg env b.monitors i) with
            traceStart := b.kernelTrace.traceStart }]
        else []) ∧
      (approximateCu cfg env conv b i).1.kernelTrace.traceStart = b.kernelTrace.traceStart := by
  unfold approximateCu
  dsimp only
  split_ifs <;> simp_all [cuEndRecord]

/-- The post-pass writes, in increasing slot order, one record for each slot whose compute
unit is still started and has a last activity: the loop's end record at that activity, but
with the `TraceStart` the reused `kernelTrace` held when the post-pass began. -/
theorem approximateCuEnds_eq (cfg : Config) (env : Env) (conv : UInt64 → ℚ) (b : Back) :
    (approximateCuEnds cfg env conv b).2 = (List.range cfg.xsamMaxNumberSlots).filterMap fun i =>
      if b.monitors.mAccelMonStartedEvents i &&& xsamTraceCuMask ≠ 0 ∧
          lastTimeStamp cfg env b.monitors i ≠ 0 then
        some (.insertBegin { cuEndRecord conv b.monitors i (lastTimeStamp cfg env b.monitors i) with
          traceStart := b.kernelTrace.traceStart })
      else none := by
  unfold approximateCuEnds
  suffices ∀ b' : Back, b'.monitors = b.monitors → b'.kernelTrace.traceStart = b.kernelTrace.traceStart →
      ∀ l, (mealyRun (approximateCu cfg env conv) b' l).2 = l.filterMap fun i =>
        if b.monitors.mAccelMonStartedEvents i &&& xsamTraceCuMask ≠ 0 ∧
            lastTimeStamp cfg env b.monitors i ≠ 0 then
          some (.insertBegin { cuEndRecord conv b.monitors i (lastTimeStamp cfg env b.monitors i) with
            traceStart := b.kernelTrace.traceStart })
        else none from this b rfl rfl _
  intro b' hm ht l
  induction l generalizing b' with
  | nil => rfl
  | cons i is ih =>
    obtain ⟨h1, h2⟩ := approximateCu_eq cfg env conv b' i
    rw [mealyRun_cons, ih _ ((approximateCu_monitors cfg env conv b' i).trans hm) (h2.trans ht), h1,
      List.filterMap_cons, hm, ht]
    split_ifs <;> rfl

/-! ## A stale `TraceStart` -/

/-- With no memory slot active, the last activity of a compute unit is its own. -/
theorem lastTimeStamp_of_perfMon_zero (cfg : Config) (env : Env) (m : Monitors) (i : Nat)
    (h : ∀ j, m.mPerfMonLastTranx j = 0) :
    lastTimeStamp cfg env m i = if 0 < m.mAccelMonLastTranx i then m.mAccelMonLastTranx i else 0 := by
  unfold lastTimeStamp
  dsimp only
  induction List.range cfg.xspmMaxNumberSlots with
  | nil => rfl
  | cons j l ih => simpa [h] using ih

/-- A hardware batch from the constructed device: the two training records, a dataflow
stall on slot 0 from time 20 to 30, then a compute unit start on slot 0 at time 40 that
the batch never ends.  The approximated `Kernel` record starts at 40 but carries the
stall's `TraceStart`, that of time 20. -/
theorem approximated_traceStart_stale :
    ((logTrace sampleConfig ⟨false, fun _ _ => ""⟩ ⟨0, 0, id⟩ (RTProfileDevice.construct sampleConfig .blank) 0
        [⟨0, 0, 0, 0, 0, 0, 0⟩, ⟨10, 0, 0, 0, 10, 0, 0⟩, ⟨20, 0, 66, 0, 0, 0, 0⟩, ⟨30, 0, 66, 0, 0, 0, 0⟩,
          ⟨40, 0, 65, 0, 0, 0, 0⟩] []).2.map fun r => (r.type, r.start, r.traceStart)) =
      [("Kernel", 1040 / 1000000, 1020 / 1000000),
        ("Intra-Kernel Dataflow Stall", 1020 / 1000000, 1020 / 1000000)] := by
  simp +decide [logTrace, logTraceOps, recordLoop, recordStep, clockTraining, decodeSample, samTrace,
    applyOps, Emit.apply, RTProfileDevice.construct, RTProfileDevice.blank, hwSample, hwSlotID,
    hwTimestamp, trainAt, trainDeviceHostTimestamps, convertDeviceToHostTimestamp, Category.all,
    samCategory, samCommon, Monitors.updateEvents, Category.mask, xsamTraceCuMask,
    xsamTraceStallIntMask, xsamTraceStallStrMask, xsamTraceStallExtMask, Monitors.catTime,
    Monitors.setCatTime, Category.emit, Category.type, approximateCuEnds_eq,
    lastTimeStamp_of_perfMon_zero, sampleConfig, cuEndRecord]
  have hnone : ∀ l : List Nat, l.filterMap (fun _ => (none : Option Emit)) = [] :=
    fun l => List.filterMap_eq_nil_iff.2 fun _ _ => rfl
  rw [List.range_succ_eq_map]
  simp +decide [List.filterMap_map, Function.update_apply, Function.comp_def, hnone, Emit.apply]
  norm_num [show (UInt64.toUInt32 20).toUInt64.toNat = 20 from rfl,
    show (UInt64.toUInt32 40).toUInt64.toNat = 40 from rfl]

/-! ## From compute units none of which is started -/

/-- The fold of lines 467-472 keeps the latest time of the slots it selects, from `init`. -/
theorem foldl_latest (P : Nat → Prop) [DecidablePred P] (v : Nat → UInt64) (l : List Nat)
    (init : UInt64) :
    init ≤ l.foldl (fun acc j => if P j ∧ acc < v j then v j else acc) init ∧
      (∀ j ∈ l, P j → v j ≤ l.foldl (fun acc j => if P j ∧ acc < v j then v j else acc) init) ∧
      (l.foldl (fun acc j => if P j ∧ acc < v j then v j else acc) init = init ∨
        ∃ j ∈ l, P j ∧ l.foldl (fun acc j => if P j ∧ acc < v j then v j else acc) init = v j) := by
  induction l generalizing init with
  | nil => exact ⟨UInt64.le_refl _, by simp, .inl rfl⟩
  | cons j l ih =>
    obtain ⟨i1, i2, i3⟩ := ih (if P j ∧ init < v j then v j else init)
    simp only [List.foldl_cons, List.mem_cons, forall_eq_or_imp, exists_eq_or_imp]
    have hle : init ≤ (if P j ∧ init < v j then v j else init) ∧
        (P j → v j ≤ (if P j ∧ init < v j then v j else init)) := by
      show init.toNat ≤ _ ∧ (P j → (v j).toNat ≤ _)
      split_ifs with h
      · exact ⟨Nat.le_of_lt h.2, fun _ => Nat.le_refl _⟩
      · exact ⟨Nat.le_refl _, fun hp => UInt64.not_lt.1 fun hlt => h ⟨hp, hlt⟩⟩
    refine ⟨UInt64.le_trans hle.1 i1, ⟨fun hp => UInt64.le_trans (hle.2 hp) i1, i2⟩, ?_⟩
    rcases i3 with h | h
    · rw [h]
      split_ifs with hc
      · exact .inr (.inl ⟨hc.1, rfl⟩)
      · exact .inl rfl
    · exact .inr (.inr h)

/-- `lastTimeStamp` is the latest of the compute unit's own last activity and those of the
memory slots whose name, up to its first `/`, is the compute unit's. -/
theorem lastTimeStamp_max (cfg : Config) (env : Env) (m : Monitors) (i : Nat) :
    m.mAccelMonLastTranx i ≤ lastTimeStamp cfg env m i ∧
      (∀ j < cfg.xspmMaxNumberSlots,
        env.getProfileSlotName .accel i = cuNameSPM (env.getProfileSlotName .memory j) →
          m.mPerfMonLastTranx j ≤ lastTimeStamp cfg env m i) ∧
      (lastTimeStamp cfg env m i = m.mAccelMonLastTranx i ∨
        ∃ j < cfg.xspmMaxNumberSlots,
          env.getProfileSlotName .accel i = cuNameSPM (env.getProfileSlotName .memory j) ∧
            lastTimeStamp cfg env m i = m.mPerfMonLastTranx j) := by
  obtain ⟨-, f2, f3⟩ := foldl_latest
    (fun j => env.getProfileSlotName .accel i = cuNameSPM (env.getProfileSlotName .memory j))
    m.mPerfMonLastTranx (List.range cfg.xspmMaxNumberSlots) 0
  unfold lastTimeStamp
  dsimp only
  generalize (List.range cfg.xspmMaxNumberSlots).foldl (fun l j =>
    if env.getProfileSlotName .accel i = cuNameSPM (env.getProfileSlotName .memory j) ∧
      l < m.mPerfMonLastTranx j then m.mPerfMonLastTranx j else l) (0 : UInt64) = l at f2 f3
  have hle : ∀ a b : UInt64, a < b → a ≤ b := fun _ _ h => Nat.le_of_lt h
  split_ifs with h
  · refine ⟨UInt64.le_refl _, fun j hj hp => UInt64.le_trans (f2 j (List.mem_range.2 hj) hp) (hle _ _ h),
      .inl rfl⟩
  · refine ⟨UInt64.not_lt.1 h, fun j hj hp => f2 j (List.mem_range.2 hj) hp, ?_⟩
    rcases f3 with rfl | ⟨j, hj, hp, rfl⟩
    · have h0 : (m.mAccelMonLastTranx i).toNat = (0 : UInt64).toNat := Nat.le_zero.1 (UInt64.not_lt.1 h)
      exact .inl (UInt64.toNat.inj h0).symm
    · exact .inr ⟨j, List.mem_range.1 hj, hp, rfl⟩

/-- A `filterMap` over the slots below `n` that keeps at most slot `i` keeps what slot `i`
gives, when `i` is one of them. -/
theorem filterMap_range_single {β : Type} (g : Nat → Option β) (i n : Nat)
    (h : ∀ j, j ≠ i → g j = none) :
    (List.range n).filterMap g = if i < n then (g i).toList else [] := by
  induction n with
  | zero => simp
  | succ n ih =>
    rw [List.range_succ, List.filterMap_append, ih]
    by_cases hn : n = i
    · subst hn
      simp only [lt_irrefl, if_false, List.nil_append, Nat.lt_succ_self, if_true]
      cases hg : g n <;> simp [hg]
    · have hi : i < n + 1 ↔ i < n := by omega
      simp [h n hn, hi]

/-- The post-pass writes, for slot `i`, the interval from the slot's stored compute unit
start to its last activity, exactly when its compute unit is still started and has a last
activity. -/
theorem approximateCuEnds_intervalAt (cfg : Config) (env : Env) (conv : UInt64 → ℚ) (b : Back)
    (i : Nat) (hi : i < cfg.xsamMaxNumberSlots) :
    (approximateCuEnds cfg env conv b).2.filterMap (Emit.intervalAt i "Kernel") =
      if (b.monitors.mAccelMonStartedEvents i).testBit Category.cu.bit ∧
          lastTimeStamp cfg env b.monitors i ≠ 0 then
        [(b.monitors.mAccelMonCuTime i, lastTimeStamp cfg env b.monitors i)]
      else [] := by
  have hm : ∀ w, w &&& xsamTraceCuMask ≠ 0 ↔ w.testBit Category.cu.bit = true :=
    Category.land_mask_ne_zero .cu
  rw [approximateCuEnds_eq, List.filterMap_filterMap, filterMap_range_single _ i _ fun j hj => ?_,
    if_pos hi]
  · simp only [hm]
    split_ifs <;> simp [Emit.intervalAt, Emit.record, cuEndRecord]
  · split_ifs <;> simp [Emit.intervalAt, Emit.record, cuEndRecord, hj]

/-- The post-pass writes only records of the slots it visits. -/
theorem approximateCuEnds_slot (cfg : Config) (env : Env) (conv : UInt64 → ℚ) (b : Back) :
    ∀ e ∈ (approximateCuEnds cfg env conv b).2, e.record.slotNum < cfg.xsamMaxNumberSlots := by
  rw [approximateCuEnds_eq]
  intro e he
  obtain ⟨j, hj, hje⟩ := List.mem_filterMap.1 he
  split_ifs at hje
  cases hje
  exact List.mem_range.1 hj

/-- Over compute units none of which is started, the post-pass writes nothing. -/
theorem approximateCuEnds_of_stopped (cfg : Config) (env : Env) (conv : UInt64 → ℚ) (b : Back)
    (h0 : ∀ i < cfg.xsamMaxNumberSlots, b.monitors.mAccelMonStartedEvents i = 0) :
    (approximateCuEnds cfg env conv b).2 = [] := by
  rw [approximateCuEnds_eq, List.filterMap_eq_nil_iff]
  intro i hi
  simp [h0 i (List.mem_range.1 hi), xsamTraceCuMask]

/-- In hardware mode, a call that processes its batch from compute units none of which is
started writes, after its record loop, the approximated ends: for each compute unit slot
`i`, whose unit the loop leaves started exactly when the batch carries an odd number of
its compute unit events, the last of which gives its stored start, one `Kernel` interval
from that start to the slot's last activity `L`, inserted at the front, when the unit is
still started and `L ≠ 0`, and none otherwise.  `L` is the latest of the unit's own last
activity and those of the memory slots named after it.  The call leaves every started
mask clear. -/
theorem approximated_cu_ends (cfg : Config) (names : PerfMonKind → Nat → String) (rd : Readings)
    (dev : RTProfileDevice) (type : Nat) (tv : List XclTraceResults)
    (hcap : dev.mNumTraceEvents < dev.mMaxTraceEvents)
    (h0 : ∀ i < cfg.xsamMaxNumberSlots, dev.monitors.mAccelMonStartedEvents i = 0) :
    let m := (recordLoop cfg rd false type ⟨dev.training, 0xFFFFFFFF, 0, 0⟩
      ⟨dev.monitors, cfg.defaultTrace⟩ tv).1.2.monitors
    (∃ post : List Emit,
      (logTraceOps cfg ⟨false, names⟩ rd dev type tv).2 =
          (recordLoop cfg rd false type ⟨dev.training, 0xFFFFFFFF, 0, 0⟩
            ⟨dev.monitors, cfg.defaultTrace⟩ tv).2 ++ post ∧
        (∀ e ∈ post, e = .insertBegin e.record ∧ e.record.type = "Kernel" ∧
          e.record.slotNum < cfg.xsamMaxNumberSlots) ∧
        ∀ i < cfg.xsamMaxNumberSlots,
          (m.mAccelMonStartedEvents i).testBit Category.cu.bit =
              decide ((tv.tail.filterMap (samEvent cfg i .cu)).length % 2 = 1) ∧
            ((tv.tail.filterMap (samEvent cfg i .cu)).length % 2 = 1 →
              (tv.tail.filterMap (samEvent cfg i .cu)).getLast? = some (m.mAccelMonCuTime i)) ∧
            post.filterMap (Emit.intervalAt i "Kernel") =
              (if (m.mAccelMonStartedEvents i).testBit Category.cu.bit ∧
                  lastTimeStamp cfg ⟨false, names⟩ m i ≠ 0 then
                [(m.mAccelMonCuTime i, lastTimeStamp cfg ⟨false, names⟩ m i)]
              else []) ∧
            (logTraceOps cfg ⟨false, names⟩ rd dev type tv).1.monitors.mAccelMonStartedEvents i = 0) ∧
    ∀ (m : Monitors) (i : Nat),
      m.mAccelMonLastTranx i ≤ lastTimeStamp cfg ⟨false, names⟩ m i ∧
        (∀ j < cfg.xspmMaxNumberSlots, names .accel i = cuNameSPM (names .memory j) →
          m.mPerfMonLastTranx j ≤ lastTimeStamp cfg ⟨false, names⟩ m i) ∧
        (lastTimeStamp cfg ⟨false, names⟩ m i = m.mAccelMonLastTranx i ∨
          ∃ j < cfg.xspmMaxNumberSlots, names .accel i = cuNameSPM (names .memory j) ∧
            lastTimeStamp cfg ⟨false, names⟩ m i = m.mPerfMonLastTranx j) := by
  intro m
  refine ⟨?_, fun m i => lastTimeStamp_max cfg _ m i⟩
  set loop := recordLoop cfg rd false type ⟨dev.training, 0xFFFFFFFF, 0, 0⟩
    ⟨dev.monitors, cfg.defaultTrace⟩ tv with hloop
  set post := (approximateCuEnds cfg ⟨false, names⟩
    (fun t => convertDeviceToHostTimestamp loop.1.1.training t type) loop.1.2).2 with hpost
  have hops : (logTraceOps cfg ⟨false, names⟩ rd dev type tv).2 = loop.2 ++ post := by
    by_cases ht : tv = []
    · subst ht
      simp only [logTraceOps_of_full cfg _ rd dev type [] (.inr rfl), hpost, hloop]
      rw [approximateCuEnds_of_stopped _ _ _ _ h0]
      rfl
    · simp [logTraceOps, ht, Nat.not_le.2 hcap, hloop, hpost]
  refine ⟨post, hops, fun e he => ?_, fun i hi => ?_⟩
  · obtain ⟨h1, h2⟩ := approximateCuEnds_ops cfg _ _ _ e he
    exact ⟨h1, h2, approximateCuEnds_slot cfg _ _ _ e he⟩
  · have hsam := recordLoop_samOpen_hw cfg rd type ⟨dev.training, 0xFFFFFFFF, 0, 0⟩
      ⟨dev.monitors, cfg.defaultTrace⟩ tv i .cu
    rw [show (⟨dev.monitors, cfg.defaultTrace⟩ : Back).monitors.samOpen i .cu = none by
      simp [Monitors.samOpen, h0 i hi], mealyRun_toggleStep_state] at hsam
    simp only [Monitors.samOpen, Option.toList_none, List.nil_append] at hsam
    generalize tv.tail.filterMap (samEvent cfg i .cu) = ev at hsam ⊢
    have hlast : ev.length % 2 = 1 → ev.getLast? ≠ none := fun h hl => by
      rw [List.getLast?_eq_none_iff] at hl
      simp [hl] at h
    have hparity : (m.mAccelMonStartedEvents i).testBit Category.cu.bit = decide (ev.length % 2 = 1) ∧
        (ev.length % 2 = 1 → ev.getLast? = some (m.mAccelMonCuTime i)) := by
      by_cases hodd : ev.length % 2 = 1
      · rw [if_pos hodd] at hsam
        split_ifs at hsam with hb
        · exact ⟨by simp [hb, hodd], fun _ => hsam.symm⟩
        · exact absurd hsam.symm (hlast hodd)
      · rw [if_neg hodd] at hsam
        split_ifs at hsam with hb
        exact ⟨by simp [hb, hodd], fun h => absurd h hodd⟩
    refine ⟨hparity.1, hparity.2, approximateCuEnds_intervalAt cfg _ _ _ i hi, ?_⟩
    rcases logTraceOps_started cfg ⟨false, names⟩ rd dev type tv i hi with h | h
    · exact h
    · rw [h]
      exact h0 i hi

/-- A hardware batch from the constructed device that starts the compute unit of slot 0:
the call writes the loop's records, then those of the post-pass. -/
theorem approximated_cu_ends_start :
    (RTProfileDevice.construct sampleConfig .blank).mNumTraceEvents <
        (RTProfileDevice.construct sampleConfig .blank).mMaxTraceEvents ∧
      (∀ i < sampleConfig.xsamMaxNumberSlots,
        (RTProfileDevice.construct sampleConfig .blank).monitors.mAccelMonStartedEvents i = 0) ∧
      ∃ post : List Emit,
        (logTraceOps sampleConfig ⟨false, fun _ _ => ""⟩ ⟨0, 0, id⟩ (RTProfileDevice.construct sampleConfig .blank) 0
            [⟨0, 0, 0, 0, 0, 0, 0⟩, ⟨10, 0, 0, 0, 10, 0, 0⟩, ⟨40, 0, 65, 0, 0, 0, 0⟩]).2 =
          (recordLoop sampleConfig ⟨0, 0, id⟩ false 0 ⟨(RTProfileDevice.construct sampleConfig .blank).training,
              0xFFFFFFFF, 0, 0⟩ ⟨(RTProfileDevice.construct sampleConfig .blank).monitors, sampleConfig.defaultTrace⟩
            [⟨0, 0, 0, 0, 0, 0, 0⟩, ⟨10, 0, 0, 0, 10, 0, 0⟩, ⟨40, 0, 65, 0, 0, 0, 0⟩]).2 ++ post :=
  have hcap : (RTProfileDevice.construct sampleConfig .blank).mNumTraceEvents <
      (RTProfileDevice.construct sampleConfig .blank).mMaxTraceEvents := by decide
  have h0 : ∀ i < sampleConfig.xsamMaxNumberSlots,
      (RTProfileDevice.construct sampleConfig .blank).monitors.mAccelMonStartedEvents i = 0 :=
    fun _ _ => rfl
  ⟨hcap, h0, (approximated_cu_ends sampleConfig _ _ _ 0 _ hcap h0).1.imp fun _ h => h.1⟩

end XdpProfile
