import XdpProfile.LogTrace

/-!
# Splitting a batch between two calls

The record loop keeps almost all of its state in members of the device, which outlive a
call.  Three things live only for one call: the local `prevHostTimestamp`, reset to
`0xFFFFFFFF` at every entry (line 123); the local `kernelTrace`; and the started masks,
which every call clears on its way out (line 489).  In emulation mode `kernelTrace` does
not matter: the compute unit path reads only its `TraceStart`, which emulation mode never
sets (`decodeSample_emu_congr`).

Of the clocks, emulation mode reads only `getTimestampNsec` (`recordStep_emu_readings`).
Each call first anchors it at the least `HostTimestamp` of its batch (lines 136-143;
`getTimestampNsec` is declared in the header), so the parts and the whole batch convert
host times alike only when those anchorings agree, which the split theorem takes as a
hypothesis.

So in emulation mode two calls on the two parts of a batch do what one call on the whole
batch does, when the three calls convert host times alike, the first part leaves no compute
unit running and the second does not start with a record the duplicate rule could drop
(`runCalls_emu_split`).  The proof runs the two loops side by side from states that agree
on what emulation mode reads (`EmuAgree`, `recordLoop_emu_agree`).
-/

namespace XdpProfile

/-! ## What emulation mode reads of `kernelTrace` -/

/-- An emulation side's result with `kernelTrace` replaced. -/
def sideWithKernel (k : DeviceTrace) : Except Back (Back × List Emit) → Except Back (Back × List Emit)
  | .error b => .error { b with kernelTrace := k }
  | .ok (b, o) => .ok ({ b with kernelTrace := k }, o)

/-- The end of an emulation transaction carries `kernelTrace` along without reading it. -/
theorem emuEnd_withKernel (cfg : Config) (d : Dir) (s : Nat) (ts : UInt32) (host : UInt64) (b : Back)
    (k : DeviceTrace) :
    emuEnd cfg d s ts host { b with kernelTrace := k } = sideWithKernel k (emuEnd cfg d s ts host b) := by
  unfold emuEnd
  cases b.monitors.starts d s <;> rfl

/-- So does one side of an emulation memory record. -/
theorem emuSide_withKernel (cfg : Config) (d : Dir) (s : Nat) (ts : UInt32) (host : UInt64)
    (flags : UInt8) (b : Back) (k : DeviceTrace) :
    emuSide cfg d s ts host flags { b with kernelTrace := k } =
      sideWithKernel k (emuSide cfg d s ts host flags b) := by
  unfold emuSide
  split_ifs
  · exact emuEnd_withKernel cfg d s ts host (b.pushStart d s ts.toUInt64 host) k
  · rfl
  · exact emuEnd_withKernel cfg d s ts host b k
  · rfl

/-- The emulation memory path carries `kernelTrace` along without reading it. -/
theorem emuMemory_withKernel (cfg : Config) (b : Back) (smp : Sample) (k : DeviceTrace) :
    emuMemory cfg { b with kernelTrace := k } smp =
      ({ (emuMemory cfg b smp).1 with kernelTrace := k }, (emuMemory cfg b smp).2) := by
  simp only [emuMemory, emuSide_withKernel]
  cases emuSide cfg .write (smp.trace.traceID / 2) smp.timestamp smp.hostTimestampNsec
      smp.trace.eventFlags b with
  | error b1 => rfl
  | ok p =>
    simp only [sideWithKernel, emuSide_withKernel]
    cases emuSide cfg .read (smp.trace.traceID / 2) smp.timestamp smp.hostTimestampNsec
      smp.trace.eventFlags p.1 <;> rfl

/-- Emulation mode keeps the `TraceStart` of `kernelTrace`. -/
theorem decodeSample_emu_traceStart (cfg : Config) (conv : UInt64 → ℚ) (b : Back) (smp : Sample) :
    (decodeSample cfg true conv b smp).1.kernelTrace.traceStart = b.kernelTrace.traceStart := by
  simp only [decodeSample, if_true]
  split_ifs
  · have h := emuMemory_withKernel cfg b smp b.kernelTrace
    rw [show ({ b with kernelTrace := b.kernelTrace } : Back) = b from rfl] at h
    rw [h]
  · simp only [emuCu]
    split_ifs <;> rfl
  · rfl

/-- Emulation mode reads neither the conversion nor `kernelTrace`, beyond its `TraceStart`. -/
theorem decodeSample_emu_congr (cfg : Config) (conv conv' : UInt64 → ℚ) (b b' : Back) (smp : Sample)
    (hm : b.monitors = b'.monitors) (ht : b.kernelTrace.traceStart = b'.kernelTrace.traceStart) :
    (decodeSample cfg true conv b smp).1.monitors = (decodeSample cfg true conv' b' smp).1.monitors ∧
      (decodeSample cfg true conv b smp).2 = (decodeSample cfg true conv' b' smp).2 := by
  obtain ⟨m, k⟩ := b
  obtain ⟨m', k'⟩ := b'
  simp only at hm ht
  subst hm
  simp only [decodeSample, if_true]
  split_ifs
  · rw [show (⟨m, k'⟩ : Back) = { (⟨m, k⟩ : Back) with kernelTrace := k' } from rfl,
      emuMemory_withKernel]
    exact ⟨rfl, rfl⟩
  · simp only [emuCu]
    split_ifs <;> simp [ht]
  · exact ⟨rfl, rfl⟩

section Split

variable (cfg : Config) (rd : Readings) (type : Nat)

/-- Two states of the emulation record loop that agree on everything it reads but the
local `prevHostTimestamp`. -/
def EmuAgree (fb fb' : Front × Back) : Prop :=
  fb.1.training = fb'.1.training ∧ fb.2.monitors = fb'.2.monitors ∧
    fb.2.kernelTrace.traceStart = fb'.2.kernelTrace.traceStart

/-- The emulation clock part reads the clock members and `prevHostTimestamp`, and the
latter only for a record with `Timestamp` 1. -/
theorem clockTraining_emu_agree (f f' : Front) (i j : Nat) (t : XclTraceResults)
    (ht : f.training = f'.training)
    (hp : f.prevHostTimestamp = f'.prevHostTimestamp ∨ t.timestamp ≠ 1) :
    (clockTraining cfg rd true type f i t).1.training = (clockTraining cfg rd true type f' j t).1.training ∧
      (clockTraining cfg rd true type f i t).1.prevHostTimestamp =
        (clockTraining cfg rd true type f' j t).1.prevHostTimestamp ∧
      (clockTraining cfg rd true type f i t).2 = (clockTraining cfg rd true type f' j t).2 := by
  simp only [clockTraining, if_true, ht]
  rcases hp with hp | hp
  · rw [hp]
    split_ifs <;> exact ⟨rfl, rfl, rfl⟩
  · simp [hp]

/-- One emulation iteration from agreeing states, on one record at any two indices. -/
theorem recordStep_emu_agree (fb fb' : Front × Back) (i j : Nat) (t : XclTraceResults)
    (h : EmuAgree fb fb') (hp : fb.1.prevHostTimestamp = fb'.1.prevHostTimestamp ∨ t.timestamp ≠ 1) :
    EmuAgree (recordStep cfg rd true type fb (i, t)).1 (recordStep cfg rd true type fb' (j, t)).1 ∧
      (recordStep cfg rd true type fb (i, t)).1.1.prevHostTimestamp =
        (recordStep cfg rd true type fb' (j, t)).1.1.prevHostTimestamp ∧
      (recordStep cfg rd true type fb (i, t)).2 = (recordStep cfg rd true type fb' (j, t)).2 := by
  obtain ⟨h1, h2, h3⟩ := h
  obtain ⟨c1, c2, c3⟩ := clockTraining_emu_agree cfg rd type fb.1 fb'.1 i j t h1 hp
  simp only [recordStep]
  rw [← c3]
  cases (clockTraining cfg rd true type fb.1 i t).2 with
  | none => exact ⟨⟨c1, h2, h3⟩, c2, rfl⟩
  | some smp =>
    obtain ⟨d1, d2⟩ := decodeSample_emu_congr cfg
      (fun t' => convertDeviceToHostTimestamp (clockTraining cfg rd true type fb.1 i t).1.training t' type)
      (fun t' => convertDeviceToHostTimestamp (clockTraining cfg rd true type fb'.1 j t).1.training t' type)
      fb.2 fb'.2 smp h2 h3
    exact ⟨⟨c1, d1, by rw [decodeSample_emu_traceStart, decodeSample_emu_traceStart, h3]⟩, c2, d2⟩

/-- The emulation record loop from agreeing states writes the same records and ends in
agreeing states, whatever the index it starts at. -/
theorem recordLoop_emu_agree (fb fb' : Front × Back) (i j : Nat) (batch : List XclTraceResults)
    (h : EmuAgree fb fb')
    (hp : fb.1.prevHostTimestamp = fb'.1.prevHostTimestamp ∨ ∀ t ∈ batch.head?, t.timestamp ≠ 1) :
    EmuAgree (mealyRun (recordStep cfg rd true type) fb (batch.enumFrom i)).1
        (mealyRun (recordStep cfg rd true type) fb' (batch.enumFrom j)).1 ∧
      (mealyRun (recordStep cfg rd true type) fb (batch.enumFrom i)).2 =
        (mealyRun (recordStep cfg rd true type) fb' (batch.enumFrom j)).2 := by
  induction batch generalizing fb fb' i j with
  | nil => exact ⟨h, rfl⟩
  | cons t ts ih =>
    obtain ⟨s1, s2, s3⟩ := recordStep_emu_agree cfg rd type fb fb' i j t h
      (hp.imp_right fun ht => ht t rfl)
    obtain ⟨r1, r2⟩ := ih _ _ (i + 1) (j + 1) s1 (.inl s2)
    simp only [List.enumFrom_cons, mealyRun_cons]
    exact ⟨r1, by rw [s3, r2]⟩

end Split

/-! ## Two calls and one -/

/-- Clearing masks that are already clear changes nothing. -/
theorem Monitors.clearStarted_of_zero (m : Monitors) (n : Nat)
    (h : ∀ i < n, m.mAccelMonStartedEvents i = 0) : m.clearStarted n = m := by
  simp only [Monitors.clearStarted]
  congr
  funext i
  split_ifs with hi
  · exact (h i hi).symm
  · rfl

/-- An emulation iteration keeps the `TraceStart` of `kernelTrace`. -/
theorem recordStep_emu_traceStart (cfg : Config) (rd : Readings) (type : Nat) (fb : Front × Back)
    (p : Nat × XclTraceResults) :
    (recordStep cfg rd true type fb p).1.2.kernelTrace.traceStart = fb.2.kernelTrace.traceStart := by
  simp only [recordStep]
  split
  · rfl
  · exact decodeSample_emu_traceStart cfg _ _ _

/-- So does the emulation record loop. -/
theorem recordLoop_emu_traceStart (cfg : Config) (rd : Readings) (type : Nat) (f : Front) (b : Back)
    (batch : List XclTraceResults) :
    (recordLoop cfg rd true type f b batch).1.2.kernelTrace.traceStart = b.kernelTrace.traceStart :=
  mealyRun_invariant _ (fun fb : Front × Back => fb.2.kernelTrace.traceStart = b.kernelTrace.traceStart)
    (fun fb p h => (recordStep_emu_traceStart cfg rd type fb p).trans h) _ _ rfl

/-- The record loop over a joined batch runs the second part from where the first left
off, at the indices after it. -/
theorem recordLoop_append (cfg : Config) (rd : Readings) (isHwEmu : Bool) (type : Nat) (f : Front)
    (b : Back) (A B : List XclTraceResults) :
    recordLoop cfg rd isHwEmu type f b (A ++ B) =
      ((mealyRun (recordStep cfg rd isHwEmu type) (recordLoop cfg rd isHwEmu type f b A).1
          (B.enumFrom A.length)).1,
        (recordLoop cfg rd isHwEmu type f b A).2 ++
          (mealyRun (recordStep cfg rd isHwEmu type) (recordLoop cfg rd isHwEmu type f b A).1
            (B.enumFrom A.length)).2) := by
  rw [recordLoop, List.enumFrom_append, mealyRun_append, Nat.zero_add]
  rfl

/-- Emulation mode reads of the clocks only `getTimestampNsec`. -/
theorem recordStep_emu_readings (cfg : Config) (type : Nat) {rd rd' : Readings}
    (h : rd.getTimestampNsec = rd'.getTimestampNsec) :
    recordStep cfg rd true type = recordStep cfg rd' true type := by
  funext fb p
  simp only [recordStep, clockTraining, if_true, h]

/-- In emulation mode a batch split between two calls of one monitor type leaves the device
and writes the records of one call on the joined batch, when the three calls convert host
times alike (their anchorings at lines 136-143 agree), the first part leaves no compute unit
running and the second does not start with a record of `Timestamp` 1: every call resets
`prevHostTimestamp` and ends the compute units it leaves running, and nothing else of the
record loop lives only for one call. -/
theorem runCalls_emu_split (cfg : Config) (names : PerfMonKind → Nat → String) (rdA rdB rd : Readings)
    (dev : RTProfileDevice) (type : Nat) (A B : List XclTraceResults)
    (hrdA : rdA.getTimestampNsec = rd.getTimestampNsec) (hrdB : rdB.getTimestampNsec = rd.getTimestampNsec)
    (hcap : dev.mNumTraceEvents + A.length < dev.mMaxTraceEvents)
    (hcu : ∀ i < cfg.xsamMaxNumberSlots, (recordLoop cfg rd true type ⟨dev.training, 0xFFFFFFFF, 0, 0⟩
      ⟨dev.monitors, cfg.defaultTrace⟩ A).1.2.monitors.mAccelMonStartedEvents i = 0)
    (hdup : ∀ t ∈ B.head?, t.timestamp ≠ 1) :
    runCalls cfg ⟨true, names⟩ dev [⟨type, A, rdA⟩, ⟨type, B, rdB⟩] =
      logTraceOps cfg ⟨true, names⟩ rd dev type (A ++ B) := by
  have hrd : ∀ {rd'}, rd'.getTimestampNsec = rd.getTimestampNsec →
      logTraceOps cfg ⟨true, names⟩ rd' = logTraceOps cfg ⟨true, names⟩ rd := fun h => by
    funext dev type tv
    simp only [logTraceOps, recordLoop, recordStep_emu_readings cfg type h]
  simp only [runCalls, mealyRun_cons, mealyRun_nil, hrd hrdA, hrd hrdB]
  have hlt : ¬ dev.mMaxTraceEvents ≤ dev.mNumTraceEvents := by omega
  by_cases hA : A = []
  · subst hA
    simp [logTraceOps_of_full cfg _ rd dev type [] (.inr rfl)]
  by_cases hB : B = []
  · subst hB
    simp [logTraceOps_of_full cfg _ rd _ type [] (.inr rfl)]
  have hAB : A ++ B ≠ [] := by simp [hA]
  have hts := recordLoop_emu_traceStart cfg rd type ⟨dev.training, 0xFFFFFFFF, 0, 0⟩
    ⟨dev.monitors, cfg.defaultTrace⟩ A
  simp only [List.append_nil, logTraceOps, hA, hB, hAB, hlt,
    Nat.not_le.2 hcap, or_self, if_false, if_true, recordLoop_append, Monitors.clearStarted_of_zero _ _ hcu,
    List.length_append, Nat.add_assoc]
  generalize recordLoop cfg rd true type ⟨dev.training, 0xFFFFFFFF, 0, 0⟩
    ⟨dev.monitors, cfg.defaultTrace⟩ A = LA at hts ⊢
  obtain ⟨⟨g1, g2, -⟩, hops⟩ := recordLoop_emu_agree cfg rd type LA.1
    (⟨LA.1.1.training, 0xFFFFFFFF, 0, 0⟩, ⟨LA.1.2.monitors, cfg.defaultTrace⟩) A.length 0 B
    ⟨rfl, rfl, hts⟩ (.inr hdup)
  simp only [recordLoop]
  rw [g1, g2, hops]

/-- A write started by one call and ended by the next, on the constructed device, with
clocks that differ only where emulation mode does not read them. -/
theorem runCalls_emu_split_write :
    ((⟨1, 0, id⟩ : Readings).getTimestampNsec = (⟨0, 0, id⟩ : Readings).getTimestampNsec ∧
      (⟨0, 5, id⟩ : Readings).getTimestampNsec = (⟨0, 0, id⟩ : Readings).getTimestampNsec ∧
      (RTProfileDevice.construct sampleConfig .blank).mNumTraceEvents +
        [(⟨5, 0, 2, 0, 0, 2, 0⟩ : XclTraceResults)].length <
        (RTProfileDevice.construct sampleConfig .blank).mMaxTraceEvents ∧
      (∀ i < sampleConfig.xsamMaxNumberSlots, (recordLoop sampleConfig ⟨0, 0, id⟩ true 0
        ⟨(RTProfileDevice.construct sampleConfig .blank).training, 0xFFFFFFFF, 0, 0⟩
        ⟨(RTProfileDevice.construct sampleConfig .blank).monitors, sampleConfig.defaultTrace⟩
        [⟨5, 0, 2, 0, 0, 2, 0⟩]).1.2.monitors.mAccelMonStartedEvents i = 0) ∧
      ∀ t ∈ [(⟨3, 0, 2, 0, 10, 4, 0⟩ : XclTraceResults)].head?, t.timestamp ≠ 1) ∧
    runCalls sampleConfig ⟨true, fun _ _ => ""⟩ (RTProfileDevice.construct sampleConfig .blank)
        [⟨0, [⟨5, 0, 2, 0, 0, 2, 0⟩], ⟨1, 0, id⟩⟩, ⟨0, [⟨3, 0, 2, 0, 10, 4, 0⟩], ⟨0, 5, id⟩⟩] =
      logTraceOps sampleConfig ⟨true, fun _ _ => ""⟩ ⟨0, 0, id⟩ (RTProfileDevice.construct sampleConfig .blank) 0
        ([⟨5, 0, 2, 0, 0, 2, 0⟩] ++ [⟨3, 0, 2, 0, 10, 4, 0⟩]) :=
  have hcap : (RTProfileDevice.construct sampleConfig .blank).mNumTraceEvents +
      [(⟨5, 0, 2, 0, 0, 2, 0⟩ : XclTraceResults)].length <
      (RTProfileDevice.construct sampleConfig .blank).mMaxTraceEvents := by decide
  have hcu : ∀ i < sampleConfig.xsamMaxNumberSlots, (recordLoop sampleConfig ⟨0, 0, id⟩ true 0
      ⟨(RTProfileDevice.construct sampleConfig .blank).training, 0xFFFFFFFF, 0, 0⟩
      ⟨(RTProfileDevice.construct sampleConfig .blank).monitors, sampleConfig.defaultTrace⟩
      [⟨5, 0, 2, 0, 0, 2, 0⟩]).1.2.monitors.mAccelMonStartedEvents i = 0 := fun _ _ => rfl
  have hdup : ∀ t ∈ [(⟨3, 0, 2, 0, 10, 4, 0⟩ : XclTraceResults)].head?, t.timestamp ≠ 1 := by decide
  ⟨⟨rfl, rfl, hcap, hcu, hdup⟩,
    runCalls_emu_split sampleConfig _ _ _ _ _ 0 _ _ rfl rfl hcap hcu hdup⟩

end XdpProfile
