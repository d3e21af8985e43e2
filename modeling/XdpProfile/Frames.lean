import XdpProfile.LogTrace

/-!
# What `logTrace` leaves alone

*Slots.*  The slot members are C arrays: the memory monitor queues and
`mPerfMonLastTranx` have `XSPM_MAX_NUMBER_SLOTS` entries, the accelerator monitor members
`XSAM_MAX_NUMBER_SLOTS`.  The record loop indexes them by the slot it decodes from
`TraceID`: `(TraceID - 64) / 16` or `TraceID / 2` in hardware mode (lines 197-206),
`TraceID / 2` or `TraceID - 64` in emulation mode (lines 211, 293), each under the range
the dispatch admits, hence at most `30`, inside both arrays (`Config.slotsCover`).

No call, and no sequence of calls, changes a slot member at a slot above `30`, except that
the fill of line 489 may zero a started mask (`runCalls_slots_above_thirty`):

* every handler writes at its own slot only (`Monitors.OnlyAt`), being a chain of setters
  at that slot;
* the slot a handler writes is at most `30`: in hardware mode it is the slot of
  `hwSample` (`clockTraining_hw_slotID_le`), in emulation mode the dispatch bounds
  `TraceID` (`decodeSample_sameAt`);
* the record loop, the post-pass and the fill keep every member of a slot above `30` but
  the started mask, which the fill may zero, and so does a sequence of calls.

*Modes.*  The two modes share the device but split its members: emulation mode never
writes the clock training, the stall start times or the last activities, and hardware
mode never writes `mPrevTimestamp`, the host start queues, the host start times of compute
units or the padding (`runCalls_other_mode_members`).  Whatever the clock part and the
dispatch keep, a run keeps (`runCalls_keeps`).
-/

namespace XdpProfile

namespace Monitors

/-- The members of slot `s` but the started mask: the start queues, the stored start
times and the last activities. -/
def slotAt (m : Monitors) (s : Nat) :
    List UInt64 × List UInt64 × List UInt64 × List UInt64 × UInt64 × UInt64 × UInt64 ×
      UInt64 × UInt64 × UInt64 × UInt64 :=
  (m.mReadStarts s, m.mWriteStarts s, m.mHostReadStarts s, m.mHostWriteStarts s,
    m.mAccelMonCuTime s, m.mAccelMonCuHostTime s, m.mAccelMonStallIntTime s,
    m.mAccelMonStallStrTime s, m.mAccelMonStallExtTime s, m.mAccelMonLastTranx s,
    m.mPerfMonLastTranx s)

/-- `m'` holds at slot `s` what `m` holds, the started mask included. -/
def SameAt (s : Nat) (m m' : Monitors) : Prop :=
  m'.slotAt s = m.slotAt s ∧ m'.mAccelMonStartedEvents s = m.mAccelMonStartedEvents s

/-- `m'` differs from `m` at slot `s0` at most. -/
def OnlyAt (s0 : Nat) (m m' : Monitors) : Prop := ∀ s, s ≠ s0 → SameAt s m m'

/-- `m'` holds at slot `s` what `m` holds, but that its started mask may be zeroed. -/
def KeptAt (s : Nat) (m m' : Monitors) : Prop :=
  m'.slotAt s = m.slotAt s ∧
    (m'.mAccelMonStartedEvents s = m.mAccelMonStartedEvents s ∨ m'.mAccelMonStartedEvents s = 0)

theorem SameAt.refl (s : Nat) (m : Monitors) : SameAt s m m := ⟨rfl, rfl⟩

theorem SameAt.trans {s : Nat} {m m' m'' : Monitors} (h : SameAt s m m') (h' : SameAt s m' m'') :
    SameAt s m m'' := ⟨h'.1.trans h.1, h'.2.trans h.2⟩

theorem OnlyAt.refl (s0 : Nat) (m : Monitors) : OnlyAt s0 m m := fun s _ => SameAt.refl s m

theorem OnlyAt.trans {s0 : Nat} {m m' m'' : Monitors} (h : OnlyAt s0 m m') (h' : OnlyAt s0 m' m'') :
    OnlyAt s0 m m'' := fun s hs => (h s hs).trans (h' s hs)

theorem KeptAt.trans {s : Nat} {m m' m'' : Monitors} (h : KeptAt s m m') (h' : KeptAt s m' m'') :
    KeptAt s m m'' := by
  refine ⟨h'.1.trans h.1, ?_⟩
  rcases h'.2 with h2 | h2
  · exact h2 ▸ h.2
  · exact .inr h2

/-! ## Every setter writes one slot -/

theorem onlyAt_setStarts (m : Monitors) (d : Dir) (s0 : Nat) (q : List UInt64) :
    OnlyAt s0 m (m.setStarts d s0 q) := fun s hs => by
  cases d <;> exact ⟨by simp [slotAt, setStarts, Function.update_noteq hs], rfl⟩

theorem onlyAt_setHostStarts (m : Monitors) (d : Dir) (s0 : Nat) (q : List UInt64) :
    OnlyAt s0 m (m.setHostStarts d s0 q) := fun s hs => by
  cases d <;> exact ⟨by simp [slotAt, setHostStarts, Function.update_noteq hs], rfl⟩

theorem onlyAt_setCatTime (m : Monitors) (c : Category) (s0 : Nat) (t : UInt64) :
    OnlyAt s0 m (m.setCatTime c s0 t) := fun s hs => by
  cases c <;> exact ⟨by simp [slotAt, setCatTime, Function.update_noteq hs], rfl⟩

theorem onlyAt_setPerfMonLastTranx (m : Monitors) (s0 : Nat) (t : UInt64) :
    OnlyAt s0 m (m.setPerfMonLastTranx s0 t) := fun s hs =>
  ⟨by simp [slotAt, setPerfMonLastTranx, Function.update_noteq hs], rfl⟩

theorem onlyAt_updateEvents (m : Monitors) (traceID s0 : Nat) (t : UInt64) :
    OnlyAt s0 m (m.updateEvents traceID s0 t) := fun s hs =>
  ⟨by simp [slotAt, updateEvents, Function.update_noteq hs],
    by simp [updateEvents, Function.update_noteq hs]⟩

/-- The fill of line 489 zeroes the started masks below its count and nothing else. -/
theorem keptAt_clearStarted (m : Monitors) (n s : Nat) : KeptAt s m (m.clearStarted n) := by
  refine ⟨rfl, ?_⟩
  by_cases h : s < n <;> simp [clearStarted, h]

end Monitors

open Monitors

/-! ## Every handler writes its own slot -/

theorem spmTranx_onlyAt (cfg : Config) (conv : UInt64 → ℚ) (d : Dir) (b : Back) (smp : Sample) :
    OnlyAt smp.slotID b.monitors (spmTranx cfg conv d b smp).1.monitors := by
  unfold spmTranx
  split_ifs
  · exact onlyAt_setStarts _ _ _ _
  · exact (onlyAt_setStarts _ _ _ _).trans (onlyAt_setPerfMonLastTranx _ _ _)
  · exact OnlyAt.refl _ _

theorem samCategory_onlyAt (conv : UInt64 → ℚ) (id s0 : Nat) (ts : UInt64) (b : Back)
    (c : Category) : OnlyAt s0 b.monitors (samCategory conv id s0 ts b c).1.monitors := by
  rw [samCategory_eq]
  split_ifs
  · exact OnlyAt.refl _ _
  · exact onlyAt_setCatTime _ _ _ _
  · exact OnlyAt.refl _ _

theorem samTrace_onlyAt (conv : UInt64 → ℚ) (b : Back) (smp : Sample) :
    OnlyAt smp.slotID b.monitors (samTrace conv b smp).1.monitors := by
  have h := mealyRun_invariant (samCategory conv smp.trace.traceID smp.slotID smp.timestamp.toUInt64)
    (fun b' : Back => OnlyAt smp.slotID b.monitors b'.monitors)
    (fun b' c h => h.trans (samCategory_onlyAt conv _ _ _ b' c)) (samCommon conv b smp) Category.all
    (OnlyAt.refl _ _)
  exact h.trans (onlyAt_updateEvents _ _ _ _)

theorem emuEnd_onlyAt (cfg : Config) (d : Dir) (s0 : Nat) (ts : UInt32) (host : UInt64) (b : Back) :
    OnlyAt s0 b.monitors (sideBack (emuEnd cfg d s0 ts host b)).monitors := by
  unfold emuEnd
  split
  · exact OnlyAt.refl _ _
  · exact (onlyAt_setStarts _ _ _ _).trans (onlyAt_setHostStarts _ _ _ _)

theorem emuSide_onlyAt (cfg : Config) (d : Dir) (s0 : Nat) (ts : UInt32) (host : UInt64)
    (flags : UInt8) (b : Back) :
    OnlyAt s0 b.monitors (sideBack (emuSide cfg d s0 ts host flags b)).monitors := by
  have hpush : OnlyAt s0 b.monitors
      (if getBit flags (cfg.firstBit d) then b.pushStart d s0 ts.toUInt64 host else b).monitors := by
    split_ifs
    · exact (onlyAt_setStarts _ _ _ _).trans (onlyAt_setHostStarts _ _ _ _)
    · exact OnlyAt.refl _ _
  simp only [emuSide]
  split
  · exact hpush.trans (emuEnd_onlyAt _ _ _ _ _ _)
  · exact hpush

theorem emuMemory_onlyAt (cfg : Config) (b : Back) (smp : Sample) :
    OnlyAt (smp.trace.traceID / 2) b.monitors (emuMemory cfg b smp).1.monitors := by
  have hw := emuSide_onlyAt cfg .write (smp.trace.traceID / 2) smp.timestamp
    smp.hostTimestampNsec smp.trace.eventFlags b
  cases h1 : emuSide cfg .write (smp.trace.traceID / 2) smp.timestamp smp.hostTimestampNsec
    smp.trace.eventFlags b with
  | error b1 =>
    rw [h1] at hw
    simp only [emuMemory, h1]
    exact hw
  | ok p =>
    obtain ⟨b1, o⟩ := p
    rw [h1] at hw
    rw [emuMemory_of_ok cfg b b1 smp o h1]
    exact hw.trans (emuSide_onlyAt cfg .read _ _ _ _ b1)

theorem emuCu_onlyAt (b : Back) (smp : Sample) :
    OnlyAt (smp.trace.traceID - 64) b.monitors (emuCu b smp).1.monitors := fun s hs => by
  simp only [emuCu]
  split_ifs <;> simp [SameAt, slotAt, Function.update_noteq hs]

/-! ## The slots the record loop reaches -/

theorem hwSlotID_le {id s : Nat} (h : hwSlotID id = some s) : s ≤ 30 := by
  unfold hwSlotID at h
  split_ifs at h <;> simp at h <;> omega

/-- Every sample hardware mode hands on is of a slot of at most `30`. -/
theorem clockTraining_hw_slotID_le (cfg : Config) (rd : Readings) (type : Nat) (f : Front)
    (i : Nat) (t : XclTraceResults) {smp : Sample}
    (h : (clockTraining cfg rd false type f i t).2 = some smp) : smp.slotID ≤ 30 := by
  cases i with
  | zero => simp [clockTraining] at h
  | succ i =>
    rw [clockTraining_hw_succ] at h
    obtain ⟨s, hs, rfl⟩ := Option.map_eq_some'.mp h
    exact hwSlotID_le hs

/-- The decoding part leaves every slot above `30` alone, given in hardware mode that the
sample is of a slot of at most `30`. -/
theorem decodeSample_sameAt (cfg : Config) (isHwEmu : Bool) (conv : UInt64 → ℚ) (b : Back)
    (smp : Sample) {s : Nat} (hs : 30 < s) (hslot : isHwEmu = false → smp.slotID ≤ 30) :
    SameAt s b.monitors (decodeSample cfg isHwEmu conv b smp).1.monitors := by
  unfold decodeSample
  cases isHwEmu with
  | true =>
    simp only [if_true]
    split_ifs
    · exact emuMemory_onlyAt cfg b smp s (by omega)
    · exact emuCu_onlyAt b smp s (by omega)
    · exact SameAt.refl _ _
  | false =>
    have := hslot rfl
    simp only [Bool.false_eq_true, if_false]
    split_ifs
    · exact samTrace_onlyAt conv b smp s (by omega)
    · exact spmTranx_onlyAt cfg conv .read b smp s (by omega)
    · exact spmTranx_onlyAt cfg conv .write b smp s (by omega)
    · exact SameAt.refl _ _

theorem recordStep_sameAt (cfg : Config) (rd : Readings) (isHwEmu : Bool) (type : Nat)
    (fb : Front × Back) (p : Nat × XclTraceResults) {s : Nat} (hs : 30 < s) :
    SameAt s fb.2.monitors (recordStep cfg rd isHwEmu type fb p).1.2.monitors := by
  cases hc : (clockTraining cfg rd isHwEmu type fb.1 p.1 p.2).2 with
  | none =>
    simp only [recordStep, hc]
    exact SameAt.refl _ _
  | some smp =>
    simp only [recordStep, hc]
    exact decodeSample_sameAt cfg isHwEmu _ fb.2 smp hs fun h => by
      subst h
      exact clockTraining_hw_slotID_le cfg rd type fb.1 p.1 p.2 hc

/-- The record loop leaves every slot above `30` alone. -/
theorem recordLoop_sameAt (cfg : Config) (rd : Readings) (isHwEmu : Bool) (type : Nat) (f : Front)
    (b : Back) (tv : List XclTraceResults) {s : Nat} (hs : 30 < s) :
    SameAt s b.monitors (recordLoop cfg rd isHwEmu type f b tv).1.2.monitors :=
  mealyRun_invariant _ (fun fb : Front × Back => SameAt s b.monitors fb.2.monitors)
    (fun fb p h => h.trans (recordStep_sameAt cfg rd isHwEmu type fb p hs)) _ _ (SameAt.refl _ _)

/-- A call keeps every slot above `30`, but that the fill may zero its started mask. -/
theorem logTraceOps_keptAt (cfg : Config) (env : Env) (rd : Readings) (dev : RTProfileDevice)
    (type : Nat) (tv : List XclTraceResults) {s : Nat} (hs : 30 < s) :
    KeptAt s dev.monitors (logTraceOps cfg env rd dev type tv).1.monitors := by
  by_cases hg : dev.mMaxTraceEvents ≤ dev.mNumTraceEvents ∨ tv = []
  · rw [logTraceOps_of_full cfg env rd dev type tv hg]
    exact ⟨rfl, .inl rfl⟩
  · have hl := recordLoop_sameAt cfg rd env.isHwEmu type ⟨dev.training, 0xFFFFFFFF, 0, 0⟩
      ⟨dev.monitors, cfg.defaultTrace⟩ tv hs
    have hk : KeptAt s dev.monitors (recordLoop cfg rd env.isHwEmu type
        ⟨dev.training, 0xFFFFFFFF, 0, 0⟩ ⟨dev.monitors, cfg.defaultTrace⟩ tv).1.2.monitors :=
      ⟨hl.1, .inl hl.2⟩
    simp only [logTraceOps, hg, if_false]
    split
    · exact hk.trans (keptAt_clearStarted _ _ _)
    · rw [approximateCuEnds_monitors]
      exact hk.trans (keptAt_clearStarted _ _ _)

/-- No sequence of calls changes a slot member at a slot above `30`, the highest slot the
record loop decodes, except that the fill of line 489 may zero a started mask. -/
theorem runCalls_slots_above_thirty (cfg : Config) (env : Env) (dev : RTProfileDevice)
    (calls : List Call) (s : Nat) (hs : 30 < s) :
    (runCalls cfg env dev calls).1.monitors.slotAt s = dev.monitors.slotAt s ∧
      ((runCalls cfg env dev calls).1.monitors.mAccelMonStartedEvents s =
          dev.monitors.mAccelMonStartedEvents s ∨
        (runCalls cfg env dev calls).1.monitors.mAccelMonStartedEvents s = 0) :=
  mealyRun_invariant _ (fun dev' : RTProfileDevice => KeptAt s dev.monitors dev'.monitors)
    (fun dev' c h => h.trans (logTraceOps_keptAt cfg env c.readings dev' c.type c.traceVector hs))
    dev calls ⟨rfl, .inl rfl⟩

theorem runCalls_slots_above_thirty_blank :
    30 < 31 ∧
      ((runCalls sampleConfig ⟨false, fun _ _ => ""⟩ .blank
          [⟨0, [⟨0, 0, 0, 0, 0, 0, 0⟩, ⟨10, 0, 65, 0, 0, 0, 0⟩], ⟨0, 0, id⟩⟩]).1.monitors.slotAt 31 =
          RTProfileDevice.blank.monitors.slotAt 31 ∧
        ((runCalls sampleConfig ⟨false, fun _ _ => ""⟩ .blank
            [⟨0, [⟨0, 0, 0, 0, 0, 0, 0⟩, ⟨10, 0, 65, 0, 0, 0, 0⟩], ⟨0, 0, id⟩⟩]).1.monitors.mAccelMonStartedEvents 31 =
            RTProfileDevice.blank.monitors.mAccelMonStartedEvents 31 ∨
          (runCalls sampleConfig ⟨false, fun _ _ => ""⟩ .blank
            [⟨0, [⟨0, 0, 0, 0, 0, 0, 0⟩, ⟨10, 0, 65, 0, 0, 0, 0⟩], ⟨0, 0, id⟩⟩]).1.monitors.mAccelMonStartedEvents 31 = 0)) :=
  ⟨by decide, runCalls_slots_above_thirty _ _ _ _ 31 (by decide)⟩

/-! ## The members of the other mode -/

/-- The clock members only hardware mode writes: the slope, the offset and the program
start of every type. -/
def Training.hwOnly (tr : Training) : (Nat → ℚ) × (Nat → ℚ) × (Nat → ℚ) :=
  (tr.mTrainSlope, tr.mTrainOffset, tr.mTrainProgramStart)

/-- The slot members only hardware mode writes: the stall start times and the last
activities. -/
def Monitors.hwOnly (m : Monitors) :
    (Nat → UInt64) × (Nat → UInt64) × (Nat → UInt64) × (Nat → UInt64) × (Nat → UInt64) :=
  (m.mAccelMonStallIntTime, m.mAccelMonStallStrTime, m.mAccelMonStallExtTime,
    m.mAccelMonLastTranx, m.mPerfMonLastTranx)

/-- The slot members only emulation mode writes: the host start queues, the host start
times of compute units and the padding. -/
def Monitors.emuOnly (m : Monitors) : (Nat → List UInt64) × (Nat → List UInt64) × (Nat → UInt64) × ℚ :=
  (m.mHostReadStarts, m.mHostWriteStarts, m.mAccelMonCuHostTime, m.mEmuTraceMsecOneCycle)

section Keeps

variable (cfg : Config) {X Y : Type} (gf : Training → X) (gb : Monitors → Y)

/-- Whatever the clock part and the dispatch of a mode keep, the record loop keeps. -/
theorem recordLoop_keeps (rd : Readings) (isHwEmu : Bool) (type : Nat)
    (hf : ∀ f i t, gf (clockTraining cfg rd isHwEmu type f i t).1.training = gf f.training)
    (hb : ∀ conv b smp, gb (decodeSample cfg isHwEmu conv b smp).1.monitors = gb b.monitors)
    (f : Front) (b : Back) (tv : List XclTraceResults) :
    gf (recordLoop cfg rd isHwEmu type f b tv).1.1.training = gf f.training ∧
      gb (recordLoop cfg rd isHwEmu type f b tv).1.2.monitors = gb b.monitors := by
  refine mealyRun_invariant _ (fun fb : Front × Back =>
    gf fb.1.training = gf f.training ∧ gb fb.2.monitors = gb b.monitors) (fun fb p h => ?_) _ _ ⟨rfl, rfl⟩
  simp only [recordStep]
  split
  · exact ⟨(hf _ _ _).trans h.1, h.2⟩
  · exact ⟨(hf _ _ _).trans h.1, (hb _ _ _).trans h.2⟩

/-- Whatever the clock part and the dispatch of a mode keep, and the fill keeps, a
sequence of calls keeps: the post-pass writes no slot member. -/
theorem runCalls_keeps (env : Env)
    (hf : ∀ rd type f i t, gf (clockTraining cfg rd env.isHwEmu type f i t).1.training = gf f.training)
    (hb : ∀ conv b smp, gb (decodeSample cfg env.isHwEmu conv b smp).1.monitors = gb b.monitors)
    (hc : ∀ m, gb (m.clearStarted cfg.xsamMaxNumberSlots) = gb m)
    (dev : RTProfileDevice) (calls : List Call) :
    gf (runCalls cfg env dev calls).1.training = gf dev.training ∧
      gb (runCalls cfg env dev calls).1.monitors = gb dev.monitors := by
  refine mealyRun_invariant _ (fun d : RTProfileDevice =>
    gf d.training = gf dev.training ∧ gb d.monitors = gb dev.monitors) (fun d c h => ?_) _ _ ⟨rfl, rfl⟩
  by_cases hg : d.mMaxTraceEvents ≤ d.mNumTraceEvents ∨ c.traceVector = []
  · rwa [logTraceOps_of_full cfg env c.readings d c.type c.traceVector hg]
  · have hl := recordLoop_keeps cfg gf gb c.readings env.isHwEmu c.type (hf c.readings c.type) hb
      ⟨d.training, 0xFFFFFFFF, 0, 0⟩ ⟨d.monitors, cfg.defaultTrace⟩ c.traceVector
    simp only [logTraceOps, hg, if_false, hc]
    refine ⟨hl.1.trans h.1, ?_⟩
    split
    · exact hl.2.trans h.2
    · rw [approximateCuEnds_monitors]
      exact hl.2.trans h.2

end Keeps

theorem decodeSample_emu_hwOnly (cfg : Config) (conv : UInt64 → ℚ) (b : Back) (smp : Sample) :
    (decodeSample cfg true conv b smp).1.monitors.hwOnly = b.monitors.hwOnly := by
  simp only [decodeSample, if_true]
  split_ifs
  · exact (emuMemory_frame Monitors.hwOnly (fun m d _ _ => by cases d <;> exact ⟨rfl, rfl⟩) cfg b smp).1
  · simp only [emuCu]
    split_ifs <;> rfl
  · rfl

theorem decodeSample_hw_emuOnly (cfg : Config) (conv : UInt64 → ℚ) (b : Back) (smp : Sample) :
    (decodeSample cfg false conv b smp).1.monitors.emuOnly = b.monitors.emuOnly := by
  have hspm : ∀ d, (spmTranx cfg conv d b smp).1.monitors.emuOnly = b.monitors.emuOnly := fun d => by
    unfold spmTranx
    split_ifs <;> cases d <;> rfl
  simp only [decodeSample, Bool.false_eq_true, if_false]
  split_ifs
  · refine mealyRun_invariant _ (fun b' : Back => b'.monitors.emuOnly = b.monitors.emuOnly)
      (fun b' c h => ?_) _ _ rfl
    rw [samCategory_eq]
    split_ifs
    · exact h
    · cases c <;> exact h
    · exact h
  · exact hspm .read
  · exact hspm .write
  · rfl

/-- Each mode leaves alone the members only the other mode writes, over any sequence of
calls: emulation mode never writes the slope, the offset or the program start of any
type, the stall start times or the last activities; hardware mode never writes
`mPrevTimestamp`, the host start queues, the host start times of compute units or the
padding `mEmuTraceMsecOneCycle`. -/
theorem runCalls_other_mode_members (cfg : Config) (names : PerfMonKind → Nat → String)
    (dev : RTProfileDevice) (calls : List Call) :
    (runCalls cfg ⟨true, names⟩ dev calls).1.training.hwOnly = dev.training.hwOnly ∧
      (runCalls cfg ⟨true, names⟩ dev calls).1.monitors.hwOnly = dev.monitors.hwOnly ∧
      (runCalls cfg ⟨false, names⟩ dev calls).1.training.mPrevTimestamp = dev.training.mPrevTimestamp ∧
      (runCalls cfg ⟨false, names⟩ dev calls).1.monitors.emuOnly = dev.monitors.emuOnly := by
  obtain ⟨e1, e2⟩ := runCalls_keeps cfg Training.hwOnly Monitors.hwOnly ⟨true, names⟩
    (fun rd type f i t => by simp only [clockTraining, if_true]; split_ifs <;> rfl)
    (decodeSample_emu_hwOnly cfg) (fun _ => rfl) dev calls
  obtain ⟨h1, h2⟩ := runCalls_keeps cfg Training.mPrevTimestamp Monitors.emuOnly ⟨false, names⟩
    (fun rd type f i t => by simp only [clockTraining, Bool.false_eq_true, if_false]; split_ifs <;> rfl)
    (decodeSample_hw_emuOnly cfg) (fun _ => rfl) dev calls
  exact ⟨e1, e2, h1, h2⟩

end XdpProfile
