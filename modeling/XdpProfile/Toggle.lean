import XdpProfile.LogTrace

/-!
# The toggle machine of the accelerator monitors

An accelerator monitor record carries one bit per category: in hardware mode the bits of
`TraceID & 0xf` (lines 323-326), in emulation mode the compute unit bit of `EventFlags`
(line 294).  A category block tests the slot's started mask as it stood before the
record, since line 389 flips it only after the four blocks: a set bit closes the open
interval, a clear one opens an interval at the record's time.  So each category of each
slot is a toggle of its own (`toggleStep`), and from a closed toggle a run pairs that
category's events in arrival order, the first with the second, the third with the fourth
(`pairUp`).

`recordLoop_toggle_hw` and `recordLoop_toggle_emu` say that the record loop simulates
these toggles: for each slot and category, the intervals it writes are `pairUp` of that
slot and category's events alone, after the interval left open on entry.
-/

namespace XdpProfile

/-! ## The reference pairing -/

/-- The spec's pairing of the events of one category on one slot: the first opens an
interval, the second closes it, and so on; an odd last event stays open. -/
def pairUp {α : Type} : List α → List (α × α)
  | [] => []
  | [_] => []
  | a :: b :: rest => (a, b) :: pairUp rest

/-- One event of a toggle: a closed toggle opens at the event, an open one closes with the
interval from its start to the event. -/
def toggleStep {α : Type} : Option α → α → Option α × List (α × α)
  | none, t => (some t, [])
  | some t0, t => (none, [(t0, t)])

/-- A toggle run writes the pairing of its pending start followed by its events. -/
theorem mealyRun_toggleStep {α : Type} (st : Option α) (ts : List α) :
    (mealyRun toggleStep st ts).2 = pairUp (st.toList ++ ts) := by
  induction ts generalizing st with
  | nil => cases st <;> rfl
  | cons t ts ih => cases st <;> simp [toggleStep, ih, pairUp]

/-- The toggle a run leaves: open at the last event when the pending start and the events
are odd in number, closed otherwise. -/
theorem mealyRun_toggleStep_state {α : Type} (st : Option α) (ts : List α) :
    (mealyRun toggleStep st ts).1 =
      if (st.toList ++ ts).length % 2 = 1 then (st.toList ++ ts).getLast? else none := by
  induction ts generalizing st with
  | nil => cases st <;> rfl
  | cons t ts ih =>
    cases st with
    | none => simpa [toggleStep] using ih (some t)
    | some t0 =>
      rw [mealyRun_cons, toggleStep, ih]
      cases ts with
      | nil => simp
      | cons t' ts =>
        simp only [Option.toList_none, Option.toList_some, List.nil_append, List.singleton_append,
          List.length_cons, List.getLast?_cons_cons]
        rw [show ts.length + 1 + 1 + 1 = ts.length + 1 + 2 from rfl, Nat.add_mod_right]

/-! ## Hardware mode: one category block -/

/-- The interval a write is, when it is a record of slot `s` and type `ty`. -/
def Emit.intervalAt (s : Nat) (ty : String) (e : Emit) : Option (UInt64 × UInt64) :=
  if e.record.slotNum = s ∧ e.record.type = ty then some (e.record.startTime, e.record.endTime)
  else none

theorem Emit.intervalAt_of_type {s : Nat} {ty : String} {e : Emit} (h : e.record.type ≠ ty) :
    e.intervalAt s ty = none := by
  simp [Emit.intervalAt, h]

theorem Category.testBit_fifteen (c : Category) : Nat.testBit 0xf c.bit = true := by
  cases c <;> decide

/-- What the block of category `c'` of a record does to the toggle of `c` on slot `s`: the
record is of slot `slot`, with `TraceID` `id` and time `ts`, and `started` is the started
mask of slot `s`. -/
def catToggle (s : Nat) (c : Category) (started id slot : Nat) (ts x : UInt64) (c' : Category) :
    UInt64 × List (UInt64 × UInt64) :=
  if c' = c ∧ slot = s ∧ id.testBit c.bit then
    if started.testBit c.bit then (x, [(x, ts)]) else (ts, [])
  else (x, [])

/-- Only the block of `c` moves the toggle of `c`. -/
theorem mealyRun_catToggle (s : Nat) (c : Category) (started id slot : Nat) (ts x : UInt64) :
    mealyRun (catToggle s c started id slot ts) x Category.all = catToggle s c started id slot ts x c := by
  have hne : ∀ c' y, c' ≠ c → catToggle s c started id slot ts y c' = (y, []) :=
    fun _ _ h => if_neg fun h' => h h'.1
  cases c <;> simp (disch := decide) only [Category.all, mealyRun_cons, mealyRun_nil, hne,
    List.append_nil, List.nil_append, Prod.mk.eta]

/-- A category block, seen on the stored start of `c` on slot `s` and on the intervals of
`c` on slot `s`, is the block's `catToggle`. -/
theorem samCategory_toggle (conv : UInt64 → ℚ) (id slot : Nat) (ts : UInt64) (b : Back)
    (c' : Category) (s : Nat) (c : Category) (hslot : b.kernelTrace.slotNum = slot)
    (hend : b.kernelTrace.endTime = ts) :
    (samCategory conv id slot ts b c').1.monitors.catTime c s =
        (catToggle s c (b.monitors.mAccelMonStartedEvents s) id slot ts (b.monitors.catTime c s) c').1 ∧
      (samCategory conv id slot ts b c').2.filterMap (Emit.intervalAt s c.type) =
        (catToggle s c (b.monitors.mAccelMonStartedEvents s) id slot ts (b.monitors.catTime c s) c').2 := by
  rw [samCategory_eq]
  simp only [catToggle, Category.land_mask_ne_zero]
  by_cases hc : c' = c
  · subst hc
    by_cases hs : slot = s
    · subst hs
      simp only [true_and]
      split_ifs <;> simp [Emit.intervalAt, hslot, hend]
    · simp only [hs, false_and, and_false, if_false]
      split_ifs <;> simp [Emit.intervalAt, hslot, hs, Ne.symm hs]
  · have hty : c'.type ≠ c.type := fun h => hc (Category.type_injective h)
    simp only [hc, false_and, if_false]
    split_ifs <;> simp [Emit.intervalAt, hty, hc, Ne.symm hc]

/-! ## Hardware mode: one record -/

/-- An accelerator monitor record moves the toggle of `c` on slot `s` as its block of `c`
does, and then flips, in the started mask of its slot, the bits it carries. -/
theorem samTrace_toggle (conv : UInt64 → ℚ) (b : Back) (smp : Sample) (s : Nat) (c : Category) :
    (samTrace conv b smp).1.monitors.catTime c s =
        (catToggle s c (b.monitors.mAccelMonStartedEvents s) smp.trace.traceID smp.slotID
          smp.timestamp.toUInt64 (b.monitors.catTime c s) c).1 ∧
      (samTrace conv b smp).2.filterMap (Emit.intervalAt s c.type) =
        (catToggle s c (b.monitors.mAccelMonStartedEvents s) smp.trace.traceID smp.slotID
          smp.timestamp.toUInt64 (b.monitors.catTime c s) c).2 ∧
      (samTrace conv b smp).1.monitors.mAccelMonStartedEvents =
        Function.update b.monitors.mAccelMonStartedEvents smp.slotID
          (b.monitors.mAccelMonStartedEvents smp.slotID ^^^ (smp.trace.traceID &&& 0xf)) := by
  obtain ⟨h1, h2, h3⟩ := mealyRun_sim
    (samCategory conv smp.trace.traceID smp.slotID smp.timestamp.toUInt64)
    (catToggle s c (b.monitors.mAccelMonStartedEvents s) smp.trace.traceID smp.slotID
      smp.timestamp.toUInt64)
    (fun b' => b'.monitors.catTime c s) (Emit.intervalAt s c.type)
    (fun b' => b'.kernelTrace.slotNum = smp.slotID ∧ b'.kernelTrace.endTime = smp.timestamp.toUInt64 ∧
      b'.monitors.mAccelMonStartedEvents = b.monitors.mAccelMonStartedEvents)
    (fun b' c' ⟨h1, h2, h3⟩ => by
      obtain ⟨-, f2, f3, f4⟩ := samCategory_frame conv smp.trace.traceID smp.slotID
        smp.timestamp.toUInt64 b' c'
      exact ⟨f3.trans h1, f4.trans h2, f2.trans h3⟩)
    (fun b' c' ⟨h1, h2, h3⟩ => by
      rw [← h3]
      exact samCategory_toggle conv _ _ _ b' c' s c h1 h2)
    (samCommon conv b smp) Category.all ⟨rfl, rfl, rfl⟩
  rw [mealyRun_catToggle] at h2 h3
  exact ⟨by simpa [samTrace] using h2, h3, by simp [samTrace, Monitors.updateEvents, h1.2.2]⟩

/-- The open interval of category `c` on slot `s`: its stored start while `c` is started. -/
def Monitors.samOpen (m : Monitors) (s : Nat) (c : Category) : Option UInt64 :=
  if (m.mAccelMonStartedEvents s).testBit c.bit then some (m.catTime c s) else none

/-- The event of category `c` on slot `s` that a decoded hardware record is: its time, when
it is an accelerator monitor record of slot `s` carrying `c`. -/
def samSampleEvent (s : Nat) (c : Category) (smp : Sample) : Option UInt64 :=
  if 64 ≤ smp.trace.traceID ∧ smp.slotID = s ∧ smp.trace.traceID.testBit c.bit then
    some smp.timestamp.toUInt64
  else none

/-- A hardware memory record moves no toggle and writes no interval of a category. -/
theorem spmTranx_toggle (cfg : Config) (conv : UInt64 → ℚ) (d : Dir) (b : Back) (smp : Sample)
    (s : Nat) (c : Category) :
    (spmTranx cfg conv d b smp).1.monitors.samOpen s c = b.monitors.samOpen s c ∧
      (spmTranx cfg conv d b smp).2.filterMap (Emit.intervalAt s c.type) = [] := by
  obtain ⟨f1, f2, f3⟩ := spmTranx_frame cfg conv d b smp
  refine ⟨by simp only [Monitors.samOpen, f1, f2], List.filterMap_eq_nil_iff.2 fun e he => ?_⟩
  exact Emit.intervalAt_of_type ((f3 e he).2.symm ▸ (Category.type_ne_dir c d).symm)

/-- In hardware mode, a decoded record is one step of the toggle of `c` on slot `s` on the
event it is. -/
theorem decodeSample_hw_toggle (cfg : Config) (conv : UInt64 → ℚ) (b : Back) (smp : Sample)
    (s : Nat) (c : Category) :
    (decodeSample cfg false conv b smp).1.monitors.samOpen s c =
        (stepOpt toggleStep (b.monitors.samOpen s c) (samSampleEvent s c smp)).1 ∧
      (decodeSample cfg false conv b smp).2.filterMap (Emit.intervalAt s c.type) =
        (stepOpt toggleStep (b.monitors.samOpen s c) (samSampleEvent s c smp)).2 := by
  by_cases hid : 64 ≤ smp.trace.traceID
  · obtain ⟨h1, h2, h3⟩ := samTrace_toggle conv b smp s c
    simp only [decodeSample, Bool.false_eq_true, if_false, hid, if_true]
    simp only [Monitors.samOpen, samSampleEvent, h1, h2, h3, catToggle, true_and, hid]
    by_cases hs : smp.slotID = s
    · subst hs
      by_cases hb : smp.trace.traceID.testBit c.bit <;>
      by_cases ho : (b.monitors.mAccelMonStartedEvents smp.slotID).testBit c.bit <;>
        simp [hb, ho, Nat.testBit_xor, Nat.testBit_land, Category.testBit_fifteen, stepOpt,
          toggleStep]
    · simp [hs, Ne.symm hs, Function.update_apply, stepOpt]
  · have hev : samSampleEvent s c smp = none := by simp [samSampleEvent, hid]
    simp only [decodeSample, Bool.false_eq_true, if_false, hid, hev, stepOpt]
    split_ifs
    · exact spmTranx_toggle cfg conv .read b smp s c
    · exact spmTranx_toggle cfg conv .write b smp s c
    · exact ⟨rfl, rfl⟩

/-! ## Hardware mode: the record loop -/

/-- The event of category `c` on slot `s` that a record of a hardware batch is: its time,
when its `TraceID` is in 64..544 with `(TraceID-64)/16 = s` and carries the bit of `c`. -/
def samEvent (cfg : Config) (s : Nat) (c : Category) (t : XclTraceResults) : Option UInt64 :=
  if 64 ≤ t.traceID ∧ t.traceID ≤ 544 ∧ (t.traceID - 64) / 16 = s ∧ t.traceID.testBit c.bit then
    some (hwTimestamp cfg t).toUInt64
  else none

theorem hwSample_bind_samSampleEvent (cfg : Config) (s : Nat) (c : Category) (t : XclTraceResults) :
    (hwSample cfg t).bind (samSampleEvent s c) = samEvent cfg s c t := by
  unfold hwSample hwSlotID samSampleEvent samEvent
  by_cases h1 : 64 ≤ t.traceID ∧ t.traceID ≤ 544
  · simp [h1]
  · have : ¬ (64 ≤ t.traceID ∧ t.traceID ≤ 544 ∧ (t.traceID - 64) / 16 = s ∧
        t.traceID.testBit c.bit) := fun h => h1 ⟨h.1, h.2.1⟩
    by_cases h2 : 2 ≤ t.traceID ∧ t.traceID ≤ 61
    · have hlt : ¬ 64 ≤ t.traceID := by omega
      simp [h1, h2, hlt, this]
    · simp [h1, h2, this]

/-- In hardware mode the record loop writes, for category `c` on slot `s`, the pairing of
the interval open on entry followed by that slot and category's events. -/
theorem recordLoop_toggle_hw (cfg : Config) (rd : Readings) (type : Nat) (f : Front) (b : Back)
    (tv : List XclTraceResults) (s : Nat) (c : Category) :
    (recordLoop cfg rd false type f b tv).2.filterMap (Emit.intervalAt s c.type) =
      pairUp ((b.monitors.samOpen s c).toList ++ tv.tail.filterMap (samEvent cfg s c)) := by
  obtain ⟨-, -, h⟩ := recordLoop_sim cfg rd false type
    (fun st smp => stepOpt toggleStep st (samSampleEvent s c smp)) (fun b => b.monitors.samOpen s c)
    (Emit.intervalAt s c.type) (fun _ => True) (fun _ _ _ _ => trivial)
    (fun conv b smp _ => decodeSample_hw_toggle cfg conv b smp s c) f b 0 tv trivial
  rw [recordLoop, h, mealyRun_filterMap, samplesOf_hw, List.filterMap_filterMap, mealyRun_toggleStep]
  simp only [hwSample_bind_samSampleEvent]

/-- In hardware mode the record loop leaves the toggle of `c` on slot `s` as the toggle
machine does from the interval open on entry over that slot and category's events. -/
theorem recordLoop_samOpen_hw (cfg : Config) (rd : Readings) (type : Nat) (f : Front) (b : Back)
    (tv : List XclTraceResults) (s : Nat) (c : Category) :
    (recordLoop cfg rd false type f b tv).1.2.monitors.samOpen s c =
      (mealyRun toggleStep (b.monitors.samOpen s c) (tv.tail.filterMap (samEvent cfg s c))).1 := by
  obtain ⟨-, h, -⟩ := recordLoop_sim cfg rd false type
    (fun st smp => stepOpt toggleStep st (samSampleEvent s c smp)) (fun b => b.monitors.samOpen s c)
    (Emit.intervalAt s c.type) (fun _ => True) (fun _ _ _ _ => trivial)
    (fun conv b smp _ => decodeSample_hw_toggle cfg conv b smp s c) f b 0 tv trivial
  rw [recordLoop, h, mealyRun_filterMap, samplesOf_hw, List.filterMap_filterMap]
  simp only [hwSample_bind_samSampleEvent]

/-! ## Emulation mode -/

/-- The open compute unit interval of slot `s` in emulation mode: its stored device start
and host start in ms, while the compute unit is started. -/
def Monitors.cuOpen (m : Monitors) (s : Nat) : Option (UInt64 × ℚ) :=
  if (m.mAccelMonStartedEvents s).testBit Category.cu.bit then
    some (m.mAccelMonCuTime s, ((m.mAccelMonCuHostTime s).toNat : ℚ) / 1000000)
  else none

/-- The compute unit event of slot `s` that a decoded emulation record is: its device time
and its host time in ms, when its `TraceID` is in 64..94 with `TraceID-64 = s` and its
`EventFlags` carry the compute unit bit. -/
def emuCuEvent (s : Nat) (smp : Sample) : Option (UInt64 × ℚ) :=
  if 64 ≤ smp.trace.traceID ∧ smp.trace.traceID ≤ 94 ∧ smp.trace.traceID - 64 = s ∧
      smp.trace.eventFlags.toNat.testBit Category.cu.bit then
    some (smp.timestamp.toUInt64, (smp.hostTimestampNsec.toNat : ℚ) / 1000000)
  else none

/-- The interval a write is, device and host times together, when it is a `Kernel` record
of slot `s`. -/
def Emit.hostIntervalAt (s : Nat) (e : Emit) : Option ((UInt64 × ℚ) × (UInt64 × ℚ)) :=
  if e.record.slotNum = s ∧ e.record.type = Category.cu.type then
    some ((e.record.startTime, e.record.start), (e.record.endTime, e.record.«end»))
  else none

theorem land_cuMask_eq_zero (w : Nat) :
    w &&& xsamTraceCuMask = 0 ↔ w.testBit Category.cu.bit = false := by
  have := (Category.land_mask_ne_zero .cu w).not
  simp only [ne_eq, not_not, Bool.not_eq_true] at this
  exact this

theorem xsamTraceCuMask_testBit : xsamTraceCuMask.testBit Category.cu.bit = true := by decide

/-- In emulation mode a compute unit record is one step of the toggle of slot `s` on the
event it is. -/
theorem emuCu_toggle (b : Back) (smp : Sample) (s : Nat) (h1 : 64 ≤ smp.trace.traceID)
    (h2 : smp.trace.traceID ≤ 94) :
    (emuCu b smp).1.monitors.cuOpen s =
        (stepOpt toggleStep (b.monitors.cuOpen s) (emuCuEvent s smp)).1 ∧
      (emuCu b smp).2.filterMap (Emit.hostIntervalAt s) =
        (stepOpt toggleStep (b.monitors.cuOpen s) (emuCuEvent s smp)).2 := by
  obtain ⟨e1, e2, e3, e4⟩ := emuCu_spec b smp
  simp only [Monitors.cuOpen, emuCuEvent, e1, e2, e3, e4, h1, h2, true_and, ne_eq,
    land_cuMask_eq_zero, Bool.not_eq_false]
  by_cases hf : smp.trace.eventFlags.toNat.testBit Category.cu.bit
  · by_cases hs : smp.trace.traceID - 64 = s
    · subst hs
      cases ho : (b.monitors.mAccelMonStartedEvents (smp.trace.traceID - 64)).testBit Category.cu.bit <;>
        simp [hf, ho, Nat.testBit_xor, xsamTraceCuMask_testBit, stepOpt, toggleStep,
          Emit.hostIntervalAt, Emit.record, Category.type]
    · have hs' : s ≠ smp.trace.traceID - 64 := Ne.symm hs
      cases ho : (b.monitors.mAccelMonStartedEvents (smp.trace.traceID - 64)).testBit Category.cu.bit <;>
        simp [hf, ho, hs, hs', stepOpt, Emit.hostIntervalAt, Emit.record]
  · simp [hf, stepOpt]

/-- In emulation mode a decoded record is one step of the compute unit toggle of slot `s`
on the event it is. -/
theorem decodeSample_emu_toggle (cfg : Config) (conv : UInt64 → ℚ) (b : Back) (smp : Sample)
    (s : Nat) :
    (decodeSample cfg true conv b smp).1.monitors.cuOpen s =
        (stepOpt toggleStep (b.monitors.cuOpen s) (emuCuEvent s smp)).1 ∧
      (decodeSample cfg true conv b smp).2.filterMap (Emit.hostIntervalAt s) =
        (stepOpt toggleStep (b.monitors.cuOpen s) (emuCuEvent s smp)).2 := by
  simp only [decodeSample, if_true]
  split_ifs with hm hc
  · have hev : emuCuEvent s smp = none := by
      simp only [emuCuEvent]; exact if_neg fun h => by omega
    obtain ⟨f1, f2⟩ := emuMemory_frame (fun m => m.cuOpen s)
      (fun m d _ _ => by cases d <;> exact ⟨rfl, rfl⟩) cfg b smp
    refine ⟨by rw [hev]; exact f1, ?_⟩
    rw [hev, stepOpt, List.filterMap_eq_nil_iff]
    intro e he
    obtain ⟨-, ⟨d, hd⟩, -⟩ := f2 e he
    simp [Emit.hostIntervalAt, hd, Category.type, Dir.type_ne_kernel]
  · exact emuCu_toggle b smp s hc.1 hc.2
  · have hev : emuCuEvent s smp = none := by
      simp only [emuCuEvent]; exact if_neg fun h => hc ⟨h.1, h.2.1⟩
    simp [hev, stepOpt]

/-- In emulation mode the record loop writes, for the `Kernel` intervals of slot `s`, the
pairing of the interval open on entry followed by that slot's compute unit events, device
and host times together. -/
theorem recordLoop_toggle_emu (cfg : Config) (rd : Readings) (type : Nat) (f : Front) (b : Back)
    (tv : List XclTraceResults) (s : Nat) :
    (recordLoop cfg rd true type f b tv).2.filterMap (Emit.hostIntervalAt s) =
      pairUp ((b.monitors.cuOpen s).toList ++
        (samplesOf cfg rd true type f 0 tv).2.filterMap (emuCuEvent s)) := by
  obtain ⟨-, -, h⟩ := recordLoop_sim cfg rd true type
    (fun st smp => stepOpt toggleStep st (emuCuEvent s smp)) (fun b => b.monitors.cuOpen s)
    (Emit.hostIntervalAt s) (fun _ => True) (fun _ _ _ _ => trivial)
    (fun conv b smp _ => decodeSample_emu_toggle cfg conv b smp s) f b 0 tv trivial
  rw [recordLoop, h, mealyRun_filterMap, mealyRun_toggleStep]

/-! ## From a clear started mask -/

/-- A call either returns at the guard, changing nothing, or leaves the started mask of
every slot clear (line 489). -/
theorem logTraceOps_started (cfg : Config) (env : Env) (rd : Readings) (dev : RTProfileDevice)
    (type : Nat) (tv : List XclTraceResults) (i : Nat) (hi : i < cfg.xsamMaxNumberSlots) :
    (logTraceOps cfg env rd dev type tv).1.monitors.mAccelMonStartedEvents i = 0 ∨
      logTraceOps cfg env rd dev type tv = (dev, []) := by
  by_cases hg : dev.mMaxTraceEvents ≤ dev.mNumTraceEvents ∨ tv = []
  · exact .inr (logTraceOps_of_full cfg env rd dev type tv hg)
  · exact .inl (by simp [logTraceOps, hg, Monitors.clearStarted, hi])

/-- From a slot whose started mask is clear, the record loop writes, for each category on
that slot, exactly the pairing of that category's events there, in arrival order: in
hardware mode for all four categories, each interval's `StartTime` and `EndTime` being the
times of its two events; in emulation mode for `Kernel`, with `Start` and `End` the host
times of those events in ms.  Every call that passes the guard leaves the started mask of
every slot clear. -/
theorem toggle_pairs (cfg : Config) (rd : Readings) (type : Nat) (f : Front) (b : Back)
    (tv : List XclTraceResults) (s : Nat) (h0 : b.monitors.mAccelMonStartedEvents s = 0) :
    (∀ c : Category, (recordLoop cfg rd false type f b tv).2.filterMap (Emit.intervalAt s c.type) =
        pairUp (tv.tail.filterMap (samEvent cfg s c))) ∧
      (recordLoop cfg rd true type f b tv).2.filterMap (Emit.hostIntervalAt s) =
        pairUp ((samplesOf cfg rd true type f 0 tv).2.filterMap (emuCuEvent s)) ∧
      ∀ env dev, ∀ i < cfg.xsamMaxNumberSlots,
        (logTraceOps cfg env rd dev type tv).1.monitors.mAccelMonStartedEvents i = 0 ∨
          logTraceOps cfg env rd dev type tv = (dev, []) := by
  refine ⟨fun c => ?_, ?_, fun env dev i hi => logTraceOps_started cfg env rd dev type tv i hi⟩
  · rw [recordLoop_toggle_hw, show b.monitors.samOpen s c = none by simp [Monitors.samOpen, h0]]
    rfl
  · rw [recordLoop_toggle_emu, show b.monitors.cuOpen s = none by simp [Monitors.cuOpen, h0]]
    rfl

/-- A hardware batch with a compute unit start and end on slot 0, from a clear mask. -/
theorem toggle_pairs_blank :
    RTProfileDevice.blank.monitors.mAccelMonStartedEvents 0 = 0 ∧
      (recordLoop sampleConfig ⟨0, 0, id⟩ false 0 ⟨RTProfileDevice.blank.training, 0xFFFFFFFF, 0, 0⟩
          ⟨RTProfileDevice.blank.monitors, sampleConfig.defaultTrace⟩
          [⟨0, 0, 0, 0, 0, 0, 0⟩, ⟨10, 0, 65, 0, 0, 0, 0⟩, ⟨20, 0, 67, 0, 0, 0, 0⟩]).2.filterMap
          (Emit.intervalAt 0 Category.cu.type) =
        pairUp ([⟨10, 0, 65, 0, 0, 0, 0⟩, ⟨20, 0, 67, 0, 0, 0, 0⟩].filterMap
          (samEvent sampleConfig 0 .cu)) :=
  ⟨rfl, (toggle_pairs sampleConfig _ 0 _ _ _ 0 rfl).1 .cu⟩

end XdpProfile
