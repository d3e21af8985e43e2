import XdpProfile.BatchSplit
import Mathlib.Tactic.NormNum

/-!
# Where the records of a call go

`logTrace` writes to `resultVector` by front inserts and back appends only, and
`applyOps_eq` says what that gives: the front inserts of a call come out reversed before
the caller's records, its appends after them in the order made.  In hardware mode every
`Kernel` interval, of the loop (line 343) and of the post-pass (line 483), is inserted
at the front and every other record appended, so the call's `Kernel` records come
reversed before the old contents and its other records in order after them
(`hw_result_order`).  In emulation mode every record is appended, `Kernel` intervals
included (line 308): a memory transaction that completes before a compute unit ends is
written before it (`emu_result_appended`, `emu_write_before_kernel`).

Only the emulation memory path drops an interval whose `End` would come before its
`Start` (lines 246-250 and 284-288, `emu_memory_end_ge_start`); the compute unit path of
emulation mode and every path of hardware mode write what they compute
(`inverted_intervals`).

Only two paths assign `TraceStart`: the emulation memory path (lines 248, 286) and the
category blocks of hardware mode (lines 342-381), each to the record's `Start`.  An
emulation `Kernel` record keeps the `TraceStart` of the call's fresh `kernelTrace`, and a
hardware `Read` or `Write` record that of a fresh `DeviceTrace` (`traceStart_assigned`).
-/

namespace XdpProfile

/-! ## Placement -/

/-- The ordering contract for one write: a `Kernel` record to the front, any other to the
back. -/
def Emit.Placed (e : Emit) : Prop :=
  e = if e.record.type = "Kernel" then .insertBegin e.record else .pushBack e.record

/-- Writes placed by the contract insert the `Kernel` records and append the others, each
in the order written. -/
theorem Emit.fronts_backs_of_placed (ops : List Emit) (h : ∀ e ∈ ops, e.Placed) :
    Emit.fronts ops = (ops.map Emit.record).filter (·.type = "Kernel") ∧
      Emit.backs ops = (ops.map Emit.record).filter (·.type ≠ "Kernel") := by
  induction ops with
  | nil => exact ⟨rfl, rfl⟩
  | cons e ops ih =>
    obtain ⟨ih1, ih2⟩ := ih fun e' he' => h e' (.tail _ he')
    have he := h e (.head _)
    cases e <;> simp only [Emit.Placed, Emit.record] at he <;> split_ifs at he with hk <;>
      first | (cases he; done) | simp [Emit.fronts, Emit.backs, Emit.record, hk, ih1, ih2]

/-- Writes that all append leave the caller's records first, then theirs in order. -/
theorem Emit.fronts_backs_of_pushBack (ops : List Emit) (h : ∀ e ∈ ops, e = .pushBack e.record) :
    Emit.fronts ops = [] ∧ Emit.backs ops = ops.map Emit.record := by
  induction ops with
  | nil => exact ⟨rfl, rfl⟩
  | cons e ops ih =>
    obtain ⟨ih1, ih2⟩ := ih fun e' he' => h e' (.tail _ he')
    have he := h e (.head _)
    cases e
    · cases he
    · simp [Emit.fronts, Emit.backs, Emit.record, ih1, ih2]

/-- Whatever every decoded record writes, the whole record loop writes. -/
theorem recordLoop_forall (cfg : Config) (rd : Readings) (isHwEmu : Bool) (type : Nat)
    (P : Emit → Prop) (h : ∀ conv b smp, ∀ e ∈ (decodeSample cfg isHwEmu conv b smp).2, P e)
    (f : Front) (b : Back) (tv : List XclTraceResults) :
    ∀ e ∈ (recordLoop cfg rd isHwEmu type f b tv).2, P e := by
  refine mealyRun_forall _ (fun _ => True) P (fun _ _ _ => trivial) (fun fb p _ e he => ?_) _ _ trivial
  simp only [recordStep] at he
  split at he
  · simp at he
  · exact h _ _ _ e he

/-! ## Hardware mode -/

/-- In hardware mode every write of the dispatch follows the contract. -/
theorem decodeSample_hw_placed (cfg : Config) (conv : UInt64 → ℚ) (b : Back) (smp : Sample) :
    ∀ e ∈ (decodeSample cfg false conv b smp).2, e.Placed := by
  have hspm : ∀ d, ∀ e ∈ (spmTranx cfg conv d b smp).2, e.Placed := fun d e he => by
    obtain ⟨h1, h2⟩ := (spmTranx_frame cfg conv d b smp).2.2 e he
    rw [Emit.Placed, if_neg (h2 ▸ Dir.type_ne_kernel d)]
    exact h1
  simp only [decodeSample, Bool.false_eq_true, if_false]
  split_ifs
  · intro e he
    obtain ⟨c, h1, h2, -⟩ := samTrace_ops conv b smp e he
    simp only [Emit.Placed, h2, Category.type_eq_kernel]
    exact h1
  · exact hspm .read
  · exact hspm .write
  · simp

/-- A hardware call inserts each `Kernel` record and appends each other record. -/
theorem logTraceOps_hw_placed (cfg : Config) (names : PerfMonKind → Nat → String) (rd : Readings)
    (dev : RTProfileDevice) (type : Nat) (tv : List XclTraceResults) :
    ∀ e ∈ (logTraceOps cfg ⟨false, names⟩ rd dev type tv).2, e.Placed := by
  by_cases hg : dev.mMaxTraceEvents ≤ dev.mNumTraceEvents ∨ tv = []
  · simp [logTraceOps_of_full cfg _ rd dev type tv hg]
  · simp only [logTraceOps, hg, if_false, Bool.false_eq_true, List.mem_append]
    rintro e (he | he)
    · exact recordLoop_forall cfg rd false type _ (decodeSample_hw_placed cfg) _ _ tv e he
    · obtain ⟨h1, h2⟩ := approximateCuEnds_ops cfg _ _ _ e he
      rw [Emit.Placed, if_pos h2]
      exact h1

/-- One slot of the post-pass writes at most one record, of its own slot. -/
theorem approximateCu_slots (cfg : Config) (env : Env) (conv : UInt64 → ℚ) (b : Back) (i : Nat) :
    ((approximateCu cfg env conv b i).2.map (·.record.slotNum)).Sublist [i] := by
  unfold approximateCu
  dsimp only
  split_ifs <;> simp [Emit.record]

/-- The post-pass writes its records in increasing slot order. -/
theorem approximateCuEnds_sorted (cfg : Config) (env : Env) (conv : UInt64 → ℚ) (b : Back) :
    ((approximateCuEnds cfg env conv b).2.map (·.record.slotNum)).Pairwise (· < ·) := by
  refine List.Pairwise.sublist ?_ (List.pairwise_lt_range cfg.xsamMaxNumberSlots)
  unfold approximateCuEnds
  induction List.range cfg.xsamMaxNumberSlots generalizing b with
  | nil => simp
  | cons i is ih =>
    simp only [mealyRun_cons, List.map_append]
    exact (approximateCu_slots cfg env conv b i).append (ih _)

/-- Over a clear started mask the post-pass writes nothing. -/
theorem approximateCuEnds_clear (cfg : Config) (env : Env) (conv : UInt64 → ℚ) (b : Back)
    (h : ∀ i, b.monitors.mAccelMonStartedEvents i = 0) : (approximateCuEnds cfg env conv b).2 = [] := by
  refine List.eq_nil_iff_forall_not_mem.2 fun e he => ?_
  refine mealyRun_forall _ (fun b' => b'.monitors = b.monitors) (fun _ => False)
    (fun b' i hb => (approximateCu_monitors cfg env conv b' i).trans hb) (fun b' i hb e he => ?_) b _ rfl e he
  simp [approximateCu, hb, h, xsamTraceCuMask] at he

/-- In hardware mode a call that passes the guard leaves `resultVector` as its `Kernel`
records reversed, then the caller's records, then its other records in the order written.
The `Kernel` records are those of the record loop in completion order followed by those of
the post-pass, which are all `Kernel` records and come in increasing slot order; the other
records are those of the loop.  A call that does not pass the guard leaves the caller's
records alone. -/
theorem hw_result_order (cfg : Config) (names : PerfMonKind → Nat → String) (rd : Readings)
    (dev : RTProfileDevice) (type : Nat) (tv : List XclTraceResults) (R0 : List DeviceTrace) :
    let l := recordLoop cfg rd false type ⟨dev.training, 0xFFFFFFFF, 0, 0⟩
      ⟨dev.monitors, cfg.defaultTrace⟩ tv
    let post := approximateCuEnds cfg ⟨false, names⟩
      (fun t => convertDeviceToHostTimestamp l.1.1.training t type) l.1.2
    (logTrace cfg ⟨false, names⟩ rd dev type tv R0).2 =
        (if dev.mMaxTraceEvents ≤ dev.mNumTraceEvents ∨ tv = [] then R0
        else ((l.2.map Emit.record).filter (·.type = "Kernel") ++ post.2.map Emit.record).reverse ++
          R0 ++ (l.2.map Emit.record).filter (·.type ≠ "Kernel")) ∧
      ∀ conv b, ((approximateCuEnds cfg ⟨false, names⟩ conv b).2.map (·.record.slotNum)).Pairwise (· < ·) ∧
        ∀ e ∈ (approximateCuEnds cfg ⟨false, names⟩ conv b).2, e.record.type = "Kernel" := by
  intro l post
  refine ⟨?_, fun conv b => ⟨approximateCuEnds_sorted cfg _ conv b,
    fun e he => (approximateCuEnds_ops cfg _ conv b e he).2⟩⟩
  by_cases hg : dev.mMaxTraceEvents ≤ dev.mNumTraceEvents ∨ tv = []
  · simp [logTrace, logTraceOps_of_full cfg _ rd dev type tv hg, applyOps, hg]
  · have hops : (logTraceOps cfg ⟨false, names⟩ rd dev type tv).2 = l.2 ++ post.2 := by
      simp only [logTraceOps, hg, if_false, Bool.false_eq_true]
    obtain ⟨h1, h2⟩ := Emit.fronts_backs_of_placed _ (logTraceOps_hw_placed cfg names rd dev type tv)
    have hk : ∀ r ∈ post.2.map Emit.record, r.type = "Kernel" := fun r hr => by
      obtain ⟨e, he, rfl⟩ := List.mem_map.1 hr
      exact (approximateCuEnds_ops cfg _ _ _ e he).2
    have hf1 : (post.2.map Emit.record).filter (·.type = "Kernel") = post.2.map Emit.record :=
      List.filter_eq_self.2 fun r hr => decide_eq_true (hk r hr)
    have hf2 : (post.2.map Emit.record).filter (·.type ≠ "Kernel") = [] :=
      List.filter_eq_nil_iff.2 fun r hr h => of_decide_eq_true h (hk r hr)
    rw [hops] at h1 h2
    rw [logTrace, applyOps_eq, hops, h1, h2, if_neg hg, List.map_append, List.filter_append,
      List.filter_append, hf1, hf2, List.append_nil]

/-! ## Emulation mode -/

/-- An emulation compute unit record appends at most one `Kernel` interval. -/
theorem emuCu_ops (b : Back) (smp : Sample) :
    ∀ e ∈ (emuCu b smp).2, e = .pushBack e.record ∧ e.record.type = "Kernel" := by
  simp only [emuCu]
  split_ifs <;> simp [Emit.record]

/-- In emulation mode every write of the dispatch appends. -/
theorem decodeSample_emu_pushBack (cfg : Config) (conv : UInt64 → ℚ) (b : Back) (smp : Sample) :
    ∀ e ∈ (decodeSample cfg true conv b smp).2, e = .pushBack e.record := by
  simp only [decodeSample, if_true]
  split_ifs
  · exact fun e he => ((emuMemory_frame (fun _ => ()) (fun _ _ _ _ => ⟨rfl, rfl⟩) cfg b smp).2 e he).1
  · exact fun e he => (emuCu_ops b smp e he).1
  · simp

/-- The writes of an emulation call are those of its record loop. -/
theorem logTraceOps_emu_ops (cfg : Config) (names : PerfMonKind → Nat → String) (rd : Readings)
    (dev : RTProfileDevice) (type : Nat) (tv : List XclTraceResults) (P : Emit → Prop)
    (h : ∀ conv b smp, ∀ e ∈ (decodeSample cfg true conv b smp).2, P e) :
    ∀ e ∈ (logTraceOps cfg ⟨true, names⟩ rd dev type tv).2, P e := by
  by_cases hg : dev.mMaxTraceEvents ≤ dev.mNumTraceEvents ∨ tv = []
  · simp [logTraceOps_of_full cfg _ rd dev type tv hg]
  · simp only [logTraceOps, hg, if_false, if_true, List.append_nil]
    exact recordLoop_forall cfg rd true type P h _ _ tv

/-- In emulation mode a call appends every record it writes, `Kernel` intervals included,
after the caller's records and in the order it writes them. -/
theorem emu_result_appended (cfg : Config) (names : PerfMonKind → Nat → String) (rd : Readings)
    (dev : RTProfileDevice) (type : Nat) (tv : List XclTraceResults) (R0 : List DeviceTrace) :
    (logTrace cfg ⟨true, names⟩ rd dev type tv R0).2 =
      R0 ++ (logTraceOps cfg ⟨true, names⟩ rd dev type tv).2.map Emit.record := by
  obtain ⟨h1, h2⟩ := Emit.fronts_backs_of_pushBack _
    (logTraceOps_emu_ops cfg names rd dev type tv _ (decodeSample_emu_pushBack cfg))
  rw [logTrace, applyOps_eq, h1, h2]
  rfl

/-- An emulation batch from the constructed device: a write that starts and ends on slot 1,
then a compute unit start and end on slot 0.  The `Write` record comes out before the
`Kernel` record. -/
theorem emu_write_before_kernel :
    ((logTrace sampleConfig ⟨true, fun _ _ => ""⟩ ⟨0, 0, id⟩ (RTProfileDevice.construct sampleConfig .blank) 0
        [⟨1, 0, 2, 0, 5, 6, 0⟩, ⟨1, 0, 64, 0, 10, 1, 0⟩, ⟨1, 0, 64, 0, 20, 1, 0⟩] []).2.map
        (·.type)) = ["Write", "Kernel"] := by
  simp +decide [logTrace, logTraceOps, recordLoop, recordStep, clockTraining, decodeSample, emuMemory,
    emuSide, emuEnd, emuCu, Back.pushStart, applyOps, Emit.apply, RTProfileDevice.construct,
    RTProfileDevice.blank, sampleConfig, getBit, emuTimestamp, Config.firstBit, Config.lastBit,
    Monitors.starts, Monitors.hostStarts, Monitors.setStarts, Monitors.setHostStarts]

/-! ## Inverted intervals -/

/-- In emulation mode every `Read` and `Write` record a call writes has its `End` no
earlier than its `Start`. -/
theorem emu_memory_end_ge_start (cfg : Config) (names : PerfMonKind → Nat → String) (rd : Readings)
    (dev : RTProfileDevice) (type : Nat) (tv : List XclTraceResults) :
    ∀ e ∈ (logTraceOps cfg ⟨true, names⟩ rd dev type tv).2,
      e.record.type = "Read" ∨ e.record.type = "Write" → e.record.start ≤ e.record.«end» := by
  refine logTraceOps_emu_ops cfg names rd dev type tv _ fun conv b smp e he ht => ?_
  simp only [decodeSample, if_true] at he
  split_ifs at he
  · exact ((emuMemory_frame (fun _ => ()) (fun _ _ _ _ => ⟨rfl, rfl⟩) cfg b smp).2 e he).2.2
  · rw [(emuCu_ops b smp e he).2] at ht
    simp at ht
  · simp at he

/-- An emulation write that starts and ends in one record, from the constructed device:
its record has `Start` 5 and `End` 5 and is written. -/
theorem emu_memory_end_ge_start_write :
    Emit.pushBack ⟨1, "", "Write", .deviceKernel, 1, 1, 5, 5, 1, 0, 5⟩ ∈
        (logTraceOps sampleConfig ⟨true, fun _ _ => ""⟩ ⟨0, 0, id⟩ (RTProfileDevice.construct sampleConfig .blank)
          0 [⟨1, 0, 2, 0, 5000000, 6, 0⟩]).2 ∧
      ("Write" = "Read" ∨ "Write" = "Write") ∧ (5 : ℚ) ≤ 5 :=
  have h : Emit.pushBack ⟨1, "", "Write", .deviceKernel, 1, 1, 5, 5, 1, 0, 5⟩ ∈
      (logTraceOps sampleConfig ⟨true, fun _ _ => ""⟩ ⟨0, 0, id⟩ (RTProfileDevice.construct sampleConfig .blank)
        0 [⟨1, 0, 2, 0, 5000000, 6, 0⟩]).2 := by
    simp +decide [logTraceOps, recordLoop, recordStep, clockTraining, decodeSample, emuMemory,
      emuSide, emuEnd, Back.pushStart, RTProfileDevice.construct, RTProfileDevice.blank, sampleConfig,
      getBit, emuTimestamp, Config.firstBit, Config.lastBit, Monitors.starts, Monitors.hostStarts,
      Monitors.setStarts, Monitors.setHostStarts]
    norm_num
  ⟨h, .inr rfl, emu_memory_end_ge_start _ _ _ _ _ _ _ h (.inr rfl)⟩

/-- A compute unit of an emulation batch that ends at an earlier host time than it started,
and a write of a hardware batch that ends at an earlier device time than it started: both
records are written with `End` before `Start`. -/
theorem inverted_intervals :
    ((logTrace sampleConfig ⟨true, fun _ _ => ""⟩ ⟨0, 0, id⟩ (RTProfileDevice.construct sampleConfig .blank) 0
        [⟨1, 0, 64, 0, 20000000, 1, 0⟩, ⟨1, 0, 64, 0, 10000000, 1, 0⟩] []).2.map
        fun r => (r.type, decide (r.«end» < r.start))) = [("Kernel", true)] ∧
      ((logTrace sampleConfig ⟨false, fun _ _ => ""⟩ ⟨0, 0, id⟩ (RTProfileDevice.construct sampleConfig .blank) 0
        [⟨0, 0, 0, 0, 0, 0, 0⟩, ⟨10, 0, 0, 0, 10, 0, 0⟩, ⟨20, 0, 2, 0, 0, 0, 4⟩, ⟨15, 0, 2, 0, 0, 0, 5⟩]
        []).2.map fun r => (r.type, decide (r.«end» < r.start))) = [("Write", true)] := by
  constructor
  · simp +decide [logTrace, logTraceOps, recordLoop, recordStep, clockTraining, decodeSample, emuCu,
      applyOps, Emit.apply, RTProfileDevice.construct, RTProfileDevice.blank, emuTimestamp]
    norm_num
  · simp +decide [logTrace, logTraceOps, recordLoop, recordStep, clockTraining, decodeSample, spmTranx,
      applyOps, Emit.apply, RTProfileDevice.construct, RTProfileDevice.blank, hwSample, hwSlotID,
      hwTimestamp, trainAt, trainDeviceHostTimestamps, convertDeviceToHostTimestamp, endStart,
      sampleConfig, Monitors.starts, Monitors.setStarts, Monitors.setPerfMonLastTranx]
    rw [approximateCuEnds_clear _ _ _ _ (by simp [Monitors.setStarts, Monitors.setPerfMonLastTranx])]
    norm_num [Dir.type, show (UInt64.toUInt32 15).toUInt64.toNat = 15 from rfl,
      show (UInt64.toUInt32 20).toUInt64.toNat = 20 from rfl]

/-! ## `TraceStart` -/

/-- Whatever both sides of an emulation memory record write, the record writes. -/
theorem emuMemory_forall (cfg : Config) (b : Back) (smp : Sample) (P : Emit → Prop)
    (h : ∀ d b', ∀ e ∈ sideOps (emuSide cfg d (smp.trace.traceID / 2) smp.timestamp
      smp.hostTimestampNsec smp.trace.eventFlags b'), P e) :
    ∀ e ∈ (emuMemory cfg b smp).2, P e := by
  cases hw : emuSide cfg .write (smp.trace.traceID / 2) smp.timestamp smp.hostTimestampNsec
    smp.trace.eventFlags b with
  | error => simp [emuMemory, hw]
  | ok p =>
    obtain ⟨b1, o⟩ := p
    rw [emuMemory_of_ok cfg b b1 smp o hw]
    intro e he
    rcases List.mem_append.1 he with he | he
    · exact h .write b e (by rw [hw]; exact he)
    · exact h .read b1 e he

/-- In emulation mode a memory record carries its `Start` as `TraceStart`, and a compute
unit record the `TraceStart` of `kernelTrace`. -/
theorem decodeSample_emu_traceStart_ops (cfg : Config) (conv : UInt64 → ℚ) (b : Back) (smp : Sample) :
    ∀ e ∈ (decodeSample cfg true conv b smp).2, e.record.traceStart =
      if e.record.type = "Kernel" then b.kernelTrace.traceStart else e.record.start := by
  simp only [decodeSample, if_true]
  split_ifs
  · refine emuMemory_forall cfg b smp _ fun d b' e he => ?_
    rcases emuSide_ops cfg d _ _ _ _ b' with h | ⟨r, h, ht, hts⟩ <;> rw [h] at he
    · simp at he
    · rw [List.mem_singleton.1 he]
      simp [Emit.record, ht, hts, Dir.type_ne_kernel]
  · intro e he
    rw [if_pos (emuCu_ops b smp e he).2]
    rw [(emuCu_spec b smp).2.2.2] at he
    split_ifs at he <;> simp only [List.mem_singleton, List.not_mem_nil] at he
    subst he
    rfl
  · simp

/-- In hardware mode a memory record keeps the `TraceStart` of a fresh `DeviceTrace`, and
a completed interval carries its `Start`. -/
theorem decodeSample_hw_traceStart_ops (cfg : Config) (conv : UInt64 → ℚ) (b : Back) (smp : Sample) :
    ∀ e ∈ (decodeSample cfg false conv b smp).2, e.record.traceStart =
      if e.record.type = "Read" ∨ e.record.type = "Write" then cfg.defaultTrace.traceStart
      else e.record.start := by
  have hspm : ∀ d, ∀ e ∈ (spmTranx cfg conv d b smp).2, e.record.traceStart =
      if e.record.type = "Read" ∨ e.record.type = "Write" then cfg.defaultTrace.traceStart
      else e.record.start := fun d e he => by
    have ht := ((spmTranx_frame cfg conv d b smp).2.2 e he).2
    rw [if_pos (by rw [ht]; cases d <;> simp [Dir.type])]
    unfold spmTranx at he
    split_ifs at he <;> simp only [List.mem_singleton, List.not_mem_nil] at he
    subst he
    rfl
  simp only [decodeSample, Bool.false_eq_true, if_false]
  split_ifs
  · refine mealyRun_forall _ (fun _ => True) _ (fun _ _ _ => trivial) (fun b' c _ e he => ?_) _ _ trivial
    have ht := (samCategory_ops conv _ _ _ b' c e he).2.1
    rw [if_neg (by rw [ht]; exact not_or.2 ⟨Category.type_ne_dir c .read, Category.type_ne_dir c .write⟩)]
    rw [samCategory_eq] at he
    split_ifs at he <;> simp only [List.mem_singleton, List.not_mem_nil] at he
    subst he
    simp
  · exact hspm .read
  · exact hspm .write
  · simp

/-- Only the emulation memory path and the hardware category blocks assign `TraceStart`,
each to the record's `Start`.  Every emulation `Kernel` record keeps the `TraceStart` of
a default-constructed `DeviceTrace`, since no emulation path writes that field of
`kernelTrace`; every hardware `Read` or `Write` record keeps it too, being built from a
fresh `DeviceTrace`. -/
theorem traceStart_assigned (cfg : Config) (names : PerfMonKind → Nat → String) (rd : Readings)
    (dev : RTProfileDevice) (type : Nat) (tv : List XclTraceResults) :
    (∀ e ∈ (logTraceOps cfg ⟨true, names⟩ rd dev type tv).2, e.record.traceStart =
        if e.record.type = "Kernel" then cfg.defaultTrace.traceStart else e.record.start) ∧
      ∀ e ∈ (logTraceOps cfg ⟨false, names⟩ rd dev type tv).2, e.record.type ≠ "Kernel" →
        e.record.traceStart = if e.record.type = "Read" ∨ e.record.type = "Write" then
          cfg.defaultTrace.traceStart else e.record.start := by
  constructor
  · by_cases hg : dev.mMaxTraceEvents ≤ dev.mNumTraceEvents ∨ tv = []
    · simp [logTraceOps_of_full cfg _ rd dev type tv hg]
    · simp only [logTraceOps, hg, if_false, if_true, List.append_nil, recordLoop]
      refine mealyRun_forall _ (fun fb : Front × Back =>
        fb.2.kernelTrace.traceStart = cfg.defaultTrace.traceStart)
        _ (fun fb p h => (recordStep_emu_traceStart cfg rd type fb p).trans h)
        (fun fb p h e he => ?_) _ _ rfl
      simp only [recordStep] at he
      split at he
      · simp at he
      · rw [← h]
        exact decodeSample_emu_traceStart_ops cfg _ _ _ e he
  · by_cases hg : dev.mMaxTraceEvents ≤ dev.mNumTraceEvents ∨ tv = []
    · simp [logTraceOps_of_full cfg _ rd dev type tv hg]
    · simp only [logTraceOps, hg, if_false, Bool.false_eq_true]
      intro e he hk
      rcases List.mem_append.1 he with he | he
      · exact recordLoop_forall cfg rd false type _ (decodeSample_hw_traceStart_ops cfg) _ _ tv e he
      · exact absurd (approximateCuEnds_ops cfg _ _ _ e he).2 hk

/-- An emulation batch with a compute unit start and end on slot 0, from the constructed
device: it writes a record, with the `TraceStart` its kind gets. -/
theorem traceStart_assigned_emu :
    ∃ e ∈ (logTraceOps sampleConfig ⟨true, fun _ _ => ""⟩ ⟨0, 0, id⟩
        (RTProfileDevice.construct sampleConfig .blank) 0
        [⟨1, 0, 64, 0, 10, 1, 0⟩, ⟨1, 0, 64, 0, 20, 1, 0⟩]).2,
      e.record.traceStart =
        if e.record.type = "Kernel" then sampleConfig.defaultTrace.traceStart else e.record.start :=
  (List.exists_mem_of_length_pos (by decide)).imp fun e he =>
    ⟨he, (traceStart_assigned _ _ _ _ _ _).1 e he⟩

end XdpProfile
