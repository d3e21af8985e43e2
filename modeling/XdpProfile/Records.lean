import Mathlib.Algebra.Order.Field.Rat
import Mathlib.Data.Nat.Bitwise
import Mathlib.Logic.Function.Basic

/-!
# Trace records, the decoder state and the output vector

`RTProfileDevice::logTrace` (`rt_profile_device.cpp`) decodes a batch of raw trace
samples (`xclTraceResults`) into `DeviceTrace` records.  This module fixes the data
the rest of the development talks about.

*The header.*  The file includes `rt_profile_device.h` and `xclperf.h`, which are not
part of the sources.  Every macro and enum value `logTrace` reads from them is a field
of `Config`.  A field that must satisfy something for the code to make sense at all
(the four `XAPM_*` flag bits are four distinct bits of one byte; the two event types
are distinct enum values; the slot arrays hold every slot the decoder addresses)
carries it as a proof, so no configuration that violates it can be built.  The four
`XSAM_TRACE_*_MASK` categories are the one exception: line 389 toggles them all with
`TraceID & 0xf`, so they are the four low bits, and we fix them.

*Numbers.*  Device times are the code's `uint32_t` and `uint64_t`.  Host times are
`double`s, modelled as exact rationals, so nothing below depends on rounding.  The
trace and event counters are `Nat`: `mNumTraceEvents` only grows from below the cap
by one batch length at a time, so a 64-bit counter never wraps.

*State.*  The members of `RTProfileDevice` that `logTrace` reads or writes are split
by the part of the record loop that owns them.  `Training` is written by the clock
part of each iteration (lines 162-206) and only read by the rest; `Monitors` is the
per-slot decoder state (lines 208-449 and the post-pass).  Per-slot and per-type
arrays are functions of the index.

*Output.*  `logTrace` only ever writes `resultVector`, by `insert(begin(), r)` or
`push_back(r)`.  An `Emit` is one such call; running the calls of a batch in order on
the caller's vector (`applyOps`) gives the vector `logTrace` leaves.
-/

namespace XdpProfile

/-! ## Records -/

/-- `DeviceTrace::e_device_kind`, the two values the file names. -/
inductive DeviceKind where
  /-- `DEVICE_KERNEL`. -/
  | deviceKernel
  /-- `DEVICE_BUFFER`. -/
  | deviceBuffer
deriving DecidableEq, Repr

/-- `DeviceTrace`: the fields `logTrace` writes.  Device times are cycles, host times
milliseconds. -/
structure DeviceTrace where
  /-- `SlotNum`. -/
  slotNum : Nat
  /-- `Name`. -/
  name : String
  /-- `Type`: `"Read"`, `"Write"`, `"Kernel"` or a stall name. -/
  type : String
  /-- `Kind`. -/
  kind : DeviceKind
  /-- `StartTime`, in device cycles. -/
  startTime : UInt64
  /-- `EndTime`, in device cycles. -/
  endTime : UInt64
  /-- `Start`, in host milliseconds. -/
  start : ℚ
  /-- `End`, in host milliseconds. -/
  «end» : ℚ
  /-- `BurstLength`. -/
  burstLength : UInt64
  /-- `NumBytes`. -/
  numBytes : UInt64
  /-- `TraceStart`, in host milliseconds. -/
  traceStart : ℚ
deriving Repr

/-- `xclTraceResults`: the fields `logTrace` reads. -/
structure XclTraceResults where
  /-- `Timestamp`, the device cycle counter. -/
  timestamp : UInt64
  /-- `Overflow`: `1` when the counter wrapped. -/
  overflow : UInt8
  /-- `TraceID`: encodes the monitor, its slot and, for accelerator monitors, the
  categories. -/
  traceID : Nat
  /-- `Reserved`: `1` forces a single-point transaction. -/
  reserved : UInt8
  /-- `HostTimestamp`, in host nanoseconds. -/
  hostTimestamp : UInt64
  /-- `EventFlags`. -/
  eventFlags : UInt8
  /-- `EventType`, a `xclPerfMonEventType`. -/
  eventType : Nat
deriving DecidableEq, Repr

/-- The two directions of a memory monitor slot. -/
inductive Dir where
  | read
  | write
deriving DecidableEq, Repr

/-- The `Type` of a transaction record of a direction. -/
def Dir.type : Dir → String
  | .read => "Read"
  | .write => "Write"

/-! ## The header -/

/-- The macros and enum values of the headers `logTrace` reads. -/
structure Config where
  /-- `XSAM_MAX_NUMBER_SLOTS`. -/
  xsamMaxNumberSlots : Nat
  /-- `XSPM_MAX_NUMBER_SLOTS`. -/
  xspmMaxNumberSlots : Nat
  /-- `XCL_PERF_MON_TOTAL_PROFILE`. -/
  xclPerfMonTotalProfile : Nat
  /-- `XAPM_WRITE_FIRST`, a bit position in `EventFlags`. -/
  xapmWriteFirst : Nat
  /-- `XAPM_WRITE_LAST`. -/
  xapmWriteLast : Nat
  /-- `XAPM_READ_FIRST`. -/
  xapmReadFirst : Nat
  /-- `XAPM_READ_LAST`. -/
  xapmReadLast : Nat
  /-- `LOOP_ADD_TIME`. -/
  loopAddTime : Nat
  /-- `LOOP_ADD_TIME_SPM`. -/
  loopAddTimeSpm : Nat
  /-- `XCL_PERF_MON_START_EVENT`. -/
  xclPerfMonStartEvent : Nat
  /-- `XCL_PERF_MON_END_EVENT`. -/
  xclPerfMonEndEvent : Nat
  /-- `IS_READ`. -/
  isRead : Nat → Bool
  /-- `IS_WRITE`. -/
  isWrite : Nat → Bool
  /-- The fields of a default-constructed `DeviceTrace`. -/
  defaultTrace : DeviceTrace
  /-- The four flag bits are distinct bits of one byte. -/
  flagBits : [xapmWriteFirst, xapmWriteLast, xapmReadFirst, xapmReadLast].Nodup ∧
    xapmWriteFirst < 8 ∧ xapmWriteLast < 8 ∧ xapmReadFirst < 8 ∧ xapmReadLast < 8
  /-- The two event types are distinct enum values. -/
  startEvent_ne_endEvent : xclPerfMonStartEvent ≠ xclPerfMonEndEvent
  /-- Slot ids decode to at most `30` (`(544 - 64) / 16`, `61 / 2`, `94 - 64`). -/
  slotsCover : 30 < xsamMaxNumberSlots ∧ 30 < xspmMaxNumberSlots

/-- The flag bit that marks the first beat of a transaction of a direction. -/
def Config.firstBit (cfg : Config) : Dir → Nat
  | .read => cfg.xapmReadFirst
  | .write => cfg.xapmWriteFirst

/-- The flag bit that marks the last beat of a transaction of a direction. -/
def Config.lastBit (cfg : Config) : Dir → Nat
  | .read => cfg.xapmReadLast
  | .write => cfg.xapmWriteLast

/-- `getBit(word, bit)`: `((word) >> bit) & 0x1`. -/
def getBit (word : UInt8) (bit : Nat) : Bool := (word.toNat >>> bit) &&& 1 != 0

theorem getBit_eq_testBit (word : UInt8) (bit : Nat) : getBit word bit = word.toNat.testBit bit := by
  simp [getBit, Nat.testBit, Nat.and_comm]

/-! ## Slot names -/

/-- The header values `getSlotName` reads. -/
structure SlotNames where
  /-- `XAPM_MAX_NUMBER_SLOTS`. -/
  xapmMaxNumberSlots : Int
  /-- `XPAR_AXI_PERF_MON_0_SLOT0_NAME` to `XPAR_AXI_PERF_MON_0_SLOT7_NAME`. -/
  slotName : Fin 8 → String

/-- `getSlotName`, lines 501-552: one `case` per name of the header.  The result of
`isOriginalProfiling()`, which reads `XCL_PLATFORM` from the environment, is a parameter. -/
def getSlotName (names : SlotNames) (originalProfiling : Bool) (slotnum : Int) : String :=
  if slotnum < 0 ∨ names.xapmMaxNumberSlots ≤ slotnum then "Null"
  else if originalProfiling then
    if slotnum = 0 then names.slotName 1
    else if slotnum = 1 then names.slotName 0
    else "Null"
  else if h : slotnum.toNat < 8 then names.slotName ⟨slotnum.toNat, h⟩
  else "Null"

/-- `getSlotKind`, lines 554-558. -/
def getSlotKind (slotName : String) : DeviceKind :=
  if slotName = "Host" then .deviceBuffer else .deviceKernel

/-- On the original platform the first two slots trade names and no other slot has one. -/
theorem getSlotName_original (names : SlotNames) (h2 : 2 ≤ names.xapmMaxNumberSlots)
    (slotnum : Int) :
    getSlotName names true slotnum =
      if slotnum = 0 ∨ slotnum = 1 then getSlotName names false (1 - slotnum) else "Null" := by
  have h0 : ¬names.xapmMaxNumberSlots ≤ 0 := by omega
  have h1 : ¬names.xapmMaxNumberSlots ≤ 1 := by omega
  by_cases hs : slotnum = 0 ∨ slotnum = 1
  · rcases hs with rfl | rfl <;> simp [getSlotName, h0, h1]
  · simp [getSlotName, hs, not_or.mp hs]

/-! ## Accelerator monitor categories -/

/-- `XSAM_TRACE_CU_MASK`.  Modelled from the spec: the macro is not under src/; the
spec gives four independent category bits, toggled together by `TraceID & 0xf`. -/
def xsamTraceCuMask : Nat := 0x1

/-- `XSAM_TRACE_STALL_INT_MASK`.  Modelled from the spec, as `xsamTraceCuMask`. -/
def xsamTraceStallIntMask : Nat := 0x2

/-- `XSAM_TRACE_STALL_STR_MASK`.  Modelled from the spec, as `xsamTraceCuMask`. -/
def xsamTraceStallStrMask : Nat := 0x4

/-- `XSAM_TRACE_STALL_EXT_MASK`.  Modelled from the spec, as `xsamTraceCuMask`. -/
def xsamTraceStallExtMask : Nat := 0x8

/-- The four interval categories of a compute unit slot. -/
inductive Category where
  /-- The compute unit runs. -/
  | cu
  /-- Intra-kernel dataflow stall. -/
  | stallInt
  /-- Inter-kernel pipe stall. -/
  | stallStr
  /-- External memory stall. -/
  | stallExt
deriving DecidableEq, Repr

/-- The bit of a category in `TraceID` and in `mAccelMonStartedEvents`. -/
def Category.bit : Category → Nat
  | .cu => 0
  | .stallInt => 1
  | .stallStr => 2
  | .stallExt => 3

/-- The `XSAM_TRACE_*_MASK` of a category. -/
def Category.mask : Category → Nat
  | .cu => xsamTraceCuMask
  | .stallInt => xsamTraceStallIntMask
  | .stallStr => xsamTraceStallStrMask
  | .stallExt => xsamTraceStallExtMask

/-- The `Type` of a completed interval of a category. -/
def Category.type : Category → String
  | .cu => "Kernel"
  | .stallInt => "Intra-Kernel Dataflow Stall"
  | .stallStr => "Inter-Kernel Pipe Stall"
  | .stallExt => "External Memory Stall"

/-- The categories in the order lines 336-387 test them. -/
def Category.all : List Category := [.cu, .stallInt, .stallStr, .stallExt]

theorem Category.mask_eq_two_pow (c : Category) : c.mask = 2 ^ c.bit := by
  cases c <;> rfl

theorem Category.bit_lt (c : Category) : c.bit < 4 := by
  cases c <;> decide

/-- A word has a category's bit set exactly when it has the category's mask. -/
theorem Category.land_mask_ne_zero (c : Category) (w : Nat) :
    w &&& c.mask ≠ 0 ↔ w.testBit c.bit = true := by
  rw [c.mask_eq_two_pow, Nat.and_two_pow]
  cases w.testBit c.bit <;> simp

theorem Category.mem_all (c : Category) : c ∈ Category.all := by
  cases c <;> decide

theorem Category.type_injective {c c' : Category} (h : c.type = c'.type) : c = c' := by
  cases c <;> cases c' <;> first | rfl | exact absurd h (by decide)

theorem Category.type_ne_dir (c : Category) (d : Dir) : c.type ≠ d.type := by
  cases c <;> cases d <;> decide

theorem Category.type_eq_kernel {c : Category} : c.type = "Kernel" ↔ c = .cu := by
  cases c <;> decide

theorem Dir.type_ne_kernel (d : Dir) : d.type ≠ "Kernel" := by
  cases d <;> decide

theorem Dir.type_injective {d d' : Dir} (h : d.type = d'.type) : d = d' := by
  cases d <;> cases d' <;> first | rfl | exact absurd h (by decide)

/-! ## The decoder state -/

/-- The per-type clock members: written by the clock part of the record loop. -/
structure Training where
  /-- `mPrevTimestamp[type]`: the running device time of emulation mode. -/
  mPrevTimestamp : Nat → UInt32
  /-- `mTrainSlope[type]`, in host nanoseconds per cycle. -/
  mTrainSlope : Nat → ℚ
  /-- `mTrainOffset[type]`, in host nanoseconds. -/
  mTrainOffset : Nat → ℚ
  /-- `mTrainProgramStart[type]`, in host nanoseconds. -/
  mTrainProgramStart : Nat → ℚ

/-- The per-slot members: written by the decoding part of the record loop. -/
structure Monitors where
  /-- `mReadStarts[s]`: device times of open reads, oldest first. -/
  mReadStarts : Nat → List UInt64
  /-- `mWriteStarts[s]`. -/
  mWriteStarts : Nat → List UInt64
  /-- `mHostReadStarts[s]`: host times of open reads, oldest first. -/
  mHostReadStarts : Nat → List UInt64
  /-- `mHostWriteStarts[s]`. -/
  mHostWriteStarts : Nat → List UInt64
  /-- `mAccelMonStartedEvents[s]`: the open categories of a compute unit slot. -/
  mAccelMonStartedEvents : Nat → Nat
  /-- `mAccelMonCuTime[s]`: start of the open compute unit interval. -/
  mAccelMonCuTime : Nat → UInt64
  /-- `mAccelMonCuHostTime[s]`: its host time, in emulation mode. -/
  mAccelMonCuHostTime : Nat → UInt64
  /-- `mAccelMonStallIntTime[s]`. -/
  mAccelMonStallIntTime : Nat → UInt64
  /-- `mAccelMonStallStrTime[s]`. -/
  mAccelMonStallStrTime : Nat → UInt64
  /-- `mAccelMonStallExtTime[s]`. -/
  mAccelMonStallExtTime : Nat → UInt64
  /-- `mAccelMonLastTranx[s]`: last activity of a compute unit slot. -/
  mAccelMonLastTranx : Nat → UInt64
  /-- `mPerfMonLastTranx[s]`: last transaction end of a memory slot. -/
  mPerfMonLastTranx : Nat → UInt64
  /-- `mEmuTraceMsecOneCycle`: the padding of zero-length emulation transactions. -/
  mEmuTraceMsecOneCycle : ℚ

/-- `RTProfileDevice`: the members `logTrace` reads or writes. -/
structure RTProfileDevice where
  /-- `mNumTraceEvents`. -/
  mNumTraceEvents : Nat
  /-- `mMaxTraceEvents`. -/
  mMaxTraceEvents : Nat
  /-- The clock members. -/
  training : Training
  /-- The slot members. -/
  monitors : Monitors

/-- The constructor, lines 58-88.  Members it leaves uninitialized keep the values of
`raw`; the queues are default-constructed, hence empty. -/
def RTProfileDevice.construct (cfg : Config) (raw : RTProfileDevice) : RTProfileDevice where
  mNumTraceEvents := 0
  mMaxTraceEvents := 0x40000
  training :=
    { raw.training with
      mPrevTimestamp := fun i => if i < cfg.xclPerfMonTotalProfile then 0
        else raw.training.mPrevTimestamp i
      mTrainSlope := fun i => if i < cfg.xclPerfMonTotalProfile then 1000 / 300
        else raw.training.mTrainSlope i
      mTrainOffset := fun i => if i < cfg.xclPerfMonTotalProfile then 0
        else raw.training.mTrainOffset i }
  monitors :=
    { raw.monitors with
      mReadStarts := fun _ => []
      mWriteStarts := fun _ => []
      mHostReadStarts := fun _ => []
      mHostWriteStarts := fun _ => []
      mEmuTraceMsecOneCycle := 0 }

/-- A header for tests and witnesses.  The slot counts cover every slot the decoder
addresses; the other values are one admissible choice. -/
def sampleConfig : Config where
  xsamMaxNumberSlots := 31
  xspmMaxNumberSlots := 31
  xclPerfMonTotalProfile := 8
  xapmWriteFirst := 1
  xapmWriteLast := 2
  xapmReadFirst := 5
  xapmReadLast := 6
  loopAddTime := 0x100000000
  loopAddTimeSpm := 0x100000000
  xclPerfMonStartEvent := 4
  xclPerfMonEndEvent := 5
  isRead := fun id => id % 2 == 1
  isWrite := fun id => id % 2 == 0
  defaultTrace := ⟨0, "", "", .deviceKernel, 0, 0, 0, 0, 0, 0, 0⟩
  flagBits := by decide
  startEvent_ne_endEvent := by decide
  slotsCover := by decide

/-- A device whose members are all zero or empty, for tests and witnesses. -/
def RTProfileDevice.blank : RTProfileDevice :=
  ⟨0, 0x40000, ⟨fun _ => 0, fun _ => 0, fun _ => 0, fun _ => 0⟩,
    ⟨fun _ => [], fun _ => [], fun _ => [], fun _ => [], fun _ => 0, fun _ => 0, fun _ => 0,
      fun _ => 0, fun _ => 0, fun _ => 0, fun _ => 0, fun _ => 0, 0⟩⟩

/-! ## Accessors by direction and category -/

namespace Monitors

/-- The device start queue of a direction. -/
def starts (m : Monitors) : Dir → Nat → List UInt64
  | .read => m.mReadStarts
  | .write => m.mWriteStarts

/-- The host start queue of a direction. -/
def hostStarts (m : Monitors) : Dir → Nat → List UInt64
  | .read => m.mHostReadStarts
  | .write => m.mHostWriteStarts

/-- Replace the device start queue of one slot and direction. -/
def setStarts (m : Monitors) (d : Dir) (s : Nat) (q : List UInt64) : Monitors :=
  match d with
  | .read => { m with mReadStarts := Function.update m.mReadStarts s q }
  | .write => { m with mWriteStarts := Function.update m.mWriteStarts s q }

/-- Replace the host start queue of one slot and direction. -/
def setHostStarts (m : Monitors) (d : Dir) (s : Nat) (q : List UInt64) : Monitors :=
  match d with
  | .read => { m with mHostReadStarts := Function.update m.mHostReadStarts s q }
  | .write => { m with mHostWriteStarts := Function.update m.mHostWriteStarts s q }

/-- The stored start time of a category. -/
def catTime (m : Monitors) : Category → Nat → UInt64
  | .cu => m.mAccelMonCuTime
  | .stallInt => m.mAccelMonStallIntTime
  | .stallStr => m.mAccelMonStallStrTime
  | .stallExt => m.mAccelMonStallExtTime

/-- Store the start time of a category on one slot. -/
def setCatTime (m : Monitors) (c : Category) (s : Nat) (t : UInt64) : Monitors :=
  match c with
  | .cu => { m with mAccelMonCuTime := Function.update m.mAccelMonCuTime s t }
  | .stallInt => { m with mAccelMonStallIntTime := Function.update m.mAccelMonStallIntTime s t }
  | .stallStr => { m with mAccelMonStallStrTime := Function.update m.mAccelMonStallStrTime s t }
  | .stallExt => { m with mAccelMonStallExtTime := Function.update m.mAccelMonStallExtTime s t }

/-- `mPerfMonLastTranx[s] = t`. -/
def setPerfMonLastTranx (m : Monitors) (s : Nat) (t : UInt64) : Monitors :=
  { m with mPerfMonLastTranx := Function.update m.mPerfMonLastTranx s t }

/-- `std::fill_n(mAccelMonStartedEvents, XSAM_MAX_NUMBER_SLOTS, 0)`. -/
def clearStarted (m : Monitors) (n : Nat) : Monitors :=
  { m with mAccelMonStartedEvents := fun i => if i < n then 0 else m.mAccelMonStartedEvents i }

@[simp] theorem starts_setStarts (m : Monitors) (d d' : Dir) (s s' : Nat) (q : List UInt64) :
    (m.setStarts d s q).starts d' s' = if d' = d ∧ s' = s then q else m.starts d' s' := by
  cases d <;> cases d' <;> simp [setStarts, starts, Function.update_apply]

@[simp] theorem hostStarts_setStarts (m : Monitors) (d d' : Dir) (s s' : Nat) (q : List UInt64) :
    (m.setStarts d s q).hostStarts d' s' = m.hostStarts d' s' := by
  cases d <;> cases d' <;> rfl

@[simp] theorem starts_setHostStarts (m : Monitors) (d d' : Dir) (s s' : Nat) (q : List UInt64) :
    (m.setHostStarts d s q).starts d' s' = m.starts d' s' := by
  cases d <;> cases d' <;> rfl

@[simp] theorem hostStarts_setHostStarts (m : Monitors) (d d' : Dir) (s s' : Nat)
    (q : List UInt64) :
    (m.setHostStarts d s q).hostStarts d' s' = if d' = d ∧ s' = s then q else m.hostStarts d' s' := by
  cases d <;> cases d' <;> simp [setHostStarts, hostStarts, Function.update_apply]

@[simp] theorem catTime_setCatTime (m : Monitors) (c c' : Category) (s s' : Nat) (t : UInt64) :
    (m.setCatTime c s t).catTime c' s' = if c' = c ∧ s' = s then t else m.catTime c' s' := by
  cases c <;> cases c' <;> simp [setCatTime, catTime, Function.update_apply]

@[simp] theorem setStarts_started (m : Monitors) (d : Dir) (s : Nat) (q : List UInt64) :
    (m.setStarts d s q).mAccelMonStartedEvents = m.mAccelMonStartedEvents := by
  cases d <;> rfl

@[simp] theorem setHostStarts_started (m : Monitors) (d : Dir) (s : Nat) (q : List UInt64) :
    (m.setHostStarts d s q).mAccelMonStartedEvents = m.mAccelMonStartedEvents := by
  cases d <;> rfl

@[simp] theorem setCatTime_started (m : Monitors) (c : Category) (s : Nat) (t : UInt64) :
    (m.setCatTime c s t).mAccelMonStartedEvents = m.mAccelMonStartedEvents := by
  cases c <;> rfl

@[simp] theorem catTime_setStarts (m : Monitors) (d : Dir) (s : Nat) (q : List UInt64) :
    (m.setStarts d s q).catTime = m.catTime := by
  cases d <;> rfl

@[simp] theorem starts_setPerfMonLastTranx (m : Monitors) (s : Nat) (t : UInt64) :
    (m.setPerfMonLastTranx s t).starts = m.starts := by
  funext d; cases d <;> rfl

@[simp] theorem hostStarts_setPerfMonLastTranx (m : Monitors) (s : Nat) (t : UInt64) :
    (m.setPerfMonLastTranx s t).hostStarts = m.hostStarts := by
  funext d; cases d <;> rfl

@[simp] theorem setPerfMonLastTranx_started (m : Monitors) (s : Nat) (t : UInt64) :
    (m.setPerfMonLastTranx s t).mAccelMonStartedEvents = m.mAccelMonStartedEvents := rfl

@[simp] theorem catTime_setPerfMonLastTranx (m : Monitors) (s : Nat) (t : UInt64) :
    (m.setPerfMonLastTranx s t).catTime = m.catTime := rfl

@[simp] theorem starts_clearStarted (m : Monitors) (n : Nat) :
    (m.clearStarted n).starts = m.starts := by
  funext d; cases d <;> rfl

@[simp] theorem hostStarts_clearStarted (m : Monitors) (n : Nat) :
    (m.clearStarted n).hostStarts = m.hostStarts := by
  funext d; cases d <;> rfl

@[simp] theorem starts_setCatTime (m : Monitors) (c : Category) (s : Nat) (t : UInt64) :
    (m.setCatTime c s t).starts = m.starts := by
  cases c <;> rfl

@[simp] theorem hostStarts_setCatTime (m : Monitors) (c : Category) (s : Nat) (t : UInt64) :
    (m.setCatTime c s t).hostStarts = m.hostStarts := by
  cases c <;> rfl

end Monitors

/-! ## The output vector -/

/-- One write of `logTrace` to `resultVector`. -/
inductive Emit where
  /-- `resultVector.insert(resultVector.begin(), r)`. -/
  | insertBegin (r : DeviceTrace)
  /-- `resultVector.push_back(r)`. -/
  | pushBack (r : DeviceTrace)
deriving Repr

/-- The record an `Emit` writes. -/
def Emit.record : Emit → DeviceTrace
  | .insertBegin r => r
  | .pushBack r => r

/-- Perform one write on a vector. -/
def Emit.apply (v : List DeviceTrace) : Emit → List DeviceTrace
  | .insertBegin r => r :: v
  | .pushBack r => v ++ [r]

/-- Perform the writes of a batch, in order, on the caller's vector. -/
def applyOps (v : List DeviceTrace) (ops : List Emit) : List DeviceTrace := ops.foldl Emit.apply v

/-- The records a list of writes inserts at the front. -/
def Emit.fronts : List Emit → List DeviceTrace
  | [] => []
  | .insertBegin r :: ops => r :: Emit.fronts ops
  | .pushBack _ :: ops => Emit.fronts ops

/-- The records a list of writes appends at the back. -/
def Emit.backs : List Emit → List DeviceTrace
  | [] => []
  | .insertBegin _ :: ops => Emit.backs ops
  | .pushBack r :: ops => r :: Emit.backs ops

/-- Front inserts come out reversed before the old contents, appends after them. -/
theorem applyOps_eq (v : List DeviceTrace) (ops : List Emit) :
    applyOps v ops = (Emit.fronts ops).reverse ++ v ++ Emit.backs ops := by
  induction ops generalizing v with
  | nil => simp [applyOps, Emit.fronts, Emit.backs]
  | cons op ops ih =>
    cases op <;> simp [applyOps, Emit.apply, Emit.fronts, Emit.backs] at ih ⊢ <;> rw [ih] <;> simp

/-! ## Runs -/

/-- Run a machine that emits a list of outputs per input, threading its state. -/
def mealyRun {σ α β : Type} (step : σ → α → σ × List β) : σ → List α → σ × List β
  | s, [] => (s, [])
  | s, a :: as =>
    let r := step s a
    let r' := mealyRun step r.1 as
    (r'.1, r.2 ++ r'.2)

@[simp] theorem mealyRun_nil {σ α β : Type} (step : σ → α → σ × List β) (s : σ) :
    mealyRun step s [] = (s, []) := rfl

@[simp] theorem mealyRun_cons {σ α β : Type} (step : σ → α → σ × List β) (s : σ) (a : α)
    (as : List α) :
    mealyRun step s (a :: as) =
      ((mealyRun step (step s a).1 as).1, (step s a).2 ++ (mealyRun step (step s a).1 as).2) :=
  rfl

theorem mealyRun_append {σ α β : Type} (step : σ → α → σ × List β) (s : σ) (as bs : List α) :
    mealyRun step s (as ++ bs) =
      ((mealyRun step (mealyRun step s as).1 bs).1,
        (mealyRun step s as).2 ++ (mealyRun step (mealyRun step s as).1 bs).2) := by
  induction as generalizing s with
  | nil => simp
  | cons a as ih => simp [ih]

/-- A run simulates an abstract run when each step does, under an invariant that each
step keeps: the abstraction of the final state is the abstract final state, and the
outputs seen through `view` are the abstract outputs. -/
theorem mealyRun_sim {σ τ α β γ : Type} (step : σ → α → σ × List β) (astep : τ → α → τ × List γ)
    (abs : σ → τ) (view : β → Option γ) (inv : σ → Prop)
    (hinv : ∀ s a, inv s → inv (step s a).1)
    (hstep : ∀ s a, inv s →
      abs (step s a).1 = (astep (abs s) a).1 ∧ (step s a).2.filterMap view = (astep (abs s) a).2)
    (s : σ) (as : List α) (hs : inv s) :
    inv (mealyRun step s as).1 ∧ abs (mealyRun step s as).1 = (mealyRun astep (abs s) as).1 ∧
      (mealyRun step s as).2.filterMap view = (mealyRun astep (abs s) as).2 := by
  induction as generalizing s with
  | nil => simp [hs]
  | cons a as ih =>
    obtain ⟨h1, h2⟩ := hstep s a hs
    obtain ⟨i1, i2, i3⟩ := ih _ (hinv s a hs)
    simp only [mealyRun_cons, List.filterMap_append]
    rw [h1] at i2 i3
    exact ⟨i1, i2, by rw [h2, i3]⟩

/-- A property every step keeps holds after a run. -/
theorem mealyRun_invariant {σ α β : Type} (step : σ → α → σ × List β) (I : σ → Prop)
    (h : ∀ s a, I s → I (step s a).1) (s : σ) (as : List α) (hs : I s) :
    I (mealyRun step s as).1 := by
  induction as generalizing s with
  | nil => exact hs
  | cons a as ih => exact ih _ (h s a hs)

/-- Every output of a run satisfies `P` when every output of every step does, from every
state of an invariant. -/
theorem mealyRun_forall {σ α β : Type} (step : σ → α → σ × List β) (I : σ → Prop) (P : β → Prop)
    (hI : ∀ s a, I s → I (step s a).1) (h : ∀ s a, I s → ∀ b ∈ (step s a).2, P b) (s : σ)
    (as : List α) (hs : I s) : ∀ b ∈ (mealyRun step s as).2, P b := by
  induction as generalizing s with
  | nil => simp
  | cons a as ih =>
    intro b hb
    simp only [mealyRun_cons, List.mem_append] at hb
    exact hb.elim (h s a hs b) (ih _ (hI s a hs) b)

/-- Mapping the outputs of every step maps the outputs of the run. -/
theorem mealyRun_map {σ α β γ : Type} (step : σ → α → σ × List β) (g : β → γ) (s : σ)
    (as : List α) :
    mealyRun (fun s a => ((step s a).1, (step s a).2.map g)) s as =
      ((mealyRun step s as).1, (mealyRun step s as).2.map g) := by
  induction as generalizing s with
  | nil => rfl
  | cons a as ih => simp [ih]

/-- A step on an optional input: `none` does nothing. -/
def stepOpt {σ ε β : Type} (step : σ → ε → σ × List β) (s : σ) : Option ε → σ × List β
  | none => (s, [])
  | some e => step s e

/-- A machine that ignores the inputs an event map sends to `none` runs on the events. -/
theorem mealyRun_filterMap {σ α ε β : Type} (ev : α → Option ε) (step : σ → ε → σ × List β)
    (s : σ) (as : List α) :
    mealyRun (fun s a => stepOpt step s (ev a)) s as = mealyRun step s (as.filterMap ev) := by
  induction as generalizing s with
  | nil => rfl
  | cons a as ih =>
    rw [List.filterMap_cons]
    cases h : ev a with
    | none => rw [← ih]; simp only [mealyRun_cons, h]; rfl
    | some e => simp only [mealyRun_cons, h, ih]; rfl

end XdpProfile
