import XdpProfile.Clock

/-!
# The decoding part of the record loop

After its clock part, an iteration of the record loop dispatches a `Sample` on its
`TraceID` (lines 207-451) and writes only the slot members (`Monitors`), the reused
local `kernelTrace` and `resultVector`.  `decodeSample` is that dispatch; it returns the
new state and the writes to `resultVector`, in order.

* `spmTranx`: a hardware memory monitor record (lines 392-449), the same code for both
  directions.  A start pushes its time; an end pops the oldest start, or makes a
  single-point transaction when `Reserved` is set or the queue is empty.
* `samTrace`: a hardware accelerator monitor record (lines 322-391).  The four
  category blocks are the same code (`samCategory`) on the mask, the stored time and
  the `Type` of their category; only the `Kernel` block inserts at the front.  Every
  block tests the started mask before line 389 flips it.
* `emuSide`, `emuMemory`: an emulation memory record (lines 208-290).  The device and
  host start queues are pushed and popped together.  An end on an empty queue ends the
  iteration; for the write side that skips the read side of the record too.
* `emuCu`: an emulation compute unit record (lines 291-318).
-/

namespace XdpProfile

/-- The state of the decoding part: the slot members and the reused `kernelTrace`. -/
structure Back where
  /-- The slot members. -/
  monitors : Monitors
  /-- `kernelTrace`, declared once before the loop and reused by every record. -/
  kernelTrace : DeviceTrace

/-! ## Hardware memory monitors -/

/-- The start of an end event on a queue, lines 398-408: the event itself when
`Reserved` is set or the queue is empty, else the oldest start, which is popped. -/
def endStart (reserved : UInt8) (ts : UInt64) (q : List UInt64) : UInt64 × List UInt64 :=
  if reserved = 1 then (ts, q)
  else
    match q with
    | [] => (ts, [])
    | startTime :: rest => (startTime, rest)

/-- A hardware memory monitor record of one direction, lines 392-449. -/
def spmTranx (cfg : Config) (conv : UInt64 → ℚ) (d : Dir) (b : Back) (smp : Sample) :
    Back × List Emit :=
  let s := smp.slotID
  let ts := smp.timestamp.toUInt64
  if smp.trace.eventType = cfg.xclPerfMonStartEvent then
    ({ b with monitors := b.monitors.setStarts d s (b.monitors.starts d s ++ [ts]) }, [])
  else if smp.trace.eventType = cfg.xclPerfMonEndEvent then
    let p := endStart smp.trace.reserved ts (b.monitors.starts d s)
    let r : DeviceTrace :=
      { cfg.defaultTrace with
        slotNum := s, type := d.type, startTime := p.1, endTime := ts,
        burstLength := ts - p.1 + 1, start := conv p.1, «end» := conv ts }
    ({ b with monitors := (b.monitors.setStarts d s p.2).setPerfMonLastTranx s ts }, [.pushBack r])
  else (b, [])

/-! ## Hardware accelerator monitors -/

/-- Where a completed interval of a category goes: `Kernel` to the front (line 343),
the stalls to the back. -/
def Category.emit (c : Category) (r : DeviceTrace) : Emit :=
  if c = .cu then .insertBegin r else .pushBack r

/-- One category block of a hardware accelerator monitor record, lines 336-387. -/
def samCategory (conv : UInt64 → ℚ) (traceID s : Nat) (ts : UInt64) (b : Back) (c : Category) :
    Back × List Emit :=
  if traceID &&& c.mask ≠ 0 then
    if b.monitors.mAccelMonStartedEvents s &&& c.mask ≠ 0 then
      let startTime := b.monitors.catTime c s
      let kt := { b.kernelTrace with
        type := c.type, startTime := startTime, start := conv startTime,
        traceStart := conv startTime }
      ({ b with kernelTrace := kt }, [c.emit kt])
    else ({ b with monitors := b.monitors.setCatTime c s ts }, [])
  else (b, [])

/-- "Common Params for all event types", lines 328-334: the fields of `kernelTrace` an
accelerator monitor record sets whatever its categories. -/
def samCommon (conv : UInt64 → ℚ) (b : Back) (smp : Sample) : Back :=
  { b with
    kernelTrace := { b.kernelTrace with
      slotNum := smp.slotID, name := "OCL Region", kind := .deviceKernel,
      endTime := smp.timestamp.toUInt64, burstLength := 0, numBytes := 0,
      «end» := conv smp.timestamp.toUInt64 } }

/-- "Update Events", lines 388-390: flip the categories the record carries, and note
the slot's last activity. -/
def Monitors.updateEvents (m : Monitors) (traceID s : Nat) (ts : UInt64) : Monitors :=
  { m with
    mAccelMonStartedEvents := Function.update m.mAccelMonStartedEvents s
      (m.mAccelMonStartedEvents s ^^^ (traceID &&& 0xf))
    mAccelMonLastTranx := Function.update m.mAccelMonLastTranx s ts }

/-- A hardware accelerator monitor record, lines 322-391: the common fields, the four
category blocks in order, then the update of the started mask. -/
def samTrace (conv : UInt64 → ℚ) (b : Back) (smp : Sample) : Back × List Emit :=
  let r := mealyRun (samCategory conv smp.trace.traceID smp.slotID smp.timestamp.toUInt64)
    (samCommon conv b smp) Category.all
  ({ r.1 with
    monitors := r.1.monitors.updateEvents smp.trace.traceID smp.slotID smp.timestamp.toUInt64 },
    r.2)

@[simp] theorem Monitors.starts_updateEvents (m : Monitors) (traceID s : Nat) (ts : UInt64) :
    (m.updateEvents traceID s ts).starts = m.starts := by
  funext d; cases d <;> rfl

@[simp] theorem Monitors.catTime_updateEvents (m : Monitors) (traceID s : Nat) (ts : UInt64) :
    (m.updateEvents traceID s ts).catTime = m.catTime := rfl

/-! ## Emulation records -/

/-- The end of a transaction of one direction in emulation mode, lines 224-251: pop the
oldest device and host start together; a record whose `End` comes out before its
`Start` is dropped.  `.error` is the `continue` of an empty queue. -/
def emuEnd (cfg : Config) (d : Dir) (s : Nat) (ts : UInt32) (host : UInt64) (b : Back) :
    Except Back (Back × List Emit) :=
  match b.monitors.starts d s with
  | [] => .error b
  | startTime :: rest =>
    let hostStartTime := (b.monitors.hostStarts d s).headD 0
    let start : ℚ := (hostStartTime.toNat : ℚ) / 1000000
    let end0 : ℚ := (host.toNat : ℚ) / 1000000
    let «end» := if start = end0 then end0 + b.monitors.mEmuTraceMsecOneCycle else end0
    let r : DeviceTrace :=
      { cfg.defaultTrace with
        slotNum := s, type := d.type, startTime := startTime, endTime := ts.toUInt64,
        start := start, «end» := «end», burstLength := ts.toUInt64 - startTime + 1,
        traceStart := start }
    .ok ({ b with
      monitors := (b.monitors.setStarts d s rest).setHostStarts d s
        (b.monitors.hostStarts d s).tail },
      if start ≤ «end» then [.pushBack r] else [])

/-- The start of an emulation transaction (lines 217-220, 254-257): push its device and
its host time. -/
def Back.pushStart (b : Back) (d : Dir) (s : Nat) (t host : UInt64) : Back :=
  { b with
    monitors := (b.monitors.setStarts d s (b.monitors.starts d s ++ [t])).setHostStarts d s
      (b.monitors.hostStarts d s ++ [host]) }

/-- One direction of an emulation memory record: the start block, then the end block. -/
def emuSide (cfg : Config) (d : Dir) (s : Nat) (ts : UInt32) (host : UInt64) (flags : UInt8)
    (b : Back) : Except Back (Back × List Emit) :=
  let b := if getBit flags (cfg.firstBit d) then b.pushStart d s ts.toUInt64 host else b
  if getBit flags (cfg.lastBit d) then emuEnd cfg d s ts host b else .ok (b, [])

/-- The state an emulation side leaves, whether it ended the iteration or not. -/
def sideBack : Except Back (Back × List Emit) → Back
  | .error b => b
  | .ok (b, _) => b

/-- The writes of an emulation side; one that ended the iteration wrote nothing. -/
def sideOps : Except Back (Back × List Emit) → List Emit
  | .error _ => []
  | .ok (_, o) => o

/-- An emulation memory record, lines 208-290: the write side, then the read side. -/
def emuMemory (cfg : Config) (b : Back) (smp : Sample) : Back × List Emit :=
  let s := smp.trace.traceID / 2
  let side d b := emuSide cfg d s smp.timestamp smp.hostTimestampNsec smp.trace.eventFlags b
  match side .write b with
  | .error b => (b, [])
  | .ok (b, o) =>
    match side .read b with
    | .error b => (b, o)
    | .ok (b, o') => (b, o ++ o')

/-- An emulation compute unit record, lines 291-318. -/
def emuCu (b : Back) (smp : Sample) : Back × List Emit :=
  let s := smp.trace.traceID - 64
  let ts := smp.timestamp.toUInt64
  let host := smp.hostTimestampNsec
  let kt := { b.kernelTrace with
    slotNum := s, name := "OCL Region", kind := .deviceKernel, endTime := ts,
    «end» := (host.toNat : ℚ) / 1000000, burstLength := 0, numBytes := 0 }
  let m := b.monitors
  if smp.trace.eventFlags.toNat &&& xsamTraceCuMask ≠ 0 then
    let r : Back × List Emit :=
      if m.mAccelMonStartedEvents s &&& xsamTraceCuMask ≠ 0 then
        let kt := { kt with
          type := "Kernel", startTime := m.mAccelMonCuTime s,
          start := ((m.mAccelMonCuHostTime s).toNat : ℚ) / 1000000 }
        (⟨{ m with
            mEmuTraceMsecOneCycle :=
              (kt.«end» - kt.start) / ((2 * (kt.endTime - kt.startTime)).toNat : ℚ) }, kt⟩,
          [.pushBack kt])
      else
        (⟨{ m with
            mAccelMonCuHostTime := Function.update m.mAccelMonCuHostTime s host
            mAccelMonCuTime := Function.update m.mAccelMonCuTime s ts }, kt⟩, [])
    ({ r.1 with
      monitors := { r.1.monitors with
        mAccelMonStartedEvents := Function.update r.1.monitors.mAccelMonStartedEvents s
          (r.1.monitors.mAccelMonStartedEvents s ^^^ xsamTraceCuMask) } }, r.2)
  else (⟨m, kt⟩, [])

/-! ## The dispatch -/

/-- The decoding part of an iteration, lines 207-451.  `conv` converts device times
with the training of the current batch. -/
def decodeSample (cfg : Config) (isHwEmu : Bool) (conv : UInt64 → ℚ) (b : Back) (smp : Sample) :
    Back × List Emit :=
  let id := smp.trace.traceID
  if isHwEmu then
    if id < 61 then emuMemory cfg b smp
    else if 64 ≤ id ∧ id ≤ 94 then emuCu b smp
    else (b, [])
  else if 64 ≤ id then samTrace conv b smp
  else if cfg.isRead id then spmTranx cfg conv .read b smp
  else if cfg.isWrite id then spmTranx cfg conv .write b smp
  else (b, [])

/-! ## What each handler writes -/

@[simp] theorem Category.emit_record (c : Category) (r : DeviceTrace) : (c.emit r).record = r := by
  unfold Category.emit
  split <;> rfl

/-- A category block stores a start time or completes an interval, nothing else. -/
theorem samCategory_eq (conv : UInt64 → ℚ) (id s : Nat) (ts : UInt64) (b : Back) (c : Category) :
    samCategory conv id s ts b c =
      if id &&& c.mask ≠ 0 then
        if b.monitors.mAccelMonStartedEvents s &&& c.mask ≠ 0 then
          (⟨b.monitors, { b.kernelTrace with
              type := c.type, startTime := b.monitors.catTime c s,
              start := conv (b.monitors.catTime c s), traceStart := conv (b.monitors.catTime c s) }⟩,
            [c.emit { b.kernelTrace with
              type := c.type, startTime := b.monitors.catTime c s,
              start := conv (b.monitors.catTime c s), traceStart := conv (b.monitors.catTime c s) }])
        else (⟨b.monitors.setCatTime c s ts, b.kernelTrace⟩, [])
      else (b, []) := rfl

/-- The category blocks leave the memory start queues and the started mask alone, and
keep the slot and the end time of `kernelTrace`. -/
theorem samCategory_frame (conv : UInt64 → ℚ) (id s : Nat) (ts : UInt64) (b : Back) (c : Category) :
    (samCategory conv id s ts b c).1.monitors.starts = b.monitors.starts ∧
      (samCategory conv id s ts b c).1.monitors.mAccelMonStartedEvents =
        b.monitors.mAccelMonStartedEvents ∧
      (samCategory conv id s ts b c).1.kernelTrace.slotNum = b.kernelTrace.slotNum ∧
      (samCategory conv id s ts b c).1.kernelTrace.endTime = b.kernelTrace.endTime := by
  rw [samCategory_eq]
  split_ifs <;> simp

/-- A category block writes at most its own interval, on the slot of `kernelTrace`. -/
theorem samCategory_ops (conv : UInt64 → ℚ) (id s : Nat) (ts : UInt64) (b : Back) (c : Category) :
    ∀ e ∈ (samCategory conv id s ts b c).2,
      e = c.emit e.record ∧ e.record.type = c.type ∧ e.record.slotNum = b.kernelTrace.slotNum := by
  rw [samCategory_eq]
  split_ifs <;> simp

/-- An accelerator monitor record leaves the memory start queues alone. -/
theorem samTrace_starts (conv : UInt64 → ℚ) (b : Back) (smp : Sample) :
    (samTrace conv b smp).1.monitors.starts = b.monitors.starts := by
  simp only [samTrace, Monitors.starts_updateEvents]
  exact mealyRun_invariant _ (fun b' : Back => b'.monitors.starts = b.monitors.starts)
    (fun b' c h => (samCategory_frame conv _ _ _ b' c).1.trans h) _ _ rfl

/-- An accelerator monitor record writes only intervals of its own slot, each of one
category and placed as that category is. -/
theorem samTrace_ops (conv : UInt64 → ℚ) (b : Back) (smp : Sample) :
    ∀ e ∈ (samTrace conv b smp).2,
      ∃ c : Category, e = c.emit e.record ∧ e.record.type = c.type ∧ e.record.slotNum = smp.slotID :=
  mealyRun_forall _ (fun b' : Back => b'.kernelTrace.slotNum = smp.slotID) _
    (fun b' c h => (samCategory_frame conv _ _ _ b' c).2.2.1.trans h)
    (fun b' c h e he => ⟨c, h ▸ samCategory_ops conv _ _ _ b' c e he⟩) _ _ rfl

/-- A hardware memory record leaves the accelerator monitor members alone and appends only
records of its direction. -/
theorem spmTranx_frame (cfg : Config) (conv : UInt64 → ℚ) (d : Dir) (b : Back) (smp : Sample) :
    (spmTranx cfg conv d b smp).1.monitors.mAccelMonStartedEvents = b.monitors.mAccelMonStartedEvents ∧
      (spmTranx cfg conv d b smp).1.monitors.catTime = b.monitors.catTime ∧
      ∀ e ∈ (spmTranx cfg conv d b smp).2, e = .pushBack e.record ∧ e.record.type = d.type := by
  unfold spmTranx
  split_ifs <;> simp [Emit.record]

/-- What an emulation compute unit record does to the members of its slot's compute unit
toggle, and what it writes. -/
theorem emuCu_spec (b : Back) (smp : Sample) :
    (emuCu b smp).1.monitors.mAccelMonStartedEvents =
        (if smp.trace.eventFlags.toNat &&& xsamTraceCuMask ≠ 0 then
          Function.update b.monitors.mAccelMonStartedEvents (smp.trace.traceID - 64)
            (b.monitors.mAccelMonStartedEvents (smp.trace.traceID - 64) ^^^ xsamTraceCuMask)
        else b.monitors.mAccelMonStartedEvents) ∧
      (emuCu b smp).1.monitors.mAccelMonCuTime =
        (if smp.trace.eventFlags.toNat &&& xsamTraceCuMask ≠ 0 then
          if b.monitors.mAccelMonStartedEvents (smp.trace.traceID - 64) &&& xsamTraceCuMask ≠ 0 then
            b.monitors.mAccelMonCuTime
          else Function.update b.monitors.mAccelMonCuTime (smp.trace.traceID - 64) smp.timestamp.toUInt64
        else b.monitors.mAccelMonCuTime) ∧
      (emuCu b smp).1.monitors.mAccelMonCuHostTime =
        (if smp.trace.eventFlags.toNat &&& xsamTraceCuMask ≠ 0 then
          if b.monitors.mAccelMonStartedEvents (smp.trace.traceID - 64) &&& xsamTraceCuMask ≠ 0 then
            b.monitors.mAccelMonCuHostTime
          else Function.update b.monitors.mAccelMonCuHostTime (smp.trace.traceID - 64) smp.hostTimestampNsec
        else b.monitors.mAccelMonCuHostTime) ∧
      (emuCu b smp).2 =
        if smp.trace.eventFlags.toNat &&& xsamTraceCuMask ≠ 0 then
          if b.monitors.mAccelMonStartedEvents (smp.trace.traceID - 64) &&& xsamTraceCuMask ≠ 0 then
            [.pushBack ⟨smp.trace.traceID - 64, "OCL Region", "Kernel", .deviceKernel,
              b.monitors.mAccelMonCuTime (smp.trace.traceID - 64), smp.timestamp.toUInt64,
              ((b.monitors.mAccelMonCuHostTime (smp.trace.traceID - 64)).toNat : ℚ) / 1000000,
              (smp.hostTimestampNsec.toNat : ℚ) / 1000000, 0, 0, b.kernelTrace.traceStart⟩]
          else []
        else [] := by
  simp only [emuCu]
  split_ifs <;> exact ⟨rfl, rfl, rfl, rfl⟩

/-- An emulation compute unit record leaves the memory start queues alone. -/
theorem emuCu_queues (b : Back) (smp : Sample) :
    (emuCu b smp).1.monitors.starts = b.monitors.starts ∧
      (emuCu b smp).1.monitors.hostStarts = b.monitors.hostStarts := by
  simp only [emuCu]
  split_ifs <;> exact ⟨by funext d; cases d <;> rfl, by funext d; cases d <;> rfl⟩

/-- One side of an emulation memory record writes nothing or one record of its direction,
whose `TraceStart` is its `Start`. -/
theorem emuSide_ops (cfg : Config) (d : Dir) (s : Nat) (ts : UInt32) (host : UInt64) (flags : UInt8)
    (b : Back) :
    sideOps (emuSide cfg d s ts host flags b) = [] ∨
      ∃ r : DeviceTrace, sideOps (emuSide cfg d s ts host flags b) = [.pushBack r] ∧
        r.type = d.type ∧ r.traceStart = r.start := by
  simp only [emuSide]
  generalize (if getBit flags (cfg.firstBit d) = true then b.pushStart d s ts.toUInt64 host else b) = b1
  split
  · unfold emuEnd
    split
    · exact .inl rfl
    · simp only [sideOps]
      split_ifs <;> first | exact .inl rfl | exact .inr ⟨_, rfl, rfl, rfl⟩
  · exact .inl rfl

/-- An emulation memory record whose write side does not end the iteration writes its
write records, then its read side's. -/
theorem emuMemory_of_ok (cfg : Config) (b b1 : Back) (smp : Sample) (o : List Emit)
    (hw : emuSide cfg .write (smp.trace.traceID / 2) smp.timestamp smp.hostTimestampNsec
      smp.trace.eventFlags b = .ok (b1, o)) :
    emuMemory cfg b smp =
      (sideBack (emuSide cfg .read (smp.trace.traceID / 2) smp.timestamp smp.hostTimestampNsec
          smp.trace.eventFlags b1),
        o ++ sideOps (emuSide cfg .read (smp.trace.traceID / 2) smp.timestamp smp.hostTimestampNsec
          smp.trace.eventFlags b1)) := by
  simp only [emuMemory, hw]
  split <;> simp_all [sideBack, sideOps]

section EmuFrame

/-! ## What the emulation memory path leaves alone -/

variable {X : Type} (g : Monitors → X)
  (hg : ∀ m d s q, g (m.setStarts d s q) = g m ∧ g (m.setHostStarts d s q) = g m)
include hg

/-- One side of an emulation memory record changes nothing that reads neither start
queue, and appends only records of its direction whose `End` is not before their
`Start`. -/
theorem emuSide_frame (cfg : Config) (d : Dir) (s : Nat) (ts : UInt32) (host : UInt64)
    (flags : UInt8) (b : Back) :
    g (sideBack (emuSide cfg d s ts host flags b)).monitors = g b.monitors ∧
      ∀ e ∈ sideOps (emuSide cfg d s ts host flags b),
        e = .pushBack e.record ∧ e.record.type = d.type ∧ e.record.start ≤ e.record.«end» := by
  have hpush : g (if getBit flags (cfg.firstBit d) then b.pushStart d s ts.toUInt64 host
      else b).monitors = g b.monitors := by
    split_ifs
    · simp only [Back.pushStart, (hg _ _ _ _).2, (hg _ _ _ _).1]
    · rfl
  simp only [emuSide]
  generalize (if getBit flags (cfg.firstBit d) = true then b.pushStart d s ts.toUInt64 host else b) = b1
    at hpush ⊢
  split
  · unfold emuEnd
    split
    · exact ⟨hpush, by simp [sideOps]⟩
    · refine ⟨by simp only [sideBack, (hg _ _ _ _).2, (hg _ _ _ _).1, hpush], ?_⟩
      simp only [sideOps]
      split_ifs <;> simp only [List.mem_singleton, forall_eq, List.not_mem_nil, false_implies,
        implies_true] <;> exact ⟨rfl, rfl, ‹_›⟩
  · exact ⟨hpush, by simp [sideOps]⟩

/-- An emulation memory record changes nothing that reads neither start queue, and
appends only `Write` and `Read` records whose `End` is not before their `Start`. -/
theorem emuMemory_frame (cfg : Config) (b : Back) (smp : Sample) :
    g (emuMemory cfg b smp).1.monitors = g b.monitors ∧
      ∀ e ∈ (emuMemory cfg b smp).2,
        e = .pushBack e.record ∧ (∃ d : Dir, e.record.type = d.type) ∧ e.record.start ≤ e.record.«end» := by
  obtain ⟨w1, w2⟩ := emuSide_frame g hg cfg .write (smp.trace.traceID / 2) smp.timestamp
    smp.hostTimestampNsec smp.trace.eventFlags b
  simp only [emuMemory]
  cases hw : emuSide cfg .write (smp.trace.traceID / 2) smp.timestamp smp.hostTimestampNsec
    smp.trace.eventFlags b with
  | error b1 =>
    simp only [hw, sideBack] at w1
    exact ⟨w1, by simp⟩
  | ok p =>
    obtain ⟨b1, o⟩ := p
    simp only [hw, sideBack, sideOps] at w1 w2
    obtain ⟨r1, r2⟩ := emuSide_frame g hg cfg .read (smp.trace.traceID / 2) smp.timestamp
      smp.hostTimestampNsec smp.trace.eventFlags b1
    dsimp only
    cases hr : emuSide cfg .read (smp.trace.traceID / 2) smp.timestamp smp.hostTimestampNsec
      smp.trace.eventFlags b1 with
    | error b2 =>
      simp only [hr, sideBack] at r1
      exact ⟨r1.trans w1, fun e he => (w2 e he).imp_right fun h => ⟨⟨.write, h.1⟩, h.2⟩⟩
    | ok p2 =>
      obtain ⟨b2, o'⟩ := p2
      simp only [hr, sideBack, sideOps] at r1 r2
      refine ⟨r1.trans w1, fun e he => ?_⟩
      rcases List.mem_append.mp he with he | he
      · exact (w2 e he).imp_right fun h => ⟨⟨.write, h.1⟩, h.2⟩
      · exact (r2 e he).imp_right fun h => ⟨⟨.read, h.1⟩, h.2⟩

end EmuFrame

end XdpProfile
