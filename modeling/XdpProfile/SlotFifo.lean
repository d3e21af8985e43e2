import XdpProfile.LogTrace

/-!
# The start queues of the memory monitor slots

In hardware mode each memory monitor slot and direction has a queue of start times
(`mReadStarts[s]`, `mWriteStarts[s]`) that persists between calls.  The spec describes
it as a FIFO pairing (`fifoStep`): a start is queued; an end without `Reserved` on a
non-empty queue closes the oldest open start; any other end is a single-point
transaction.

`spm_fifo` says the code is that FIFO, slot by slot and direction by direction, over any
sequence of calls: the queue of `(s, d)` is the FIFO run over the events of `(s, d)`
among the records the calls decode (`decodedRecords`: all but the first record of each
batch that passes the entry guard), and the `(s, d)` records the calls write are the
FIFO's transactions, in order, all appended.  Records of other slots, of the other
direction and of the accelerator monitors neither touch the queue nor write an `(s, d)`
record.

The proof is one step lemma per handler (`spmTranx_fifo`, `samTrace_starts`), lifted
to the record loop by `recordLoop_sim`, to a call by the post-pass lemmas, and to a
sequence of calls by induction.

In emulation mode the device and host start queues are two parallel queues.
`emu_start_queues_paired` says they stay one queue of pairs: over any sequence of calls,
what the code's two queues of a slot zip to is the spec's queues of
`(device time, host time)` pairs (`pairFifoStep`) run over that slot's memory records
(`pairRun`), and a memory record writes the records the spec builds from the pair it pops
(`pairMemory`).  The two directions of a slot are one machine, not two: a write end on an
empty write queue skips the read side of its record.
-/

namespace XdpProfile

/-! ## The FIFO pairing of the spec -/

/-- A memory monitor event of one slot and direction. -/
inductive SpmEvent where
  /-- A start at a device time. -/
  | start (t : UInt64)
  /-- An end at a device time; `reserved` is `Reserved == 1`. -/
  | stop (t : UInt64) (reserved : Bool)

/-- A completed transaction: `StartTime`, `EndTime` and `BurstLength`. -/
structure Tranx where
  /-- `StartTime`. -/
  startTime : UInt64
  /-- `EndTime`. -/
  endTime : UInt64
  /-- `BurstLength`. -/
  burstLength : UInt64
deriving DecidableEq, Repr

/-- The FIFO pairing of one slot and direction. -/
def fifoStep (q : List UInt64) : SpmEvent → List UInt64 × List Tranx
  | .start t => (q ++ [t], [])
  | .stop t false =>
    match q with
    | h :: rest => (rest, [⟨h, t, t - h + 1⟩])
    | [] => ([], [⟨t, t, 1⟩])
  | .stop t true => (q, [⟨t, t, 1⟩])

/-- The FIFO pairing over a stream of events. -/
def fifoRun (q : List UInt64) (es : List SpmEvent) : List UInt64 × List Tranx :=
  mealyRun fifoStep q es

/-- `IS_READ`, else `IS_WRITE` (lines 393, 422): the direction of a memory record. -/
def Config.dirOf (cfg : Config) (traceID : Nat) : Option Dir :=
  if cfg.isRead traceID then some .read else if cfg.isWrite traceID then some .write else none

/-- The event of a start or end record at a device time. -/
def Config.spmEvent (cfg : Config) (trace : XclTraceResults) (t : UInt64) : Option SpmEvent :=
  if trace.eventType = cfg.xclPerfMonStartEvent then some (.start t)
  else if trace.eventType = cfg.xclPerfMonEndEvent then some (.stop t (trace.reserved = 1))
  else none

/-- The event of slot `s` and direction `d` a hardware record carries: a memory monitor
record (`TraceID` in `2..61`) of that slot and direction, at the device time of lines
194-196. -/
def spmEventOf (cfg : Config) (s : Nat) (d : Dir) (trace : XclTraceResults) : Option SpmEvent :=
  if 2 ≤ trace.traceID ∧ trace.traceID ≤ 61 ∧ trace.traceID / 2 = s ∧ cfg.dirOf trace.traceID = some d
  then cfg.spmEvent trace (hwTimestamp cfg trace).toUInt64
  else none

/-- The records a sequence of calls decodes, from a count `n` and a cap: all but the
first record of every batch that passes the entry guard. -/
def decodedRecords : Nat → Nat → List Call → List XclTraceResults
  | _, _, [] => []
  | n, cap, c :: cs =>
    if cap ≤ n ∨ c.traceVector = [] then decodedRecords n cap cs
    else c.traceVector.tail ++ decodedRecords (n + c.traceVector.length) cap cs

/-- Whether a write appends. -/
def Emit.isPushBack : Emit → Bool
  | .insertBegin _ => false
  | .pushBack _ => true

/-- A write, seen as a transaction of slot `s` and direction `d`: whether it appends,
and the times of its record. -/
def Emit.tranxAt (s : Nat) (d : Dir) (e : Emit) : Option (Bool × Tranx) :=
  if e.record.slotNum = s ∧ e.record.type = d.type then
    some (e.isPushBack, ⟨e.record.startTime, e.record.endTime, e.record.burstLength⟩)
  else none

theorem Emit.tranxAt_of_type {s : Nat} {d : Dir} {e : Emit} (h : e.record.type ≠ d.type) :
    e.tranxAt s d = none := by
  simp [Emit.tranxAt, h]

/-! ## One record -/

theorem UInt64.sub_self_add_one (t : UInt64) : t - t + 1 = 1 := by
  simp [UInt64.sub_def, UInt64.add_def]

/-- A hardware memory record of direction `d` on its own slot is one FIFO step of its
event; on every other slot and direction it does nothing. -/
theorem spmTranx_fifo (cfg : Config) (conv : UInt64 → ℚ) (d : Dir) (b : Back) (smp : Sample)
    (s : Nat) (d' : Dir) :
    (spmTranx cfg conv d b smp).1.monitors.starts d' s =
        (if d' = d ∧ s = smp.slotID then
          (stepOpt fifoStep (b.monitors.starts d' s) (cfg.spmEvent smp.trace smp.timestamp.toUInt64)).1
        else b.monitors.starts d' s) ∧
      (spmTranx cfg conv d b smp).2.filterMap (Emit.tranxAt s d') =
        (if d' = d ∧ s = smp.slotID then
          ((stepOpt fifoStep (b.monitors.starts d' s) (cfg.spmEvent smp.trace smp.timestamp.toUInt64)).2.map
            (true, ·))
        else []) := by
  by_cases hrel : d' = d ∧ s = smp.slotID
  · obtain ⟨rfl, rfl⟩ := hrel
    simp only [and_self, if_true]
    unfold spmTranx Config.spmEvent
    by_cases h1 : smp.trace.eventType = cfg.xclPerfMonStartEvent
    · simp [h1, stepOpt, fifoStep]
    · by_cases h3 : smp.trace.eventType = cfg.xclPerfMonEndEvent
      · simp only [if_neg h1, if_pos h3]
        by_cases hr : smp.trace.reserved = 1
        · simp [hr, stepOpt, fifoStep, endStart, Emit.tranxAt, Emit.isPushBack,
            Emit.record, UInt64.sub_self_add_one]
        · cases hq : b.monitors.starts d' smp.slotID <;>
            simp [hr, hq, stepOpt, fifoStep, endStart, Emit.tranxAt, Emit.isPushBack,
              Emit.record, UInt64.sub_self_add_one]
      · simp [h1, h3, stepOpt]
  · rw [if_neg hrel, if_neg hrel]
    unfold spmTranx
    have hne : ¬ (d' = d ∧ s = smp.slotID) := hrel
    split_ifs
    · simp only [Monitors.starts_setStarts]
      exact ⟨if_neg hne, rfl⟩
    · refine ⟨by simp [hne], ?_⟩
      simp only [List.filterMap_cons, List.filterMap_nil, Emit.tranxAt, Emit.record]
      rw [if_neg]
      rintro ⟨rfl, h⟩
      exact hne ⟨(Dir.type_injective h).symm, rfl⟩
    · exact ⟨rfl, rfl⟩

/-- The event of `(s, d)` a hardware sample carries. -/
def spmSampleEvent (cfg : Config) (s : Nat) (d : Dir) (smp : Sample) : Option SpmEvent :=
  if smp.trace.traceID < 64 ∧ smp.slotID = s ∧ cfg.dirOf smp.trace.traceID = some d then
    cfg.spmEvent smp.trace smp.timestamp.toUInt64
  else none

/-- In hardware mode, a decoded record moves the queue of `(s, d)` by one FIFO step on its
event, and writes the FIFO's transaction. -/
theorem decodeSample_hw_fifo (cfg : Config) (conv : UInt64 → ℚ) (b : Back) (smp : Sample)
    (s : Nat) (d : Dir) :
    (decodeSample cfg false conv b smp).1.monitors.starts d s =
        (stepOpt fifoStep (b.monitors.starts d s) (spmSampleEvent cfg s d smp)).1 ∧
      (decodeSample cfg false conv b smp).2.filterMap (Emit.tranxAt s d) =
        (stepOpt fifoStep (b.monitors.starts d s) (spmSampleEvent cfg s d smp)).2.map (true, ·) := by
  unfold decodeSample spmSampleEvent Config.dirOf
  simp only [Bool.false_eq_true, if_false]
  by_cases hsam : 64 ≤ smp.trace.traceID
  · have hn : ¬ (smp.trace.traceID < 64 ∧ smp.slotID = s ∧
        (if cfg.isRead smp.trace.traceID = true then some Dir.read
          else if cfg.isWrite smp.trace.traceID = true then some Dir.write else none) = some d) :=
      fun h => by omega
    rw [if_pos hsam, if_neg hn, samTrace_starts, List.filterMap_eq_nil_iff.mpr]
    · simp [stepOpt]
    · intro e he
      obtain ⟨c, -, hc, -⟩ := samTrace_ops conv b smp e he
      exact Emit.tranxAt_of_type (hc ▸ Category.type_ne_dir c d)
  · rw [if_neg hsam]
    have hlt : smp.trace.traceID < 64 := by omega
    have hspm : ∀ d', (spmTranx cfg conv d' b smp).1.monitors.starts d s =
          (stepOpt fifoStep (b.monitors.starts d s) (if smp.slotID = s ∧ d' = d then
            cfg.spmEvent smp.trace smp.timestamp.toUInt64 else none)).1 ∧
        (spmTranx cfg conv d' b smp).2.filterMap (Emit.tranxAt s d) =
          (stepOpt fifoStep (b.monitors.starts d s) (if smp.slotID = s ∧ d' = d then
            cfg.spmEvent smp.trace smp.timestamp.toUInt64 else none)).2.map (true, ·) := fun d' => by
      have := spmTranx_fifo cfg conv d' b smp s d
      by_cases hs : smp.slotID = s
      · subst hs; cases d <;> cases d' <;> simpa [stepOpt] using this
      · simpa [hs, Ne.symm hs, stepOpt] using this
    by_cases hr : cfg.isRead smp.trace.traceID
    · simp [hr, hlt, hspm]
    · by_cases hw : cfg.isWrite smp.trace.traceID <;> simp [hr, hw, hlt, hspm, stepOpt]

/-! ## Calls and runs -/

/-- The `(s, d)` event of a hardware record is the event of the sample it decodes to. -/
theorem hwSample_bind_spmSampleEvent (cfg : Config) (s : Nat) (d : Dir) (t : XclTraceResults) :
    (hwSample cfg t).bind (spmSampleEvent cfg s d) = spmEventOf cfg s d t := by
  unfold hwSample hwSlotID spmSampleEvent spmEventOf
  by_cases h1 : 64 ≤ t.traceID ∧ t.traceID ≤ 544
  · have : ¬ (2 ≤ t.traceID ∧ t.traceID ≤ 61 ∧ t.traceID / 2 = s ∧ cfg.dirOf t.traceID = some d) :=
      fun h => by omega
    simp [h1, this]
  · by_cases h2 : 2 ≤ t.traceID ∧ t.traceID ≤ 61
    · have hlt : t.traceID < 64 := by omega
      simp [h1, h2, hlt]
    · have : ¬ (2 ≤ t.traceID ∧ t.traceID ≤ 61 ∧ t.traceID / 2 = s ∧ cfg.dirOf t.traceID = some d) :=
        fun h => h2 ⟨h.1, h.2.1⟩
      simp [h1, h2, this]

/-- The post-pass writes no memory transaction. -/
theorem approximateCuEnds_tranxAt (cfg : Config) (env : Env) (conv : UInt64 → ℚ) (b : Back)
    (s : Nat) (d : Dir) : (approximateCuEnds cfg env conv b).2.filterMap (Emit.tranxAt s d) = [] :=
  List.filterMap_eq_nil_iff.mpr fun e he =>
    Emit.tranxAt_of_type ((approximateCuEnds_ops cfg env conv b e he).2 ▸ (Dir.type_ne_kernel d).symm)

/-- A hardware call moves the queue of `(s, d)` by the FIFO run over the `(s, d)` events of
its decoded records, and writes the FIFO's transactions. -/
theorem logTraceOps_hw_fifo (cfg : Config) (names : PerfMonKind → Nat → String) (rd : Readings)
    (dev : RTProfileDevice) (type : Nat) (tv : List XclTraceResults) (s : Nat) (d : Dir) :
    (logTraceOps cfg ⟨false, names⟩ rd dev type tv).1.monitors.starts d s =
        (fifoRun (dev.monitors.starts d s)
          (if dev.mMaxTraceEvents ≤ dev.mNumTraceEvents ∨ tv = [] then []
            else tv.tail.filterMap (spmEventOf cfg s d))).1 ∧
      (logTraceOps cfg ⟨false, names⟩ rd dev type tv).2.filterMap (Emit.tranxAt s d) =
        (fifoRun (dev.monitors.starts d s)
          (if dev.mMaxTraceEvents ≤ dev.mNumTraceEvents ∨ tv = [] then []
            else tv.tail.filterMap (spmEventOf cfg s d))).2.map (true, ·) := by
  by_cases hg : dev.mMaxTraceEvents ≤ dev.mNumTraceEvents ∨ tv = []
  · simp [logTraceOps_of_full cfg _ rd dev type tv hg, hg, fifoRun]
  · obtain ⟨-, h1, h2⟩ := recordLoop_sim cfg rd false type
      (fun q smp => ((stepOpt fifoStep q (spmSampleEvent cfg s d smp)).1,
        (stepOpt fifoStep q (spmSampleEvent cfg s d smp)).2.map (true, ·)))
      (fun b => b.monitors.starts d s) (Emit.tranxAt s d) (fun _ => True) (by simp)
      (fun conv b smp _ => decodeSample_hw_fifo cfg conv b smp s d)
      ⟨dev.training, 0xFFFFFFFF, 0, 0⟩ ⟨dev.monitors, cfg.defaultTrace⟩ 0 tv trivial
    rw [mealyRun_map, mealyRun_filterMap, samplesOf_hw, List.filterMap_filterMap] at h1 h2
    simp only [hwSample_bind_spmSampleEvent] at h1 h2
    simp only [logTraceOps, hg, if_false, Bool.false_eq_true, Monitors.starts_clearStarted,
      approximateCuEnds_monitors, List.filterMap_append, recordLoop, fifoRun,
      approximateCuEnds_tranxAt, List.append_nil]
    exact ⟨h1, h2⟩

/-- In hardware mode, over any sequence of calls, the start queue of a memory slot and
direction is the FIFO pairing of the spec, run over that slot and direction's events among
the decoded records: it holds the open starts, oldest first, and the records of that slot
and direction the calls write are the FIFO's transactions, in order, all appended. -/
theorem spm_fifo (cfg : Config) (names : PerfMonKind → Nat → String) (dev : RTProfileDevice)
    (calls : List Call) (s : Nat) (d : Dir) :
    (runCalls cfg ⟨false, names⟩ dev calls).1.monitors.starts d s =
        (fifoRun (dev.monitors.starts d s)
          ((decodedRecords dev.mNumTraceEvents dev.mMaxTraceEvents calls).filterMap
            (spmEventOf cfg s d))).1 ∧
      (runCalls cfg ⟨false, names⟩ dev calls).2.filterMap (Emit.tranxAt s d) =
        (fifoRun (dev.monitors.starts d s)
          ((decodedRecords dev.mNumTraceEvents dev.mMaxTraceEvents calls).filterMap
            (spmEventOf cfg s d))).2.map (true, ·) := by
  induction calls generalizing dev with
  | nil => exact ⟨rfl, rfl⟩
  | cons c cs ih =>
    obtain ⟨h1, h2⟩ := logTraceOps_hw_fifo cfg names c.readings dev c.type c.traceVector s d
    obtain ⟨i1, i2⟩ := ih (logTraceOps cfg ⟨false, names⟩ c.readings dev c.type c.traceVector).1
    simp only [runCalls, mealyRun_cons, List.filterMap_append] at i1 i2 ⊢
    rw [i1, i2, h1, h2]
    by_cases hg : dev.mMaxTraceEvents ≤ dev.mNumTraceEvents ∨ c.traceVector = []
    · simp [hg, decodedRecords, logTraceOps_of_full cfg _ c.readings dev c.type c.traceVector hg,
        fifoRun]
    · have hn := logTraceOps_count cfg ⟨false, names⟩ c.readings dev c.type c.traceVector
      rw [if_neg hg] at hn
      simp only [decodedRecords, hg, if_false, hn, logTraceOps_max, List.filterMap_append, fifoRun,
        mealyRun_append, List.map_append]
      exact ⟨trivial, trivial⟩

/-! ## Emulation: one queue of pairs -/

/-- The spec's start queues of one memory slot in emulation mode: one FIFO of
`(device time, host time)` pairs per direction. -/
abbrev PairQueues := Dir → List (UInt64 × UInt64)

/-- The device and host start queues of a slot, zipped into the spec's queues of pairs. -/
def Monitors.pairsAt (m : Monitors) (s : Nat) : PairQueues :=
  fun d => (m.starts d s).zip (m.hostStarts d s)

/-- Every device start queue is as long as its host start queue. -/
def Monitors.Paired (m : Monitors) : Prop :=
  ∀ d s, (m.starts d s).length = (m.hostStarts d s).length

/-- The spec's end of an emulation transaction: pop the oldest pair; the record takes its
`StartTime` and its `Start` from that one pair. -/
def pairEnd (cfg : Config) (d : Dir) (s : Nat) (ts : UInt32) (host : UInt64) (eps : ℚ)
    (q : PairQueues) : Except PairQueues (PairQueues × List Emit) :=
  match q d with
  | [] => .error q
  | (startTime, hostStartTime) :: rest =>
    let start : ℚ := (hostStartTime.toNat : ℚ) / 1000000
    let end0 : ℚ := (host.toNat : ℚ) / 1000000
    let «end» := if start = end0 then end0 + eps else end0
    let r : DeviceTrace :=
      { cfg.defaultTrace with
        slotNum := s, type := d.type, startTime := startTime, endTime := ts.toUInt64,
        start := start, «end» := «end», burstLength := ts.toUInt64 - startTime + 1,
        traceStart := start }
    .ok (Function.update q d rest, if start ≤ «end» then [.pushBack r] else [])

/-- One direction of an emulation memory record on the spec's queues of pairs. -/
def pairSide (cfg : Config) (d : Dir) (s : Nat) (ts : UInt32) (host : UInt64) (flags : UInt8)
    (eps : ℚ) (q : PairQueues) : Except PairQueues (PairQueues × List Emit) :=
  let q := if getBit flags (cfg.firstBit d) then Function.update q d (q d ++ [(ts.toUInt64, host)])
    else q
  if getBit flags (cfg.lastBit d) then pairEnd cfg d s ts host eps q else .ok (q, [])

/-- An emulation memory record on the spec's queues of pairs of its slot. -/
def pairMemory (cfg : Config) (eps : ℚ) (q : PairQueues) (smp : Sample) : PairQueues × List Emit :=
  let side d q := pairSide cfg d (smp.trace.traceID / 2) smp.timestamp smp.hostTimestampNsec
    smp.trace.eventFlags eps q
  match side .write q with
  | .error q => (q, [])
  | .ok (q, o) =>
    match side .read q with
    | .error q => (q, o)
    | .ok (q, o') => (q, o ++ o')

/-- One direction of a memory record on the spec's queues of pairs, the queues alone: a
start pushes its pair, an end pops the oldest; `.error` is an end on an empty queue. -/
def pairFifoSide (cfg : Config) (d : Dir) (ts : UInt32) (host : UInt64) (flags : UInt8)
    (q : PairQueues) : Except PairQueues PairQueues :=
  let q := if getBit flags (cfg.firstBit d) then Function.update q d (q d ++ [(ts.toUInt64, host)])
    else q
  if getBit flags (cfg.lastBit d) then
    match q d with
    | [] => .error q
    | _ :: rest => .ok (Function.update q d rest)
  else .ok q

/-- The spec's queues of pairs of a slot after one of its memory records: the write side,
then the read side unless the write side ended the iteration. -/
def pairFifoStep (cfg : Config) (q : PairQueues) (smp : Sample) : PairQueues :=
  let side d q := pairFifoSide cfg d smp.timestamp smp.hostTimestampNsec smp.trace.eventFlags q
  match side .write q with
  | .error q => q
  | .ok q =>
    match side .read q with
    | .error q => q
    | .ok q => q

/-- Whether a decoded emulation record is a memory record of slot `s`. -/
def Sample.isMemoryOf (s : Nat) (smp : Sample) : Bool :=
  smp.trace.traceID < 61 && smp.trace.traceID / 2 = s

/-- The spec's queues of pairs of slot `s` over a stream of decoded records: the memory
records of `s` move them, and no other record does. -/
def pairRun (cfg : Config) (s : Nat) (q : PairQueues) (smps : List Sample) : PairQueues :=
  (smps.filter (Sample.isMemoryOf s)).foldl (pairFifoStep cfg) q

/-- An emulation side seen on the queues of pairs of slot `s`. -/
def sidePairs (s : Nat) : Except Back (Back × List Emit) → Except PairQueues (PairQueues × List Emit)
  | .error b => .error (b.monitors.pairsAt s)
  | .ok (b, o) => .ok (b.monitors.pairsAt s, o)

section Pairs

variable {m : Monitors} {d : Dir} {s : Nat}

/-- Setting both queues of `(s, d)` to lists of one length sets the pairs of `(s, d)` to
their zip, and keeps the queues paired. -/
theorem Monitors.pairsAt_setBoth (m : Monitors) (d : Dir) (s : Nat) (q hq : List UInt64) (s' : Nat) :
    ((m.setStarts d s q).setHostStarts d s hq).pairsAt s' =
      if s' = s then Function.update (m.pairsAt s') d (q.zip hq) else m.pairsAt s' := by
  funext d'
  by_cases hs : s' = s <;> by_cases hd : d' = d <;>
    simp [Monitors.pairsAt, hs, hd, Function.update_apply]

theorem Monitors.Paired.setBoth (hp : m.Paired) {q hq : List UInt64} (h : q.length = hq.length) :
    ((m.setStarts d s q).setHostStarts d s hq).Paired := by
  intro d' s'
  by_cases hs : d' = d ∧ s' = s
  · simp [hs, h]
  · simp [hs, hp d' s']

theorem Monitors.Paired.hostStarts_cons (hp : m.Paired) {t : UInt64} {rest : List UInt64}
    (h : m.starts d s = t :: rest) :
    ∃ hst hrest, m.hostStarts d s = hst :: hrest ∧ rest.length = hrest.length := by
  have := hp d s
  rw [h] at this
  cases hq : m.hostStarts d s with
  | nil => simp [hq] at this
  | cons hst hrest => exact ⟨hst, hrest, rfl, by simpa [hq] using this⟩

end Pairs

/-- The queues `pairSide` leaves are those of `pairFifoSide`, whatever the padding. -/
theorem pairSide_queues (cfg : Config) (d : Dir) (s : Nat) (ts : UInt32) (host : UInt64)
    (flags : UInt8) (eps : ℚ) (q : PairQueues) :
    (pairSide cfg d s ts host flags eps q).map Prod.fst = pairFifoSide cfg d ts host flags q := by
  simp only [pairSide, pairFifoSide]
  generalize (if getBit flags (cfg.firstBit d) = true then
    Function.update q d (q d ++ [(ts.toUInt64, host)]) else q) = q1
  split
  · unfold pairEnd
    split <;> rename_i h <;> simp only [h] <;> rfl
  · rfl

/-- The queues `pairMemory` leaves are those of `pairFifoStep`: the padding changes only
the records. -/
theorem pairMemory_fst (cfg : Config) (eps : ℚ) (q : PairQueues) (smp : Sample) :
    (pairMemory cfg eps q smp).1 = pairFifoStep cfg q smp := by
  have hw := pairSide_queues cfg .write (smp.trace.traceID / 2) smp.timestamp smp.hostTimestampNsec
    smp.trace.eventFlags eps q
  simp only [pairMemory, pairFifoStep]
  rw [← hw]
  rcases pairSide cfg .write (smp.trace.traceID / 2) smp.timestamp smp.hostTimestampNsec
    smp.trace.eventFlags eps q with q1 | ⟨q1, o⟩
  · rfl
  · have hr := pairSide_queues cfg .read (smp.trace.traceID / 2) smp.timestamp smp.hostTimestampNsec
      smp.trace.eventFlags eps q1
    simp only [Except.map]
    rw [← hr]
    rcases pairSide cfg .read (smp.trace.traceID / 2) smp.timestamp smp.hostTimestampNsec
      smp.trace.eventFlags eps q1 with q2 | ⟨q2, o'⟩ <;> rfl

/-- Under the pairing, the end of an emulation transaction is the spec's `pairEnd`; it keeps
the queues paired, the padding and every other slot. -/
theorem emuEnd_pairs (cfg : Config) (d : Dir) (s : Nat) (ts : UInt32) (host : UInt64) (b : Back)
    (hp : b.monitors.Paired) :
    sidePairs s (emuEnd cfg d s ts host b) =
        pairEnd cfg d s ts host b.monitors.mEmuTraceMsecOneCycle (b.monitors.pairsAt s) ∧
      (sideBack (emuEnd cfg d s ts host b)).monitors.Paired ∧
      (sideBack (emuEnd cfg d s ts host b)).monitors.mEmuTraceMsecOneCycle =
        b.monitors.mEmuTraceMsecOneCycle ∧
      ∀ s' ≠ s, (sideBack (emuEnd cfg d s ts host b)).monitors.pairsAt s' = b.monitors.pairsAt s' := by
  unfold emuEnd pairEnd
  cases hq : b.monitors.starts d s with
  | nil =>
    have : b.monitors.pairsAt s d = [] := by simp [Monitors.pairsAt, hq]
    simp [sidePairs, sideBack, this, hp]
  | cons t rest =>
    obtain ⟨hst, hrest, hh, hl⟩ := hp.hostStarts_cons hq
    have : b.monitors.pairsAt s d = (t, hst) :: rest.zip hrest := by simp [Monitors.pairsAt, hq, hh]
    refine ⟨?_, ?_, ?_, fun s' hs' => ?_⟩
    · simp [sidePairs, this, hh, Monitors.pairsAt_setBoth]
    · simpa [sideBack, hh] using hp.setBoth hl
    · cases d <;> rfl
    · simp [sideBack, hh, Monitors.pairsAt_setBoth, hs']

/-- A start pushed or not: the queues stay paired, and the pairs of its slot get the pair
pushed. -/
theorem pushStart_if (c : Bool) (b : Back) (d : Dir) (s : Nat) (t host : UInt64)
    (hp : b.monitors.Paired) :
    (if c then b.pushStart d s t host else b).monitors.Paired ∧
      (if c then b.pushStart d s t host else b).monitors.mEmuTraceMsecOneCycle =
        b.monitors.mEmuTraceMsecOneCycle ∧
      (if c then b.pushStart d s t host else b).monitors.pairsAt s =
        (if c then Function.update (b.monitors.pairsAt s) d (b.monitors.pairsAt s d ++ [(t, host)])
          else b.monitors.pairsAt s) ∧
      ∀ s' ≠ s, (if c then b.pushStart d s t host else b).monitors.pairsAt s' = b.monitors.pairsAt s' := by
  cases c
  · simp [hp]
  · have hl := hp d s
    refine ⟨hp.setBoth (by simp [hl]), by cases d <;> rfl, ?_, fun s' hs' => ?_⟩
    · simp [Back.pushStart, Monitors.pairsAt_setBoth, Monitors.pairsAt, List.zip_append hl]
    · simp [Back.pushStart, Monitors.pairsAt_setBoth, hs']

/-- Under the pairing, one direction of an emulation memory record is the spec's
`pairSide`. -/
theorem emuSide_pairs (cfg : Config) (d : Dir) (s : Nat) (ts : UInt32) (host : UInt64)
    (flags : UInt8) (b : Back) (hp : b.monitors.Paired) :
    sidePairs s (emuSide cfg d s ts host flags b) =
        pairSide cfg d s ts host flags b.monitors.mEmuTraceMsecOneCycle (b.monitors.pairsAt s) ∧
      (sideBack (emuSide cfg d s ts host flags b)).monitors.Paired ∧
      (sideBack (emuSide cfg d s ts host flags b)).monitors.mEmuTraceMsecOneCycle =
        b.monitors.mEmuTraceMsecOneCycle ∧
      ∀ s' ≠ s, (sideBack (emuSide cfg d s ts host flags b)).monitors.pairsAt s' =
        b.monitors.pairsAt s' := by
  obtain ⟨hp1, he1, hq1, ho1⟩ := pushStart_if (getBit flags (cfg.firstBit d)) b d s ts.toUInt64 host hp
  simp only [emuSide, pairSide]
  rw [← hq1]
  generalize (if getBit flags (cfg.firstBit d) = true then b.pushStart d s ts.toUInt64 host else b) = b1
    at hp1 he1 ho1 ⊢
  split
  · obtain ⟨e1, e2, e3, e4⟩ := emuEnd_pairs cfg d s ts host b1 hp1
    rw [he1] at e1 e3
    exact ⟨e1, e2, e3, fun s' hs' => (e4 s' hs').trans (ho1 s' hs')⟩
  · exact ⟨rfl, hp1, he1, ho1⟩

/-- Under the pairing, an emulation memory record acts on the pairs of its slot as the
spec's `pairMemory` and writes the same records; it keeps the queues paired and leaves
every other slot alone. -/
theorem emuMemory_pairs (cfg : Config) (b : Back) (smp : Sample) (hp : b.monitors.Paired) :
    (emuMemory cfg b smp).1.monitors.pairsAt (smp.trace.traceID / 2) =
        (pairMemory cfg b.monitors.mEmuTraceMsecOneCycle
          (b.monitors.pairsAt (smp.trace.traceID / 2)) smp).1 ∧
      (emuMemory cfg b smp).2 =
        (pairMemory cfg b.monitors.mEmuTraceMsecOneCycle
          (b.monitors.pairsAt (smp.trace.traceID / 2)) smp).2 ∧
      (emuMemory cfg b smp).1.monitors.Paired ∧
      ∀ s' ≠ smp.trace.traceID / 2, (emuMemory cfg b smp).1.monitors.pairsAt s' = b.monitors.pairsAt s' := by
  obtain ⟨w1, w2, w3, w4⟩ := emuSide_pairs cfg .write (smp.trace.traceID / 2) smp.timestamp
    smp.hostTimestampNsec smp.trace.eventFlags b hp
  simp only [emuMemory, pairMemory]
  rw [← w1]
  cases hw : emuSide cfg .write (smp.trace.traceID / 2) smp.timestamp smp.hostTimestampNsec
    smp.trace.eventFlags b with
  | error b1 =>
    simp only [hw, sideBack] at w2 w4
    exact ⟨rfl, rfl, w2, w4⟩
  | ok p =>
    obtain ⟨b1, o⟩ := p
    simp only [hw, sideBack] at w2 w3 w4
    obtain ⟨r1, r2, r3, r4⟩ := emuSide_pairs cfg .read (smp.trace.traceID / 2) smp.timestamp
      smp.hostTimestampNsec smp.trace.eventFlags b1 w2
    rw [w3] at r1
    simp only [sidePairs]
    rw [← r1]
    cases hr : emuSide cfg .read (smp.trace.traceID / 2) smp.timestamp smp.hostTimestampNsec
      smp.trace.eventFlags b1 with
    | error b2 =>
      simp only [hr, sideBack] at r2 r4
      exact ⟨rfl, rfl, r2, fun s' hs' => (r4 s' hs').trans (w4 s' hs')⟩
    | ok p2 =>
      obtain ⟨b2, o'⟩ := p2
      simp only [hr, sideBack] at r2 r4
      exact ⟨rfl, rfl, r2, fun s' hs' => (r4 s' hs').trans (w4 s' hs')⟩

/-- The constructor empties every start queue, so the constructed device is paired. -/
theorem RTProfileDevice.construct_paired (cfg : Config) (raw : RTProfileDevice) :
    (RTProfileDevice.construct cfg raw).monitors.Paired := fun d _ => by cases d <;> rfl

theorem Monitors.Paired.of_queues {m m' : Monitors} (hp : m.Paired) (h1 : m'.starts = m.starts)
    (h2 : m'.hostStarts = m.hostStarts) : m'.Paired := by
  intro d s
  rw [h1, h2]
  exact hp d s

/-- In emulation mode a decoded record keeps the queues paired; a memory record acts on
the pairs of its slot as `pairMemory`, and no record touches the pairs of another slot. -/
theorem decodeSample_emu_pairs (cfg : Config) (conv : UInt64 → ℚ) (b : Back) (smp : Sample)
    (hp : b.monitors.Paired) :
    (decodeSample cfg true conv b smp).1.monitors.Paired ∧
      ∀ s, (decodeSample cfg true conv b smp).1.monitors.pairsAt s =
        if smp.trace.traceID < 61 ∧ s = smp.trace.traceID / 2 then
          (pairMemory cfg b.monitors.mEmuTraceMsecOneCycle (b.monitors.pairsAt s) smp).1
        else b.monitors.pairsAt s := by
  simp only [decodeSample, if_true]
  by_cases hm : smp.trace.traceID < 61
  · obtain ⟨h1, -, h3, h4⟩ := emuMemory_pairs cfg b smp hp
    refine ⟨by simpa [hm] using h3, fun s => ?_⟩
    by_cases hs : s = smp.trace.traceID / 2
    · subst hs; simpa [hm] using h1
    · simpa [hm, hs] using h4 s hs
  · simp only [hm, if_false, false_and]
    split_ifs
    · obtain ⟨h1, h2⟩ := emuCu_queues b smp
      exact ⟨hp.of_queues h1 h2, fun s => by unfold Monitors.pairsAt; rw [h1, h2]⟩
    · exact ⟨hp, fun _ => rfl⟩

/-- An emulation call keeps the queues paired. -/
theorem logTraceOps_emu_paired (cfg : Config) (names : PerfMonKind → Nat → String) (rd : Readings)
    (dev : RTProfileDevice) (type : Nat) (tv : List XclTraceResults) (hp : dev.monitors.Paired) :
    (logTraceOps cfg ⟨true, names⟩ rd dev type tv).1.monitors.Paired := by
  by_cases hg : dev.mMaxTraceEvents ≤ dev.mNumTraceEvents ∨ tv = []
  · rwa [logTraceOps_of_full cfg _ rd dev type tv hg]
  · obtain ⟨h, -⟩ := recordLoop_sim cfg rd true type (fun _ _ => ((), ([] : List Unit)))
      (fun _ => ()) (fun _ => none) (fun b => b.monitors.Paired)
      (fun conv b smp hb => (decodeSample_emu_pairs cfg conv b smp hb).1) (by simp)
      ⟨dev.training, 0xFFFFFFFF, 0, 0⟩ ⟨dev.monitors, cfg.defaultTrace⟩ 0 tv hp
    simp only [logTraceOps, hg, if_false, if_true, recordLoop]
    exact h.of_queues (by simp) (by simp)

/-- In emulation mode a decoded record moves the pairs of slot `s` by one step of the spec's
queues of pairs when it is a memory record of `s`, and leaves them alone otherwise. -/
theorem decodeSample_emu_pairFifo (cfg : Config) (conv : UInt64 → ℚ) (b : Back) (smp : Sample)
    (hp : b.monitors.Paired) (s : Nat) :
    (decodeSample cfg true conv b smp).1.monitors.pairsAt s =
      if smp.isMemoryOf s then pairFifoStep cfg (b.monitors.pairsAt s) smp else b.monitors.pairsAt s := by
  rw [(decodeSample_emu_pairs cfg conv b smp hp).2 s, pairMemory_fst]
  simp only [Sample.isMemoryOf, Bool.and_eq_true, decide_eq_true_eq, eq_comm (a := s)]

/-- A Mealy run that writes nothing and moves only on the inputs `p` selects is the fold
of its step over those inputs. -/
theorem mealyRun_filter_foldl {σ α β : Type} (p : α → Bool) (f : σ → α → σ) (s : σ) (as : List α) :
    (mealyRun (fun s a => (if p a then f s a else s, ([] : List β))) s as).1 =
      (as.filter p).foldl f s := by
  induction as generalizing s with
  | nil => rfl
  | cons a as ih => cases h : p a <;> simp [h, ih, List.filter_cons]

/-- An emulation call moves the pairs of slot `s` by the spec's queues of pairs over the
records it decodes. -/
theorem logTraceOps_emu_pairRun (cfg : Config) (names : PerfMonKind → Nat → String) (rd : Readings)
    (dev : RTProfileDevice) (type : Nat) (tv : List XclTraceResults) (hp : dev.monitors.Paired)
    (s : Nat) :
    (logTraceOps cfg ⟨true, names⟩ rd dev type tv).1.monitors.pairsAt s =
      pairRun cfg s (dev.monitors.pairsAt s)
        (if dev.mMaxTraceEvents ≤ dev.mNumTraceEvents ∨ tv = [] then []
          else (samplesOf cfg rd true type ⟨dev.training, 0xFFFFFFFF, 0, 0⟩ 0 tv).2) := by
  by_cases hg : dev.mMaxTraceEvents ≤ dev.mNumTraceEvents ∨ tv = []
  · simp [logTraceOps_of_full cfg _ rd dev type tv hg, hg, pairRun]
  · obtain ⟨-, h, -⟩ := recordLoop_sim cfg rd true type
      (fun q smp => (if smp.isMemoryOf s then pairFifoStep cfg q smp else q, ([] : List Unit)))
      (fun b => b.monitors.pairsAt s) (fun _ => none) (fun b => b.monitors.Paired)
      (fun conv b smp hb => (decodeSample_emu_pairs cfg conv b smp hb).1)
      (fun conv b smp hb => ⟨decodeSample_emu_pairFifo cfg conv b smp hb s, by simp⟩)
      ⟨dev.training, 0xFFFFFFFF, 0, 0⟩ ⟨dev.monitors, cfg.defaultTrace⟩ 0 tv hp
    rw [mealyRun_filter_foldl] at h
    simp only [logTraceOps, hg, if_false, if_true, recordLoop, pairRun, Monitors.pairsAt,
      Monitors.starts_clearStarted, Monitors.hostStarts_clearStarted] at h ⊢
    exact h

/-- In emulation mode the device and host start queues of every slot and direction stay one
queue of pairs.  Over any sequence of calls from paired queues they stay of equal length,
and the pairs of every slot are the spec's queues of `(device time, host time)` pairs run
over that slot's memory records among the decoded records: a start pushes its pair, a
matched end pops the oldest, and no compute unit record and no record of another slot
moves them.  In every paired state, a memory record writes the records the spec builds
from the pair it pops. -/
theorem emu_start_queues_paired (cfg : Config) (names : PerfMonKind → Nat → String)
    (dev : RTProfileDevice) (calls : List Call) (hp : dev.monitors.Paired) :
    (runCalls cfg ⟨true, names⟩ dev calls).1.monitors.Paired ∧
      (∀ s, (runCalls cfg ⟨true, names⟩ dev calls).1.monitors.pairsAt s =
        pairRun cfg s (dev.monitors.pairsAt s)
          (decodedSamples cfg true dev.training dev.mNumTraceEvents dev.mMaxTraceEvents calls)) ∧
      ∀ conv b smp, b.monitors.Paired → smp.trace.traceID < 61 →
        (decodeSample cfg true conv b smp).1.monitors.pairsAt (smp.trace.traceID / 2) =
            (pairMemory cfg b.monitors.mEmuTraceMsecOneCycle
              (b.monitors.pairsAt (smp.trace.traceID / 2)) smp).1 ∧
          (decodeSample cfg true conv b smp).2 =
            (pairMemory cfg b.monitors.mEmuTraceMsecOneCycle
              (b.monitors.pairsAt (smp.trace.traceID / 2)) smp).2 := by
  refine ⟨?_, ?_, fun conv b smp hb hm => ?_⟩
  · exact mealyRun_invariant _ (fun dev => dev.monitors.Paired)
      (fun dev c h => logTraceOps_emu_paired cfg names c.readings dev c.type c.traceVector h) dev calls hp
  · induction calls generalizing dev with
    | nil => exact fun _ => rfl
    | cons c cs ih =>
      intro s
      have h := ih _ (logTraceOps_emu_paired cfg names c.readings dev c.type c.traceVector hp) s
      simp only [runCalls, mealyRun_cons] at h ⊢
      rw [h, logTraceOps_emu_pairRun cfg names c.readings dev c.type c.traceVector hp s,
        decodedSamples_cons cfg ⟨true, names⟩]
      simp only [pairRun, List.filter_append, List.foldl_append]
  · obtain ⟨h1, h2, -, -⟩ := emuMemory_pairs cfg b smp hb
    simp only [decodeSample, if_true, hm]
    exact ⟨h1, h2⟩

/-- From the constructed device: an emulation call with a write start and end on slot 1
keeps the queues paired, and the pairs of slot 1 are the spec's queues of pairs run over the
call's records. -/
theorem emu_start_queues_paired_constructed :
    (RTProfileDevice.construct sampleConfig .blank).monitors.Paired ∧
      (runCalls sampleConfig ⟨true, fun _ _ => ""⟩ (RTProfileDevice.construct sampleConfig .blank)
        [⟨0, [⟨0, 0, 2, 0, 0, 6, 0⟩], ⟨0, 0, id⟩⟩]).1.monitors.pairsAt 1 =
        pairRun sampleConfig 1 ((RTProfileDevice.construct sampleConfig .blank).monitors.pairsAt 1)
          (decodedSamples sampleConfig true (RTProfileDevice.construct sampleConfig .blank).training
            (RTProfileDevice.construct sampleConfig .blank).mNumTraceEvents
            (RTProfileDevice.construct sampleConfig .blank).mMaxTraceEvents
            [⟨0, [⟨0, 0, 2, 0, 0, 6, 0⟩], ⟨0, 0, id⟩⟩]) :=
  ⟨RTProfileDevice.construct_paired _ _,
    (emu_start_queues_paired sampleConfig _ _ _ (RTProfileDevice.construct_paired _ _)).2.1 1⟩

end XdpProfile
