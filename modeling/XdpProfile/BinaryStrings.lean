import Mathlib.Data.Nat.Size
import Mathlib.Data.List.Basic
import Mathlib.Data.Nat.ModEq
import Mathlib.Data.Nat.Log
import Mathlib.Data.Nat.Bitwise
import Mathlib.Tactic.Ring

/-!
# Binary strings

`dec2bin` and `bin2dec` (lines 560-620) convert between a `uint32_t` and a string of
binary digits; `logTrace` calls `dec2bin(flags, 7)` for a log message of emulation mode.

`dec2bin` fills a stack array at unsigned indices and returns it read as a C string.  The
model keeps that array: `dec2binStores` lists the stores in order, `storeAll` gives the
array they leave and `cStringFrom` reads it back.  A store or a read outside the array is
`none`.  `bin2dec` reads characters from `ptr + start` and returns the value with the
number of characters it read, `none` for a read past the array.

* For `1 ≤ bits ≤ 2^31` and `n < 2^bits`, `dec2bin(n, bits)` is `binaryDigits bits n`,
  whatever the array held before (`dec2bin_eq`), and `bin2dec` reads it back as `n`
  (`bin2decString_binaryDigits`, `dec2bin_bin2dec`).  Wider arrays break the round trip
  (`dec2bin_wide_bits`).
* When `n` has more binary digits than `bits`, or `bits = 0`, the do-while stores at
  `result[2^32 - 1]` (`dec2bin_store_outside`); `dec2bin(flags, 7)` does so for every
  `EventFlags` value from 128 up (`dec2bin_flags_seven`).
* `bin2dec(s, start, number)` reads at most up to the first character that is not a digit,
  and always reads one, `number ≤ 0` included (`bin2dec_binary_prefix`,
  `bin2dec_number_zero`).
-/

namespace XdpProfile

/-! ## `bin2dec` -/

/-- A binary digit. -/
def isBinary (c : Char) : Bool := c = '0' || c = '1'

/-- The value of a string of binary digits, most significant first. -/
def binValue (l : List Char) : Nat := l.foldl (fun v c => 2 * v + if c = '1' then 1 else 0) 0

/-- The do-while of `bin2dec`, lines 572-579, from `temp_ptr` on: `chars` are the
characters from `temp_ptr` to the end of the object, `i` the digits read so far and
`value` the value so far.  It returns the value and how many characters it read; `none`
is a read past the object. -/
def bin2decLoop (number : Int) : List Char → Int → UInt32 → Option (UInt32 × Nat)
  | [], _, _ => none
  | c :: cs, i, value =>
    if c ≠ '0' ∧ c ≠ '1' then some (value, 1)
    else
      let value := (value <<< 1) + if c = '1' then 1 else 0
      if i + 1 < number then (bin2decLoop number cs (i + 1) value).map fun r => (r.1, r.2 + 1)
      else some (value, 1)

/-- `bin2dec(const char* ptr, int start, int number)`, lines 566-582, where `ptr` points to
the first character of `mem`. -/
def bin2dec (mem : List Char) (start number : Int) : Option (UInt32 × Nat) :=
  if 0 ≤ start then bin2decLoop number (mem.drop start.toNat) 0 0 else none

/-- `bin2dec(std::string str, int start, int number)`, lines 560-563: the same on
`str.c_str()`, the characters of `str` and a terminating `'\x00'`. -/
def bin2decString (str : String) (start number : Int) : Option (UInt32 × Nat) :=
  bin2dec (str.toList ++ ['\x00']) start number

/-- The first digit of a string weighs `2^k`, `k` the number of digits after it. -/
theorem binValue_cons (c : Char) (l : List Char) :
    binValue (c :: l) = (if c = '1' then 1 else 0) * 2 ^ l.length + binValue l := by
  have h : ∀ (l : List Char) (a : Nat), l.foldl (fun v c => 2 * v + if c = '1' then 1 else 0) a =
      a * 2 ^ l.length + binValue l := by
    intro l
    induction l with
    | nil => simp [binValue]
    | cons d l ih =>
      intro a
      rw [binValue, List.foldl_cons, List.foldl_cons, ih, ih, List.length_cons]
      ring
  rw [binValue, List.foldl_cons, h]
  simp

/-- `(value << 1) + d` on `uint32_t`, as numbers. -/
theorem UInt32.toNat_shiftLeft_one_add (v d : UInt32) :
    ((v <<< 1) + d).toNat = (v.toNat * 2 % 2 ^ 32 + d.toNat) % 2 ^ 32 := by
  show ((v.toBitVec <<< (1 % 32 : UInt32).toBitVec).toNat + d.toNat) % 2 ^ 32 = _
  simp [BitVec.toNat_shiftLeft, Nat.shiftLeft_eq]
  rfl

/-- The do-while of `bin2dec` on characters that hold a non-digit, with `m` passes allowed:
it reads the digits among the first `m` characters up to the first non-digit, and that
one if it comes first, and returns their value shifted in after `value`, modulo 2^32. -/
theorem bin2decLoop_spec (number : Int) (chars : List Char) (i : Int) (value : UInt32) (m : Nat)
    (hm : (max 1 (number - i)).toNat = m) (h : chars.any (fun c => !isBinary c)) :
    ∃ v, bin2decLoop number chars i value =
        some (v, if ((chars.take m).takeWhile isBinary).length < m then
          ((chars.take m).takeWhile isBinary).length + 1 else m) ∧
      v.toNat = (value.toNat * 2 ^ ((chars.take m).takeWhile isBinary).length +
        binValue ((chars.take m).takeWhile isBinary)) % 2 ^ 32 := by
  induction chars generalizing i value m with
  | nil => simp at h
  | cons c cs ih =>
    obtain ⟨m, rfl⟩ : ∃ m', m = m' + 1 := ⟨m - 1, by omega⟩
    by_cases hc : isBinary c
    · have hc' : ¬ (c ≠ '0' ∧ c ≠ '1') := fun ⟨h0, h1⟩ => by simp [isBinary, h0, h1] at hc
      have hd : (if c = '1' then (1 : UInt32) else 0).toNat = if c = '1' then 1 else 0 := by
        split_ifs <;> rfl
      have hv : ((value <<< 1) + if c = '1' then 1 else 0).toNat ≡
          value.toNat * 2 + (if c = '1' then 1 else 0) [MOD 2 ^ 32] := by
        rw [UInt32.toNat_shiftLeft_one_add, hd]
        exact (Nat.mod_modEq _ _).trans ((Nat.mod_modEq _ _).add_right _)
      simp only [bin2decLoop, if_neg hc', List.take_succ_cons, List.takeWhile_cons, hc, if_true,
        List.length_cons]
      by_cases hi : i + 1 < number
      · obtain ⟨v, hv1, hv2⟩ := ih (i + 1) ((value <<< 1) + if c = '1' then 1 else 0) m
          (by omega) (by simpa [hc] using h)
        refine ⟨v, ?_, ?_⟩
        · rw [if_pos hi, hv1, Option.map_some']
          congr 2
          split_ifs <;> omega
        · rw [hv2, binValue_cons]
          refine ((hv.mul_right _).add_right _).trans (congrArg (· % 2 ^ 32) ?_)
          ring
      · have hm0 : m = 0 := by omega
        subst hm0
        refine ⟨_, by rw [if_neg hi]; rfl, ?_⟩
        simp only [List.take_zero, List.takeWhile_nil, List.length_nil, zero_add, pow_one]
        refine (Nat.mod_eq_of_lt (UInt32.toNat_lt_size _)).symm.trans (hv.trans ?_)
        simp [binValue]
        rfl
    · have hc' : c ≠ '0' ∧ c ≠ '1' := ⟨fun h0 => by simp [isBinary, h0] at hc,
        fun h1 => by simp [isBinary, h1] at hc⟩
      refine ⟨value, by simp [bin2decLoop, hc', List.takeWhile_cons, hc], ?_⟩
      simp [List.takeWhile_cons, hc, binValue, Nat.mod_eq_of_lt value.toNat_lt_size]

/-! ## `dec2bin` -/

/-- `'0' + (n & 1)`: the character of the low bit of `n`. -/
def digitChar (n : UInt32) : Char := Char.ofNat ('0'.toNat + (n &&& 1).toNat)

/-- The do-while of `dec2bin`, lines 614-615 (589-590 in the 32-bit overload): each pass
stores the low bit of `n` at `--index` and shifts `n`; it stops after the pass that leaves
`n` zero.  It returns `index` after the loop and the stores in order; `fuel` bounds the
passes, and 32 are always enough (`dec2binDigits_eq`). -/
def dec2binDigits : Nat → UInt32 → UInt32 → Option (UInt32 × List (Nat × Char))
  | 0, _, _ => none
  | fuel + 1, n, index =>
    let index := index - 1
    let store := (index.toNat, digitChar n)
    if n >>> 1 = 0 then some (index, [store])
    else (dec2binDigits fuel (n >>> 1) index).map fun r => (r.1, store :: r.2)

/-- The for loop of `dec2bin`, lines 617-618: `int i = index - 1` converts the unsigned
`index - 1` to `int`, so it stores `'0'` from `index - 1` down to 0 when that is below
2^31, and nothing otherwise. -/
def dec2binFill (index : UInt32) : List (Nat × Char) :=
  if (index - 1).toNat < 2 ^ 31 then (List.range ((index - 1).toNat + 1)).reverse.map (·, '0')
  else []

/-- Every store of `dec2bin(n, bits)` in order, as offsets from `result`: the terminator at
`bits`, the digits, then the fill. -/
def dec2binStores (n bits : UInt32) : Option (List (Nat × Char)) :=
  (dec2binDigits 32 n bits).map fun r => (bits.toNat, '\x00') :: r.2 ++ dec2binFill r.1

/-- The contents of a character array after `stores`, in order, from contents `init`. -/
def storeAll (init : Nat → Char) (stores : List (Nat × Char)) : Nat → Char :=
  stores.foldl (fun buf s => Function.update buf s.1 s.2) init

/-- `std::string(result)`: the characters from `p` up to the first `'\x00'`, where `k`
characters of the array are left from `p`; `none` is a read past the array. -/
def cStringFrom (buf : Nat → Char) : Nat → Nat → Option (List Char)
  | 0, _ => none
  | k + 1, p => if buf p = '\x00' then some [] else (cStringFrom buf k (p + 1)).map (buf p :: ·)

/-- `dec2bin(uint32_t n, unsigned bits)`, lines 601-620, on a target with variable-length
arrays: `char result[bits + 1]` has `(bits + 1) mod 2^32` characters, whose contents
before the stores are `init`.  `none` is undefined behaviour: a store or the final read
outside the array. -/
def dec2bin (n bits : UInt32) (init : Nat → Char) : Option String := do
  let stores ← dec2binStores n bits
  if stores.all (·.1 < (bits + 1).toNat) then
    (cStringFrom (storeAll init stores) (bits + 1).toNat 0).map String.mk
  else none

/-- `dec2bin(uint32_t n)`, lines 586-598: the same code on `char result[33]` with
`index = 32`. -/
def dec2binWord (n : UInt32) (init : Nat → Char) : Option String := dec2bin n 32 init


/-! ## The digits of `dec2bin` -/

/-- The character of binary digit `k` of `n`. -/
def bitChar (n k : Nat) : Char := if n.testBit k then '1' else '0'

/-- The `bits` low binary digits of `n`, most significant first. -/
def binaryDigits (bits n : Nat) : List Char := (List.range bits).map fun p => bitChar n (bits - 1 - p)

theorem digitChar_eq (n : UInt32) : digitChar n = bitChar n.toNat 0 := by
  rw [digitChar, bitChar, UInt32.and_toNat, show (1 : UInt32).toNat = 1 from rfl, Nat.and_one_is_mod,
    Nat.testBit_zero]
  rcases Nat.mod_two_eq_zero_or_one n.toNat with h | h <;> rw [h] <;> rfl

theorem bitChar_shiftRight (n : UInt32) (k : Nat) :
    bitChar (n >>> 1).toNat k = bitChar n.toNat (k + 1) := by
  rw [bitChar, bitChar, show (n >>> 1).toNat = n.toNat / 2 from rfl, Nat.testBit_div_two]

theorem UInt32.sub_one_sub_ofNat (a : UInt32) (k : Nat) :
    a - 1 - UInt32.ofNat k = a - UInt32.ofNat (k + 1) := by
  apply UInt32.toNat.inj
  show (4294967296 - k % 4294967296 + (4294967295 + a.toNat) % 4294967296) % 4294967296 =
    (4294967296 - (k + 1) % 4294967296 + a.toNat) % 4294967296
  omega

/-- The do-while of `dec2bin` makes `log2 n + 1` passes; pass `k` stores digit `k` of `n`
at `index - (k + 1)`, modulo 2^32. -/
theorem dec2binDigits_eq (fuel : Nat) (n index : UInt32) (hf : Nat.log 2 n.toNat < fuel) :
    dec2binDigits fuel n index = some (index - UInt32.ofNat (Nat.log 2 n.toNat + 1),
      (List.range (Nat.log 2 n.toNat + 1)).map fun k =>
        ((index - UInt32.ofNat (k + 1)).toNat, bitChar n.toNat k)) := by
  induction fuel generalizing n index with
  | zero => omega
  | succ fuel ih =>
    have hs : (n >>> 1).toNat = n.toNat / 2 := rfl
    rw [dec2binDigits]
    by_cases h : n >>> 1 = 0
    · have hn : n.toNat < 2 := by
        have : (n >>> 1).toNat = 0 := by rw [h]; rfl
        omega
      rw [if_pos h, Nat.log_of_lt hn, digitChar_eq]
      rfl
    · have hn : 2 ≤ n.toNat := by
        have : (n >>> 1).toNat ≠ 0 := fun h0 => h (UInt32.toNat.inj h0)
        omega
      have hlog : Nat.log 2 n.toNat = Nat.log 2 (n >>> 1).toNat + 1 := by
        have := Nat.log_pos (b := 2) (by norm_num) hn
        rw [hs, Nat.log_div_base]
        omega
      rw [if_neg h, ih (n >>> 1) (index - 1) (by omega), hlog, Option.map_some']
      simp only [List.range_succ_eq_map, List.map_cons, List.map_map, Function.comp_def,
        digitChar_eq, bitChar_shiftRight, UInt32.sub_one_sub_ofNat, Nat.succ_eq_add_one]
      rfl

/-- The fill loop stores `'0'` at every index below `index`, from the top. -/
theorem dec2binFill_eq (index : UInt32) (h : index.toNat ≤ 2 ^ 31) :
    dec2binFill index = (List.range index.toNat).reverse.map (·, '0') := by
  have hi : (index - 1).toNat = (4294967295 + index.toNat) % 4294967296 := rfl
  rw [dec2binFill]
  by_cases h0 : index.toNat = 0
  · rw [if_neg (by omega), h0]
    rfl
  · rw [if_pos (by omega), show (index - 1).toNat + 1 = index.toNat by omega]

/-! ## The buffer -/

/-- The lane of one index: when every store at `p` stores `c` and the index either holds
`c` already or is stored at, the array holds `c` there after the stores. -/
theorem storeAll_eq_of_forall (init : Nat → Char) (stores : List (Nat × Char)) (p : Nat) (c : Char)
    (hall : ∀ s ∈ stores, s.1 = p → s.2 = c) (h : init p = c ∨ ∃ s ∈ stores, s.1 = p) :
    storeAll init stores p = c := by
  induction stores generalizing init with
  | nil => simpa [storeAll] using h
  | cons s ss ih =>
    refine ih (Function.update init s.1 s.2) (fun t ht => hall t (.tail _ ht)) ?_
    by_cases hs : s.1 = p
    · exact .inl (by rw [← hs, Function.update_same]; exact hall s (.head _) hs)
    · rcases h with h | ⟨t, ht, htp⟩
      · exact .inl (by rw [Function.update_noteq (Ne.symm hs)]; exact h)
      · rcases List.mem_cons.1 ht with rfl | ht
        · exact absurd htp hs
        · exact .inr ⟨t, ht, htp⟩

/-- Reading a C string: `len` characters other than `'\x00'` and then one, inside the array. -/
theorem cStringFrom_eq (buf : Nat → Char) (len : Nat) : ∀ (k p : Nat), len < k →
    (∀ q < len, buf (p + q) ≠ '\x00') → buf (p + len) = '\x00' →
    cStringFrom buf k p = some ((List.range len).map fun q => buf (p + q)) := by
  induction len with
  | zero =>
    rintro (_ | k) p hk - hz
    · omega
    · simp [cStringFrom, show buf p = '\x00' from hz]
  | succ len ih =>
    rintro (_ | k) p hk hne hz
    · omega
    · have h0 : buf p ≠ '\x00' := hne 0 (Nat.succ_pos _)
      rw [cStringFrom, if_neg h0, ih k (p + 1) (by omega) (fun q hq => by
        rw [Nat.add_right_comm]; exact hne (q + 1) (by omega)) (by rw [Nat.add_right_comm]; exact hz)]
      simp only [Option.map_some', List.range_succ_eq_map, List.map_cons, List.map_map,
        Function.comp_def, Nat.add_zero, Nat.succ_eq_add_one, Nat.add_assoc, Nat.add_comm 1]

/-! ## The value of a digit string -/

theorem binValue_append_singleton (l : List Char) (c : Char) :
    binValue (l ++ [c]) = 2 * binValue l + if c = '1' then 1 else 0 := by
  rw [binValue, List.foldl_append]
  rfl

theorem binaryDigits_succ (b n : Nat) :
    binaryDigits (b + 1) n = binaryDigits b (n / 2) ++ [bitChar n 0] := by
  rw [binaryDigits, List.range_succ, List.map_append, binaryDigits]
  congr 1
  · refine List.map_congr_left fun p hp => ?_
    rw [List.mem_range] at hp
    rw [bitChar, bitChar, Nat.testBit_div_two, show b + 1 - 1 - p = b - 1 - p + 1 by omega]
  · simp

/-- The digits of `binaryDigits b n` spell `n` modulo `2^b`. -/
theorem binValue_binaryDigits (b n : Nat) : binValue (binaryDigits b n) = n % 2 ^ b := by
  induction b generalizing n with
  | zero => simp [binaryDigits, binValue, Nat.mod_one]
  | succ b ih =>
    rw [binaryDigits_succ, binValue_append_singleton, ih, pow_succ', Nat.mod_mul, bitChar,
      Nat.testBit_zero]
    rcases Nat.mod_two_eq_zero_or_one n with h | h
    · simp [h]
    · simp [h, Nat.add_comm]

theorem bitChar_ne_nul (n k : Nat) : bitChar n k ≠ '\x00' := by
  unfold bitChar
  split <;> decide

theorem isBinary_bitChar (n k : Nat) : isBinary (bitChar n k) = true := by
  unfold bitChar
  split <;> rfl

/-! ## The round trip -/

theorem log_lt_of_lt_two_pow {n b : Nat} (hb : 1 ≤ b) (h : n < 2 ^ b) : Nat.log 2 n < b := by
  rcases Nat.eq_zero_or_pos n with rfl | hn
  · simpa using hb
  · exact Nat.log_lt_of_lt_pow hn.ne' h

theorem UInt32.toNat_sub_ofNat (a : UInt32) (k : Nat) (hk : k ≤ a.toNat) :
    (a - UInt32.ofNat k).toNat = a.toNat - k := by
  have : a.toNat < 4294967296 := a.toNat_lt_size
  show (4294967296 - k % 4294967296 + a.toNat) % 4294967296 = _
  rw [Nat.mod_eq_of_lt (by omega : k < 4294967296)]
  omega

/-- The stores of `dec2bin(n, bits)` when `n` has at most `bits` digits: the terminator at
`bits`, digit `k` at `bits - (k + 1)` for each of the `log2 n + 1` passes, then `'0'` from
the last free index down to 0. -/
theorem dec2binStores_eq (n bits : UInt32) (hK : Nat.log 2 n.toNat < bits.toNat)
    (hb' : bits.toNat ≤ 2 ^ 31) :
    dec2binStores n bits = some ((bits.toNat, '\x00') ::
      ((List.range (Nat.log 2 n.toNat + 1)).map fun k => (bits.toNat - (k + 1), bitChar n.toNat k)) ++
      (List.range (bits.toNat - (Nat.log 2 n.toNat + 1))).reverse.map (·, '0')) := by
  have h32 : Nat.log 2 n.toNat < 32 := log_lt_of_lt_two_pow (by norm_num) n.toNat_lt_size
  rw [dec2binStores, dec2binDigits_eq 32 n bits h32, Option.map_some',
    dec2binFill_eq _ (by rw [UInt32.toNat_sub_ofNat _ _ (by omega)]; omega),
    UInt32.toNat_sub_ofNat _ _ (by omega)]
  congr 3
  refine List.map_congr_left fun k hk => ?_
  rw [UInt32.toNat_sub_ofNat _ _ (by rw [List.mem_range] at hk; omega)]

/-- For `1 ≤ bits ≤ 2^31` and `n < 2^bits`, `dec2bin(n, bits)` stays inside its array and
returns the `bits` low digits of `n`, whatever the array held before. -/
theorem dec2bin_eq (n bits : UInt32) (init : Nat → Char) (hb : 1 ≤ bits.toNat)
    (hb' : bits.toNat ≤ 2 ^ 31) (hn : n.toNat < 2 ^ bits.toNat) :
    dec2bin n bits init = some ⟨binaryDigits bits.toNat n.toNat⟩ := by
  have hK := log_lt_of_lt_two_pow hb hn
  have hsz : (bits + 1).toNat = bits.toNat + 1 := by
    show (bits.toNat + 1) % 4294967296 = _
    omega
  set K := Nat.log 2 n.toNat + 1 with hKdef
  set S := (bits.toNat, '\x00') :: ((List.range K).map fun k => (bits.toNat - (k + 1), bitChar n.toNat k)) ++
      (List.range (bits.toNat - K)).reverse.map (·, '0') with hS
  have hmem : ∀ s ∈ S, s = (bits.toNat, '\x00') ∨ (∃ k < K, s = (bits.toNat - (k + 1), bitChar n.toNat k)) ∨
      ∃ i < bits.toNat - K, s = (i, '0') := by
    intro s hs
    simp only [hS, List.mem_cons, List.mem_append, List.mem_map, List.mem_range, List.mem_reverse] at hs
    rcases hs with (h | ⟨k, hk, h⟩) | ⟨i, hi, h⟩
    · exact .inl h
    · exact .inr (.inl ⟨k, hk, h.symm⟩)
    · exact .inr (.inr ⟨i, hi, h.symm⟩)
  have hdigit : ∀ p < bits.toNat, storeAll init S p = bitChar n.toNat (bits.toNat - 1 - p) := by
    intro p hp
    apply storeAll_eq_of_forall
    · intro s hs hsp
      rcases hmem s hs with rfl | ⟨k, hk, rfl⟩ | ⟨i, hi, rfl⟩
      · exact absurd hsp (by simp only; omega)
      · simp only at hsp ⊢
        rw [show bits.toNat - 1 - p = k by omega]
      · simp only at hsp ⊢
        rw [bitChar, Nat.testBit_lt_two_pow (lt_of_lt_of_le (Nat.lt_pow_succ_log_self (by norm_num) _)
          (Nat.pow_le_pow_right (by norm_num) (by omega))), if_neg Bool.false_ne_true]
    · right
      by_cases hpK : bits.toNat - K ≤ p
      · exact ⟨_, List.mem_append_left _ (List.mem_cons_of_mem _
          (List.mem_map.2 ⟨bits.toNat - 1 - p, List.mem_range.2 (by omega), rfl⟩)), by simp only; omega⟩
      · exact ⟨(p, '0'), List.mem_append_right _
          (List.mem_map.2 ⟨p, List.mem_reverse.2 (List.mem_range.2 (by omega)), rfl⟩), rfl⟩
  have hterm : storeAll init S bits.toNat = '\x00' := by
    refine storeAll_eq_of_forall _ _ _ _ (fun s hs hsp => ?_) (.inr ⟨_, List.mem_append_left _ (List.mem_cons_self _ _), rfl⟩)
    rcases hmem s hs with rfl | ⟨k, hk, rfl⟩ | ⟨i, hi, rfl⟩
    · rfl
    · exact absurd hsp (by simp only; omega)
    · exact absurd hsp (by simp only; omega)
  have hall : S.all (·.1 < (bits + 1).toNat) = true := by
    refine List.all_eq_true.2 fun s hs => ?_
    rcases hmem s hs with rfl | ⟨k, hk, rfl⟩ | ⟨i, hi, rfl⟩ <;> simp only [hsz, decide_eq_true_eq] <;> omega
  rw [dec2bin, dec2binStores_eq n bits hK hb']
  simp only [Option.bind_eq_bind, Option.some_bind]
  rw [if_pos hall, hsz, cStringFrom_eq _ bits.toNat _ 0 (by omega)
    (fun q hq => by rw [Nat.zero_add, hdigit q hq]; exact bitChar_ne_nul _ _)
    (by rw [Nat.zero_add, hterm]), Option.map_some', binaryDigits]
  congr 2
  exact List.map_congr_left fun q hq => by rw [Nat.zero_add, hdigit q (List.mem_range.1 hq)]

/-- `bin2dec` reads back the digits of `binaryDigits b n` for `n < 2^b`: `b` characters,
and the value `n`. -/
theorem bin2decString_binaryDigits (b : Nat) (n : UInt32) (hb : 1 ≤ b) (hn : n.toNat < 2 ^ b) :
    bin2decString ⟨binaryDigits b n.toNat⟩ 0 b = some (n, b) := by
  have hd : ∀ c ∈ binaryDigits b n.toNat, isBinary c = true := by
    simp only [binaryDigits, List.mem_map]
    rintro _ ⟨p, -, rfl⟩
    exact isBinary_bitChar _ _
  have hlen : (binaryDigits b n.toNat).length = b := by simp [binaryDigits]
  obtain ⟨v, hv, hval⟩ := bin2decLoop_spec b (binaryDigits b n.toNat ++ ['\x00']) 0 0 b (by omega)
    (by simp [isBinary])
  rw [List.take_left' hlen, List.takeWhile_eq_self_iff.2 hd, hlen, if_neg (lt_irrefl b)] at hv
  rw [List.take_left' hlen, List.takeWhile_eq_self_iff.2 hd, binValue_binaryDigits,
    Nat.mod_eq_of_lt hn, show (0 : UInt32).toNat = 0 from rfl, Nat.zero_mul, Nat.zero_add,
    Nat.mod_eq_of_lt (show n.toNat < 2 ^ 32 from n.toNat_lt_size)] at hval
  rw [bin2decString, bin2dec, if_pos le_rfl, Int.toNat_zero, List.drop_zero]
  exact hv.trans (by rw [UInt32.toNat.inj hval])

/-- For `1 ≤ bits < 2^31` and `n < 2^bits`, `dec2bin(n, bits)` returns the `bits` low
binary digits of `n`, most significant first, and `bin2dec(dec2bin(n, bits), 0, bits)`
reads them back as `n`; and `dec2bin(n)` returns the 32 digits of `n`, which
`bin2dec(dec2bin(n), 0, 32)` reads back as `n`. -/
theorem dec2bin_bin2dec (n bits : UInt32) (init : Nat → Char) (hb : 1 ≤ bits.toNat)
    (hb' : bits.toNat < 2 ^ 31) (hn : n.toNat < 2 ^ bits.toNat) :
    (∃ s, dec2bin n bits init = some s ∧ s.length = bits.toNat ∧
      s.toList = binaryDigits bits.toNat n.toNat ∧ bin2decString s 0 bits.toNat = some (n, bits.toNat)) ∧
    ∃ s, dec2binWord n init = some s ∧ s.length = 32 ∧ s.toList = binaryDigits 32 n.toNat ∧
      bin2decString s 0 32 = some (n, 32) :=
  ⟨⟨_, dec2bin_eq n bits init hb hb'.le hn, by simp [String.length, binaryDigits], rfl,
    bin2decString_binaryDigits _ n hb hn⟩,
   ⟨_, dec2bin_eq n 32 init (by decide) (by decide) n.toNat_lt_size, by simp [String.length, binaryDigits],
    rfl, bin2decString_binaryDigits 32 n (by norm_num) n.toNat_lt_size⟩⟩

/-- `dec2bin(5, 4)` is `"0101"`, read back as 5. -/
theorem dec2bin_bin2dec_five :
    (1 ≤ (4 : UInt32).toNat ∧ (4 : UInt32).toNat < 2 ^ 31 ∧ (5 : UInt32).toNat < 2 ^ (4 : UInt32).toNat) ∧
    ((∃ s, dec2bin 5 4 (fun _ => 'x') = some s ∧ s.length = (4 : UInt32).toNat ∧
      s.toList = binaryDigits (4 : UInt32).toNat (5 : UInt32).toNat ∧
      bin2decString s 0 (4 : UInt32).toNat = some (5, (4 : UInt32).toNat)) ∧
    ∃ s, dec2binWord 5 (fun _ => 'x') = some s ∧ s.length = 32 ∧
      s.toList = binaryDigits 32 (5 : UInt32).toNat ∧ bin2decString s 0 32 = some (5, 32)) :=
  ⟨⟨by decide, by decide, by decide⟩, dec2bin_bin2dec 5 4 _ (by decide) (by decide) (by decide)⟩

/-- Three widths at which the round trip fails.  `bits = 2^32 - 1`: the array
`result[bits + 1]` has no characters, and the terminator is stored outside it.
`bits = 2^31 + 2`: `index - 1` is `2^31` after the one pass for `n = 0`, negative as an
`int`, so the fill loop does not run and the string is read from uninitialised characters.
`bits = 2^31`: `dec2bin(1, bits)` is right, but `bits` passed as `int` is `-2^31`, so
`bin2dec` reads one digit and returns 0. -/
theorem dec2bin_wide_bits :
    dec2bin 0 4294967295 (fun _ => 'x') = none ∧
      dec2bin 0 2147483650 (fun _ => '\x00') = some "" ∧
      (dec2bin 1 2147483648 (fun _ => 'x')).map (fun s => bin2decString s 0 (-2147483648)) =
        some (some (0, 1)) := by
  refine ⟨by decide, by decide, ?_⟩
  rw [dec2bin_eq 1 2147483648 _ (by decide) (by decide) (Nat.one_lt_two_pow (by decide)),
    Option.map_some', show (2147483648 : UInt32).toNat = 2147483647 + 1 from rfl, binaryDigits,
    List.range_succ_eq_map, List.map_cons]
  rfl

/-- When `n` has more than `bits` binary digits, or `bits = 0`, the do-while of
`dec2bin(n, bits)` decrements `index` past 0 and stores digit `bits` of `n` at
`result[2^32 - 1]`, outside the array. -/
theorem dec2bin_store_outside (n bits : UInt32) (init : Nat → Char)
    (h : 2 ^ bits.toNat ≤ n.toNat ∨ bits = 0) :
    (∃ stores, dec2binStores n bits = some stores ∧
      (2 ^ 32 - 1, bitChar n.toNat bits.toNat) ∈ stores) ∧ dec2bin n bits init = none := by
  have hn : n.toNat < 2 ^ 32 := n.toNat_lt_size
  have hb : bits.toNat < 32 := by
    rcases h with h | rfl
    · by_contra hc
      have := Nat.pow_le_pow_right (show 0 < 2 by norm_num) (not_lt.1 hc)
      omega
    · decide
  have hK : bits.toNat ≤ Nat.log 2 n.toNat := by
    rcases h with h | rfl
    · exact Nat.le_log_of_pow_le (by norm_num) h
    · exact Nat.zero_le _
  obtain ⟨S, hS, hmem⟩ : ∃ S, dec2binStores n bits = some S ∧
      (2 ^ 32 - 1, bitChar n.toNat bits.toNat) ∈ S := by
    refine ⟨_, by rw [dec2binStores, dec2binDigits_eq 32 n bits (log_lt_of_lt_two_pow (by norm_num) hn),
      Option.map_some'], List.mem_append_left _ (List.mem_cons_of_mem _
        (List.mem_map.2 ⟨bits.toNat, List.mem_range.2 (by omega), ?_⟩))⟩
    have : (bits - UInt32.ofNat (bits.toNat + 1)).toNat = 2 ^ 32 - 1 := by
      show (4294967296 - (bits.toNat + 1) % 4294967296 + bits.toNat) % 4294967296 = _
      omega
    rw [this]
  refine ⟨⟨S, hS, hmem⟩, ?_⟩
  have hsz : (bits + 1).toNat = bits.toNat + 1 := by
    show (bits.toNat + 1) % 4294967296 = _
    omega
  rw [dec2bin, hS]
  simp only [Option.bind_eq_bind, Option.some_bind]
  rw [if_neg fun hall => ?_]
  have := List.all_eq_true.1 hall _ hmem
  simp only [hsz, decide_eq_true_eq] at this
  omega

/-- The call `dec2bin(flags, 7)` of `logTrace` on the `EventFlags` value 128. -/
theorem dec2bin_flags_seven :
    (2 ^ (7 : UInt32).toNat ≤ (UInt8.toUInt32 128).toNat ∨ (7 : UInt32) = 0) ∧
    ((∃ stores, dec2binStores (UInt8.toUInt32 128) 7 = some stores ∧
      (2 ^ 32 - 1, bitChar (UInt8.toUInt32 128).toNat (7 : UInt32).toNat) ∈ stores) ∧
      dec2bin (UInt8.toUInt32 128) 7 (fun _ => 'x') = none) :=
  ⟨.inl (by decide), dec2bin_store_outside _ _ _ (.inl (by decide))⟩

/-! ## What `bin2dec` reads -/

theorem takeWhile_append_nul (L : List Char) :
    (L ++ ['\x00']).takeWhile isBinary = L.takeWhile isBinary := by
  induction L with
  | nil => rfl
  | cons a L ih => by_cases ha : isBinary a <;> simp [List.takeWhile_cons, ha, ih]

/-- For `0 ≤ start ≤ len(s)`, `bin2dec(s, start, number)` reads no further than the first
character at or after `s[start]` that is not a digit, so not past the terminating `'\x00'`;
and it returns, modulo 2^32, the value of the longest run of digits that starts
`s[start, start + max(1, number))`. -/
theorem bin2dec_binary_prefix (s : String) (start number : Int) (h0 : 0 ≤ start)
    (hs : start.toNat ≤ s.length) :
    ∃ v reads, bin2decString s start number = some (v, reads) ∧
      reads ≤ ((s.toList.drop start.toNat).takeWhile isBinary).length + 1 ∧
      start.toNat + reads ≤ s.length + 1 ∧
      v.toNat = binValue (((s.toList.drop start.toNat).take (max 1 number).toNat).takeWhile isBinary) %
        2 ^ 32 := by
  set L := s.toList.drop start.toNat
  have hL : (s.toList ++ ['\x00']).drop start.toNat = L ++ ['\x00'] := List.drop_append_of_le_length hs
  have hlen : (L.takeWhile isBinary).length ≤ s.length - start.toNat :=
    ((List.takeWhile_prefix _).length_le).trans (le_of_eq (by rw [List.length_drop]; rfl))
  obtain ⟨v, hv, hval⟩ := bin2decLoop_spec number (L ++ ['\x00']) 0 0 (max 1 number).toNat
    (by simp) (by simp [isBinary])
  rw [← List.take_takeWhile, takeWhile_append_nul, List.take_takeWhile] at hv hval
  rw [← List.take_takeWhile, List.length_take] at hv
  refine ⟨v, _, by rw [bin2decString, bin2dec, if_pos h0, hL, hv], ?_, ?_, by simpa using hval⟩ <;>
    split_ifs <;> omega

/-- `bin2dec(s, 0, 2)` on `"101"`. -/
theorem bin2dec_binary_prefix_101 :
    (0 ≤ (0 : Int) ∧ (0 : Int).toNat ≤ "101".length) ∧
    ∃ v reads, bin2decString "101" 0 2 = some (v, reads) ∧
      reads ≤ (("101".toList.drop (0 : Int).toNat).takeWhile isBinary).length + 1 ∧
      (0 : Int).toNat + reads ≤ "101".length + 1 ∧
      v.toNat = binValue ((("101".toList.drop (0 : Int).toNat).take (max 1 (2 : Int)).toNat).takeWhile
        isBinary) % 2 ^ 32 :=
  ⟨⟨by decide, by decide⟩, bin2dec_binary_prefix "101" 0 2 (by decide) (by decide)⟩

/-- With `number = 0` the do-while still reads `s[start]`: on `"1"` it returns 1. -/
theorem bin2dec_number_zero : bin2decString "1" 0 0 = some (1, 1) := by decide

end XdpProfile
