import Mathlib.Data.List.Basic
import Mathlib.Logic.Function.Iterate

/-!
# Cyclic redundancy checks

A check over words of `w` bits that takes in bytes with the low bit first.  Taking in a bit is
linear in exclusive or and, if the highest bit of the polynomial is set, loses nothing; so two
messages that differ in no more than `w` bits in a row never have the same check.

- `shift_xor`, `shift_injective`: the two facts everything rests on
- `crc_eq_shifts`: a few bytes are taken in as one word
- `crc_window`: a window of at most `w` bits can be read off the check
- `crc_complement`: a message with its check behind it, inverted, always leaves the same word
-/

namespace K2soHead.Crc

variable {w : ℕ}

/-- One bit. -/
def shift (poly x : BitVec w) : BitVec w :=
  (x >>> 1) ^^^ if x.getLsbD 0 then poly else 0

/-- One byte. -/
def feed (poly x : BitVec w) (byte : BitVec 8) : BitVec w :=
  (shift poly)^[8] (x ^^^ byte.setWidth w)

def crc (poly x : BitVec w) (bytes : List (BitVec 8)) : BitVec w := bytes.foldl (feed poly) x

variable {poly : BitVec w}

theorem crc_append (x : BitVec w) (bytes more : List (BitVec 8)) :
    crc poly x (bytes ++ more) = crc poly (crc poly x bytes) more :=
  List.foldl_append

/-! ## Bits -/

theorem shift_xor (x y : BitVec w) : shift poly (x ^^^ y) = shift poly x ^^^ shift poly y := by
  refine BitVec.eq_of_getLsbD_eq fun i _ => ?_
  simp only [shift, BitVec.getLsbD_xor, BitVec.getLsbD_ushiftRight]
  cases x.getLsbD 0 <;> cases y.getLsbD 0 <;> simp <;>
    cases x.getLsbD (1 + i) <;> cases y.getLsbD (1 + i) <;> simp

theorem shifts_xor (n : ℕ) (x y : BitVec w) :
    (shift poly)^[n] (x ^^^ y) = (shift poly)^[n] x ^^^ (shift poly)^[n] y := by
  induction n generalizing x y with
  | zero => rfl
  | succ n ih =>
    rw [Function.iterate_succ_apply, Function.iterate_succ_apply, Function.iterate_succ_apply,
      shift_xor, ih]

/-- A bit that is set brings in the polynomial, and its highest bit shows. -/
theorem shift_eq_zero (hpoly : poly.getLsbD (w - 1) = true) {x : BitVec w}
    (h : shift poly x = 0) : x = 0 := by
  have hbits : ∀ i, (x.getLsbD (1 + i) ^^ (if x.getLsbD 0 then poly else 0).getLsbD i) = false := by
    intro i
    have hbit := congrArg (BitVec.getLsbD · i) h
    simpa only [shift, BitVec.getLsbD_xor, BitVec.getLsbD_ushiftRight, BitVec.getLsbD_zero,
      BitVec.ofNat_eq_ofNat] using hbit
  have hlow : x.getLsbD 0 = false := by
    by_contra hset
    have htop := hbits (w - 1)
    rw [if_pos (Bool.not_eq_false _ ▸ hset), hpoly,
      BitVec.getLsbD_of_ge x _ (by omega)] at htop
    cases htop
  refine BitVec.eq_of_getLsbD_eq fun i _ => ?_
  cases i with
  | zero => simpa using hlow
  | succ i =>
    have hbit := hbits i
    rw [hlow, if_neg Bool.false_ne_true] at hbit
    simpa [Nat.add_comm 1 i] using hbit

theorem xor_eq_zero {x y : BitVec w} : x ^^^ y = 0 ↔ x = y := by
  refine ⟨fun h => ?_, fun h => by rw [h, BitVec.xor_self]; rfl⟩
  have hxor := congrArg (· ^^^ y) h
  simpa [BitVec.xor_assoc] using hxor

theorem shift_injective (hpoly : poly.getLsbD (w - 1) = true) :
    Function.Injective (shift poly) := by
  intro x y h
  refine xor_eq_zero.mp (shift_eq_zero hpoly ?_)
  rw [shift_xor, h, BitVec.xor_self]
  rfl

theorem feed_left_injective (hpoly : poly.getLsbD (w - 1) = true) (byte : BitVec 8) :
    Function.Injective fun x => feed poly x byte := by
  intro x y h
  have hxor := (shift_injective hpoly).iterate 8 h
  have hcancel := congrArg (· ^^^ byte.setWidth w) hxor
  simpa [BitVec.xor_assoc] using hcancel

/-- What comes behind a message tells nothing away about it. -/
theorem crc_left_injective (hpoly : poly.getLsbD (w - 1) = true) (bytes : List (BitVec 8)) :
    Function.Injective fun x => crc poly x bytes := by
  induction bytes with
  | nil => exact fun _ _ h => h
  | cons byte bytes ih => exact fun _ _ h => feed_left_injective hpoly byte (ih h)

/-- As long as the low bits are clear, the word only moves down. -/
theorem shifts_of_clear {k : ℕ} {x : BitVec w} (h : ∀ i < k, x.getLsbD i = false) :
    (shift poly)^[k] x = x >>> k := by
  induction k generalizing x with
  | zero => simp
  | succ k ih =>
    have hlow : x.getLsbD 0 = false := h 0 (by omega)
    have hstep : shift poly x = x >>> 1 := by
      rw [shift, hlow, if_neg Bool.false_ne_true]
      exact BitVec.xor_zero
    rw [Function.iterate_succ_apply, hstep, ih, ← BitVec.shiftRight_add, Nat.add_comm]
    intro i hi
    rw [BitVec.getLsbD_ushiftRight]
    exact h (1 + i) (by omega)

/-! ## A few bytes at once -/

/-- The bytes as one word, the first one lowest. -/
def pack (w : ℕ) : List (BitVec 8) → BitVec w
  | [] => 0
  | byte :: bytes => byte.setWidth w ^^^ pack w bytes <<< 8

theorem getLsbD_pack_of_ge {bytes : List (BitVec 8)} {i : ℕ} (hi : 8 * bytes.length ≤ i) :
    (pack w bytes).getLsbD i = false := by
  induction bytes generalizing i with
  | nil => simp [pack]
  | cons byte bytes ih =>
    rw [List.length_cons] at hi
    simp only [pack, BitVec.getLsbD_xor, BitVec.getLsbD_setWidth, BitVec.getLsbD_shiftLeft]
    rw [BitVec.getLsbD_of_ge byte i (by omega), ih (by omega)]
    simp

/-- Bytes that fit into the word are taken in as one. -/
theorem crc_eq_shifts {bytes : List (BitVec 8)} (hfits : 8 * bytes.length ≤ w) (x : BitVec w) :
    crc poly x bytes = (shift poly)^[8 * bytes.length] (x ^^^ pack w bytes) := by
  induction bytes generalizing x with
  | nil => simp [crc, pack]
  | cons byte bytes ih =>
    rw [List.length_cons] at hfits ⊢
    have hmoved : (shift poly)^[8] (pack w bytes <<< 8) = pack w bytes := by
      rw [shifts_of_clear fun i hi => by rw [BitVec.getLsbD_shiftLeft]; simp [hi]]
      refine BitVec.eq_of_getLsbD_eq fun i hi => ?_
      rw [BitVec.getLsbD_ushiftRight, BitVec.getLsbD_shiftLeft, Nat.add_sub_cancel_left]
      by_cases htop : 8 + i < w
      · simp [htop]
      · rw [getLsbD_pack_of_ge (by omega)]
        simp
    have hfeed : feed poly x byte ^^^ pack w bytes =
        (shift poly)^[8] (x ^^^ pack w (byte :: bytes)) := by
      rw [feed, pack, ← BitVec.xor_assoc, shifts_xor _ (x ^^^ byte.setWidth w), hmoved]
    calc crc poly x (byte :: bytes)
        = crc poly (feed poly x byte) bytes := rfl
      _ = (shift poly)^[8 * bytes.length] (feed poly x byte ^^^ pack w bytes) := ih (by omega) _
      _ = (shift poly)^[8 * (bytes.length + 1)] (x ^^^ pack w (byte :: bytes)) := by
          rw [hfeed, ← Function.iterate_add_apply, Nat.mul_add]

theorem pack_injective {bytes more : List (BitVec 8)} (hlength : bytes.length = more.length)
    (hfits : 8 * bytes.length ≤ w) (h : pack w bytes = pack w more) : bytes = more := by
  induction bytes generalizing more with
  | nil => exact (List.length_eq_zero_iff.mp hlength.symm).symm
  | cons byte bytes ih =>
    cases more with
    | nil => cases hlength
    | cons other more =>
      rw [List.length_cons] at hfits
      have hlengths : bytes.length = more.length := Nat.succ.inj hlength
      have hbits : ∀ i, ((byte.setWidth w ^^^ pack w bytes <<< 8).getLsbD i) =
          (other.setWidth w ^^^ pack w more <<< 8).getLsbD i := fun i => by
        simp only [pack] at h
        rw [h]
      simp only [BitVec.getLsbD_xor, BitVec.getLsbD_setWidth, BitVec.getLsbD_shiftLeft] at hbits
      have hbyte : byte = other := by
        refine BitVec.eq_of_getLsbD_eq fun i hi => ?_
        have hbit := hbits i
        have hw : i < w := by omega
        simpa [hi, hw] using hbit
      have hrest : pack w bytes = pack w more := by
        refine BitVec.eq_of_getLsbD_eq fun i hi => ?_
        by_cases htop : 8 + i < w
        · have hbit := hbits (8 + i)
          rw [BitVec.getLsbD_of_ge byte _ (by omega), BitVec.getLsbD_of_ge other _ (by omega)] at hbit
          have hpast : ¬ 8 + i < 8 := by omega
          simpa [htop, hpast] using hbit
        · rw [getLsbD_pack_of_ge (by omega), getLsbD_pack_of_ge (by omega)]
      rw [hbyte, ih hlengths (by omega) hrest]

/-- Between the same bytes before and the same bytes behind, a window of at most `w` bits can
be read off the check. -/
theorem crc_window (hpoly : poly.getLsbD (w - 1) = true) {bytes more : List (BitVec 8)}
    (hlength : bytes.length = more.length) (hfits : 8 * bytes.length ≤ w) (x : BitVec w)
    (before behind : List (BitVec 8))
    (h : crc poly x (before ++ bytes ++ behind) = crc poly x (before ++ more ++ behind)) :
    bytes = more := by
  rw [crc_append, crc_append, crc_append, crc_append] at h
  have hwindow := crc_left_injective hpoly behind h
  generalize crc poly x before = y at hwindow
  rw [crc_eq_shifts hfits, crc_eq_shifts (by omega), ← hlength] at hwindow
  have hxor := (shift_injective hpoly).iterate _ hwindow
  have hpack := congrArg (y ^^^ ·) hxor
  simp only [← BitVec.xor_assoc, BitVec.xor_self, BitVec.zero_xor] at hpack
  exact pack_injective hlength hfits hpack


/-! ## The check behind its message -/

/-- A word in bytes, the lowest first. -/
def unpack : ℕ → BitVec w → List (BitVec 8)
  | 0, _ => []
  | n + 1, x => x.setWidth 8 :: unpack n (x >>> 8)

@[simp] theorem length_unpack (n : ℕ) (x : BitVec w) : (unpack n x).length = n := by
  induction n generalizing x with
  | zero => rfl
  | succ n ih => rw [unpack, List.length_cons, ih]

theorem getLsbD_pack_unpack (n : ℕ) (x : BitVec w) (i : ℕ) :
    (pack w (unpack n x)).getLsbD i = (decide (i < 8 * n) && x.getLsbD i) := by
  induction n generalizing x i with
  | zero => simp [unpack, pack]
  | succ n ih =>
    simp only [unpack, pack, BitVec.getLsbD_xor, BitVec.getLsbD_setWidth, BitVec.getLsbD_shiftLeft,
      ih, BitVec.getLsbD_ushiftRight]
    by_cases hw : i < w
    · by_cases hlow : i < 8
      · have hin : i < 8 * (n + 1) := by omega
        simp [hw, hlow, hin]
      · have hmove : 8 + (i - 8) = i := by omega
        have hin : i - 8 < 8 * n ↔ i < 8 * (n + 1) := by omega
        simp [hw, hlow, hmove, hin]
    · rw [BitVec.getLsbD_of_ge x i (by omega)]
      simp [hw]

theorem pack_unpack {n : ℕ} (hn : 8 * n = w) (x : BitVec w) : pack w (unpack n x) = x := by
  refine BitVec.eq_of_getLsbD_eq fun i hi => ?_
  rw [getLsbD_pack_unpack]
  simp [hn, hi]

theorem crc_complement {n : ℕ} (hn : 8 * n = w) (x : BitVec w) (bytes : List (BitVec 8)) :
    crc poly x (bytes ++ unpack n (~~~(crc poly x bytes))) =
      (shift poly)^[w] (BitVec.allOnes w) := by
  have hones : ∀ y : BitVec w, y ^^^ ~~~y = BitVec.allOnes w := fun y =>
    BitVec.eq_of_getLsbD_eq fun i hi => by simp [hi]
  rw [crc_append, crc_eq_shifts (by rw [length_unpack]; omega), length_unpack, pack_unpack hn, hn,
    hones]

end K2soHead.Crc
