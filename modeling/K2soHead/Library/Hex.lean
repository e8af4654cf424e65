import Mathlib.Data.Fintype.Basic
import Mathlib.Data.Fin.Basic
import Mathlib.Data.UInt

/-!
# Hexadecimal notation

Two digits a byte, the high half first, letters in either case and mixed as they come.

- `Denotes digits bytes`: the digits are a notation of the bytes
- `encode letter bytes`: the notation with all letters in one case
- `exists_denotes`: any even number of digits denotes something
-/

namespace K2soHead.Hex

/-- `'a'` -/
def lower : UInt8 := 0x61

/-- `'A'` -/
def upper : UInt8 := 0x41

/-- The digit of value `n`, with ten written as `letter`. -/
def digit (letter : UInt8) (n : Fin 16) : UInt8 :=
  if n.val < 10 then 0x30 + UInt8.ofNat n else letter + UInt8.ofNat (n - 10)

/-- `c` is the digit of value `n`, in one case or the other. -/
def HasValue (c : UInt8) (n : Fin 16) : Prop := c = digit lower n ∨ c = digit upper n

def IsDigit (c : UInt8) : Prop := ∃ n, HasValue c n

instance (c : UInt8) (n : Fin 16) : Decidable (HasValue c n) :=
  inferInstanceAs (Decidable (_ ∨ _))

instance (c : UInt8) : Decidable (IsDigit c) := inferInstanceAs (Decidable (∃ n, HasValue c n))

/-- The digits are a notation of the bytes. -/
inductive Denotes : List UInt8 → List UInt8 → Prop where
  | nil : Denotes [] []
  | cons {hi lo v : UInt8} {m n : Fin 16} {digits bytes : List UInt8} (hhi : HasValue hi m)
      (hlo : HasValue lo n) (hv : v.toNat = 16 * m + n) (hrest : Denotes digits bytes) :
      Denotes (hi :: lo :: digits) (v :: bytes)

def highHalf (v : UInt8) : Fin 16 := ⟨v.toNat / 16, by have := v.toNat_lt; omega⟩

def lowHalf (v : UInt8) : Fin 16 := ⟨v.toNat % 16, by omega⟩

/-- The notation of the bytes with all letters counted from `letter`. -/
def encode (letter : UInt8) : List UInt8 → List UInt8
  | [] => []
  | v :: bytes => digit letter (highHalf v) :: digit letter (lowHalf v) :: encode letter bytes

theorem hasValue_digit {letter : UInt8} (hcase : letter = lower ∨ letter = upper) (n : Fin 16) :
    HasValue (digit letter n) n := by
  rcases hcase with rfl | rfl
  · exact .inl rfl
  · exact .inr rfl

theorem denotes_encode {letter : UInt8} (hcase : letter = lower ∨ letter = upper)
    (bytes : List UInt8) : Denotes (encode letter bytes) bytes := by
  induction bytes with
  | nil => exact .nil
  | cons v bytes ih =>
    have hhalves : v.toNat = 16 * (v.toNat / 16) + v.toNat % 16 := by omega
    exact .cons (hasValue_digit hcase _) (hasValue_digit hcase _) hhalves ih

theorem Denotes.length_eq {digits bytes : List UInt8} (h : Denotes digits bytes) :
    digits.length = 2 * bytes.length := by
  induction h with
  | nil => rfl
  | cons _ _ _ _ ih =>
    rw [List.length_cons, List.length_cons, List.length_cons, ih]
    omega

theorem Denotes.isDigit {digits bytes : List UInt8} (h : Denotes digits bytes) :
    ∀ c ∈ digits, IsDigit c := by
  induction h with
  | nil => simp
  | cons hhi hlo _ _ ih =>
    simp only [List.mem_cons, forall_eq_or_imp]
    exact ⟨⟨_, hhi⟩, ⟨_, hlo⟩, ih⟩

/-- Two digits for each of `n` bytes denote something. -/
theorem exists_denotes {n : ℕ} {digits : List UInt8} (hlength : digits.length = 2 * n)
    (h : ∀ c ∈ digits, IsDigit c) : ∃ bytes, Denotes digits bytes := by
  induction n generalizing digits with
  | zero =>
    obtain rfl := List.eq_nil_of_length_eq_zero hlength
    exact ⟨[], .nil⟩
  | succ n ih =>
    obtain ⟨hi, rest, rfl⟩ := List.exists_of_length_succ digits hlength
    rw [List.length_cons] at hlength
    obtain ⟨lo, rest, rfl⟩ := List.exists_of_length_succ rest (by omega : rest.length = 2 * n + 1)
    rw [List.length_cons] at hlength
    simp only [List.mem_cons, forall_eq_or_imp] at h
    obtain ⟨⟨m, hhi⟩, ⟨k, hlo⟩, hrest⟩ := h
    obtain ⟨bytes, hbytes⟩ := ih (by omega) hrest
    have hbyte : 16 * m.val + k.val < 256 := by omega
    refine ⟨UInt8.ofNat (16 * m + k) :: bytes, .cons hhi hlo ?_ hbytes⟩
    rw [UInt8.toNat_ofNat', Nat.mod_eq_of_lt hbyte]

end K2soHead.Hex
