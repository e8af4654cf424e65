import K2soHead.Firmware.Allowlist

/-!
# Addresses as text

What `bd_addr_to_str` writes, `sscanf_bd_addr` reads, whatever stands behind it.
-/

namespace K2soHead

/-! ## The bytes of an address -/

theorem BdAddr.length_bytes (addr : BdAddr) : addr.bytes.length = 6 := by
  rw [BdAddr.bytes, List.length_map, List.length_range]

/-- The six bytes are all of an address. -/
theorem BdAddr.ofBytes_bytes (addr : BdAddr) : BdAddr.ofBytes addr.bytes = addr := by
  have hlt : addr.toNat < 2 ^ 48 := addr.isLt
  rw [BdAddr.ofBytes, BdAddr.bytes]
  simp only [List.range, List.range.loop, List.map_cons, List.map_nil, List.foldl_cons,
    List.foldl_nil, UInt8.toNat_ofNat', Nat.shiftLeft_eq, Nat.shiftRight_eq_div_pow]
  refine BitVec.eq_of_toNat_eq ?_
  rw [BitVec.toNat_ofNat]
  omega

namespace Allowlist

/-! ## One byte -/

theorem nibbleForChar_charForNibble :
    ∀ n : Fin 16, nibbleForChar (charForNibble (UInt8.ofNat n)) = some (UInt8.ofNat n) := by
  decide

theorem nibble_lt (byte : UInt8) : (byte &&& 0x0f).toNat < 16 := by
  have hle : (byte &&& 0x0f).toNat ≤ 0x0f := by
    rw [UInt8.toNat_and]
    exact Nat.and_le_right
  omega

theorem nibbleForChar_and (byte : UInt8) :
    nibbleForChar (charForNibble (byte &&& 0x0f)) = some (byte &&& 0x0f) := by
  have h := nibbleForChar_charForNibble ⟨_, nibble_lt byte⟩
  rwa [UInt8.ofNat_toNat] at h

/-- The two nibbles are all of a byte. -/
theorem nibbles_join (byte : UInt8) :
    (((byte >>> 4) &&& 0x0f) <<< 4) ||| (byte &&& 0x0f) = byte := by
  have hlt := byte.toNat_lt
  have hmask : ∀ n : ℕ, n &&& 15 = n % 16 := fun n => Nat.and_two_pow_sub_one_eq_mod n 4
  have hhigh : (byte.toNat >>> 4 % 16) <<< 4 % 256 = 2 ^ 4 * (byte.toNat / 16) := by
    rw [Nat.shiftLeft_eq, Nat.shiftRight_eq_div_pow]
    omega
  refine UInt8.toNat_inj.mp ?_
  simp [hmask]
  rw [hhigh, ← Nat.two_pow_add_eq_or_of_lt (by omega)]
  omega

theorem scanHexByte_hexOfByte (byte : UInt8) (rest : List UInt8) :
    scanHexByte (hexOfByte byte ++ rest) = some byte := by
  have hupper : (hexOfByte byte ++ rest).getD 0 0 = charForNibble ((byte >>> 4) &&& 0x0f) := rfl
  have hlower : (hexOfByte byte ++ rest).getD 1 0 = charForNibble (byte &&& 0x0f) := rfl
  rw [scanHexByte, hupper, hlower]
  simp only [nibbleForChar_and, nibbles_join]

/-! ## A whole address -/

/-- The bytes with a delimiter between them. -/
theorem scanBytes_text (bytes : List UInt8) (hne : bytes ≠ []) (rest : List UInt8) :
    scanBytes bytes.length
      ((bytes.flatMap fun byte => hexOfByte byte ++ [0x3A]).dropLast ++ rest) = some bytes := by
  induction bytes with
  | nil => contradiction
  | cons byte bytes ih =>
    cases bytes with
    | nil =>
      have htext : ([byte].flatMap fun byte => hexOfByte byte ++ [0x3A]).dropLast =
          hexOfByte byte := by
        simp
      rw [htext, List.length_singleton, scanBytes, scanHexByte_hexOfByte]
      rfl
    | cons next bytes =>
      have htext : ((byte :: next :: bytes).flatMap fun byte => hexOfByte byte ++ [0x3A]).dropLast =
          hexOfByte byte ++ 0x3A ::
            ((next :: bytes).flatMap fun byte => hexOfByte byte ++ [0x3A]).dropLast := by
        rw [List.flatMap_cons, List.dropLast_append_of_ne_nil (by simp)]
        simp
      rw [htext, List.append_assoc, List.length_cons, scanBytes, scanHexByte_hexOfByte]
      have hdrop : ∀ text : List UInt8, (hexOfByte byte ++ text).drop 2 = text := fun _ => rfl
      simp only [hdrop]
      rw [if_pos ⟨by simp, by rfl⟩]
      change (scanBytes (next :: bytes).length _).map _ = _
      rw [List.cons_append, List.drop_one, List.tail_cons, ih (List.cons_ne_nil _ _)]
      rfl

/-- The text of an address reads back as the address. -/
theorem sscanfBdAddr_record (addr : BdAddr) (rest : List UInt8) :
    sscanfBdAddr (record addr ++ rest) = some addr := by
  have hbytes : addr.bytes ≠ [] := by
    rw [← List.length_pos_iff, addr.length_bytes]
    decide
  have hscan := scanBytes_text addr.bytes hbytes ([0x2C] ++ rest)
  rw [addr.length_bytes] at hscan
  rw [sscanfBdAddr, record, bdAddrToStr, List.append_assoc, hscan, Option.map_some,
    addr.ofBytes_bytes]

theorem length_record (addr : BdAddr) : (record addr).length = 18 := by
  have hwidth : ∀ byte : UInt8, (hexOfByte byte ++ [0x3A]).length = 3 := fun _ => rfl
  rw [record, bdAddrToStr, List.length_append, List.length_dropLast,
    Records.length_flatMap_of_width hwidth, addr.length_bytes]
  rfl

end Allowlist

end K2soHead
