import K2soHead.Library.Checksums
import K2soHead.Properties.PlayerPackets
import Mathlib.Tactic.IntervalCases

/-!
# The player's packets as a checked code

`receive` is a listener that looks at start, length, end and the sum before it believes a
packet.  The sum of a packet is a weighted checksum in which the high checksum byte counts
256 times and every other byte once, which is what detects every single corrupted byte.
-/

namespace K2soHead.AudioPlayer

open Checksums

/-! ## A listener that checks -/

/-- A 16-bit word, high byte first. -/
def word (hi lo : UInt8) : UInt16 := hi.toUInt16 * 256 + lo.toUInt16

/-- Bytes 1..6 and the checksum in bytes 7 and 8, added up in 16 bits. -/
def residue (bytes : List UInt8) : UInt16 :=
  (((bytes.drop 1).take 6).map UInt8.toUInt16).sum + word (bytes.getD 7 0) (bytes.getD 8 0)

def receive : List UInt8 → Option (UInt8 × UInt16)
  | [start, version, length, cmd, ack, hi, lo, ckHi, ckLo, stop] =>
      if start = 0x7E ∧ length = 0x06 ∧ stop = 0xEF ∧
          residue [start, version, length, cmd, ack, hi, lo, ckHi, ckLo, stop] = 0 then
        some (cmd, word hi lo)
      else
        none
  | _ => none

/-- How often each byte counts in the sum; start and end do not. -/
def weights : List ℕ := [0, 1, 1, 1, 1, 1, 1, 256, 1]

theorem toNat_word (hi lo : UInt8) : (word hi lo).toNat = 256 * hi.toNat + lo.toNat := by
  have := hi.toNat_lt
  have := lo.toNat_lt
  simp only [word, UInt16.toNat_add, UInt16.toNat_mul, UInt8.toNat_toUInt16, UInt16.toNat_ofNat]
  omega

/-- The sum over ten bytes is the weighted checksum. -/
theorem residue_eq_zero_iff {bytes : List UInt8} (hlength : bytes.length = 10) :
    residue bytes = 0 ↔ Passes (2 ^ 16) weights (bytes.map UInt8.toNat) := by
  match bytes, hlength with
  | [b₀, b₁, b₂, b₃, b₄, b₅, b₆, b₇, b₈, b₉], _ =>
    rw [← UInt16.toNat_inj]
    simp [residue, Passes, weights, weigh, toNat_word]
    omega

/-! ## What `sendCommand` builds -/

theorem word_bytes (v : UInt16) : word (v >>> 8).toUInt8 v.toUInt8 = v :=
  Option.some.inj (param?_packet 0 v)

/-- The ten bytes, with the parameter high byte first. -/
theorem packet_frame (cmd : UInt8) (param : UInt16) :
    ∃ hi lo ckHi ckLo,
      packet cmd param = [0x7E, 0xFF, 0x06, cmd, 0x00, hi, lo, ckHi, ckLo, 0xEF] ∧
        word hi lo = param := by
  refine ⟨_, _, _, _, rfl, ?_⟩
  exact word_bytes param

/-- The checksum makes up for the sum of the addressed bytes. -/
@[simp] theorem residue_packet (cmd : UInt8) (param : UInt16) : residue (packet cmd param) = 0 := by
  let addressed : List UInt8 := [0xFF, 0x06, cmd, 0x00, (param >>> 8).toUInt8, param.toUInt8]
  have hsum : residue (packet cmd param) = (addressed.map UInt8.toUInt16).sum +
      word (checksum addressed >>> 8).toUInt8 (checksum addressed).toUInt8 := rfl
  rw [hsum, word_bytes, checksum, UInt16.zero_sub, UInt16.add_right_neg]

@[simp] theorem receive_packet (cmd : UInt8) (param : UInt16) :
    receive (packet cmd param) = some (cmd, param) := by
  have haccepted : receive (packet cmd param) =
      some (cmd, word (param >>> 8).toUInt8 param.toUInt8) :=
    if_pos ⟨rfl, rfl, rfl, residue_packet cmd param⟩
  rw [haccepted, word_bytes]

/-- Command and parameter can be read off a packet, so no two pairs share one. -/
theorem packet_injective {cmd cmd' : UInt8} {param param' : UInt16}
    (h : packet cmd param = packet cmd' param') : cmd = cmd' ∧ param = param' := by
  have hreceived : some (cmd, param) = some (cmd', param') := by
    rw [← receive_packet, h, receive_packet]
  exact Prod.mk.injEq .. ▸ Option.some.inj hreceived

/-! ## Corrupted packets -/

/-- Ten bytes with the right sum no longer have it once one of bytes 1..8 is replaced. -/
theorem residue_set_ne {bytes : List UInt8} (hlength : bytes.length = 10)
    (hsum : residue bytes = 0) {k : ℕ} (hfirst : 1 ≤ k) (hlast : k ≤ 8) {v : UInt8}
    (hne : bytes[k]? ≠ some v) : residue (bytes.set k v) ≠ 0 := by
  have hk : k < bytes.length := by omega
  have hweight : ∃ w, weights[k]? = some w ∧ 0 < w ∧ w * (2 ^ 8 - 1) < 2 ^ 16 := by
    interval_cases k <;> exact ⟨_, rfl, by decide, by decide⟩
  obtain ⟨w, hw, hpos, hsmall⟩ := hweight
  rw [Ne, residue_eq_zero_iff (by rwa [List.length_set]), List.map_set]
  have hsymbol : (bytes.map UInt8.toNat)[k]? = some bytes[k].toNat := by
    rw [List.getElem?_map, List.getElem?_eq_getElem hk]
    rfl
  have hpasses := (residue_eq_zero_iff hlength).mp hsum
  have hother : v.toNat ≠ bytes[k].toNat := by
    intro hsame
    rw [List.getElem?_eq_getElem hk, UInt8.toNat_inj.mp hsame] at hne
    exact hne rfl
  exact not_passes_set hw hsymbol hpos hsmall bytes[k].toNat_lt v.toNat_lt hother hpasses

/-- What `sendCommand` writes is a frame whose sum is right, from which a checking listener
recovers exactly this command and parameter, and in which no single corrupted byte between
start and end goes unnoticed. -/
theorem sendCommand_checked_codec (cmd : UInt8) (param : UInt16) :
    (∀ a, (sendCommand cmd param a).serial = a.serial ++ [packet cmd param]) ∧
      (∃ hi lo ckHi ckLo,
        packet cmd param = [0x7E, 0xFF, 0x06, cmd, 0x00, hi, lo, ckHi, ckLo, 0xEF] ∧
          word hi lo = param) ∧
      residue (packet cmd param) = 0 ∧
      receive (packet cmd param) = some (cmd, param) ∧
      (∀ cmd' param', (cmd', param') ≠ (cmd, param) → packet cmd' param' ≠ packet cmd param) ∧
      ∀ k v, 1 ≤ k → k ≤ 8 → (packet cmd param)[k]? ≠ some v →
        residue ((packet cmd param).set k v) ≠ 0 := by
  refine ⟨fun _ => rfl, packet_frame cmd param, residue_packet cmd param,
    receive_packet cmd param, ?_, ?_⟩
  · intro cmd' param' hne hsame
    obtain ⟨rfl, rfl⟩ := packet_injective hsame
    exact hne rfl
  · intro k v hfirst hlast hne
    exact residue_set_ne rfl (residue_packet cmd param) hfirst hlast hne

/-- Volume 20 on the wire, and what becomes of it when the low byte arrives as 21. -/
theorem volume_packet_corrupted :
    packet kCmdSetVolume 20 = [0x7E, 0xFF, 0x06, 0x06, 0x00, 0x00, 0x14, 0xFE, 0xE1, 0xEF] ∧
      residue ((packet kCmdSetVolume 20).set 6 21) ≠ 0 ∧
      packet kCmdStop 20 ≠ packet kCmdSetVolume 20 := by
  obtain ⟨-, -, -, -, hinjective, hdetected⟩ := sendCommand_checked_codec kCmdSetVolume 20
  exact ⟨by decide, hdetected 6 21 (by decide) (by decide) (by decide),
    hinjective kCmdStop 20 (by decide)⟩

end K2soHead.AudioPlayer
