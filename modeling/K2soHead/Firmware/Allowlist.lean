import K2soHead.Firmware.ArduinoPlatform
import K2soHead.Library.Records
import K2soHead.Library.Slots

/-!
# `uni_bt_allowlist.c`

The addresses that may connect, and their copy in flash: a text of addresses, each with a
comma behind it.  The text is written after every change and read back at boot, by the same
call that adds an address from the console, so that it is also written while it is read.
Texts are lists of characters without the final zero.
-/

namespace K2soHead

/-- `CONFIG_BLUEPAD32_MAX_ALLOWLIST`. -/
def MAX_ALLOWLIST : ℕ := 4

/-- `PROPERTY_STRING_MAX_LEN`. -/
def PROPERTY_STRING_MAX_LEN : ℕ := 128

/-! ## Addresses as text: `btstack_util.c` -/

/-- The six bytes of an address, the first one first. -/
def BdAddr.bytes (addr : BdAddr) : List UInt8 :=
  (List.range 6).map fun i => UInt8.ofNat (addr.toNat >>> (8 * (5 - i)))

def BdAddr.ofBytes (bytes : List UInt8) : BdAddr :=
  BitVec.ofNat 48 (bytes.foldl (fun acc b => acc <<< 8 + b.toNat) 0)

namespace Allowlist

/-- `"0123456789ABCDEF"`, and `'?'` for what is no nibble. -/
def charForNibble (nibble : UInt8) : UInt8 :=
  [0x30, 0x31, 0x32, 0x33, 0x34, 0x35, 0x36, 0x37, 0x38, 0x39,
    0x41, 0x42, 0x43, 0x44, 0x45, 0x46].getD nibble.toNat 0x3F

def nibbleForChar (c : UInt8) : Option UInt8 :=
  if 0x30 ≤ c ∧ c ≤ 0x39 then some (c - 0x30)
  else if 0x61 ≤ c ∧ c ≤ 0x66 then some (c - 0x61 + 10)
  else if 0x41 ≤ c ∧ c ≤ 0x46 then some (c - 0x41 + 10)
  else none

def hexOfByte (byte : UInt8) : List UInt8 :=
  [charForNibble ((byte >>> 4) &&& 0x0f), charForNibble (byte &&& 0x0f)]

/-- `bd_addr_to_str`; the zero at the end takes the place of the last delimiter. -/
def bdAddrToStr (addr : BdAddr) : List UInt8 :=
  (addr.bytes.flatMap fun byte => hexOfByte byte ++ [0x3A]).dropLast

/-- `scan_hex_byte`; past the text stands a zero, which is no digit. -/
def scanHexByte (text : List UInt8) : Option UInt8 :=
  match nibbleForChar (text.getD 0 0) with
  | none => none
  | some upper =>
      match nibbleForChar (text.getD 1 0) with
      | none => none
      | some lower => some ((upper <<< 4) ||| lower)

/-- `':'`, `'-'` or `' '`. -/
def isSeparator (c : UInt8) : Bool := c = 0x3A ∨ c = 0x2D ∨ c = 0x20

/-- The loop of `sscanf_bd_addr`, with `n` bytes to go. -/
def scanBytes : ℕ → List UInt8 → Option (List UInt8)
  | 0, _ => some []
  | n + 1, text =>
      match scanHexByte text with
      | none => none
      | some byte =>
          let text := text.drop 2
          -- no separator is looked for behind the last byte
          let text := if n ≠ 0 ∧ isSeparator (text.getD 0 0) = true then text.drop 1 else text
          (scanBytes n text).map (byte :: ·)

def sscanfBdAddr (text : List UInt8) : Option BdAddr := (scanBytes 6 text).map BdAddr.ofBytes

end Allowlist

/-! ## The list -/

/-- The two properties in flash; `none` if never stored. -/
structure AllowlistProperties where
  enabled : Option UInt8 := none
  list : Option (List UInt8) := none

/-- The statics of `uni_bt_allowlist.c`, and the flash behind them. -/
structure Allowlist where
  addrAllowList : Fin MAX_ALLOWLIST → BdAddr := fun _ => 0
  enforced : Bool := false
  properties : AllowlistProperties := {}

namespace Allowlist

/-- An address and the comma behind it. -/
def record (addr : BdAddr) : List UInt8 := bdAddrToStr addr ++ [0x2C]

/-- The text that `update_allowlist_to_property` puts together; zero addresses are skipped. -/
def listText (addrs : Fin MAX_ALLOWLIST → BdAddr) : List UInt8 :=
  (Slots.entries 0 addrs).flatMap record

def updateAllowlistToProperty (a : Allowlist) : Allowlist :=
  { a with properties := { a.properties with list := some (listText a.addrAllowList) } }

def isAddressInAllowlist (addr : BdAddr) (a : Allowlist) : Bool :=
  (List.finRange MAX_ALLOWLIST).any fun i => addr = a.addrAllowList i

def isAllowedAddr (addr : BdAddr) (a : Allowlist) : Bool :=
  if a.enforced then isAddressInAllowlist addr a else true

def addAddr (addr : BdAddr) (a : Allowlist) : Allowlist × Bool :=
  if isAddressInAllowlist addr a then (a, false)
  else
    match Slots.first a.addrAllowList 0 with
    | none => (a, false)
    | some i =>
        (updateAllowlistToProperty
          { a with addrAllowList := Function.update a.addrAllowList i addr }, true)

def removeAddr (addr : BdAddr) (a : Allowlist) : Allowlist × Bool :=
  match Slots.first a.addrAllowList addr with
  | none => (a, false)
  | some i =>
      (updateAllowlistToProperty
        { a with addrAllowList := Function.update a.addrAllowList i 0 }, true)

def removeAll (a : Allowlist) : Allowlist :=
  updateAllowlistToProperty { a with addrAllowList := fun _ => 0 }

def setEnabled (enabled : Bool) (a : Allowlist) : Allowlist :=
  if enabled = a.enforced then a
  else
    { a with
      enforced := enabled
      properties := { a.properties with enabled := some enabled.toUInt8 } }

/-- `uni_property_get` of the list: a text that does not fit reads as the default, `NULL`. -/
def listProperty (a : Allowlist) : Option (List UInt8) :=
  a.properties.list.filter fun text => text.length + 1 ≤ PROPERTY_STRING_MAX_LEN - 1

/-- `update_allowlist_from_property`, for at most `n` addresses of the text. -/
def updateAllowlistFromProperty (n : ℕ) (a : Allowlist) : Allowlist :=
  match a.listProperty with
  | none => a
  | some text => Records.read 18 sscanfBdAddr (fun a addr => (addAddr addr a).1) n text a

/-- `uni_bt_allowlist_init` up to the `n`-th address. -/
def initUpTo (n : ℕ) (a : Allowlist) : Allowlist :=
  { a with enforced := a.properties.enabled.getD 0 != 0 }.updateAllowlistFromProperty n

/-- A reset clears the memory, and boot reads what is in flash.  An address takes 18
characters, so the text has fewer of them than characters. -/
def reboot (a : Allowlist) : Allowlist :=
  { properties := a.properties : Allowlist }.initUpTo ((a.listProperty.getD []).length)

/-- The power fails while boot has `n` addresses back. -/
def cutBoot (n : ℕ) (a : Allowlist) : Allowlist :=
  { properties := a.properties : Allowlist }.initUpTo n

/-- What the console, the service over BLE and the power switch can do. -/
inductive Event where
  | add (addr : BdAddr)
  | remove (addr : BdAddr)
  | removeAll
  | setEnabled (enabled : Bool)
  | reboot
  | cutBoot (n : ℕ)

def step (a : Allowlist) : Event → Allowlist
  | .add addr => (a.addAddr addr).1
  | .remove addr => (a.removeAddr addr).1
  | .removeAll => a.removeAll
  | .setEnabled enabled => a.setEnabled enabled
  | .reboot => a.reboot
  | .cutBoot n => (a.cutBoot n).reboot

end Allowlist

end K2soHead
