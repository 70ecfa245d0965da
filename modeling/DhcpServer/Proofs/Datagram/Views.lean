import DhcpServer.Packet.Edit
import DhcpServer.Proofs.LastWritten
import Mathlib.Data.Fin.Basic
import Mathlib.Data.Nat.Bitwise
import Mathlib.Data.Nat.Digits.Defs

/-!
# What can be seen of a packet

`View` lists what can be asked of a packet: the fields of its header, the flags bit by
bit, and its options as octets, as numbers and as addresses.  A change writes some of
this and leaves the rest alone: `View.written?` says what it writes, so that a view shows
what was written to it last (`View.look_edits`).

Views share what they look at.  The bit that asks for broadcast answers is one of the
flags, the hardware address and its length are written together, and the kind of message
is an option like any other.
-/

namespace DhcpServer

/-! ## Numbers in octets -/

/-- The number that octets write, the most significant first. -/
def Bytes.number (bs : Bytes) : Nat := Nat.ofDigits 256 (bs.map UInt8.toNat).reverse

namespace BigEndian

theorem number_encode16 (w : UInt16) : Bytes.number (encode16 w) = w.toNat := by
  rw [Bytes.number, toNat_encode16]
  simp only [List.reverse_cons, List.reverse_nil, List.nil_append, List.cons_append,
    Nat.ofDigits_cons, Nat.ofDigits_nil]
  omega

theorem number_encode32 (w : UInt32) : Bytes.number (encode32 w) = w.toNat := by
  rw [Bytes.number, toNat_encode32]
  simp only [List.reverse_cons, List.reverse_nil, List.nil_append, List.cons_append,
    Nat.ofDigits_cons, Nat.ofDigits_nil]
  omega

/-- The double word that octets write, if there are four of them. -/
theorem exactly32?_eq (bs : Bytes) :
    exactly32? bs = if bs.length = 4 then some (UInt32.ofNat (Bytes.number bs)) else none := by
  rcases bs with _ | ⟨a, _ | ⟨b, _ | ⟨c, _ | ⟨d, _ | ⟨e, rest⟩⟩⟩⟩⟩
  · rfl
  · rfl
  · rfl
  · rfl
  · have hnumber : Bytes.number [a, b, c, d] =
        a.toNat * 0x1000000 + b.toNat * 0x10000 + c.toNat * 0x100 + d.toNat := by
      simp only [Bytes.number, List.map_cons, List.map_nil, List.reverse_cons, List.reverse_nil,
        List.nil_append, List.cons_append, Nat.ofDigits_cons, Nat.ofDigits_nil]
      omega
    show some (decode32 a b c d) = some (UInt32.ofNat (Bytes.number [a, b, c, d]))
    rw [hnumber]
    rfl
  · rw [if_neg (by simp)]
    rfl

end BigEndian

/-! ## Flags -/

namespace Flags

variable (f : Flags)

theorem broadcast_eq_testBit : f.broadcast = f.high.toNat.testBit 7 := by
  have hand : (f.high &&& 0x80).toNat = (f.high.toNat.testBit 7).toNat * 2 ^ 7 := by
    rw [UInt8.toNat_and]
    exact Nat.and_two_pow _ 7
  rw [broadcast, bne, Bool.eq_iff_iff, Bool.not_eq_true', beq_eq_false_iff_ne, ne_eq,
    ← UInt8.toNat_inj, hand]
  cases f.high.toNat.testBit 7 <;> decide

/-- Only the bit for broadcast answers is set or taken back. -/
theorem testBit_setBroadcast (on : Bool) (bit : Fin 8) :
    (f.setBroadcast on).high.toNat.testBit bit =
      if bit = 7 then on else f.high.toNat.testBit bit := by
  cases on with
  | true =>
      have hmask : (0x80 : Nat).testBit bit = decide (bit = 7) := by
        revert bit
        decide
      show (f.high ||| 0x80).toNat.testBit bit = _
      rw [UInt8.toNat_or, Nat.testBit_or]
      show (f.high.toNat.testBit bit || (0x80 : Nat).testBit bit) = _
      rw [hmask]
      by_cases h : bit = 7 <;> simp [h]
  | false =>
      have hmask : (0x7f : Nat).testBit bit = decide (bit ≠ 7) := by
        revert bit
        decide
      show (f.high &&& 0x7f).toNat.testBit bit = _
      rw [UInt8.toNat_and, Nat.testBit_and]
      show (f.high.toNat.testBit bit && (0x7f : Nat).testBit bit) = _
      rw [hmask]
      by_cases h : bit = 7 <;> simp [h]

end Flags

/-- Of a hardware address sixteen octets are kept, and all of these count. -/
theorem Header.hardwareAddress_setHardwareAddress (h : Header) (address : Bytes) :
    (h.setHardwareAddress address).hardwareAddress = address.take 16 := by
  show (address.take 16 ++ List.replicate (16 - address.length) 0).take (min address.length 16) = _
  rw [List.take_left' (by rw [List.length_take, Nat.min_comm])]

namespace Packet

/-! ## Views -/

/-- What can be asked of a packet. -/
inductive View where
  | op
  | htype
  | hlen
  | hops
  | xid
  | secs
  | broadcast
  /-- A bit of the first octet of the flags. -/
  | flag (bit : Fin 8)
  | secondFlags
  | ciaddr
  | yiaddr
  | siaddr
  | giaddr
  | hardwareAddress
  | sname
  | file
  | messageType
  | option (code : UInt8)
  | hasOption (code : UInt8)
  | optionWord (code : UInt8)
  | optionAddress (code : UInt8)

namespace View

def Value : View → Type
  | op | htype | hops | secondFlags | messageType => UInt8
  | hlen => Nat
  | xid => UInt32
  | secs => UInt16
  | broadcast | flag _ | hasOption _ => Bool
  | ciaddr | yiaddr | siaddr | giaddr => Ipv4
  | hardwareAddress | sname | file => Bytes
  | option _ => Option Bytes
  | optionWord _ => Option UInt32
  | optionAddress _ => Option Ipv4

def look : (v : View) → Packet → v.Value
  | op, p => p.header.op
  | htype, p => p.header.htype
  | hlen, p => (p.header.hlen : Nat)
  | hops, p => p.header.hops
  | xid, p => p.header.xid
  | secs, p => p.header.secs
  | broadcast, p => p.header.flags.broadcast
  | flag bit, p => p.header.flags.high.toNat.testBit bit
  | secondFlags, p => p.header.flags.low
  | ciaddr, p => p.header.ciaddr
  | yiaddr, p => p.header.yiaddr
  | siaddr, p => p.header.siaddr
  | giaddr, p => p.header.giaddr
  | hardwareAddress, p => p.header.hardwareAddress
  | sname, p => p.header.sname.text
  | file, p => p.header.file.text
  | messageType, p => p.messageType
  | option code, p => p.option? code
  | hasOption code, p => p.options.contains code
  | optionWord code, p => p.optionWord? code
  | optionAddress code, p => p.optionAddress? code

end View

/-! ## What a change writes -/

/-- What a change writes to the entry of an option, which may be that there is none. -/
def Edit.entry? (code : UInt8) : Edit → Option (Option Bytes)
  | .setMessageType kind => if code = 53 then some (some [kind]) else none
  | .setOption c value => if code = c then some (some value) else none
  | .setOptionWord c w => if code = c then some (some (BigEndian.encode32 w)) else none
  | .setOptionAddress c a => if code = c then some (some (BigEndian.encode32 a.word)) else none
  | .deleteOption c => if code = c then some none else none
  | _ => none

/-- The kind of message that an entry says. -/
def kindIn : Option Bytes → UInt8
  | some [kind] => kind
  | _ => 0

/-- The number that an entry writes, if it has four octets. -/
def wordIn (entry : Option Bytes) : Option UInt32 :=
  entry.bind fun value =>
    if value.length = 4 then some (UInt32.ofNat (Bytes.number value)) else none

/-- What a change writes that a view shows, if it writes any of that. -/
def View.written? : (v : View) → Edit → Option v.Value
  | htype, .setHtype value => some value
  | hlen, .setHardwareAddress address => some (min address.length 16 : Nat)
  | hops, .setHops value => some value
  | xid, .setXid value => some value
  | secs, .setSecs value => some value
  | broadcast, .setFlags flags => some (flags.high.toNat.testBit 7)
  | broadcast, .setBroadcast on => some on
  | flag bit, .setFlags flags => some (flags.high.toNat.testBit bit)
  | flag bit, .setBroadcast on => if bit = 7 then some on else none
  | secondFlags, .setFlags flags => some flags.low
  | ciaddr, .setCiaddr address => some address
  | yiaddr, .setYiaddr address => some address
  | siaddr, .setSiaddr address => some address
  | giaddr, .setGiaddr address => some address
  | hardwareAddress, .setHardwareAddress address => some (address.take 16)
  | messageType, .setMessageType kind => some kind
  | messageType, e => (e.entry? 53).map kindIn
  | option code, e => e.entry? code
  | hasOption code, e => (e.entry? code).map Option.isSome
  | optionWord code, .setOptionWord c w => if code = c then some (some w) else none
  | optionWord code, .setOptionAddress c a => if code = c then some (some a.word) else none
  | optionWord code, e => (e.entry? code).map wordIn
  | optionAddress code, .setOptionWord c w => if code = c then some (some ⟨w⟩) else none
  | optionAddress code, .setOptionAddress c a => if code = c then some (some a) else none
  | optionAddress code, e => (e.entry? code).map fun entry => (wordIn entry).map Ipv4.mk
  | _, _ => none

/-! ## What is written last is seen -/

theorem option?_edit (p : Packet) {e : Edit} (h : e ≠ .passOverWire) (code : UInt8) :
    (p.edit e).option? code = (e.entry? code).getD (p.option? code) := by
  have hinsert : ∀ c value, (p.options.insert c value).get? code =
      (if code = c then some (some value) else none).getD (p.option? code) := by
    intro c value
    rw [OptionMap.get?_insert]
    split <;> rfl
  cases e with
  | setMessageType kind => exact hinsert 53 [kind]
  | setOption c value => exact hinsert c value
  | setOptionWord c w => exact hinsert c _
  | setOptionAddress c a => exact hinsert c _
  | deleteOption c =>
      show (p.options.erase c).get? code = (if code = c then some none else none).getD _
      rw [OptionMap.get?_erase]
      split <;> rfl
  | passOverWire => exact absurd rfl h
  | _ => rfl

theorem messageType_eq (p : Packet) : p.messageType = kindIn (p.option? 53) := rfl

theorem optionWord?_eq (p : Packet) (code : UInt8) : p.optionWord? code = wordIn (p.option? code) :=
  congrArg (p.option? code).bind (funext BigEndian.exactly32?_eq)

theorem wordIn_encode32 (w : UInt32) : wordIn (some (BigEndian.encode32 w)) = some w := by
  rw [wordIn, Option.bind_some, ← BigEndian.exactly32?_eq, BigEndian.exactly32?_encode32]

namespace View

/-! What is written to a number or an address in an option is an entry that is read as
just that. -/

theorem written?_messageType (e : Edit) :
    messageType.written? e = (e.entry? 53).map kindIn := by
  cases e <;> rfl

theorem written?_optionWord (code : UInt8) (e : Edit) :
    (optionWord code).written? e = (e.entry? code).map wordIn := by
  cases e with
  | setOptionWord c w =>
      show (if code = c then some (some w) else none) =
        (if code = c then some (some (BigEndian.encode32 w)) else none).map wordIn
      split
      · rw [Option.map_some, wordIn_encode32]
      · rfl
  | setOptionAddress c a =>
      show (if code = c then some (some a.word) else none) =
        (if code = c then some (some (BigEndian.encode32 a.word)) else none).map wordIn
      split
      · rw [Option.map_some, wordIn_encode32]
      · rfl
  | _ => rfl

theorem written?_optionAddress (code : UInt8) (e : Edit) :
    (optionAddress code).written? e =
      (e.entry? code).map fun entry => (wordIn entry).map Ipv4.mk := by
  cases e with
  | setOptionWord c w =>
      show (if code = c then some (some (Ipv4.mk w)) else none) =
        (if code = c then some (some (BigEndian.encode32 w)) else none).map _
      split
      · rw [Option.map_some, wordIn_encode32]
        rfl
      · rfl
  | setOptionAddress c a =>
      show (if code = c then some (some a) else none) =
        (if code = c then some (some (BigEndian.encode32 a.word)) else none).map _
      split
      · rw [Option.map_some, wordIn_encode32]
        rfl
      · rfl
  | _ => rfl

/-- A view of a packet after a change shows what the change writes, or else what it
showed before. -/
theorem look_edit (v : View) (p : Packet) {e : Edit} (h : e ≠ .passOverWire) :
    v.look (p.edit e) = (v.written? e).getD (v.look p) := by
  cases v with
  | hardwareAddress =>
      cases e with
      | setHardwareAddress address => exact p.header.hardwareAddress_setHardwareAddress address
      | passOverWire => exact absurd rfl h
      | _ => rfl
  | broadcast =>
      cases e with
      | setFlags flags => exact flags.broadcast_eq_testBit
      | setBroadcast on =>
          refine (Flags.broadcast_eq_testBit _).trans ?_
          exact p.header.flags.testBit_setBroadcast on 7
      | passOverWire => exact absurd rfl h
      | _ => rfl
  | flag bit =>
      cases e with
      | setBroadcast on =>
          refine (p.header.flags.testBit_setBroadcast on bit).trans ?_
          show _ = (if bit = 7 then some on else none).getD _
          split <;> rfl
      | passOverWire => exact absurd rfl h
      | _ => rfl
  | option code => exact p.option?_edit h code
  | hasOption code =>
      show ((p.edit e).option? code).isSome = ((e.entry? code).map Option.isSome).getD _
      rw [p.option?_edit h]
      exact (Option.getD_map Option.isSome _ _).symm
  | messageType =>
      rw [written?_messageType]
      show (p.edit e).messageType = ((e.entry? 53).map kindIn).getD p.messageType
      rw [messageType_eq, messageType_eq, p.option?_edit h, Option.getD_map]
  | optionWord code =>
      rw [written?_optionWord]
      show (p.edit e).optionWord? code = ((e.entry? code).map wordIn).getD (p.optionWord? code)
      rw [optionWord?_eq, optionWord?_eq, p.option?_edit h, Option.getD_map]
  | optionAddress code =>
      rw [written?_optionAddress]
      show ((p.edit e).optionWord? code).map Ipv4.mk =
        ((e.entry? code).map fun entry => (wordIn entry).map Ipv4.mk).getD
          ((p.optionWord? code).map Ipv4.mk)
      rw [optionWord?_eq, optionWord?_eq, p.option?_edit h]
      exact (Option.getD_map (fun entry => (wordIn entry).map Ipv4.mk) _ _).symm
  | _ =>
      cases e with
      | passOverWire => exact absurd rfl h
      | _ => rfl

/-- After any changes a view shows what was written to it last. -/
theorem look_edits (v : View) (p : Packet) {es : List Edit} (h : .passOverWire ∉ es) :
    v.look (p.edits es) = (lastWritten? v.written? es).getD (v.look p) := by
  refine view_foldl ?_ p
  intro q e he
  exact v.look_edit q fun heq => h (heq ▸ he)

end View

end Packet

end DhcpServer
