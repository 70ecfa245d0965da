import DhcpServer.OptionCode
import DhcpServer.OptionMap

/-!
# Option areas

An option area is a part of a packet that holds options: the octets after the
header, and two header fields if the packet says so.  It is a sequence of
items, each a code, a length and that many octets of payload.  A code of zero
stands alone and fills space; a code of 255 stands alone and ends the area.

Reading gathers the items into an option map.  The payloads of items of one
code are joined in their order, so that a long value may be split over several
items.  The overload option directs the reader and is not kept as an option.

Writing puts the message type first and the other codes in ascending order,
each as the items that its value needs.
-/

namespace DhcpServer

/-- One option as it stands in an area. -/
structure Item where
  code : UInt8
  payload : Bytes
deriving DecidableEq, Repr

/-! ### Reading -/

/-- What has been read of the areas of a packet so far: the options, and the
fields that the overload option names, unless that option is of no interest. -/
structure Gathered where
  options : OptionMap
  overload : Option UInt8

namespace Gathered

/-- What is gathered after one more item. -/
def add (g : Gathered) (item : Item) : Gathered :=
  if item.code = OptionCode.overload then
    match item.payload with
    | [fields] => { g with overload := g.overload.map fun _ => fields }
    | _ => g
  else { g with options := g.options.extend item.code item.payload }

/-- The payload after a code, which is as long as the octet in front of it
says, and what follows the payload. -/
def payload? : Bytes → Option (Bytes × Bytes)
  | [] => none
  | size :: rest => Bytes.splitAt? size.toNat rest

theorem length_of_payload? {bs payload rest : Bytes} (h : payload? bs = some (payload, rest)) :
    rest.length < bs.length := by
  cases bs with
  | nil => simp [payload?] at h
  | cons size tail =>
    have := Bytes.length_of_splitAt? h
    simp only [List.length_cons]
    omega

/-- What is gathered after an area, and whether the area is well formed.  An
area ends at a code of 255 or where its octets end; it is malformed if its
octets end inside an item, and then the items before that one still count. -/
def read (g : Gathered) : Bytes → Gathered × Bool
  | [] => (g, true)
  | code :: rest =>
    if code = OptionCode.pad then g.read rest
    else if code = OptionCode.stop then (g, true)
    else
      match h : payload? rest with
      | none => (g, false)
      | some (payload, next) =>
        have : next.length < rest.length := length_of_payload? h
        (g.add ⟨code, payload⟩).read next
termination_by bs => bs.length

end Gathered

/-! ### Writing -/

/-- The code, the length and the payload. -/
def Item.encode (item : Item) : Bytes :=
  item.code :: UInt8.ofNat item.payload.length :: item.payload

/-- The longest payload of an item. -/
def Item.maxPayload : Nat := 255

/-- The payloads that a value is split into: all but the last are as long as a
payload can be, and only an empty value has an empty payload. -/
def pieces (value : Bytes) : List Bytes :=
  if value.length ≤ Item.maxPayload then [value]
  else value.take Item.maxPayload :: pieces (value.drop Item.maxPayload)
termination_by value.length
decreasing_by
  simp only [Item.maxPayload, List.length_drop] at *
  omega

/-- The items of one option. -/
def itemsOf (code : UInt8) (value : Bytes) : List Item :=
  (pieces value).map (Item.mk code)

namespace OptionMap

/-- Codes that are not written in ascending order with the others: the message
type, which comes first, and the two codes that have no value. -/
def standsApart (code : UInt8) : Bool :=
  code = OptionCode.messageType || code = OptionCode.pad || code = OptionCode.stop

/-- The items of all options, in the order in which they are written. -/
def items (m : OptionMap) : List Item :=
  (match m.get? OptionCode.messageType with
    | some value => itemsOf OptionCode.messageType value
    | none => []) ++
  (m.entries.filter fun e => !standsApart e.1).flatMap fun e => itemsOf e.1 e.2

/-- The area that holds the options of a map. -/
def encode (m : OptionMap) : Bytes :=
  m.items.flatMap Item.encode ++ [OptionCode.stop]

end OptionMap

end DhcpServer
