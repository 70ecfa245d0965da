import DhcpServer.Bytes

/-!
# Message types

What kind of message a packet is, as the message type option says: eight kinds
have a meaning, any other octet has none.
-/

namespace DhcpServer

/-- The kinds of messages between client and server. -/
inductive MessageType where
  | discover
  | offer
  | request
  | decline
  | ack
  | nak
  | release
  | inform
deriving DecidableEq, Repr

namespace MessageType

def code : MessageType → UInt8
  | discover => 1
  | offer => 2
  | request => 3
  | decline => 4
  | ack => 5
  | nak => 6
  | release => 7
  | inform => 8

def ofCode? (code : UInt8) : Option MessageType :=
  match code.toNat with
  | 1 => some discover
  | 2 => some offer
  | 3 => some request
  | 4 => some decline
  | 5 => some ack
  | 6 => some nak
  | 7 => some release
  | 8 => some inform
  | _ => none

def name : MessageType → String
  | discover => "DISCOVER"
  | offer => "OFFER"
  | request => "REQUEST"
  | decline => "DECLINE"
  | ack => "ACK"
  | nak => "NAK"
  | release => "RELEASE"
  | inform => "INFORM"

/-- The name of the kind that an octet stands for, or that it is unknown. -/
def nameOfCode (code : UInt8) : String :=
  match ofCode? code with
  | some kind => kind.name
  | none => "UNKNOWN"

@[simp] theorem ofCode?_code (kind : MessageType) : ofCode? kind.code = some kind := by
  cases kind <;> rfl

theorem ofCode?_eq_some_iff {code : UInt8} {kind : MessageType} :
    ofCode? code = some kind ↔ code = kind.code := by
  constructor
  · intro h
    unfold ofCode? at h
    split at h <;> first
      | (simp only [Option.some.injEq] at h
         subst h
         rename_i hc
         exact UInt8.toNat_inj.mp hc)
      | simp at h
  · rintro rfl
    exact ofCode?_code kind

end MessageType

end DhcpServer
