import DhcpServer.Proofs.Server.Handling

/-!
# Which datagrams are messages

`Datagram.clientMessage?` says which message a received datagram is, and
`message?_cut` that a server which receives into a buffer comes to the same
verdict.  `dispatch_spec` says what becomes of the server.
-/

namespace DhcpServer

namespace Datagram

/-- The message that a datagram is to a receiver that takes 65536 octets of it:
a packet from a client, of one of the five kinds that clients send.  The three
that may be answered know where the datagram came from. -/
def clientMessage? (d : Datagram) : Option Message :=
  (Packet.ofBytes? (d.payload.take 65536)).bind fun p =>
    if p.header.op = 1 then
      match p.messageType with
      | 1 => some (.discover ⟨⟨p, d.ifindex⟩, some ⟨d.source, d.ifindex, true⟩⟩)
      | 3 => some (.request ⟨⟨p, d.ifindex⟩, some ⟨d.source, d.ifindex, true⟩⟩)
      | 4 => some (.decline ⟨p, d.ifindex⟩)
      | 7 => some (.release ⟨p, d.ifindex⟩)
      | 8 => some (.inform ⟨⟨p, d.ifindex⟩, some ⟨d.source, d.ifindex, true⟩⟩)
      | _ => none
    else none

theorem message?_eq (d : Datagram) :
    d.message? = (Packet.ofBytes? d.payload).bind fun p =>
      if p.header.op = Packet.bootRequest then
        Message.ofArrival? ⟨p, d.ifindex⟩ (some d.returnPath)
      else none := by
  unfold message? verdict
  cases Packet.ofBytes? d.payload with
  | none => rfl
  | some p =>
      rw [Option.bind_some]
      by_cases hop : p.header.op = Packet.bootRequest
      · rw [if_pos hop]
        dsimp only
        rw [if_neg (not_not_intro hop)]
        cases Message.ofArrival? ⟨p, d.ifindex⟩ (some d.returnPath) <;> rfl
      · rw [if_neg hop]
        dsimp only
        rw [if_pos hop]

theorem ofArrival?_eq_match (arrival : Arrival) (path : Option ReturnPath) :
    Message.ofArrival? arrival path =
      match arrival.packet.messageType with
      | 1 => some (.discover ⟨arrival, path⟩)
      | 3 => some (.request ⟨arrival, path⟩)
      | 4 => some (.decline arrival)
      | 7 => some (.release arrival)
      | 8 => some (.inform ⟨arrival, path⟩)
      | _ => none := by
  unfold Message.ofArrival?
  cases hkind : MessageType.ofCode? arrival.packet.messageType with
  | some kind =>
      rw [MessageType.ofCode?_eq_some_iff.mp hkind]
      cases kind <;> rfl
  | none =>
      rw [Option.bind_none]
      split
      case h_6 => rfl
      all_goals
        rename_i hcode
        rw [hcode] at hkind
        exact absurd hkind (by decide)

/-- A server sees of a datagram what its buffer holds. -/
theorem message?_cut (d : Datagram) : (d.cut receiveCapacity).message? = d.clientMessage? := by
  rw [message?_eq]
  simp only [ofArrival?_eq_match]
  rfl

theorem complaint?_eq_none_of_message? {d : Datagram} {m : Message} (h : d.message? = some m) :
    d.complaint? = none := by
  have hsome := d.complaint?_isSome
  rw [h] at hsome
  exact Option.isNone_iff_eq_none.mp (Option.isSome_eq_false_iff.mp hsome)

theorem exists_complaint?_of_message? {d : Datagram} (h : d.message? = none) :
    ∃ line, d.complaint? = some line := by
  have hsome := d.complaint?_isSome
  rw [h] at hsome
  exact Option.isSome_iff_exists.mp hsome

end Datagram

namespace Server

variable {κ : Type}

theorem dispatch_of_message {d : Datagram} {m : Message} (h : d.message? = some m)
    (handler : Handler κ) (s : Server κ) :
    dispatch handler d s = handler s.handled m { s with handled := s.handled + 1 } := by
  rw [dispatch, Datagram.complaint?_eq_none_of_message? h, h]
  rfl

theorem exists_dispatch_of_complaint {d : Datagram} (h : d.message? = none)
    (handler : Handler κ) :
    ∃ line, d.complaint? = some line ∧ dispatch handler d = log .debug line := by
  obtain ⟨line, hline⟩ := Datagram.exists_complaint?_of_message? h
  refine ⟨line, hline, ?_⟩
  rw [dispatch, hline]

/-- A datagram that is a message is counted and goes to the handler, and any
other changes nothing. -/
theorem dispatch_spec {handler : Handler κ} {stops : Nat → Message → Bool}
    (hdoes : ∀ n m, Does (handler n m) (stops n m) [m]) (d : Datagram) (c : κ) (stopping : Bool)
    (n : Nat) (settings : LogSettings) :
    ∃ c', (dispatch handler d ⟨some c, stopping, n, settings⟩).state =
        ⟨some c', stopping || d.message?.any (stops n), n + d.message?.toList.length, settings⟩ ∧
      handedOn (dispatch handler d ⟨some c, stopping, n, settings⟩).events = d.message?.toList := by
  cases hm : d.message? with
  | none =>
      obtain ⟨line, -, hdispatch⟩ := exists_dispatch_of_complaint hm handler
      rw [hdispatch]
      have hlog : Does (log .debug line : Run (Server κ) Unit) false [] := does_log _ _
      obtain ⟨c', hstate⟩ := hlog.state_eq c stopping n settings
      exact ⟨c', hstate, hlog.handedOn_eq c stopping n settings⟩
  | some m =>
      rw [dispatch_of_message hm]
      obtain ⟨c', hstate⟩ := (hdoes n m).state_eq c stopping (n + 1) settings
      exact ⟨c', hstate, (hdoes n m).handedOn_eq c stopping (n + 1) settings⟩

end Server

end DhcpServer
