import DhcpServer.Proofs.Reply.Size
import DhcpServer.Proofs.Server.Watching

/-!
# Writing a reply

A reply is written by whoever holds a message that may be answered.  Up to four things
can stand in the way: there is no way back to the client, the reply has a fault, a
datagram cannot carry it, or there is no connection.  `Query.obstacles` lists all that
do, in the order in which they count.

`all_or_nothing` says that the first of them is reported and the connection is left
alone; and that if there is none, the connection is used for one datagram that carries
the reply, and what it answers is reported.  Neither the reply nor the message changes,
so that writing a reply again does the same again: `takeAll_replicate_send`, by
induction on how often.
-/

namespace DhcpServer

/-! ## What stands in the way -/

namespace Query

/-- All that stands in the way of a reply, in the order in which it counts. -/
def obstacles (q : Query) (r : Reply) : List Failure :=
  (if q.returnPath = none then [.notConnected] else []) ++
    (r.fault?.toList.map .reply ++
    ((if 65507 < r.packet.toBytes.length then [.reply .tooLarge] else []) ++
    (if q.returnPath.any (!·.connected) then [.badDescriptor] else [])))

/-- A datagram carries a reply back along the way that a message came with: to the
client, or to all hosts if the client has no address or has asked for that. -/
structure CarriesBack (q : Query) (r : Reply) (out : Outgoing) : Prop where
  payload_eq : out.payload = r.packet.toBytes
  along : ∃ path, q.returnPath = some path ∧ out.ifindex = path.ifindex ∧
    out.destination.port = path.client.port ∧
    out.destination.address =
      if path.client.address.isUnspecified = true ∨
          r.request.packet.header.flags.high &&& 0x80 ≠ 0
        then .v4 .broadcast else path.client.address

theorem obstacles_eq_nil_iff {q : Query} {r : Reply} :
    q.obstacles r = [] ↔ ∃ path, q.returnPath = some path ∧ path.connected = true ∧
      r.fault? = none ∧ r.packet.toBytes.length ≤ 65507 := by
  unfold obstacles
  cases q.returnPath with
  | none => simp
  | some path =>
      cases r.fault? with
      | some fault => simp
      | none => simp [and_comm]

end Query

theorem ReturnPath.destination_spec (path : ReturnPath) (request : Packet) :
    (path.destination request).port = path.client.port ∧
      (path.destination request).address =
        if path.client.address.isUnspecified = true ∨ request.header.flags.high &&& 0x80 ≠ 0
          then .v4 .broadcast else path.client.address := by
  have hall : (path.client.address.isUnspecified || request.header.flags.broadcast) = true ↔
      path.client.address.isUnspecified = true ∨ request.header.flags.high &&& 0x80 ≠ 0 := by
    rw [Bool.or_eq_true, Flags.broadcast, bne_iff_ne]
  unfold destination
  by_cases h : path.client.address.isUnspecified = true ∨ request.header.flags.high &&& 0x80 ≠ 0
  · rw [if_pos (hall.mpr h), if_pos h]
    exact ⟨rfl, rfl⟩
  · rw [if_neg (mt hall.mp h), if_neg h]
    exact ⟨rfl, rfl⟩

namespace Query

/-- The first obstacle is why there is no datagram; and without any there is one. -/
theorem outgoing_spec (q : Query) (r : Reply) :
    match q.obstacles r with
    | failure :: _ => q.outgoing r = .error failure
    | [] => ∃ out, q.CarriesBack r out ∧ q.outgoing r = .ok out := by
  unfold obstacles outgoing
  rcases hpath : q.returnPath with _ | ⟨client, ifindex, connected⟩
  · rfl
  let path : ReturnPath := ⟨client, ifindex, connected⟩
  unfold ReturnPath.outgoing
  cases r.fault? with
  | some fault => rfl
  | none =>
      by_cases hsize : 65507 < r.packet.toBytes.length
      · have hencode : r.encode? = .error .tooLarge := if_pos hsize
        rw [hencode, if_pos hsize]
        rfl
      · have hencode : r.encode? = .ok r.packet.toBytes := if_neg hsize
        rw [hencode, if_neg hsize]
        cases connected with
        | false => rfl
        | true =>
            obtain ⟨hport, haddress⟩ := path.destination_spec r.request.packet
            show ∃ out, q.CarriesBack r out ∧ _ = Except.ok out
            exact ⟨_, ⟨rfl, path, hpath, rfl, hport, haddress⟩, rfl⟩

/-! ## Writing -/

variable {κ ι : Type} [Connection κ ι]

/-- A reply is written along the way that a message came with: why it was not, if it was
not. -/
def writeReply (q : Query) (r : Reply) : Run κ (Option Failure) :=
  match q.outgoing r with
  | .error failure => pure (some failure)
  | .ok datagram => Connection.send datagram

/-- Writing a reply either leaves everything alone or is the sending of one datagram. -/
theorem writeReply_spec (q : Query) (r : Reply) :
    match q.obstacles r with
    | failure :: _ => (q.writeReply r : Run κ (Option Failure)) = pure (some failure)
    | [] => ∃ out, q.CarriesBack r out ∧
        (q.writeReply r : Run κ (Option Failure)) = Connection.send out := by
  have hspec := q.outgoing_spec r
  unfold writeReply
  split at hspec
  · rw [hspec]
  · obtain ⟨out, hout, hsent⟩ := hspec
    exact ⟨out, hout, by rw [hsent]⟩

end Query

namespace Reply

variable {κ ι : Type} [Connection κ ι]

/-- The step of a handler that sends a reply writes it along the way of the message that
it answers, and leaves the reply as it was. -/
theorem take_send (r : Reply) :
    (r.take .send : Run κ ReplyReport) = do return ⟨r, true, ← r.query.writeReply r⟩ := by
  rw [take, Query.writeReply]
  cases r.query.outgoing r with
  | error failure => rfl
  | ok datagram => rfl

/-- A reply that is sent several times stays as it is, and its connection is used in the
same way each time. -/
theorem takeAll_replicate_send {r : Reply} {calls : List Use}
    (h : ∀ w : Watched κ, (r.query.writeReply r w).state.uses = w.uses ++ calls) (n : Nat)
    (w : Watched κ) :
    let again := r.takeAll (List.replicate n .send) w
    again.value.map ReplyReport.reply = List.replicate n r ∧
      again.state.uses = w.uses ++ (List.replicate n calls).flatten := by
  induction n generalizing w with
  | zero => exact ⟨rfl, (List.append_nil _).symm⟩
  | succ n ih =>
      obtain ⟨hreplies, huses⟩ := ih (r.query.writeReply r w).state
      rw [List.replicate_succ, takeAll, take_send]
      refine ⟨congrArg (r :: ·) hreplies, ?_⟩
      rw [List.replicate_succ, List.flatten_cons, ← List.append_assoc, ← h w]
      exact huses

/-- If the writing of a reply is answered in the same way each time, it is reported in the
same way each time. -/
theorem takeAll_replicate_send_value {r : Reply} {answer : Option Failure}
    (h : ∀ w : Watched κ, (r.query.writeReply r w).value = answer) (n : Nat) (w : Watched κ) :
    (r.takeAll (List.replicate n .send) w).value = List.replicate n ⟨r, true, answer⟩ := by
  induction n generalizing w with
  | zero => rfl
  | succ n ih =>
      rw [List.replicate_succ, takeAll, take_send, List.replicate_succ, ← ih, ← h w]
      rfl

end Reply

namespace Query

variable {κ ι : Type} [Connection κ ι]

/-- **A reply is written once or not at all.**  Nothing stands in its way exactly if
there is a way back with a connection, the reply has no fault and a datagram can carry
it; then one datagram that carries it back is sent, and the answer to that is reported.
Otherwise the first obstacle is reported, and nothing is done.  The reply stays as it
is, and writing it several times does the same each time. -/
theorem all_or_nothing (q : Query) (r : Reply) :
    (q.obstacles r = [] ↔ ∃ path, q.returnPath = some path ∧ path.connected = true ∧
      r.fault? = none ∧ r.packet.toBytes.length ≤ 65507) ∧
    (match q.obstacles r with
      | failure :: _ => ∀ w : Watched κ, q.writeReply r w = ⟨some failure, w, []⟩
      | [] => ∃ out, q.CarriesBack r out ∧ ∀ w : Watched κ,
          let sent := Connection.send out w.connection
          q.writeReply r w = ⟨sent.value, ⟨sent.state, w.uses ++ [.wrote out]⟩, sent.events⟩) ∧
    ∃ calls : List Use, ∀ (w : Watched κ) (n : Nat),
      let again := r.takeAll (List.replicate n .send) w
      (r.query.writeReply r w).state.uses = w.uses ++ calls ∧
        again.state.uses = w.uses ++ (List.replicate n calls).flatten ∧
        again.value.map ReplyReport.reply = List.replicate n r ∧
        ∀ answer, (∀ w' : Watched κ, (r.query.writeReply r w').value = answer) →
          again.value = List.replicate n ⟨r, true, answer⟩ := by
  refine ⟨obstacles_eq_nil_iff, ?_, ?_⟩
  · have hspec := q.writeReply_spec r (κ := Watched κ)
    split
    · rename_i hobstacles
      rw [hobstacles] at hspec
      intro w
      rw [hspec]
      rfl
    · rename_i hobstacles
      rw [hobstacles] at hspec
      obtain ⟨out, hout, hsent⟩ := hspec
      exact ⟨out, hout, fun w => by rw [hsent]; rfl⟩
  · obtain ⟨calls, hcalls⟩ : ∃ calls : List Use, ∀ w : Watched κ,
        (r.query.writeReply r w).state.uses = w.uses ++ calls := by
      have hspec := r.query.writeReply_spec r (κ := Watched κ)
      split at hspec
      · exact ⟨[], fun w => by rw [hspec, List.append_nil]; rfl⟩
      · obtain ⟨out, -, hsent⟩ := hspec
        exact ⟨[.wrote out], fun w => by rw [hsent]; rfl⟩
    refine ⟨calls, fun w n => ?_⟩
    obtain ⟨hreplies, huses⟩ := Reply.takeAll_replicate_send hcalls n w
    exact ⟨hcalls w, huses, hreplies,
      fun answer hanswer => Reply.takeAll_replicate_send_value hanswer n w⟩

/-- An offer that says nothing yet, on a way back whose connection is gone, is reported for
the first of its faults; filled in, and with a connection, it is sent to all hosts, since
its client has no address. -/
theorem all_or_nothing_offer :
    let lost : Query := ⟨⟨⟨Header.blank 1, .empty⟩, 3⟩, some ⟨⟨.v4 .unspecified, 68⟩, 3, false⟩⟩
    let q : Query := ⟨⟨⟨Header.blank 1, .empty⟩, 3⟩, some ⟨⟨.v4 .unspecified, 68⟩, 3, true⟩⟩
    let r : Reply := ⟨.offer, q, (Reply.start .offer q).packet.edits
      [Reply.yourAddress ⟨10⟩, Reply.serverId ⟨11⟩, Reply.leaseTime 3600]⟩
    let w : Watched Channel := ⟨⟨[some .notConnected], []⟩, []⟩
    lost.obstacles (.start .offer lost) = [.reply .missingYourAddress, .badDescriptor] ∧
      lost.writeReply (.start .offer lost) w = ⟨some (.reply .missingYourAddress), w, []⟩ ∧
      ∃ out : Outgoing, out.destination = ⟨.v4 .broadcast, 68⟩ ∧ out.ifindex = 3 ∧
        (q.writeReply r w).value = some .notConnected ∧
        (q.writeReply r w).state.uses = [.wrote out] := by
  intro lost q r w
  obtain ⟨-, hlost, -⟩ := lost.all_or_nothing (κ := Channel) (.start .offer lost)
  obtain ⟨hnone, hsent, -⟩ := q.all_or_nothing (κ := Channel) r
  have hobstacles :
      lost.obstacles (.start .offer lost) = [.reply .missingYourAddress, .badDescriptor] := by
    unfold obstacles
    rw [Packet.length_toBytes]
    decide
  rw [hobstacles] at hlost
  have hsize : r.packet.toBytes.length ≤ 65507 := by
    rw [Packet.length_toBytes]
    decide
  rw [hnone.mpr ⟨_, rfl, rfl, by decide, hsize⟩] at hsent
  obtain ⟨⟨payload, ⟨address, port⟩, ifindex⟩, hout, hsent⟩ := hsent
  obtain ⟨path, hpath, hifindex, hport, haddress⟩ := hout.along
  obtain rfl := Option.some.inj hpath
  refine ⟨hobstacles, hlost w, _, ?_, hifindex, ?_, ?_⟩
  · exact congrArg₂ Endpoint.mk haddress hport
  · rw [hsent]
    rfl
  · rw [hsent]
    rfl

end Query

end DhcpServer
