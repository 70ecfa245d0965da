import DhcpServer.Event
import DhcpServer.Proofs.Datagram.Meaning
import DhcpServer.Proofs.Reply.Rules
import DhcpServer.Proofs.RequestLog.Text
import DhcpServer.Proofs.Server.ClientMessages

/-!
# The lines that a message leaves

`Tells` says what the lines of a message tell: what kind of message it is, its
transaction, the octets of its hardware address, its client address and interface,
and for two kinds the addresses that it is about.  It reads the numbers back from
the line, and takes the addresses from all items of the datagram that hold them:
`tells_of_clientMessage?`.

A line that tells a request begins in a way that no other line of the daemon does
(`openings`), so the requests in a log can be found (`requestRecords`).
-/

namespace DhcpServer

/-! ## What a line tells -/

/-- The name that a message goes by. -/
def Message.typeName : Message → String
  | discover _ => "DISCOVER"
  | request _ => "REQUEST"
  | decline _ => "DECLINE"
  | release _ => "RELEASE"
  | inform _ => "INFORM"

/-- The names that messages go by. -/
def Message.typeNames : List String := ["DISCOVER", "REQUEST", "DECLINE", "RELEASE", "INFORM"]

/-- Digits stand for a number, in a row of the given length. -/
structure Shows (digits : List Char) (size n : Nat) : Prop where
  length_eq : digits.length = size
  value_eq : HexText.value? digits = some n

/-- The line that every message leaves. -/
def TellsRequest (m : Message) (line : String) : Prop :=
  ∃ xid groups,
    Shows xid 8 m.packet.header.xid.toNat ∧
    groups.length = (m.packet.header.hlen : Nat) ∧
    List.Forall₂ (fun group octet => Shows group 2 octet.toNat) groups
      (m.packet.header.chaddr.bytes.take m.packet.header.hlen) ∧
    line = "dhcp4: " ++ m.typeName ++ " xid=" ++ String.ofList xid ++
      " chaddr=" ++ String.ofList ([':'].intercalate groups) ++
      " ciaddr=" ++ m.packet.header.ciaddr.text ++ " if=" ++ toString m.ifindex

/-- A text stands for the address that is the value of an option: it says that
there is none exactly if the option is absent or its value has not four octets. -/
structure TellsAddress (value : Option Bytes) (text : String) : Prop where
  none_iff : text = "none" ↔ ¬ ∃ octets, value = some octets ∧ octets.length = 4
  address : ∀ a b c d, value = some [a, b, c, d] → text = (Ipv4.ofOctets a b c d).text

/-- The further lines that a message leaves, whose options have the values. -/
def TellsDetails (value : UInt8 → Option Bytes) (lines : List String) : Message → Prop
  | .request _ => ∃ requested server, TellsAddress (value 50) requested ∧
      TellsAddress (value 54) server ∧
      lines = ["dhcp4:   requested=" ++ requested ++ " server=" ++ server]
  | .decline _ => ∃ declined, TellsAddress (value 50) declined ∧
      lines = ["dhcp4:   declined=" ++ declined]
  | _ => lines = []

/-- The lines tell the message that a datagram is: the packet that its octets mean,
with all payloads of an option joined, on the interface that it arrived on. -/
structure Tells (d : Datagram) (m : Message) (lines : List String) : Prop where
  arrived : m.ifindex = d.ifindex
  told : ∃ main inFile inName line details,
    Meaning (d.payload.take 65536) m.packet main inFile inName ∧
    lines = line :: details ∧ TellsRequest m line ∧
    TellsDetails (fun code => joined code (main ++ inFile ++ inName)) details m

/-- The line is put together from the type of the message and four of its fields. -/
theorem Message.requestLine_eq (m : Message) :
    m.requestLine = "dhcp4: " ++ MessageType.nameOfCode m.packet.messageType ++
      " xid=" ++ String.ofList (HexText.word m.packet.header.xid) ++
      " chaddr=" ++ String.ofList (HardwareAddress.text m.packet.header.hardwareAddress) ++
      " ciaddr=" ++ m.packet.header.ciaddr.text ++ " if=" ++ toString m.ifindex :=
  rfl

theorem typeName_eq (m : Message) : m.typeName = m.kind.name := by
  cases m <;> rfl

theorem typeName_mem (m : Message) : m.typeName ∈ Message.typeNames := by
  unfold Message.typeNames
  cases m <;> simp [Message.typeName]

/-- The octet that says what kind of message a packet is says what kind of message
was made of it. -/
theorem nameOfCode_of_kind {m : Message} (h : m.kind.code = m.packet.messageType) :
    MessageType.nameOfCode m.packet.messageType = m.typeName := by
  rw [MessageType.nameOfCode, ← h, MessageType.ofCode?_code, typeName_eq]

theorem tellsRequest_requestLine {m : Message} (h : m.kind.code = m.packet.messageType) :
    TellsRequest m m.requestLine := by
  refine ⟨HexText.word m.packet.header.xid,
    m.packet.header.hardwareAddress.map HexText.octet,
    ⟨HexText.length_word _, HexText.value?_word _⟩, ?_, ?_, ?_⟩
  · have hlen := m.packet.header.hlen.isLt
    rw [List.length_map, Header.hardwareAddress, List.length_take, Block.length_bytes]
    omega
  · rw [List.forall₂_map_left_iff]
    exact List.forall₂_same.mpr fun octet _ => ⟨rfl, HexText.value?_octet octet⟩
  · rw [Message.requestLine_eq, nameOfCode_of_kind h, HardwareAddress.text_eq_intercalate]

theorem tellsAddress_addressText {p : Packet} {code : UInt8} {value : Option Bytes}
    (h : p.option? code = value) : TellsAddress value (p.addressText code) := by
  have hfour : ∀ a b c d, value = some [a, b, c, d] →
      p.addressText code = (Ipv4.ofOctets a b c d).text := by
    rintro a b c d rfl
    rw [Packet.addressText, Packet.optionAddress?, Packet.optionWord?, h]
    rfl
  refine ⟨⟨?_, ?_⟩, hfour⟩
  · rintro hnone ⟨octets, hvalue, hlength⟩
    obtain ⟨a, b, c, d, rfl⟩ := List.length_eq_four.mp hlength
    rw [hfour a b c d hvalue] at hnone
    exact Ipv4.text_ne_none _ hnone
  · intro hother
    have hnone : p.optionAddress? code = none := by
      rwa [← Option.not_isSome_iff_eq_none, Packet.optionAddress?_isSome_iff, h]
    rw [Packet.addressText, hnone]

theorem clientMessage?_spec {d : Datagram} {m : Message} (h : d.clientMessage? = some m) :
    Packet.ofBytes? (d.payload.take 65536) = some m.packet ∧ m.ifindex = d.ifindex ∧
      m.kind.code = m.packet.messageType := by
  rw [← Datagram.message?_cut, Datagram.message?_eq] at h
  obtain ⟨p, hp, hm⟩ := Option.bind_eq_some_iff.mp h
  split at hm
  · obtain ⟨hkind, harrival⟩ := Message.code_kind_of_ofArrival? hm
    have hpacket : m.packet = p := congrArg Arrival.packet harrival
    refine ⟨hpacket ▸ hp, congrArg Arrival.ifindex harrival, hkind⟩
  · cases hm

theorem tellsDetails_detailLine? {m : Message} {value : UInt8 → Option Bytes}
    (h : ∀ code, code ≠ OptionCode.overload → m.packet.option? code = value code) :
    TellsDetails value m.detailLine?.toList m := by
  cases m with
  | request q =>
      exact ⟨_, _, tellsAddress_addressText (h 50 (by decide)),
        tellsAddress_addressText (h 54 (by decide)), rfl⟩
  | decline a => exact ⟨_, tellsAddress_addressText (h 50 (by decide)), rfl⟩
  | discover q => rfl
  | release a => rfl
  | inform q => rfl

/-- What a message leaves in the log tells what its datagram says. -/
theorem tells_of_clientMessage? {d : Datagram} {m : Message} (h : d.clientMessage? = some m) :
    Tells d m m.logLines := by
  obtain ⟨hpacket, hifindex, hkind⟩ := clientMessage?_spec h
  obtain ⟨main, inFile, inName, hmeaning⟩ := Packet.meaning_of_ofBytes? hpacket
  exact ⟨hifindex, main, inFile, inName, m.requestLine, m.detailLine?.toList, hmeaning, rfl,
    tellsRequest_requestLine hkind, tellsDetails_detailLine? hmeaning.option_eq⟩

/-! ## Requests in a log -/

/-- How a line begins that tells a request, or might be taken for one. -/
def openings : List String :=
  ["dhcp4: DISCOVER xid=", "dhcp4: REQUEST xid=", "dhcp4: DECLINE xid=", "dhcp4: RELEASE xid=",
    "dhcp4: INFORM xid=", "dhcp4: UNKNOWN xid=", "dhcp4: OFFER xid=", "dhcp4: ACK xid=",
    "dhcp4: NAK xid=", "dhcp4:   requested=", "dhcp4:   declined="]

/-- A line begins like one that tells a request. -/
def TellsSome (line : String) : Prop := ∃ opening ∈ openings, opening.toList <+: line.toList

instance (line : String) : Decidable (TellsSome line) :=
  inferInstanceAs (Decidable (∃ opening ∈ openings, opening.toList <+: line.toList))

/-- The line of a record. -/
def LogRecord.line : LogRecord → String
  | stderr text => text
  | syslog _ line => line
  | opened _ => ""

/-- The records that tell a request, in order. -/
def requestRecords (es : List Event) : List LogRecord :=
  es.filterMap fun
    | .log record => if TellsSome record.line then some record else none
    | _ => none

/-- The record of a line, whole: with its priority in the system log, and otherwise as
a line of its own on standard error. -/
def recordedAt (s : LogSettings) (priority : Nat) (line : String) : LogRecord :=
  if s.toSyslog then .syslog priority line else .stderr (line ++ "\n")

/-- The record of a line of the info log, whole. -/
def recorded (s : LogSettings) (line : String) : LogRecord := recordedAt s 6 line

/-- A line without a zero character that is no debug line leaves its record. -/
theorem write_eq_recordedAt (s : LogSettings) {level : LogLevel} (hlevel : level ≠ .debug)
    {line : String} (hzero : '\x00' ∉ line.toList) :
    s.write level line = [recordedAt s level.priority line] := by
  have hwrites : s.writes level = true := by
    rw [LogSettings.writes, decide_eq_true hlevel, Bool.true_or]
  rw [LogSettings.write, if_pos hwrites, recordedAt, LogSettings.upToZero_eq_self hzero]
  split <;> rfl

theorem requestRecords_append (es fs : List Event) :
    requestRecords (es ++ fs) = requestRecords es ++ requestRecords fs :=
  List.filterMap_append

theorem toList_prefix_append (start rest : String) : start.toList <+: (start ++ rest).toList :=
  ⟨rest.toList, String.toList_append.symm⟩

theorem tellsSome_of_start {start line : String} (hstart : TellsSome start)
    (h : start.toList <+: line.toList) : TellsSome line := by
  obtain ⟨opening, hopening, hprefix⟩ := hstart
  exact ⟨opening, hopening, hprefix.trans h⟩

theorem requestRecords_singleton (record : LogRecord) :
    requestRecords [.log record] = if TellsSome record.line then [record] else [] := by
  by_cases h : TellsSome record.line
  · simp only [requestRecords, List.filterMap_cons, List.filterMap_nil, if_pos h]
  · simp only [requestRecords, List.filterMap_cons, List.filterMap_nil, if_neg h]

/-- A text from which on a line cannot tell a request: it is no beginning of such a
line, and has none as its own beginning. -/
def Apart (start : String) : Prop :=
  ∀ opening ∈ openings, ¬ opening.toList <+: start.toList ∧ ¬ start.toList <+: opening.toList

instance (start : String) : Decidable (Apart start) :=
  inferInstanceAs (Decidable (∀ opening ∈ openings, _))

theorem Apart.not_tellsSome {start line : String} (hstart : Apart start)
    (h : start.toList <+: line.toList) : ¬ TellsSome line := by
  rintro ⟨opening, hopening, hprefix⟩
  obtain ⟨hlonger, hshorter⟩ := hstart opening hopening
  rcases List.prefix_or_prefix_of_prefix hprefix h with htells | htells
  · exact hlonger htells
  · exact hshorter htells

/-- A line that begins unlike any that tells a request leaves no such record. -/
theorem requestRecords_of_apart {start line : String} (hstart : Apart start)
    (hline : ∃ rest, line = start ++ rest) (s : LogSettings) (level : LogLevel) :
    requestRecords ((s.write level line).map .log) = [] := by
  obtain ⟨rest, rfl⟩ := hline
  have hline : ¬ TellsSome (start ++ rest) := hstart.not_tellsSome (toList_prefix_append _ _)
  have hended : ¬ TellsSome (start ++ rest ++ "\n") :=
    hstart.not_tellsSome ((toList_prefix_append _ _).trans (toList_prefix_append _ _))
  have hcut : ¬ TellsSome (LogSettings.upToZero (start ++ rest)) := by
    refine fun htells => hline (tellsSome_of_start htells ?_)
    rw [LogSettings.upToZero, String.toList_ofList]
    exact List.takeWhile_prefix _
  unfold LogSettings.write
  split
  · split
    · exact (requestRecords_singleton _).trans (if_neg hcut)
    · exact (requestRecords_singleton _).trans (if_neg hended)
  · rfl

/-- A line that tells a request leaves one record, if it has no zero character. -/
theorem requestRecords_of_request {line : String} (h : TellsSome line)
    (hzero : '\x00' ∉ line.toList) (s : LogSettings) :
    requestRecords ((s.write .info line).map .log) = [recorded s line] := by
  have hended : TellsSome (line ++ "\n") := tellsSome_of_start h (toList_prefix_append _ _)
  have htells : TellsSome (recorded s line).line := by
    unfold recorded recordedAt
    split
    · exact h
    · exact hended
  rw [write_eq_recordedAt s LogLevel.noConfusion hzero]
  exact (requestRecords_singleton _).trans (if_pos htells)

namespace Message

variable {m : Message}

theorem tellsSome_requestLine (h : m.kind.code = m.packet.messageType) :
    TellsSome m.requestLine := by
  have hstart : ∀ name ∈ typeNames, TellsSome ("dhcp4: " ++ name ++ " xid=") := by decide
  refine tellsSome_of_start (hstart _ (typeName_mem m)) ?_
  rw [requestLine_eq, nameOfCode_of_kind h]
  simp only [String.toList_append, List.append_assoc]
  exact ⟨_, by simp only [List.append_assoc]; rfl⟩

theorem zero_not_mem_requestLine (h : m.kind.code = m.packet.messageType) :
    '\x00' ∉ m.requestLine.toList := by
  have hnames : ∀ name ∈ typeNames, '\x00' ∉ name.toList := by decide
  have hname := hnames _ (typeName_mem m)
  rw [requestLine_eq, nameOfCode_of_kind h]
  simp only [String.toList_append, String.toList_ofList, List.mem_append, hname,
    HexText.zero_not_mem_word, HardwareAddress.zero_not_mem_text, Ipv4.zero_not_mem_text,
    zero_not_mem_toString, or_false]
  decide

end Message

theorem zero_not_mem_addressText (p : Packet) (code : UInt8) :
    '\x00' ∉ (p.addressText code).toList := by
  unfold Packet.addressText
  split
  · exact Ipv4.zero_not_mem_text _
  · decide

theorem detailLine?_spec {m : Message} {line : String} (h : m.detailLine? = some line) :
    TellsSome line ∧ '\x00' ∉ line.toList := by
  cases m with
  | request q =>
      obtain rfl := Option.some.inj h
      constructor
      · refine ⟨"dhcp4:   requested=", by decide, ?_⟩
        rw [String.append_assoc, String.append_assoc]
        exact toList_prefix_append _ _
      · simp only [String.toList_append, List.mem_append, zero_not_mem_addressText, or_false]
        decide
  | decline a =>
      obtain rfl := Option.some.inj h
      constructor
      · exact ⟨"dhcp4:   declined=", by decide, toList_prefix_append _ _⟩
      · simp only [String.toList_append, List.mem_append, zero_not_mem_addressText, or_false]
        decide
  | discover q => cases h
  | release a => cases h
  | inform q => cases h

theorem requestRecords_lines {lines : List String}
    (h : ∀ line ∈ lines, TellsSome line ∧ '\x00' ∉ line.toList) (s : LogSettings) :
    requestRecords (lines.flatMap fun line => (s.write .info line).map .log) =
      lines.map (recorded s) := by
  induction lines with
  | nil => rfl
  | cons line lines ih =>
      obtain ⟨⟨htells, hzero⟩, hrest⟩ := List.forall_mem_cons.mp h
      rw [List.flatMap_cons, requestRecords_append, requestRecords_of_request htells hzero,
        ih hrest, List.map_cons, List.singleton_append]

/-- Every line of a message is a record that tells a request, and is there once. -/
theorem requestRecords_logLines {m : Message} (h : m.kind.code = m.packet.messageType)
    (s : LogSettings) :
    requestRecords (m.logLines.flatMap fun line => (s.write .info line).map .log) =
      m.logLines.map (recorded s) := by
  refine requestRecords_lines (List.forall_mem_cons.mpr
    ⟨⟨m.tellsSome_requestLine h, m.zero_not_mem_requestLine h⟩, ?_⟩) s
  exact fun line hline => detailLine?_spec (Option.mem_toList.mp hline)

end DhcpServer
