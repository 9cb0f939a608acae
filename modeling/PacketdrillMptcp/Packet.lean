import PacketdrillMptcp.ByteOrder

/-!
# Packets and MPTCP options

The parts of packetdrill's `struct packet` and `struct tcp_option` that
`mptcp.c` reads or writes. The headers that declare them (`packet.h`,
`tcp.h`, `mptcp.h`) are not in the repository; their fields are taken from
the uses in `mptcp.c` and the constants from the MPTCP option layout.

Every multi-byte field holds the integer the host reads from the packet
bytes (see `ByteOrder`): a port is stored as it is on the wire and read with
`ntohs`.

The `data` union of `struct tcp_option` is modelled as a record with one
field per union member that `mptcp.c` uses (`OptionData`). The members of a C
union share storage; the record does not model that sharing. The engine
reads and writes the member that matches the option's length and flags, with
one exception: `new_subflow_outbound` called on an MP_CAPABLE third ACK
reads MP_JOIN members of the packet's first MPTCP option. In the record those
members are inputs of their own, so the model admits every value the C code
can read there.
-/

namespace PacketdrillMptcp

/-! ## Constants -/

/-- Modelled from the spec: `TCPOPT_MPTCP`, the TCP option kind of MPTCP. -/
def tcpoptMptcp : UInt8 := 30

/-- Modelled from the spec: `MP_CAPABLE_SUBTYPE`. -/
def mpCapableSubtype : UInt8 := 0

/-- Modelled from the spec: `MP_JOIN_SUBTYPE`. -/
def mpJoinSubtype : UInt8 := 1

/-- Modelled from the spec: `DSS_SUBTYPE`. -/
def dssSubtype : UInt8 := 2

/-- Modelled from the spec: `TCPOLEN_MP_CAPABLE_SYN`, an MP_CAPABLE option
with one key. -/
def tcpolenMpCapableSyn : UInt8 := 12

/-- Modelled from the spec: `TCPOLEN_MP_CAPABLE`, an MP_CAPABLE option with
both keys. -/
def tcpolenMpCapable : UInt8 := 20

/-- Modelled from the spec: `TCPOLEN_MP_JOIN_SYN`. -/
def tcpolenMpJoinSyn : UInt8 := 12

/-- Modelled from the spec: `TCPOLEN_MP_JOIN_SYN_ACK`. -/
def tcpolenMpJoinSynAck : UInt8 := 16

/-- Modelled from the spec: `TCPOLEN_MP_JOIN_ACK`. -/
def tcpolenMpJoinAck : UInt8 := 24

/-- Modelled from the spec: `TCPOLEN_DSS_DSN8`, a DSS option with an 8-byte
data sequence number and a checksum. -/
def tcpolenDssDsn8 : UInt8 := 20

/-- Modelled from the spec: `TCPOLEN_DSS_DSN8_WOCS`, the same without the
checksum. -/
def tcpolenDssDsn8Wocs : UInt8 := 18

/-! ## Headers -/

/-- `struct ip_address`, as `ip_from_ipv4` and `ip_from_ipv6` fill it. -/
inductive IpAddress
  | ipv4 (addr : UInt32)
  | ipv6 (addr : List UInt8)
  deriving DecidableEq, Repr

/-- The fields of `struct ipv4` that the engine reads. -/
structure Ipv4Header where
  ihl : Fin 16
  srcIp : UInt32
  dstIp : UInt32
  deriving DecidableEq, Repr

/-- The fields of `struct ipv6` that the engine reads. -/
structure Ipv6Header where
  srcIp : List UInt8
  dstIp : List UInt8
  deriving DecidableEq, Repr

/-- `struct tcp`, the fixed 20 bytes of the TCP header. Ports, sequence
numbers, window, checksum and urgent pointer are in network order. -/
structure TcpHeader where
  srcPort : UInt16
  dstPort : UInt16
  seq : UInt32
  ackSeq : UInt32
  doff : Fin 16
  res1 : Fin 16
  cwr : Bool
  ece : Bool
  urg : Bool
  ack : Bool
  psh : Bool
  rst : Bool
  syn : Bool
  fin : Bool
  window : UInt16
  check : UInt16
  urgPtr : UInt16
  deriving DecidableEq, Repr

/-! ## Options -/

/-- `data.mp_capable` of `struct tcp_option`. -/
structure MpCapableData where
  /-- `syn.key` -/
  synKey : UInt64
  /-- `no_syn.sender_key` -/
  noSynSenderKey : UInt64
  /-- `no_syn.receiver_key` -/
  noSynReceiverKey : UInt64
  deriving DecidableEq, Repr

/-- `data.mp_join` of `struct tcp_option`. -/
structure MpJoinData where
  /-- `syn.address_id` -/
  synAddressId : UInt8
  /-- `syn.no_ack.receiver_token` -/
  synNoAckReceiverToken : UInt32
  /-- `syn.no_ack.sender_random_number` -/
  synNoAckSenderRandomNumber : UInt32
  /-- `syn.ack.sender_random_number` -/
  synAckSenderRandomNumber : UInt32
  /-- `syn.ack.sender_hmac` -/
  synAckSenderHmac : UInt64
  /-- `no_syn.sender_hmac`, 20 bytes -/
  noSynSenderHmac : List UInt8
  deriving DecidableEq, Repr

/-- `data.dss` of `struct tcp_option`. -/
structure DssData where
  flagDsn : Bool
  flagDack : Bool
  /-- `dsn.data_seq_nbr_8oct` -/
  dsnDataSeqNbr8oct : UInt64
  /-- `dsn.w_cs.subflow_seq_nbr` -/
  dsnWCsSubflowSeqNbr : UInt32
  /-- `dsn.w_cs.data_level_length` -/
  dsnWCsDataLevelLength : UInt16
  /-- `dsn.w_cs.checksum` -/
  dsnWCsChecksum : UInt16
  /-- `dsn.wo_cs.subflow_seq_nbr` -/
  dsnWoCsSubflowSeqNbr : UInt32
  /-- `dsn.wo_cs.data_level_length` -/
  dsnWoCsDataLevelLength : UInt16
  /-- `dack.data_ack_8oct` -/
  dackDataAck8oct : UInt64
  deriving DecidableEq, Repr

/-- The `data` union of `struct tcp_option`: the subtype nibble shared by the
MPTCP members, the three MPTCP members, and the bytes of any other option. -/
structure OptionData where
  /-- `mp_capable.subtype`, which every MPTCP member has in the same place -/
  subtype : UInt8
  mpCapable : MpCapableData
  mpJoin : MpJoinData
  dss : DssData
  /-- the bytes after kind and length of an option that is not MPTCP -/
  raw : List UInt8
  deriving DecidableEq, Repr

/-- `struct tcp_option`. -/
structure TcpOption where
  kind : UInt8
  length : UInt8
  data : OptionData
  deriving DecidableEq, Repr

/-- `struct packet`: the IPv4 or IPv6 header (either pointer may be `NULL`),
the TCP header with its options, the TCP payload, and `ip_bytes`. -/
structure Packet where
  ipv4 : Option Ipv4Header
  ipv6 : Option Ipv6Header
  tcp : TcpHeader
  tcpOptions : List TcpOption
  payload : List UInt8
  ipBytes : UInt32
  deriving DecidableEq, Repr

/-- An MPTCP option of the given subtype and length with every field zero, as
the script parser builds one before the engine fills it in. -/
def mptcpOptionOf (subtype length : UInt8) : TcpOption where
  kind := tcpoptMptcp
  length := length
  data :=
    { subtype, mpCapable := ⟨0, 0, 0⟩, mpJoin := ⟨0, 0, 0, 0, 0, []⟩,
      dss := ⟨false, false, 0, 0, 0, 0, 0, 0, 0⟩, raw := [] }

/-- An IPv4 TCP packet from `srcPort` to `dstPort` (network order) with the
given SYN and ACK flags and options; the other header fields are zero. -/
def tcpPacket (srcPort dstPort : UInt16) (syn ack : Bool) (options : List TcpOption) : Packet where
  ipv4 := some ⟨5, 0x0100000a, 0x0200000a⟩
  ipv6 := none
  tcp :=
    { srcPort, dstPort, seq := 0, ackSeq := 0, doff := 5, res1 := 0, cwr := false, ece := false,
      urg := false, ack, psh := false, rst := false, syn, fin := false, window := 0, check := 0,
      urgPtr := 0 }
  tcpOptions := options
  payload := []
  ipBytes := 40

/-- Modelled from the spec: `get_tcp_option(packet, kind)`, the first option of
the packet with that kind. -/
def getTcpOption (packet : Packet) (kind : UInt8) : Option TcpOption :=
  packet.tcpOptions.find? (·.kind == kind)

/-- The packet with its option number `i` replaced, as the engine's writes
through `tcp_opt_to_modify` leave it. -/
def Packet.setOption (packet : Packet) (i : ℕ) (opt : TcpOption) : Packet :=
  { packet with tcpOptions := packet.tcpOptions.set i opt }

/-- The source and destination address of a packet, as `new_subflow_inbound`
reads them: from the IPv4 header if there is one, else from the IPv6 header
(`ip_from_ipv4`, `ip_from_ipv6`). -/
def Packet.ipAddresses (packet : Packet) : Option (IpAddress × IpAddress) :=
  match packet.ipv4, packet.ipv6 with
  | some h, _ => some (.ipv4 h.srcIp, .ipv4 h.dstIp)
  | none, some h => some (.ipv6 h.srcIp, .ipv6 h.dstIp)
  | none, none => none

/-! ## Wire bytes of the TCP segment -/

/-- The 20 bytes of the fixed TCP header. -/
def TcpHeader.wireBytes (h : TcpHeader) : List UInt8 :=
  leBytes 2 h.srcPort.toNat ++ leBytes 2 h.dstPort.toNat ++ leBytes 4 h.seq.toNat ++
    leBytes 4 h.ackSeq.toNat ++
    [UInt8.ofNat (h.doff.val * 16 + h.res1.val),
      UInt8.ofNat ((List.map (fun b : Bool => b.toNat)
        [h.fin, h.syn, h.rst, h.psh, h.ack, h.urg, h.ece, h.cwr]).foldr (fun b acc => b + 2 * acc) 0)] ++
    leBytes 2 h.window.toNat ++ leBytes 2 h.check.toNat ++ leBytes 2 h.urgPtr.toNat

/-- The bytes after kind and length of an MPTCP option, in the layout of the
member its subtype and length select. The bits the engine never reads (the
MP_CAPABLE version and flags, the MP_JOIN backup flag, DATA_FIN) are zero; a
DSS option carries its acknowledgement and sequence number in 8 bytes. -/
def OptionData.mptcpBytes (d : OptionData) (length : UInt8) : List UInt8 :=
  let head (b : ℕ) := [UInt8.ofNat (d.subtype.toNat * 16), UInt8.ofNat b]
  if d.subtype = mpCapableSubtype then
    head 0 ++ leBytes 8 d.mpCapable.synKey.toNat ++
      (if length = tcpolenMpCapable then leBytes 8 d.mpCapable.noSynReceiverKey.toNat else [])
  else if d.subtype = mpJoinSubtype then
    if length = tcpolenMpJoinSyn then
      head d.mpJoin.synAddressId.toNat ++ leBytes 4 d.mpJoin.synNoAckReceiverToken.toNat ++
        leBytes 4 d.mpJoin.synNoAckSenderRandomNumber.toNat
    else if length = tcpolenMpJoinSynAck then
      head d.mpJoin.synAddressId.toNat ++ leBytes 8 d.mpJoin.synAckSenderHmac.toNat ++
        leBytes 4 d.mpJoin.synAckSenderRandomNumber.toNat
    else head 0 ++ d.mpJoin.noSynSenderHmac
  else
    head (3 * d.dss.flagDack.toNat + 12 * d.dss.flagDsn.toNat) ++
      (if d.dss.flagDack then leBytes 8 d.dss.dackDataAck8oct.toNat else []) ++
      (if d.dss.flagDsn then
        if length = tcpolenDssDsn8Wocs then
          leBytes 8 d.dss.dsnDataSeqNbr8oct.toNat ++ leBytes 4 d.dss.dsnWoCsSubflowSeqNbr.toNat ++
            leBytes 2 d.dss.dsnWoCsDataLevelLength.toNat
        else
          leBytes 8 d.dss.dsnDataSeqNbr8oct.toNat ++ leBytes 4 d.dss.dsnWCsSubflowSeqNbr.toNat ++
            leBytes 2 d.dss.dsnWCsDataLevelLength.toNat ++ leBytes 2 d.dss.dsnWCsChecksum.toNat
      else [])

/-- The bytes of an option on the wire. -/
def TcpOption.wireBytes (opt : TcpOption) : List UInt8 :=
  [opt.kind, opt.length] ++
    if opt.kind = tcpoptMptcp then opt.data.mptcpBytes opt.length else opt.data.raw

/-- The bytes from `packet->tcp` on: header, options, payload. -/
def Packet.tcpSegmentBytes (packet : Packet) : List UInt8 :=
  packet.tcp.wireBytes ++ packet.tcpOptions.flatMap TcpOption.wireBytes ++ packet.payload

/-- Modelled from the spec: `packet_ip_header_len(packet)`, 4 · `ihl` for IPv4
and the 40 bytes of the IPv6 header otherwise. -/
def packetIpHeaderLen (packet : Packet) : ℕ :=
  match packet.ipv4 with
  | some h => 4 * h.ihl.val
  | none => 40

/-! ## Directions and results -/

/-- `DIRECTION_INBOUND` (script to kernel) and `DIRECTION_OUTBOUND` (kernel
to script). -/
inductive Direction
  | inbound
  | outbound
  deriving DecidableEq, Repr

/-- `STATUS_OK` and `STATUS_ERR`; any nonzero `int` the handlers compute
(`error || …` gives `1`) is an error. -/
inductive Status
  | ok
  | err
  deriving DecidableEq, Repr

/-- A `NULL` pointer that the engine dereferences: the process crashes. -/
inductive Fault
  /-- `subflow->…` with `subflow == NULL` -/
  | nullSubflow
  /-- `packet_to_modify->ipv4->ihl` on a packet without an IPv4 header -/
  | nullIpv4
  deriving DecidableEq, Repr

end PacketdrillMptcp
