import PacketdrillMptcp.State

/-!
# DSS

`mptcp_subtype_dss` (`mptcp.c`, lines 674–774). Only inbound options are
rewritten. A DSS option that carries an 8-byte data sequence number, with or
without a checksum, gets the initial DSN added to the script's number, the
TCP payload length as data-level length, and the subflow's running sequence
number, which then grows by the payload length. A data ACK gets the initial
DACK added.
-/

namespace PacketdrillMptcp

/-- The sum of the 16-bit words of `bytes` as a little-endian host reads them,
a last odd byte counting alone. -/
def wordSum : List UInt8 → ℕ
  | [] => 0
  | [b] => b.toNat
  | b0 :: b1 :: bs => b0.toNat + 256 * b1.toNat + wordSum bs

/-- Fold the carries of a sum back into 16 bits, `n` times. -/
def foldCarries : ℕ → ℕ → ℕ
  | 0, sum => sum
  | n + 1, sum => foldCarries n (sum % 65536 + sum / 65536)

/-- Modelled from the spec: `checksum(buffer, bytes)`, the one's complement of
the one's complement sum of the buffer's 16-bit words. -/
def checksum (bytes : List UInt8) : UInt16 :=
  ~~~(UInt16.ofNat (foldCarries 4 (wordSum bytes)))

/-- `tcp_payload_length` (lines 685–690): `ip_bytes - ihl*8 - (doff*4 - 20)`,
computed in `int` and stored in a `u16`. -/
def dssTcpPayloadLength (packetToModify : Packet) (ipv4 : Ipv4Header) : UInt16 :=
  let packetTotalLength : UInt16 := UInt16.ofNat packetToModify.ipBytes.toNat
  let tcpHeaderLength : UInt16 := UInt16.ofNat (packetToModify.tcp.doff.val * 4)
  let ipHeaderLength : UInt16 := UInt16.ofNat (ipv4.ihl.val * 8)
  let tcpHeaderWoOptions : UInt16 := 20
  packetTotalLength - ipHeaderLength - (tcpHeaderLength - tcpHeaderWoOptions)

/-- The pseudo-header `buffer_checksum` (lines 706–719): DSN, subflow sequence
number, data-level length and two zero bytes, as they are in the option. -/
def dssChecksumBuffer (dss : DssData) : List UInt8 :=
  wire64 dss.dsnDataSeqNbr8oct ++ wire32 dss.dsnWCsSubflowSeqNbr ++
    leBytes 2 dss.dsnWCsDataLevelLength.toNat ++ [0, 0]

/-- The subflow's running sequence number grown by a payload length
(`subflow->subflow_sequence_number += tcp_payload_length`). -/
def MpSubflow.advanceSeq (length : UInt16) (subflow : MpSubflow) : MpSubflow :=
  { subflow with subflowSequenceNumber := subflow.subflowSequenceNumber + length.toUInt32 }

/-- The `TCPOLEN_DSS_DSN8` case (lines 681–727); `i` is the position of the
option in the packet, whose bytes the checksum covers. -/
def dssDsn8 (s : MpState) (packetToModify : Packet) (i : ℕ) (tcpOpt : TcpOption) :
    Except Fault (MpState × TcpOption) :=
  match packetToModify.ipv4 with
  | none => .error .nullIpv4
  | some ipv4 =>
    let tcpPayloadLength := dssTcpPayloadLength packetToModify ipv4
    let tcpOpt := { tcpOpt with
      data.dss.dsnDataSeqNbr8oct := htobe64 (s.initialDsn + tcpOpt.data.dss.dsnDataSeqNbr8oct),
      data.dss.dsnWCsDataLevelLength := htons tcpPayloadLength }
    match findSubflowMatchingInboundPacket s packetToModify with
    | none => .error .nullSubflow
    | some subflow =>
      let tcpOpt := { tcpOpt with
        data.dss.dsnWCsSubflowSeqNbr := htonl subflow.subflowSequenceNumber,
        data.dss.dsnWCsChecksum := 0 }
      let s := s.updateMatchingSubflow packetToModify doesSubflowMatchInboundPacket
        (MpSubflow.advanceSeq tcpPayloadLength)
      let segment := (packetToModify.setOption i tcpOpt).tcpSegmentBytes.take
        (packetToModify.ipBytes.toNat - packetIpHeaderLen packetToModify)
      .ok (s, { tcpOpt with
        data.dss.dsnWCsChecksum := checksum segment + checksum (dssChecksumBuffer tcpOpt.data.dss) })

/-- The `TCPOLEN_DSS_DSN8_WOCS` case (lines 729–755). -/
def dssDsn8Wocs (s : MpState) (packetToModify : Packet) (tcpOpt : TcpOption) :
    Except Fault (MpState × TcpOption) :=
  match packetToModify.ipv4 with
  | none => .error .nullIpv4
  | some ipv4 =>
    let tcpPayloadLength := dssTcpPayloadLength packetToModify ipv4
    let tcpOpt := { tcpOpt with
      data.dss.dsnDataSeqNbr8oct := htobe64 (s.initialDsn + tcpOpt.data.dss.dsnDataSeqNbr8oct + 1),
      data.dss.dsnWoCsDataLevelLength := htons tcpPayloadLength }
    match findSubflowMatchingInboundPacket s packetToModify with
    | none => .error .nullSubflow
    | some subflow =>
      .ok (s.updateMatchingSubflow packetToModify doesSubflowMatchInboundPacket
          (MpSubflow.advanceSeq tcpPayloadLength),
        { tcpOpt with data.dss.dsnWoCsSubflowSeqNbr := htonl subflow.subflowSequenceNumber })

/-- The data sequence number cases (lines 681–755), by flag and length; a
DSN in an option of another length is left as the script wrote it. -/
def dssDsn (s : MpState) (packetToModify : Packet) (i : ℕ) (tcpOpt : TcpOption) :
    Except Fault (MpState × TcpOption) :=
  if tcpOpt.data.dss.flagDsn ∧ tcpOpt.length = tcpolenDssDsn8 then
    dssDsn8 s packetToModify i tcpOpt
  else if tcpOpt.data.dss.flagDsn ∧ tcpOpt.length = tcpolenDssDsn8Wocs then
    dssDsn8Wocs s packetToModify tcpOpt
  else .ok (s, tcpOpt)

/-- The data ACK (lines 757–763). -/
def dssDack (s : MpState) (tcpOpt : TcpOption) : TcpOption :=
  if tcpOpt.data.dss.flagDack then
    { tcpOpt with data.dss.dackDataAck8oct := htobe64 (s.initialDack + tcpOpt.data.dss.dackDataAck8oct) }
  else tcpOpt

@[simp] theorem dssDack_dsn (s : MpState) (tcpOpt : TcpOption) :
    (dssDack s tcpOpt).data.dss.dsnDataSeqNbr8oct = tcpOpt.data.dss.dsnDataSeqNbr8oct := by
  unfold dssDack; split <;> rfl

@[simp] theorem dssDack_dack (s : MpState) (tcpOpt : TcpOption) :
    (dssDack s tcpOpt).data.dss.dackDataAck8oct =
      if tcpOpt.data.dss.flagDack then htobe64 (s.initialDack + tcpOpt.data.dss.dackDataAck8oct)
      else tcpOpt.data.dss.dackDataAck8oct := by
  unfold dssDack; split <;> rfl

/-- `mptcp_subtype_dss(packet_to_modify, live_packet, tcp_opt_to_modify,
direction)` (lines 674–774); it never returns `STATUS_ERR` for a direction. -/
def mptcpSubtypeDss (s : MpState) (packetToModify : Packet) (i : ℕ) (tcpOptToModify : TcpOption) :
    Direction → Except Fault (Status × MpState × TcpOption)
  | .outbound => .ok (.ok, s, tcpOptToModify)
  | .inbound => (dssDsn s packetToModify i tcpOptToModify).map fun (s, tcpOpt) => (.ok, s, dssDack s tcpOpt)

/-! ## What each case does -/

/-- The checksummed case: it needs an IPv4 header and a subflow matching the
packet, advances that subflow by the payload length, and writes the DSN, the
payload length, the subflow's sequence number and the checksum. -/
theorem dssDsn8_ok {s s' : MpState} {packetToModify : Packet} {i : ℕ} {tcpOpt tcpOpt' : TcpOption}
    (h : dssDsn8 s packetToModify i tcpOpt = .ok (s', tcpOpt')) :
    ∃ ipv4 subflow, packetToModify.ipv4 = some ipv4 ∧
      findSubflowMatchingInboundPacket s packetToModify = some subflow ∧
      s' = s.updateMatchingSubflow packetToModify doesSubflowMatchInboundPacket
        (MpSubflow.advanceSeq (dssTcpPayloadLength packetToModify ipv4)) ∧
      let tcpOpt1 := { tcpOpt with
        data.dss.dsnDataSeqNbr8oct := htobe64 (s.initialDsn + tcpOpt.data.dss.dsnDataSeqNbr8oct),
        data.dss.dsnWCsDataLevelLength := htons (dssTcpPayloadLength packetToModify ipv4),
        data.dss.dsnWCsSubflowSeqNbr := htonl subflow.subflowSequenceNumber,
        data.dss.dsnWCsChecksum := 0 }
      let segment := (packetToModify.setOption i tcpOpt1).tcpSegmentBytes.take
        (packetToModify.ipBytes.toNat - packetIpHeaderLen packetToModify)
      tcpOpt' = { tcpOpt1 with
        data.dss.dsnWCsChecksum := checksum segment + checksum (dssChecksumBuffer tcpOpt1.data.dss) } := by
  unfold dssDsn8 at h
  split at h
  · cases h
  · rename_i ipv4 hipv4
    split at h
    · cases h
    · rename_i subflow hsubflow
      cases h
      exact ⟨ipv4, subflow, hipv4, hsubflow, rfl, rfl⟩

/-- The case without checksum: the same, with one added to the DSN. -/
theorem dssDsn8Wocs_ok {s s' : MpState} {packetToModify : Packet} {tcpOpt tcpOpt' : TcpOption}
    (h : dssDsn8Wocs s packetToModify tcpOpt = .ok (s', tcpOpt')) :
    ∃ ipv4 subflow, packetToModify.ipv4 = some ipv4 ∧
      findSubflowMatchingInboundPacket s packetToModify = some subflow ∧
      s' = s.updateMatchingSubflow packetToModify doesSubflowMatchInboundPacket
        (MpSubflow.advanceSeq (dssTcpPayloadLength packetToModify ipv4)) ∧
      tcpOpt' = { tcpOpt with
        data.dss.dsnDataSeqNbr8oct := htobe64 (s.initialDsn + tcpOpt.data.dss.dsnDataSeqNbr8oct + 1),
        data.dss.dsnWoCsDataLevelLength := htons (dssTcpPayloadLength packetToModify ipv4),
        data.dss.dsnWoCsSubflowSeqNbr := htonl subflow.subflowSequenceNumber } := by
  unfold dssDsn8Wocs at h
  split at h
  · cases h
  · rename_i ipv4 hipv4
    split at h
    · cases h
    · rename_i subflow hsubflow
      cases h
      exact ⟨ipv4, subflow, hipv4, hsubflow, rfl, rfl⟩

/-- An inbound DSS option: the DSN cases, then the data ACK; the call
returns `STATUS_OK` whenever it returns. -/
theorem mptcpSubtypeDss_inbound {s s' : MpState} {packetToModify : Packet} {i : ℕ}
    {tcpOpt tcpOpt' : TcpOption} {status : Status}
    (h : mptcpSubtypeDss s packetToModify i tcpOpt .inbound = .ok (status, s', tcpOpt')) :
    status = .ok ∧ ∃ tcpOpt1, dssDsn s packetToModify i tcpOpt = .ok (s', tcpOpt1) ∧ tcpOpt' = dssDack s' tcpOpt1 := by
  simp only [mptcpSubtypeDss] at h
  rcases hdsn : dssDsn s packetToModify i tcpOpt with _ | ⟨s1, tcpOpt1⟩ <;>
    simp only [hdsn, Except.map, Except.ok.injEq, Prod.mk.injEq, reduceCtorEq] at h
  obtain ⟨rfl, rfl, rfl⟩ := h
  exact ⟨rfl, tcpOpt1, rfl, rfl⟩

/-- The DSS handler changes nothing but subflows. -/
theorem mptcpSubtypeDss_frame {s s' : MpState} {packetToModify : Packet} {i : ℕ}
    {tcpOpt tcpOpt' : TcpOption} {direction : Direction} {status : Status}
    (h : mptcpSubtypeDss s packetToModify i tcpOpt direction = .ok (status, s', tcpOpt')) :
    SubflowFrame s s' := by
  cases direction with
  | outbound => cases h; exact .refl s
  | inbound =>
    obtain ⟨-, tcpOpt1, hdsn, -⟩ := mptcpSubtypeDss_inbound h
    unfold dssDsn at hdsn
    split_ifs at hdsn
    · obtain ⟨_, _, -, -, rfl, -⟩ := dssDsn8_ok hdsn; exact ⟨rfl, rfl, rfl, rfl, rfl, rfl, rfl, rfl⟩
    · obtain ⟨_, _, -, -, rfl, -⟩ := dssDsn8Wocs_ok hdsn; exact ⟨rfl, rfl, rfl, rfl, rfl, rfl, rfl, rfl⟩
    · cases hdsn; exact .refl s

/-- The connection-level numbers an inbound DSS option gets: the initial DSN
added to the script's DSN (plus one without checksum) in the two DSN cases,
and the initial DACK added to the script's DACK. -/
theorem mptcpSubtypeDss_inbound_numbers {s s' : MpState} {packetToModify : Packet} {i : ℕ}
    {tcpOpt tcpOpt' : TcpOption} {status : Status}
    (h : mptcpSubtypeDss s packetToModify i tcpOpt .inbound = .ok (status, s', tcpOpt')) :
    tcpOpt'.data.dss.dsnDataSeqNbr8oct =
      (if tcpOpt.data.dss.flagDsn ∧ tcpOpt.length = tcpolenDssDsn8 then
        htobe64 (s.initialDsn + tcpOpt.data.dss.dsnDataSeqNbr8oct)
      else if tcpOpt.data.dss.flagDsn ∧ tcpOpt.length = tcpolenDssDsn8Wocs then
        htobe64 (s.initialDsn + tcpOpt.data.dss.dsnDataSeqNbr8oct + 1)
      else tcpOpt.data.dss.dsnDataSeqNbr8oct) ∧
    tcpOpt'.data.dss.dackDataAck8oct =
      (if tcpOpt.data.dss.flagDack then htobe64 (s.initialDack + tcpOpt.data.dss.dackDataAck8oct)
      else tcpOpt.data.dss.dackDataAck8oct) := by
  have hdack := (mptcpSubtypeDss_frame h).initialDack
  obtain ⟨-, tcpOpt1, hdsn, rfl⟩ := mptcpSubtypeDss_inbound h
  rw [dssDack_dsn, dssDack_dack, hdack]
  unfold dssDsn at hdsn
  split_ifs at hdsn with h8 hwocs
  · obtain ⟨_, _, -, -, -, rfl⟩ := dssDsn8_ok hdsn
    dsimp only
    exact ⟨(if_pos h8).symm, rfl⟩
  · obtain ⟨_, _, -, -, -, rfl⟩ := dssDsn8Wocs_ok hdsn
    dsimp only
    exact ⟨by rw [if_neg h8, if_pos hwocs], rfl⟩
  · cases hdsn
    exact ⟨by rw [if_neg h8, if_neg hwocs], rfl⟩

/-! ## The subflow fields -/

/-- The DSN flag with one of the two lengths the engine handles. -/
def IsDsnDss (tcpOpt : TcpOption) : Prop :=
  tcpOpt.data.dss.flagDsn = true ∧ (tcpOpt.length = tcpolenDssDsn8 ∨ tcpOpt.length = tcpolenDssDsn8Wocs)

instance (tcpOpt : TcpOption) : Decidable (IsDsnDss tcpOpt) := inferInstanceAs (Decidable (_ ∧ _))

/-- The subflow sequence number field of a DSN-carrying DSS option, in the
layout its length selects. -/
def TcpOption.dssSubflowSeqNbr (tcpOpt : TcpOption) : UInt32 :=
  if tcpOpt.length = tcpolenDssDsn8 then tcpOpt.data.dss.dsnWCsSubflowSeqNbr
  else tcpOpt.data.dss.dsnWoCsSubflowSeqNbr

/-- The data-level length field of a DSN-carrying DSS option, likewise. -/
def TcpOption.dssDataLevelLength (tcpOpt : TcpOption) : UInt16 :=
  if tcpOpt.length = tcpolenDssDsn8 then tcpOpt.data.dss.dsnWCsDataLevelLength
  else tcpOpt.data.dss.dsnWoCsDataLevelLength

@[simp] theorem dssDack_dssSubflowSeqNbr (s : MpState) (tcpOpt : TcpOption) :
    (dssDack s tcpOpt).dssSubflowSeqNbr = tcpOpt.dssSubflowSeqNbr := by
  unfold dssDack; split <;> simp only [TcpOption.dssSubflowSeqNbr]

@[simp] theorem dssDack_dssDataLevelLength (s : MpState) (tcpOpt : TcpOption) :
    (dssDack s tcpOpt).dssDataLevelLength = tcpOpt.dssDataLevelLength := by
  unfold dssDack; split <;> simp only [TcpOption.dssDataLevelLength]

/-- What a DSS option does to the subflows: an inbound DSN-carrying one
writes the sequence number of the first subflow matching its packet and
advances that subflow by the data-level length it writes; any other changes
nothing. -/
theorem mptcpSubtypeDss_subflows {s s' : MpState} {packetToModify : Packet} {i : ℕ}
    {tcpOpt tcpOpt' : TcpOption} {direction : Direction} {status : Status}
    (h : mptcpSubtypeDss s packetToModify i tcpOpt direction = .ok (status, s', tcpOpt')) :
    (direction = .inbound ∧ IsDsnDss tcpOpt ∧ ∃ subflow,
      findSubflowMatchingInboundPacket s packetToModify = some subflow ∧
      tcpOpt'.dssSubflowSeqNbr = htonl subflow.subflowSequenceNumber ∧
      s'.subflows = updateFirst (doesSubflowMatchInboundPacket · packetToModify)
        (MpSubflow.advanceSeq (ntohs tcpOpt'.dssDataLevelLength)) s.subflows) ∨
    (¬(direction = .inbound ∧ IsDsnDss tcpOpt) ∧ s' = s) := by
  cases direction with
  | outbound => cases h; exact .inr ⟨fun h => Direction.noConfusion h.1, rfl⟩
  | inbound =>
    obtain ⟨-, tcpOpt1, hdsn, rfl⟩ := mptcpSubtypeDss_inbound h
    unfold dssDsn at hdsn
    split_ifs at hdsn with h8 hwocs
    · obtain ⟨ipv4, subflow, -, hfind, rfl, rfl⟩ := dssDsn8_ok hdsn
      refine .inl ⟨rfl, ⟨h8.1, .inl h8.2⟩, subflow, hfind, ?_, ?_⟩ <;>
        simp only [dssDack_dssSubflowSeqNbr, dssDack_dssDataLevelLength] <;>
        simp [TcpOption.dssSubflowSeqNbr, TcpOption.dssDataLevelLength, h8.2, MpState.updateMatchingSubflow]
    · obtain ⟨ipv4, subflow, -, hfind, rfl, rfl⟩ := dssDsn8Wocs_ok hdsn
      have hlen : ¬tcpOpt.length = tcpolenDssDsn8 := by rw [hwocs.2]; decide
      refine .inl ⟨rfl, ⟨hwocs.1, .inr hwocs.2⟩, subflow, hfind, ?_, ?_⟩ <;>
        simp only [dssDack_dssSubflowSeqNbr, dssDack_dssDataLevelLength] <;>
        simp [TcpOption.dssSubflowSeqNbr, TcpOption.dssDataLevelLength, hlen, MpState.updateMatchingSubflow]
    · cases hdsn
      refine .inr ⟨fun ⟨_, hflag, hlen⟩ => ?_, rfl⟩
      rcases hlen with hlen | hlen
      exacts [h8 ⟨hflag, hlen⟩, hwocs ⟨hflag, hlen⟩]

end PacketdrillMptcp
