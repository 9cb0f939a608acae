import PacketdrillMptcp.Keys
import PacketdrillMptcp.Subflows

/-!
# What the MP_JOIN handler writes

The fields `mptcp_subtype_mp_join` (`mptcp.c`, lines 479–672) fills in, for
every call it accepts, from any state: the receiver token of the two SYN
cases, the nonce of the SYN and SYN/ACK cases against the subflow record, and
the HMAC of the SYN/ACK and ACK cases against the keys and the records.

Results:
* `created_subflow_found_both_ways`: the record `new_subflow_*` creates is
  the one both searches find, from its own packet and from the packets of the
  other direction.
* `join_syn_token_is_kernel_token`: both JOIN SYN cases write the token of
  `kernel_key`; `outbound_join_syn_token_not_receivers`: so the outbound
  one does not carry the token of the tool's key, which receives it.
* `join_nonce_read_back`: the record keeps the nonce as written on the inbound
  SYN and the outbound SYN/ACK, and byte-swapped on the outbound SYN and the
  inbound SYN/ACK.
* `join_hmac_table`: the four HMACs, over the keys and the records' nonces.

Both JOIN SYN cases write the token of `kernel_key`, as the engine's design
has it (lines 494–495 and 590–591). RFC 6824 gives a SYN the token of the key
of the host that receives it, so the outbound JOIN SYN (lines 579–592), which
the tool receives, differs from it. Nonces are read from
live options as they are (`new_subflow_outbound`, lines 243–244; lines
516–519), but two cases write the nonce with `htonl` (lines 588–589 and
622–623), so on those the field read back is not the nonce of the record; the
inbound SYN/ACK also hashes the record's nonce and not the bytes it sends,
and stores the truncated tag with `htobe64` where the outbound SYN/ACK stores
it as it is.
-/

namespace PacketdrillMptcp

/-! ## The record a call finds -/

theorem findSubflowMatchingOutboundPacket_eq (s : MpState) (packet : Packet) :
    findSubflowMatchingOutboundPacket s packet =
      s.subflows.find? fun subflow => decide (subflow.ports = packet.outboundPorts) := by
  simp only [findSubflowMatchingOutboundPacket, findMatchingSubflow, doesSubflowMatchOutboundPacket_eq]

theorem findSubflowMatchingInboundPacket_update (s : MpState) (packet : Packet) (f : MpSubflow → MpSubflow)
    (hf : ∀ subflow, (f subflow).ports = subflow.ports) :
    findSubflowMatchingInboundPacket (s.updateMatchingSubflow packet doesSubflowMatchInboundPacket f) packet =
      (findSubflowMatchingInboundPacket s packet).map f := by
  simp only [findSubflowMatchingInboundPacket_eq, MpState.updateMatchingSubflow, doesSubflowMatchInboundPacket_eq]
  rw [find?_updateFirst MpSubflow.ports f hf, if_pos rfl]

theorem findSubflowMatchingOutboundPacket_update (s : MpState) (packet : Packet) (f : MpSubflow → MpSubflow)
    (hf : ∀ subflow, (f subflow).ports = subflow.ports) :
    findSubflowMatchingOutboundPacket (s.updateMatchingSubflow packet doesSubflowMatchOutboundPacket f) packet =
      (findSubflowMatchingOutboundPacket s packet).map f := by
  simp only [findSubflowMatchingOutboundPacket_eq, MpState.updateMatchingSubflow, doesSubflowMatchOutboundPacket_eq]
  rw [find?_updateFirst MpSubflow.ports f hf, if_pos rfl]

/-- The record `new_subflow_inbound` creates holds the generator's draw as
tool nonce and is the one the packet then finds. -/
theorem newSubflowInbound_some {s s' : MpState} {packet : Packet} {subflow : MpSubflow}
    (h : newSubflowInbound s packet = (some subflow, s')) :
    subflow.packetdrillRandNbr = some s.generate32.1 ∧ findSubflowMatchingInboundPacket s' packet = some subflow := by
  unfold newSubflowInbound at h
  split at h
  · cases h
  · cases h
    simp [findSubflowMatchingInboundPacket, findMatchingSubflow, doesSubflowMatchInboundPacket,
      MpSubflow.hasPorts, MpState.generate32]

/-- The record `new_subflow_outbound` creates holds, as it is, the nonce of
the live packet's MPTCP option and is the one the packet then finds. -/
theorem newSubflowOutbound_some {s s' : MpState} {packet : Packet} {subflow : MpSubflow}
    (h : newSubflowOutbound s packet = (some subflow, s')) :
    ∃ liveMpJoin, getTcpOption packet tcpoptMptcp = some liveMpJoin ∧
      subflow.kernelRandNbr = some liveMpJoin.data.mpJoin.synNoAckSenderRandomNumber ∧
      findSubflowMatchingOutboundPacket s' packet = some subflow := by
  unfold newSubflowOutbound at h
  split at h
  · rename_i liveMpJoin _ _ hlive _
    cases h
    exact ⟨liveMpJoin, hlive, rfl, by
      simp [findSubflowMatchingOutboundPacket, findMatchingSubflow, doesSubflowMatchOutboundPacket,
        MpSubflow.hasPorts]⟩
  · cases h

/-- A packet with another's ports swapped has that packet's pair from the
other side. -/
theorem Packet.ports_of_swapped {p q : Packet} (hsrc : q.tcp.srcPort = p.tcp.dstPort)
    (hdst : q.tcp.dstPort = p.tcp.srcPort) :
    q.outboundPorts = p.inboundPorts ∧ q.inboundPorts = p.outboundPorts := by
  simp [Packet.outboundPorts, Packet.inboundPorts, hsrc, hdst]

/-- Right after `new_subflow_inbound(p)` or `new_subflow_outbound(p)` returns a
record, whatever the table held before, the search of `p`'s own direction
returns it, and so does the search of the other direction for every packet
with `p`'s ports swapped: the creators' `ntohs` and swap agree with the two
match tests, and the new record is the first the scan meets. -/
theorem created_subflow_found_both_ways {s s' : MpState} {p : Packet} {subflow : MpSubflow} :
    (newSubflowInbound s p = (some subflow, s') →
      findSubflowMatchingInboundPacket s' p = some subflow ∧
      ∀ q : Packet, q.tcp.srcPort = p.tcp.dstPort → q.tcp.dstPort = p.tcp.srcPort →
        findSubflowMatchingOutboundPacket s' q = some subflow) ∧
    (newSubflowOutbound s p = (some subflow, s') →
      findSubflowMatchingOutboundPacket s' p = some subflow ∧
      ∀ q : Packet, q.tcp.srcPort = p.tcp.dstPort → q.tcp.dstPort = p.tcp.srcPort →
        findSubflowMatchingInboundPacket s' q = some subflow) := by
  refine ⟨fun h => ?_, fun h => ?_⟩
  · have hfind := (newSubflowInbound_some h).2
    refine ⟨hfind, fun q hsrc hdst => ?_⟩
    rw [findSubflowMatchingOutboundPacket_eq, (Packet.ports_of_swapped hsrc hdst).1,
      ← findSubflowMatchingInboundPacket_eq, hfind]
  · obtain ⟨-, -, -, hfind⟩ := newSubflowOutbound_some h
    refine ⟨hfind, fun q hsrc hdst => ?_⟩
    rw [findSubflowMatchingInboundPacket_eq, (Packet.ports_of_swapped hsrc hdst).2,
      ← findSubflowMatchingOutboundPacket_eq, hfind]

/-- The record the tool's JOIN SYN creates is the one the kernel's reply, from
port 80 to port 10000, finds; the record the kernel's JOIN SYN creates is the
one the tool's reply, from port 10000 to port 80, finds. -/
theorem joinSyn_record_found_by_reply :
    (∃ subflow, newSubflowInbound (initMpState 8 fun _ => 0) joinSynPacket =
        (some subflow, (newSubflowInbound (initMpState 8 fun _ => 0) joinSynPacket).2) ∧
      findSubflowMatchingOutboundPacket (newSubflowInbound (initMpState 8 fun _ => 0) joinSynPacket).2
        kernelJoinSynPacket = some subflow) ∧
    (∃ subflow, newSubflowOutbound (initMpState 8 fun _ => 0) kernelJoinSynPacket =
        (some subflow, (newSubflowOutbound (initMpState 8 fun _ => 0) kernelJoinSynPacket).2) ∧
      findSubflowMatchingInboundPacket (newSubflowOutbound (initMpState 8 fun _ => 0) kernelJoinSynPacket).2
        joinSynPacket = some subflow) :=
  ⟨⟨_, rfl, (@created_subflow_found_both_ways (initMpState 8 fun _ => 0) _ joinSynPacket _).1 rfl |>.2
      kernelJoinSynPacket rfl rfl⟩,
    ⟨_, rfl, (@created_subflow_found_both_ways (initMpState 8 fun _ => 0) _ kernelJoinSynPacket _).2 rfl |>.2
      joinSynPacket rfl rfl⟩⟩

/-- An accepted MP_JOIN option call is a call of `mptcp_subtype_mp_join`. -/
theorem mptcpSubtypeMpJoin_of_mpStep {s s' : MpState} {packetToModify livePacket : Packet} {i : ℕ}
    {tcpOpt tcpOpt' : TcpOption} {direction : Direction} {status : Status}
    (hsub : tcpOpt.data.subtype = mpJoinSubtype)
    (h : mpStep s (.option packetToModify livePacket i tcpOpt direction) = .ok (status, s', some tcpOpt')) :
    mptcpSubtypeMpJoin s packetToModify livePacket tcpOpt direction = .ok (status, s', tcpOpt') := by
  obtain ⟨_, hopt, hout⟩ := mpStep_option.mp h
  cases hout
  rwa [mptcpOption_of_mpJoin hsub] at hopt

/-! ## Tokens -/

section
variable {s s' : MpState} {packetToModify livePacket : Packet} {i : ℕ} {tcpOpt tcpOpt' : TcpOption}

/-- Every JOIN SYN the engine accepts, in either direction, carries the token
of `kernel_key` as it is when the call starts. -/
theorem join_syn_token_is_kernel_token {direction : Direction} (hsub : tcpOpt.data.subtype = mpJoinSubtype)
    (hsyn : IsJoinSyn packetToModify tcpOpt)
    (h : mpStep s (.option packetToModify livePacket i tcpOpt direction) = .ok (.ok, s', some tcpOpt')) :
    tcpOpt'.data.mpJoin.synNoAckReceiverToken = htonl (sha1Least32bits s.kernelKey) := by
  have hjoin := mptcpSubtypeMpJoin_of_mpStep hsub h
  cases direction
  · rw [mptcpSubtypeMpJoin_synInbound hsyn] at hjoin
    obtain ⟨_, -, rfl⟩ := mpJoinSynInbound_ok (Except.ok.inj hjoin)
    rfl
  · rw [mptcpSubtypeMpJoin_synOutbound hsyn] at hjoin
    obtain ⟨_, -, -, rfl⟩ := mpJoinSynOutbound_ok hjoin
    rfl

/-- The kernel's MP_CAPABLE SYN/ACK from port 80 to port 10000, seen live
with the same option. -/
def capableSynAckOut : MpInput :=
  let tcpOpt := mptcpOptionOf mpCapableSubtype tcpolenMpCapableSyn
  let packet := tcpPacket 0x5000 0x1027 true true [tcpOpt]
  .option packet packet 0 tcpOpt .outbound

/-- The tool's MP_CAPABLE third ACK from port 10000 to port 80. -/
def thirdAckIn : MpInput :=
  let tcpOpt := mptcpOptionOf mpCapableSubtype tcpolenMpCapable
  let packet := tcpPacket 0x1027 0x5000 false true [tcpOpt]
  .option packet packet 0 tcpOpt .inbound

/-- A handshake with script-defined keys: `a`, the tool's, is 1 and `b`, the
kernel's, is 2. -/
def handshakeRun : List MpInput :=
  [.addMpVarScriptDefined "a" 1, .addMpVarScriptDefined "b" 2, .enqueueVar "a" "", .enqueueVar "b" "",
    .enqueueVar "a" "", .enqueueVar "b" "", capableSynIn, capableSynAckOut, thirdAckIn]

/-- The state after `handshakeRun`. -/
def handshakeState : MpState :=
  (runInputs (initMpState 8 fun _ => 0) handshakeRun).getD (initMpState 8 fun _ => 0)

/-- The option the kernel's JOIN SYN `kernelJoinSynOut` is expected with. -/
def kernelJoinSynWritten : TcpOption :=
  { joinSynOption with
    data.mpJoin.synAddressId := 0,
    data.mpJoin.synNoAckSenderRandomNumber := htonl 0,
    data.mpJoin.synNoAckReceiverToken := htonl (sha1Least32bits handshakeState.kernelKey) }

/-- After the handshake the kernel's JOIN SYN, which the tool receives,
carries the token of 2, the key of the kernel that sends it. -/
theorem handshake_join_syn_token :
    runInputs (initMpState 8 fun _ => 0) handshakeRun = some handshakeState ∧
    handshakeState.packetdrillKey = 1 ∧ handshakeState.kernelKey = 2 ∧
    mpStep handshakeState kernelJoinSynOut =
      .ok (.ok, (newSubflowOutbound handshakeState kernelJoinSynPacket).2, some kernelJoinSynWritten) ∧
    kernelJoinSynWritten.data.mpJoin.synNoAckReceiverToken = htonl (sha1Least32bits 2) := by
  have hstep : mpStep handshakeState kernelJoinSynOut =
      .ok (.ok, (newSubflowOutbound handshakeState kernelJoinSynPacket).2, some kernelJoinSynWritten) := rfl
  have hkernel : handshakeState.kernelKey = 2 := by decide
  refine ⟨rfl, by decide, hkernel, hstep, ?_⟩
  rw [join_syn_token_is_kernel_token rfl (by decide) hstep, hkernel]

set_option maxRecDepth 4000 in
/-- The tool receives the kernel's JOIN SYN after the handshake, and the SYN
does not carry the token of the tool's key 1. -/
theorem outbound_join_syn_token_not_receivers :
    runInputs (initMpState 8 fun _ => 0) handshakeRun = some handshakeState ∧
    handshakeState.packetdrillKey = 1 ∧
    mpStep handshakeState kernelJoinSynOut =
      .ok (.ok, (newSubflowOutbound handshakeState kernelJoinSynPacket).2, some kernelJoinSynWritten) ∧
    kernelJoinSynWritten.data.mpJoin.synNoAckReceiverToken ≠ htonl (sha1Least32bits 1) :=
  ⟨rfl, by decide, rfl, by decide⟩

/-! ## Nonces -/

/-- The nonce each accepted JOIN SYN or SYN/ACK writes, against the record of
its pair after the call: the inbound SYN and the outbound SYN/ACK write the
record's nonce, and the outbound SYN and the inbound SYN/ACK write it
byte-swapped. The outbound cases read the kernel's nonce from the live option
as it is. -/
theorem join_nonce_read_back {direction : Direction} (hsub : tcpOpt.data.subtype = mpJoinSubtype)
    (h : mpStep s (.option packetToModify livePacket i tcpOpt direction) = .ok (.ok, s', some tcpOpt')) :
    (direction = .inbound → IsJoinSyn packetToModify tcpOpt →
      ∃ subflow, findSubflowMatchingInboundPacket s' packetToModify = some subflow ∧
        subflow.packetdrillRandNbr = some tcpOpt'.data.mpJoin.synNoAckSenderRandomNumber) ∧
    (direction = .outbound → IsJoinSyn packetToModify tcpOpt →
      ∃ subflow liveMpJoin, getTcpOption livePacket tcpoptMptcp = some liveMpJoin ∧
        findSubflowMatchingOutboundPacket s' livePacket = some subflow ∧
        subflow.kernelRandNbr = some liveMpJoin.data.mpJoin.synNoAckSenderRandomNumber ∧
        tcpOpt'.data.mpJoin.synNoAckSenderRandomNumber = htonl liveMpJoin.data.mpJoin.synNoAckSenderRandomNumber) ∧
    (direction = .inbound → IsJoinSynAck packetToModify tcpOpt →
      ∃ subflow, findSubflowMatchingInboundPacket s' packetToModify = some subflow ∧
        subflow.packetdrillRandNbr = some (ntohl tcpOpt'.data.mpJoin.synAckSenderRandomNumber)) ∧
    (direction = .outbound → IsJoinSynAck packetToModify tcpOpt →
      ∃ subflow liveMpJoin, getTcpOption livePacket tcpoptMptcp = some liveMpJoin ∧
        findSubflowMatchingOutboundPacket s' livePacket = some subflow ∧
        subflow.kernelRandNbr = some liveMpJoin.data.mpJoin.synAckSenderRandomNumber ∧
        tcpOpt'.data.mpJoin.synAckSenderRandomNumber = liveMpJoin.data.mpJoin.synAckSenderRandomNumber) := by
  have hjoin := mptcpSubtypeMpJoin_of_mpStep hsub h
  refine ⟨fun hd hsyn => ?_, fun hd hsyn => ?_, fun hd hsynAck => ?_, fun hd hsynAck => ?_⟩ <;> subst hd
  · rw [mptcpSubtypeMpJoin_synInbound hsyn] at hjoin
    obtain ⟨subflow, hnew, rfl⟩ := mpJoinSynInbound_ok (Except.ok.inj hjoin)
    obtain ⟨hrand, hfind⟩ := newSubflowInbound_some hnew
    exact ⟨subflow, hfind, by simp [hrand]⟩
  · rw [mptcpSubtypeMpJoin_synOutbound hsyn] at hjoin
    obtain ⟨subflow, hnew, -, rfl⟩ := mpJoinSynOutbound_ok hjoin
    obtain ⟨liveMpJoin, hlive, hrand, hfind⟩ := newSubflowOutbound_some hnew
    exact ⟨subflow, liveMpJoin, hlive, hfind, hrand, by simp [hrand]⟩
  · rw [mptcpSubtypeMpJoin_synAckInbound hsynAck] at hjoin
    obtain ⟨subflow, hfind, rfl, rfl⟩ := mpJoinSynAckInbound_ok (Except.ok.inj hjoin)
    refine ⟨subflow.setPacketdrillRandNbr s.generate32.1, ?_, by simp [MpSubflow.setPacketdrillRandNbr]⟩
    calc findSubflowMatchingInboundPacket _ packetToModify
        = (findSubflowMatchingInboundPacket s.generate32.2 packetToModify).map
            (MpSubflow.setPacketdrillRandNbr s.generate32.1) :=
          findSubflowMatchingInboundPacket_update _ _ _ fun _ => rfl
      _ = _ := congrArg (Option.map _) hfind
  · rw [mptcpSubtypeMpJoin_synAckOutbound hsynAck] at hjoin
    obtain ⟨subflow, liveMpJoin, hfind, hlive, rfl, rfl⟩ := mpJoinSynAckOutbound_ok (Except.ok.inj hjoin)
    refine ⟨subflow.setKernelJoin liveMpJoin.data.mpJoin.synAddressId
      liveMpJoin.data.mpJoin.synAckSenderRandomNumber, liveMpJoin, hlive, ?_, rfl, rfl⟩
    exact (findSubflowMatchingOutboundPacket_update s livePacket (MpSubflow.setKernelJoin _ _) fun _ => rfl).trans
      (congrArg (Option.map _) hfind)

/-- The kernel has opened a subflow on the pair (10000, 80), and the
generator draws `0x01020304`. -/
def kernelOpenedState : MpState :=
  (newSubflowOutbound (initMpState 8 fun _ => 0x01020304) kernelJoinSynPacket).2

/-- The tool's JOIN SYN/ACK on that subflow. -/
def joinSynAckAnswer : Status × MpState × TcpOption :=
  mpJoinSynAckInbound kernelOpenedState joinSynAckPacket joinSynAckOption

/-- The tool's SYN/ACK carries the nonce `0x04030201` while its record holds
`0x01020304`. -/
theorem joinSynAckIn_nonce_swapped :
    joinSynAckAnswer.2.2.data.mpJoin.synAckSenderRandomNumber = 0x04030201 ∧
    ∃ subflow, findSubflowMatchingInboundPacket joinSynAckAnswer.2.1 joinSynAckPacket = some subflow ∧
      subflow.packetdrillRandNbr = some 0x01020304 := by
  have hstep : mpStep kernelOpenedState joinSynAckIn =
      .ok (.ok, joinSynAckAnswer.2.1, some joinSynAckAnswer.2.2) := rfl
  have hnonce : joinSynAckAnswer.2.2.data.mpJoin.synAckSenderRandomNumber = 0x04030201 := by decide
  obtain ⟨subflow, hfind, hrand⟩ := (join_nonce_read_back rfl hstep).2.2.1 rfl (by decide)
  exact ⟨hnonce, subflow, hfind, by rw [hrand, hnonce]; rfl⟩

/-! ## HMACs -/

/-- The HMAC each accepted JOIN SYN/ACK or ACK writes: keyed by the sender's
key then the receiver's, as the bytes of the two `u64` in memory, over the
sender's nonce then the receiver's, as the bytes of the two `u32` in memory.
The nonces are those of the record the call finds, the outbound SYN/ACK's
own being the one it writes and the inbound SYN/ACK's the one it writes read
back with `ntohl`; the outbound SYN/ACK writes the truncated tag as it is,
the inbound one with `htobe64`. -/
theorem join_hmac_table {direction : Direction} (hsub : tcpOpt.data.subtype = mpJoinSubtype)
    (h : mpStep s (.option packetToModify livePacket i tcpOpt direction) = .ok (.ok, s', some tcpOpt')) :
    (direction = .outbound → IsJoinSynAck packetToModify tcpOpt →
      ∃ subflow, findSubflowMatchingOutboundPacket s livePacket = some subflow ∧
        tcpOpt'.data.mpJoin.synAckSenderHmac =
          hmacSha1Truncat64 (hmacKey s.kernelKey s.packetdrillKey)
            (hmacMsg tcpOpt'.data.mpJoin.synAckSenderRandomNumber (subflow.packetdrillRandNbr.getD 0))) ∧
    (direction = .inbound → IsJoinSynAck packetToModify tcpOpt →
      ∃ subflow, findSubflowMatchingInboundPacket s packetToModify = some subflow ∧
        tcpOpt'.data.mpJoin.synAckSenderHmac =
          htobe64 (hmacSha1Truncat64 (hmacKey s.packetdrillKey s.kernelKey)
            (hmacMsg (ntohl tcpOpt'.data.mpJoin.synAckSenderRandomNumber) (subflow.kernelRandNbr.getD 0)))) ∧
    (direction = .inbound → IsJoinAck packetToModify tcpOpt →
      ∃ subflow, findSubflowMatchingInboundPacket s packetToModify = some subflow ∧
        tcpOpt'.data.mpJoin.noSynSenderHmac =
          hmacSha1 (hmacKey s.packetdrillKey s.kernelKey)
            (hmacMsg (subflow.packetdrillRandNbr.getD 0) (subflow.kernelRandNbr.getD 0))) ∧
    (direction = .outbound → IsJoinAck packetToModify tcpOpt →
      ∃ subflow, findSubflowMatchingOutboundPacket s packetToModify = some subflow ∧
        tcpOpt'.data.mpJoin.noSynSenderHmac =
          hmacSha1 (hmacKey s.kernelKey s.packetdrillKey)
            (hmacMsg (subflow.kernelRandNbr.getD 0) (subflow.packetdrillRandNbr.getD 0))) := by
  have hjoin := mptcpSubtypeMpJoin_of_mpStep hsub h
  refine ⟨fun hd hsynAck => ?_, fun hd hsynAck => ?_, fun hd hack => ?_, fun hd hack => ?_⟩ <;> subst hd
  · rw [mptcpSubtypeMpJoin_synAckOutbound hsynAck] at hjoin
    obtain ⟨subflow, _, hfind, -, -, rfl⟩ := mpJoinSynAckOutbound_ok (Except.ok.inj hjoin)
    exact ⟨subflow, hfind, rfl⟩
  · rw [mptcpSubtypeMpJoin_synAckInbound hsynAck] at hjoin
    obtain ⟨subflow, hfind, -, rfl⟩ := mpJoinSynAckInbound_ok (Except.ok.inj hjoin)
    exact ⟨subflow, hfind, by simp⟩
  · rw [mptcpSubtypeMpJoin_ackInbound hack] at hjoin
    obtain ⟨subflow, hfind, -, rfl⟩ := mpJoinAckInbound_ok (Except.ok.inj hjoin)
    exact ⟨subflow, hfind, rfl⟩
  · rw [mptcpSubtypeMpJoin_ackOutbound hack] at hjoin
    obtain ⟨subflow, hfind, -, rfl⟩ := mpJoinAckOutbound_ok (Except.ok.inj hjoin)
    exact ⟨subflow, hfind, rfl⟩

/-- The tool's SYN/ACK sends the nonce as the bytes 1, 2, 3, 4, and its HMAC
message begins with the bytes 4, 3, 2, 1. -/
theorem joinSynAckIn_hmac_over_swapped_nonce :
    wire32 joinSynAckAnswer.2.2.data.mpJoin.synAckSenderRandomNumber = [1, 2, 3, 4] ∧
    ∃ subflow, findSubflowMatchingInboundPacket kernelOpenedState joinSynAckPacket = some subflow ∧
      joinSynAckAnswer.2.2.data.mpJoin.synAckSenderHmac =
        htobe64 (hmacSha1Truncat64 (hmacKey kernelOpenedState.packetdrillKey kernelOpenedState.kernelKey)
          (hmacMsg 0x01020304 (subflow.kernelRandNbr.getD 0))) ∧
      (hmacMsg 0x01020304 (subflow.kernelRandNbr.getD 0)).take 4 = [4, 3, 2, 1] := by
  have hstep : mpStep kernelOpenedState joinSynAckIn =
      .ok (.ok, joinSynAckAnswer.2.1, some joinSynAckAnswer.2.2) := rfl
  have hnonce : joinSynAckAnswer.2.2.data.mpJoin.synAckSenderRandomNumber = 0x04030201 := by decide
  obtain ⟨subflow, hfind, hhmac⟩ := (join_hmac_table rfl hstep).2.1 rfl (by decide)
  refine ⟨by rw [hnonce]; decide, subflow, hfind, by rw [hhmac, hnonce]; rfl, ?_⟩
  rw [hmacMsg, wire32, List.take_left' (length_leBytes 4 _)]
  decide

end

end PacketdrillMptcp
