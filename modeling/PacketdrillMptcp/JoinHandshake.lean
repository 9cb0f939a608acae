import PacketdrillMptcp.Isolation
import PacketdrillMptcp.CapableHandshake

/-!
# Join handshakes

Every subflow after the first is opened by a three-way MP_JOIN handshake
(`mptcp_subtype_mp_join`, `mptcp.c`, lines 479–672), started by either side.
The SYN creates the pair's record (`new_subflow_inbound` when the tool sends
it, `new_subflow_outbound`, from the live packet, when the kernel does), the
SYN/ACK writes the responder's nonce into it, and the ACK finds it again.

Each step finds the record the step before it created or wrote: a new record
goes in front of the table and is the first of its pair, whatever the table
held before. So the engine accepts every well-formed handshake from every
state. The HMACs of the SYN/ACK and of the ACK are over one pair of nonces,
the responder's first in the SYN/ACK and the initiator's first in the ACK,
and they are keyed by the keys the state holds: after an MP_CAPABLE
handshake, the keys its third ACK carried.

Results:
* `tool_join_handshake`: a handshake the tool starts is accepted from any
  state; it leaves a record with both nonces, and its options carry the
  nonces and HMACs of that record.
* `kernel_join_handshake`: the same for a handshake the kernel starts.
* `join_authenticated_by_capable_keys`: on a connection the tool opens, a
  join the tool starts carries the token of the kernel's key from the
  MP_CAPABLE handshake, and its HMACs are keyed by the two keys of that
  handshake's third ACK.
-/

namespace PacketdrillMptcp

/-! ## Well-formed handshakes -/

/-- The three calls of a join handshake the tool starts are well formed: its
SYN has an IP header, the kernel's SYN/ACK is seen live with its MPTCP option
on the pair of that SYN, and the tool's ACK is on the same pair. -/
structure ToolJoinHandshake (syn synAck live ack : Packet) (tcpOpt₁ tcpOpt₂ tcpOpt₃ liveMpJoin : TcpOption) :
    Prop where
  isSyn : tcpOpt₁.data.subtype = mpJoinSubtype ∧ IsJoinSyn syn tcpOpt₁
  hasIp : syn.ipAddresses ≠ none
  isSynAck : tcpOpt₂.data.subtype = mpJoinSubtype ∧ IsJoinSynAck synAck tcpOpt₂
  liveOption : getTcpOption live tcpoptMptcp = some liveMpJoin
  livePorts : live.outboundPorts = syn.inboundPorts
  isAck : tcpOpt₃.data.subtype = mpJoinSubtype ∧ IsJoinAck ack tcpOpt₃
  ackPorts : ack.inboundPorts = syn.inboundPorts

/-- The three calls of a join handshake the kernel starts are well formed: its
SYN is seen live with its MPTCP option and an IP header, and the tool's
SYN/ACK and the kernel's ACK are on the pair of that SYN. -/
structure KernelJoinHandshake (syn live synAck ack : Packet) (tcpOpt₁ tcpOpt₂ tcpOpt₃ liveMpJoin : TcpOption) :
    Prop where
  isSyn : tcpOpt₁.data.subtype = mpJoinSubtype ∧ IsJoinSyn syn tcpOpt₁
  liveOption : getTcpOption live tcpoptMptcp = some liveMpJoin
  hasIp : live.ipAddresses ≠ none
  isSynAck : tcpOpt₂.data.subtype = mpJoinSubtype ∧ IsJoinSynAck synAck tcpOpt₂
  synAckPorts : synAck.inboundPorts = live.outboundPorts
  isAck : tcpOpt₃.data.subtype = mpJoinSubtype ∧ IsJoinAck ack tcpOpt₃
  ackPorts : ack.outboundPorts = live.outboundPorts

/-! ## Records -/

/-- A creator that gets an IP header returns a record. -/
theorem newSubflowInbound_isSome (s : MpState) {packet : Packet} (hip : packet.ipAddresses ≠ none) :
    ∃ subflow, newSubflowInbound s packet = (some subflow, (newSubflowInbound s packet).2) := by
  rcases hp : packet.ipAddresses with _ | ⟨srcIp, dstIp⟩
  · exact absurd hp hip
  · exact ⟨_, by simp only [newSubflowInbound, hp]; rfl⟩

/-- The creator from the live packet returns a record, with the kernel's
address ID, when the packet has an MPTCP option and an IP header. -/
theorem newSubflowOutbound_isSome (s : MpState) {packet : Packet} {liveMpJoin : TcpOption}
    (hlive : getTcpOption packet tcpoptMptcp = some liveMpJoin) (hip : packet.ipAddresses ≠ none) :
    ∃ subflow, newSubflowOutbound s packet = (some subflow, (newSubflowOutbound s packet).2) ∧
      subflow.kernelAddrId = some liveMpJoin.data.mpJoin.synAddressId := by
  rcases hp : packet.ipAddresses with _ | ⟨srcIp, dstIp⟩
  · exact absurd hp hip
  · exact ⟨_, by simp only [newSubflowOutbound, hp, hlive]; rfl, rfl⟩

/-- The creator from the live packet draws no random number. -/
theorem newSubflowOutbound_random (s : MpState) (packet : Packet) :
    (newSubflowOutbound s packet).2.random = s.random := by
  unfold newSubflowOutbound; split <;> rfl

/-- A write through the inbound search is what the search then finds. -/
theorem subflowOf_updateMatchingSubflow_inbound (s : MpState) (packet : Packet) (f : MpSubflow → MpSubflow)
    (hf : ∀ subflow, (f subflow).ports = subflow.ports) :
    (s.updateMatchingSubflow packet doesSubflowMatchInboundPacket f).subflowOf packet.inboundPorts =
      (s.subflowOf packet.inboundPorts).map f := by
  rw [← findSubflowMatchingInboundPacket_eq_subflowOf, ← findSubflowMatchingInboundPacket_eq_subflowOf,
    findSubflowMatchingInboundPacket_update s packet f hf]

/-- A write through the outbound search is what the search then finds. -/
theorem subflowOf_updateMatchingSubflow_outbound (s : MpState) (packet : Packet) (f : MpSubflow → MpSubflow)
    (hf : ∀ subflow, (f subflow).ports = subflow.ports) :
    (s.updateMatchingSubflow packet doesSubflowMatchOutboundPacket f).subflowOf packet.outboundPorts =
      (s.subflowOf packet.outboundPorts).map f := by
  rw [← findSubflowMatchingOutboundPacket_eq_subflowOf, ← findSubflowMatchingOutboundPacket_eq_subflowOf,
    findSubflowMatchingOutboundPacket_update s packet f hf]

/-- What the handshake's writes leave in the fields it reads back. -/
@[simp] theorem MpSubflow.setKernelJoin_packetdrillRandNbr (addrId : UInt8) (randNbr : UInt32) (subflow : MpSubflow) :
    (subflow.setKernelJoin addrId randNbr).packetdrillRandNbr = subflow.packetdrillRandNbr := rfl

@[simp] theorem MpSubflow.setKernelJoin_kernelRandNbr (addrId : UInt8) (randNbr : UInt32) (subflow : MpSubflow) :
    (subflow.setKernelJoin addrId randNbr).kernelRandNbr = some randNbr := rfl

@[simp] theorem MpSubflow.setPacketdrillRandNbr_packetdrillRandNbr (randNbr : UInt32) (subflow : MpSubflow) :
    (subflow.setPacketdrillRandNbr randNbr).packetdrillRandNbr = some randNbr := rfl

@[simp] theorem MpSubflow.setPacketdrillRandNbr_kernelRandNbr (randNbr : UInt32) (subflow : MpSubflow) :
    (subflow.setPacketdrillRandNbr randNbr).kernelRandNbr = subflow.kernelRandNbr := rfl

@[simp] theorem MpState.updateMatchingSubflow_packetdrillKey (s : MpState) (packet : Packet)
    (match_ : MpSubflow → Packet → Bool) (f : MpSubflow → MpSubflow) :
    (s.updateMatchingSubflow packet match_ f).packetdrillKey = s.packetdrillKey := rfl

@[simp] theorem MpState.updateMatchingSubflow_kernelKey (s : MpState) (packet : Packet)
    (match_ : MpSubflow → Packet → Bool) (f : MpSubflow → MpSubflow) :
    (s.updateMatchingSubflow packet match_ f).kernelKey = s.kernelKey := rfl

@[simp] theorem MpState.generate32_packetdrillKey (s : MpState) :
    s.generate32.2.packetdrillKey = s.packetdrillKey := rfl

@[simp] theorem MpState.generate32_kernelKey (s : MpState) : s.generate32.2.kernelKey = s.kernelKey := rfl

/-! ## The six steps

Each step is accepted once the record it needs exists; it returns the state
it leaves and the fields of the option it writes that the handshake relies
on. -/

section
variable {s : MpState} {packetToModify : Packet} {tcpOpt : TcpOption} {subflow : MpSubflow}

theorem mpStep_joinSynIn (livePacket : Packet) (i : ℕ) (hsub : tcpOpt.data.subtype = mpJoinSubtype)
    (hsyn : IsJoinSyn packetToModify tcpOpt) {s₁ : MpState}
    (hnew : newSubflowInbound s packetToModify = (some subflow, s₁)) :
    ∃ tcpOpt', mpStep s (.option packetToModify livePacket i tcpOpt .inbound) = .ok (.ok, s₁, some tcpOpt') ∧
      tcpOpt'.data.mpJoin.synNoAckReceiverToken = htonl (sha1Least32bits s₁.kernelKey) ∧
      tcpOpt'.data.mpJoin.synNoAckSenderRandomNumber = subflow.packetdrillRandNbr.getD 0 :=
  ⟨_, by
    simp only [mpStep, mptcpOption_of_mpJoin hsub, mptcpSubtypeMpJoin_synInbound hsyn, mpJoinSynInbound, hnew]; rfl,
    by rfl, by rfl⟩

theorem mpStep_joinSynAckOut {livePacket : Packet} (i : ℕ) (hsub : tcpOpt.data.subtype = mpJoinSubtype)
    (hsynAck : IsJoinSynAck packetToModify tcpOpt) (hfind : s.subflowOf livePacket.outboundPorts = some subflow)
    {liveMpJoin : TcpOption} (hlive : getTcpOption livePacket tcpoptMptcp = some liveMpJoin) :
    ∃ tcpOpt', mpStep s (.option packetToModify livePacket i tcpOpt .outbound) =
        .ok (.ok, s.updateMatchingSubflow livePacket doesSubflowMatchOutboundPacket
          (MpSubflow.setKernelJoin liveMpJoin.data.mpJoin.synAddressId
            liveMpJoin.data.mpJoin.synAckSenderRandomNumber), some tcpOpt') ∧
      tcpOpt'.data.mpJoin.synAckSenderRandomNumber = liveMpJoin.data.mpJoin.synAckSenderRandomNumber ∧
      tcpOpt'.data.mpJoin.synAckSenderHmac = hmacSha1Truncat64 (hmacKey s.kernelKey s.packetdrillKey)
        (hmacMsg liveMpJoin.data.mpJoin.synAckSenderRandomNumber (subflow.packetdrillRandNbr.getD 0)) := by
  rw [← findSubflowMatchingOutboundPacket_eq_subflowOf] at hfind
  exact ⟨_, by
    simp only [mpStep, mptcpOption_of_mpJoin hsub, mptcpSubtypeMpJoin_synAckOutbound hsynAck, mpJoinSynAckOutbound,
      hfind, hlive]; rfl, by rfl, by rfl⟩

theorem mpStep_joinAckIn (livePacket : Packet) (i : ℕ) (hsub : tcpOpt.data.subtype = mpJoinSubtype)
    (hack : IsJoinAck packetToModify tcpOpt) (hfind : s.subflowOf packetToModify.inboundPorts = some subflow) :
    ∃ tcpOpt', mpStep s (.option packetToModify livePacket i tcpOpt .inbound) = .ok (.ok, s, some tcpOpt') ∧
      tcpOpt'.data.mpJoin.noSynSenderHmac = hmacSha1 (hmacKey s.packetdrillKey s.kernelKey)
        (hmacMsg (subflow.packetdrillRandNbr.getD 0) (subflow.kernelRandNbr.getD 0)) := by
  rw [← findSubflowMatchingInboundPacket_eq_subflowOf] at hfind
  exact ⟨_, by
    simp only [mpStep, mptcpOption_of_mpJoin hsub, mptcpSubtypeMpJoin_ackInbound hack, mpJoinAckInbound, hfind]; rfl,
    by rfl⟩

theorem mpStep_joinSynOut {livePacket : Packet} (i : ℕ) (hsub : tcpOpt.data.subtype = mpJoinSubtype)
    (hsyn : IsJoinSyn packetToModify tcpOpt) {s₁ : MpState}
    (hnew : newSubflowOutbound s livePacket = (some subflow, s₁)) :
    ∃ tcpOpt', mpStep s (.option packetToModify livePacket i tcpOpt .outbound) = .ok (.ok, s₁, some tcpOpt') ∧
      tcpOpt'.data.mpJoin.synNoAckSenderRandomNumber = htonl (subflow.kernelRandNbr.getD 0) :=
  ⟨_, by
    simp only [mpStep, mptcpOption_of_mpJoin hsub, mptcpSubtypeMpJoin_synOutbound hsyn, mpJoinSynOutbound, hnew]; rfl,
    by rfl⟩

theorem mpStep_joinSynAckIn (livePacket : Packet) (i : ℕ) (hsub : tcpOpt.data.subtype = mpJoinSubtype)
    (hsynAck : IsJoinSynAck packetToModify tcpOpt) (hfind : s.subflowOf packetToModify.inboundPorts = some subflow) :
    ∃ tcpOpt', mpStep s (.option packetToModify livePacket i tcpOpt .inbound) =
        .ok (.ok, { s.generate32.2.updateMatchingSubflow packetToModify doesSubflowMatchInboundPacket
            (MpSubflow.setPacketdrillRandNbr s.generate32.1) with
          lastPacketdrillAddrId := s.lastPacketdrillAddrId + 1 }, some tcpOpt') ∧
      tcpOpt'.data.mpJoin.synAckSenderRandomNumber = htonl s.generate32.1 ∧
      tcpOpt'.data.mpJoin.synAckSenderHmac = htobe64 (hmacSha1Truncat64 (hmacKey s.packetdrillKey s.kernelKey)
        (hmacMsg s.generate32.1 (subflow.kernelRandNbr.getD 0))) := by
  rw [← findSubflowMatchingInboundPacket_eq_subflowOf] at hfind
  exact ⟨_, by
    simp only [mpStep, mptcpOption_of_mpJoin hsub, mptcpSubtypeMpJoin_synAckInbound hsynAck, mpJoinSynAckInbound,
      hfind]; rfl, by rfl, by rfl⟩

theorem mpStep_joinAckOut (livePacket : Packet) (i : ℕ) (hsub : tcpOpt.data.subtype = mpJoinSubtype)
    (hack : IsJoinAck packetToModify tcpOpt) (hfind : s.subflowOf packetToModify.outboundPorts = some subflow) :
    ∃ tcpOpt', mpStep s (.option packetToModify livePacket i tcpOpt .outbound) = .ok (.ok, s, some tcpOpt') ∧
      tcpOpt'.data.mpJoin.noSynSenderHmac = hmacSha1 (hmacKey s.kernelKey s.packetdrillKey)
        (hmacMsg (subflow.kernelRandNbr.getD 0) (subflow.packetdrillRandNbr.getD 0)) := by
  rw [← findSubflowMatchingOutboundPacket_eq_subflowOf] at hfind
  exact ⟨_, by
    simp only [mpStep, mptcpOption_of_mpJoin hsub, mptcpSubtypeMpJoin_ackOutbound hack, mpJoinAckOutbound, hfind]; rfl,
    by rfl⟩

end

/-! ## The handshakes -/

section
variable {syn synAck live ack livePacket₁ livePacket₂ livePacket₃ : Packet} {i₁ i₂ i₃ : ℕ}
  {tcpOpt₁ tcpOpt₂ tcpOpt₃ liveMpJoin : TcpOption}

/-- The three steps of a join the tool starts, with the record they leave and
the fields of the options they write. -/
theorem ToolJoinHandshake.run (h : ToolJoinHandshake syn synAck live ack tcpOpt₁ tcpOpt₂ tcpOpt₃ liveMpJoin)
    (s : MpState) (livePacket₁ livePacket₃ : Packet) (i₁ i₂ i₃ : ℕ) :
    ∃ s₁ s₂ opt₁ opt₂ opt₃ subflow,
      mpStep s (.option syn livePacket₁ i₁ tcpOpt₁ .inbound) = .ok (.ok, s₁, some opt₁) ∧
      mpStep s₁ (.option synAck live i₂ tcpOpt₂ .outbound) = .ok (.ok, s₂, some opt₂) ∧
      mpStep s₂ (.option ack livePacket₃ i₃ tcpOpt₃ .inbound) = .ok (.ok, s₂, some opt₃) ∧
      s₂.subflowOf syn.inboundPorts = some subflow ∧
      subflow.packetdrillRandNbr = some (s.random 0).toUInt32 ∧
      subflow.kernelRandNbr = some liveMpJoin.data.mpJoin.synAckSenderRandomNumber ∧
      subflow.kernelAddrId = some liveMpJoin.data.mpJoin.synAddressId ∧
      opt₁.data.mpJoin.synNoAckReceiverToken = htonl (sha1Least32bits s.kernelKey) ∧
      opt₁.data.mpJoin.synNoAckSenderRandomNumber = (s.random 0).toUInt32 ∧
      opt₂.data.mpJoin.synAckSenderRandomNumber = liveMpJoin.data.mpJoin.synAckSenderRandomNumber ∧
      opt₂.data.mpJoin.synAckSenderHmac = hmacSha1Truncat64 (hmacKey s.kernelKey s.packetdrillKey)
        (hmacMsg liveMpJoin.data.mpJoin.synAckSenderRandomNumber (s.random 0).toUInt32) ∧
      opt₃.data.mpJoin.noSynSenderHmac = hmacSha1 (hmacKey s.packetdrillKey s.kernelKey)
        (hmacMsg (s.random 0).toUInt32 liveMpJoin.data.mpJoin.synAckSenderRandomNumber) := by
  obtain ⟨subflow, hnew⟩ := newSubflowInbound_isSome s h.hasIp
  obtain ⟨hnonce, hfind₁⟩ := newSubflowInbound_some hnew
  rw [findSubflowMatchingInboundPacket_eq_subflowOf] at hfind₁
  have hframe := newSubflowInbound_frame s syn
  obtain ⟨opt₁, hstep₁, htoken₁, hnonce₁⟩ := mpStep_joinSynIn livePacket₁ i₁ h.isSyn.1 h.isSyn.2 hnew
  obtain ⟨opt₂, hstep₂, hnonce₂, hhmac₂⟩ :=
    mpStep_joinSynAckOut i₂ h.isSynAck.1 h.isSynAck.2 (h.livePorts ▸ hfind₁) h.liveOption
  set update := MpSubflow.setKernelJoin liveMpJoin.data.mpJoin.synAddressId
    liveMpJoin.data.mpJoin.synAckSenderRandomNumber
  have hfind₂ : ((newSubflowInbound s syn).2.updateMatchingSubflow live doesSubflowMatchOutboundPacket
      update).subflowOf syn.inboundPorts = some (update subflow) := by
    rw [← h.livePorts, subflowOf_updateMatchingSubflow_outbound _ live update fun _ => rfl, h.livePorts, hfind₁]
    rfl
  obtain ⟨opt₃, hstep₃, hhmac₃⟩ := mpStep_joinAckIn livePacket₃ i₃ h.isAck.1 h.isAck.2 (h.ackPorts ▸ hfind₂)
  refine ⟨_, _, opt₁, opt₂, opt₃, update subflow, hstep₁, hstep₂, hstep₃, hfind₂, hnonce, rfl, rfl, ?_, ?_, hnonce₂,
    ?_, ?_⟩
  · rw [htoken₁, hframe.kernelKey]
  · rw [hnonce₁, hnonce]; rfl
  · rw [hhmac₂, hframe.kernelKey, hframe.packetdrillKey, hnonce]; rfl
  · simp only [hhmac₃, update, MpState.updateMatchingSubflow_packetdrillKey, MpState.updateMatchingSubflow_kernelKey,
      hframe.packetdrillKey, hframe.kernelKey, MpSubflow.setKernelJoin_packetdrillRandNbr,
      MpSubflow.setKernelJoin_kernelRandNbr, hnonce, Option.getD_some]
    rfl

/-- The three steps of a join the kernel starts, with the record they leave
and the fields of the options they write. -/
theorem KernelJoinHandshake.run (h : KernelJoinHandshake syn live synAck ack tcpOpt₁ tcpOpt₂ tcpOpt₃ liveMpJoin)
    (s : MpState) (livePacket₂ livePacket₃ : Packet) (i₁ i₂ i₃ : ℕ) :
    ∃ s₁ s₂ opt₁ opt₂ opt₃ subflow,
      mpStep s (.option syn live i₁ tcpOpt₁ .outbound) = .ok (.ok, s₁, some opt₁) ∧
      mpStep s₁ (.option synAck livePacket₂ i₂ tcpOpt₂ .inbound) = .ok (.ok, s₂, some opt₂) ∧
      mpStep s₂ (.option ack livePacket₃ i₃ tcpOpt₃ .outbound) = .ok (.ok, s₂, some opt₃) ∧
      s₂.subflowOf live.outboundPorts = some subflow ∧
      subflow.kernelRandNbr = some liveMpJoin.data.mpJoin.synNoAckSenderRandomNumber ∧
      subflow.kernelAddrId = some liveMpJoin.data.mpJoin.synAddressId ∧
      subflow.packetdrillRandNbr = some (s.random 0).toUInt32 ∧
      opt₁.data.mpJoin.synNoAckSenderRandomNumber = htonl liveMpJoin.data.mpJoin.synNoAckSenderRandomNumber ∧
      opt₂.data.mpJoin.synAckSenderRandomNumber = htonl (s.random 0).toUInt32 ∧
      opt₂.data.mpJoin.synAckSenderHmac = htobe64 (hmacSha1Truncat64 (hmacKey s.packetdrillKey s.kernelKey)
        (hmacMsg (s.random 0).toUInt32 liveMpJoin.data.mpJoin.synNoAckSenderRandomNumber)) ∧
      opt₃.data.mpJoin.noSynSenderHmac = hmacSha1 (hmacKey s.kernelKey s.packetdrillKey)
        (hmacMsg liveMpJoin.data.mpJoin.synNoAckSenderRandomNumber (s.random 0).toUInt32) := by
  obtain ⟨subflow, hnew, haddr⟩ := newSubflowOutbound_isSome s h.liveOption h.hasIp
  obtain ⟨liveMpJoin', hlive', hnonce, hfind₁⟩ := newSubflowOutbound_some hnew
  obtain rfl : liveMpJoin' = liveMpJoin := Option.some.inj (hlive'.symm.trans h.liveOption)
  rw [findSubflowMatchingOutboundPacket_eq_subflowOf] at hfind₁
  have hframe := newSubflowOutbound_frame s live
  have hrandom := newSubflowOutbound_random s live
  obtain ⟨opt₁, hstep₁, hnonce₁⟩ := mpStep_joinSynOut i₁ h.isSyn.1 h.isSyn.2 hnew
  obtain ⟨opt₂, hstep₂, hnonce₂, hhmac₂⟩ := mpStep_joinSynAckIn livePacket₂ i₂
    h.isSynAck.1 h.isSynAck.2 (h.synAckPorts ▸ hfind₁)
  set s₁ := (newSubflowOutbound s live).2
  set update := MpSubflow.setPacketdrillRandNbr s₁.generate32.1
  have hfind₂ : ({ s₁.generate32.2.updateMatchingSubflow synAck doesSubflowMatchInboundPacket update with
        lastPacketdrillAddrId := s₁.lastPacketdrillAddrId + 1 } : MpState).subflowOf live.outboundPorts =
      some (update subflow) := by
    rw [← h.synAckPorts] at hfind₁ ⊢
    exact (subflowOf_updateMatchingSubflow_inbound _ synAck update fun _ => rfl).trans (congrArg (Option.map _) hfind₁)
  obtain ⟨opt₃, hstep₃, hhmac₃⟩ :=
    mpStep_joinAckOut livePacket₃ i₃ h.isAck.1 h.isAck.2 (h.ackPorts ▸ hfind₂)
  have hdraw : s₁.generate32.1 = (s.random 0).toUInt32 := by rw [MpState.generate32, hrandom]
  refine ⟨_, _, opt₁, opt₂, opt₃, update subflow, hstep₁, hstep₂, hstep₃, hfind₂, hnonce, haddr, congrArg some hdraw,
    ?_, ?_, ?_, ?_⟩
  · rw [hnonce₁, hnonce]; rfl
  · rw [hnonce₂, hdraw]
  · rw [hhmac₂, hdraw, hnonce, hframe.kernelKey, hframe.packetdrillKey]; rfl
  · simp only [hhmac₃, update, MpState.updateMatchingSubflow_packetdrillKey,
      MpState.updateMatchingSubflow_kernelKey, MpState.generate32_packetdrillKey, MpState.generate32_kernelKey,
      hframe.packetdrillKey, hframe.kernelKey, MpSubflow.setPacketdrillRandNbr_packetdrillRandNbr,
      MpSubflow.setPacketdrillRandNbr_kernelRandNbr, hnonce, hdraw, Option.getD_some]

/-- A well-formed join handshake the tool starts is accepted from any state.
The pair's record then holds the tool's nonce, drawn by the SYN, and the
kernel's nonce and address ID, read from the live SYN/ACK. The SYN and the
SYN/ACK carry these two nonces, the SYN/ACK's truncated HMAC is over the
kernel's nonce then the tool's, and the ACK's HMAC over the tool's then the
kernel's. -/
theorem tool_join_handshake (s : MpState)
    (h : ToolJoinHandshake syn synAck live ack tcpOpt₁ tcpOpt₂ tcpOpt₃ liveMpJoin) :
    ∃ r₁ r₂ r₃, mpTrace s [.option syn livePacket₁ i₁ tcpOpt₁ .inbound, .option synAck live i₂ tcpOpt₂ .outbound,
        .option ack livePacket₃ i₃ tcpOpt₃ .inbound] = [r₁, r₂, r₃] ∧
      (∃ subflow, r₃.post.subflowOf syn.inboundPorts = some subflow ∧
        subflow.packetdrillRandNbr = some (s.random 0).toUInt32 ∧
        subflow.kernelRandNbr = some liveMpJoin.data.mpJoin.synAckSenderRandomNumber ∧
        subflow.kernelAddrId = some liveMpJoin.data.mpJoin.synAddressId) ∧
      r₁.out.map (·.data.mpJoin.synNoAckSenderRandomNumber) = some (s.random 0).toUInt32 ∧
      r₂.out.map (·.data.mpJoin.synAckSenderRandomNumber) = some liveMpJoin.data.mpJoin.synAckSenderRandomNumber ∧
      r₂.out.map (·.data.mpJoin.synAckSenderHmac) = some (hmacSha1Truncat64 (hmacKey s.kernelKey s.packetdrillKey)
        (hmacMsg liveMpJoin.data.mpJoin.synAckSenderRandomNumber (s.random 0).toUInt32)) ∧
      r₃.out.map (·.data.mpJoin.noSynSenderHmac) = some (hmacSha1 (hmacKey s.packetdrillKey s.kernelKey)
        (hmacMsg (s.random 0).toUInt32 liveMpJoin.data.mpJoin.synAckSenderRandomNumber)) := by
  obtain ⟨_, _, _, _, _, subflow, h₁, h₂, h₃, hfind, hnonce, hkernel, haddr, -, hnonce₁, hnonce₂, hhmac₂, hhmac₃⟩ :=
    h.run s livePacket₁ livePacket₃ i₁ i₂ i₃
  exact ⟨_, _, _, mpTrace_three h₁ h₂ h₃, ⟨subflow, hfind, hnonce, hkernel, haddr⟩, congrArg some hnonce₁,
    congrArg some hnonce₂, congrArg some hhmac₂, congrArg some hhmac₃⟩

/-- The kernel's JOIN SYN/ACK from port 80 to port 10000. -/
def kernelJoinSynAckPacket : Packet := tcpPacket 0x5000 0x1027 true true [joinSynAckOption]

/-- A JOIN ACK option as the script writes it. -/
def joinAckOption : TcpOption := mptcpOptionOf mpJoinSubtype tcpolenMpJoinAck

/-- The tool's JOIN ACK from port 10000 to port 80. -/
def joinAckPacket : Packet := tcpPacket 0x1027 0x5000 false true [joinAckOption]

/-- After the MP_CAPABLE handshake, the tool's join handshake on (10000, 80)
is accepted. -/
theorem tool_join_after_capable_handshake :
    ToolJoinHandshake joinSynPacket kernelJoinSynAckPacket kernelJoinSynAckPacket joinAckPacket joinSynOption
        joinSynAckOption joinAckOption joinSynAckOption ∧
      ∃ r₁ r₂ r₃, mpTrace handshakeState [joinSynIn,
        .option kernelJoinSynAckPacket kernelJoinSynAckPacket 0 joinSynAckOption .outbound,
        .option joinAckPacket joinAckPacket 0 joinAckOption .inbound] = [r₁, r₂, r₃] :=
  have h : ToolJoinHandshake joinSynPacket kernelJoinSynAckPacket kernelJoinSynAckPacket joinAckPacket joinSynOption
      joinSynAckOption joinAckOption joinSynAckOption :=
    ⟨by decide, by decide, by decide, rfl, by decide, by decide, by decide⟩
  have ⟨r₁, r₂, r₃, htrace, _⟩ := tool_join_handshake handshakeState h
  ⟨h, r₁, r₂, r₃, htrace⟩

/-- A well-formed join handshake the kernel starts is accepted from any state.
The pair's record then holds the kernel's nonce and address ID, read from the
live SYN, and the tool's nonce, drawn by the SYN/ACK. The SYN and the SYN/ACK
carry these two nonces in network byte order, the SYN/ACK's truncated HMAC is
over the tool's nonce then the kernel's, and the ACK's HMAC over the kernel's
then the tool's. -/
theorem kernel_join_handshake (s : MpState)
    (h : KernelJoinHandshake syn live synAck ack tcpOpt₁ tcpOpt₂ tcpOpt₃ liveMpJoin) :
    ∃ r₁ r₂ r₃, mpTrace s [.option syn live i₁ tcpOpt₁ .outbound, .option synAck livePacket₂ i₂ tcpOpt₂ .inbound,
        .option ack livePacket₃ i₃ tcpOpt₃ .outbound] = [r₁, r₂, r₃] ∧
      (∃ subflow, r₃.post.subflowOf live.outboundPorts = some subflow ∧
        subflow.kernelRandNbr = some liveMpJoin.data.mpJoin.synNoAckSenderRandomNumber ∧
        subflow.kernelAddrId = some liveMpJoin.data.mpJoin.synAddressId ∧
        subflow.packetdrillRandNbr = some (s.random 0).toUInt32) ∧
      r₁.out.map (·.data.mpJoin.synNoAckSenderRandomNumber) =
        some (htonl liveMpJoin.data.mpJoin.synNoAckSenderRandomNumber) ∧
      r₂.out.map (·.data.mpJoin.synAckSenderRandomNumber) = some (htonl (s.random 0).toUInt32) ∧
      r₂.out.map (·.data.mpJoin.synAckSenderHmac) = some (htobe64 (hmacSha1Truncat64
        (hmacKey s.packetdrillKey s.kernelKey)
        (hmacMsg (s.random 0).toUInt32 liveMpJoin.data.mpJoin.synNoAckSenderRandomNumber))) ∧
      r₃.out.map (·.data.mpJoin.noSynSenderHmac) = some (hmacSha1 (hmacKey s.kernelKey s.packetdrillKey)
        (hmacMsg liveMpJoin.data.mpJoin.synNoAckSenderRandomNumber (s.random 0).toUInt32)) := by
  obtain ⟨_, _, _, _, _, subflow, h₁, h₂, h₃, hfind, hkernel, haddr, hnonce, hnonce₁, hnonce₂, hhmac₂, hhmac₃⟩ :=
    h.run s livePacket₂ livePacket₃ i₁ i₂ i₃
  exact ⟨_, _, _, mpTrace_three h₁ h₂ h₃, ⟨subflow, hfind, hkernel, haddr, hnonce⟩, congrArg some hnonce₁,
    congrArg some hnonce₂, congrArg some hhmac₂, congrArg some hhmac₃⟩

/-- The kernel's JOIN ACK from port 80 to port 10000. -/
def kernelJoinAckPacket : Packet := tcpPacket 0x5000 0x1027 false true [joinAckOption]

/-- After the MP_CAPABLE handshake, the kernel's join handshake on (10000, 80)
is accepted. -/
theorem kernel_join_after_capable_handshake :
    KernelJoinHandshake kernelJoinSynPacket kernelJoinSynPacket joinSynAckPacket kernelJoinAckPacket joinSynOption
        joinSynAckOption joinAckOption joinSynOption ∧
      ∃ r₁ r₂ r₃, mpTrace handshakeState [kernelJoinSynOut, joinSynAckIn,
        .option kernelJoinAckPacket kernelJoinAckPacket 0 joinAckOption .outbound] = [r₁, r₂, r₃] :=
  have h : KernelJoinHandshake kernelJoinSynPacket kernelJoinSynPacket joinSynAckPacket kernelJoinAckPacket
      joinSynOption joinSynAckOption joinAckOption joinSynOption :=
    ⟨by decide, rfl, by decide, by decide, by decide, by decide, by decide⟩
  have ⟨r₁, r₂, r₃, htrace, _⟩ := kernel_join_handshake handshakeState h
  ⟨h, r₁, r₂, r₃, htrace⟩

end

/-! ## A connection -/

section
variable {capSyn capSynAck capAck capLive syn synAck live ack : Packet}
  {livePacket₁ livePacket₃ livePacket₄ livePacket₆ : Packet} {i₁ i₂ i₃ i₄ i₅ i₆ : ℕ}
  {capOpt₁ capOpt₂ capOpt₃ liveMpCapable tcpOpt₁ tcpOpt₂ tcpOpt₃ liveMpJoin : TcpOption} {toolName kernelName : String}

/-- On a connection the tool opens from a state with fresh names, whose
queued copies read alike (`CapableNamesFresh`), and no keys, a join the tool
starts next is accepted and is bound to the connection's
keys. Its SYN carries the token of the kernel's key that the MP_CAPABLE third
ACK carried. Its SYN/ACK's and ACK's HMACs are keyed by the two keys of that
third ACK, over the nonce its SYN carried and the kernel's nonce. -/
theorem join_authenticated_by_capable_keys {s : MpState} (hs : CapableNamesFresh s toolName kernelName)
    (hc : CapableHandshake capSyn capSynAck capAck capLive capOpt₁ capOpt₂ capOpt₃ liveMpCapable)
    (hj : ToolJoinHandshake syn synAck live ack tcpOpt₁ tcpOpt₂ tcpOpt₃ liveMpJoin) :
    ∃ r₁ r₂ r₃ r₄ r₅ r₆, mpTrace s [.option capSyn livePacket₁ i₁ capOpt₁ .inbound,
        .option capSynAck capLive i₂ capOpt₂ .outbound, .option capAck livePacket₃ i₃ capOpt₃ .inbound,
        .option syn livePacket₄ i₄ tcpOpt₁ .inbound, .option synAck live i₅ tcpOpt₂ .outbound,
        .option ack livePacket₆ i₆ tcpOpt₃ .inbound] = [r₁, r₂, r₃, r₄, r₅, r₆] ∧
      ∃ toolKey kernelKey nonce,
        r₃.out.map (fun o => (o.data.mpCapable.noSynSenderKey, o.data.mpCapable.noSynReceiverKey)) =
          some (toolKey, kernelKey) ∧
        r₄.out.map (·.data.mpJoin.synNoAckReceiverToken) = some (htonl (sha1Least32bits kernelKey)) ∧
        r₄.out.map (·.data.mpJoin.synNoAckSenderRandomNumber) = some nonce ∧
        r₅.out.map (·.data.mpJoin.synAckSenderHmac) = some (hmacSha1Truncat64 (hmacKey kernelKey toolKey)
          (hmacMsg liveMpJoin.data.mpJoin.synAckSenderRandomNumber nonce)) ∧
        r₆.out.map (·.data.mpJoin.noSynSenderHmac) = some (hmacSha1 (hmacKey toolKey kernelKey)
          (hmacMsg nonce liveMpJoin.data.mpJoin.synAckSenderRandomNumber)) := by
  obtain ⟨s₁, s₂, s₃, h₁, h₂, h₃, htool, hkernel, -, -⟩ := hc.toolRun hs livePacket₁ livePacket₃ i₁ i₂ i₃
  obtain ⟨s₄, s₅, opt₄, opt₅, opt₆, -, h₄, h₅, h₆, -, -, -, -, htoken, hnonce, -, hhmac₅, hhmac₆⟩ :=
    hj.run s₃ livePacket₄ livePacket₆ i₄ i₅ i₆
  have htrace := mpTrace_three h₄ h₅ h₆
  rw [hkernel] at htoken
  rw [htool, hkernel] at hhmac₅ hhmac₆
  rw [mpTrace_cons _ h₁, mpTrace_cons _ h₂, mpTrace_cons _ h₃, htrace]
  exact ⟨_, _, _, _, _, _, rfl, _, _, _, rfl, congrArg some htoken, congrArg some hnonce, congrArg some hhmac₅,
    congrArg some hhmac₆⟩

/-- The tool's JOIN SYN from port 10001 to port 80. -/
def secondJoinSynPacket : Packet := tcpPacket 0x1127 0x5000 true false [joinSynOption]

/-- The kernel's JOIN SYN/ACK from port 80 to port 10001. -/
def secondJoinSynAckPacket : Packet := tcpPacket 0x5000 0x1127 true true [joinSynAckOption]

/-- The tool's JOIN ACK from port 10001 to port 80. -/
def secondJoinAckPacket : Packet := tcpPacket 0x1127 0x5000 false true [joinAckOption]

/-- After the parser's calls, the tool opens the connection on port 10000 and
then a second subflow on port 10001. -/
theorem second_subflow_joins_capable_connection :
    CapableNamesFresh capableParsed "a" "b" ∧
      CapableHandshake capableSynPacket capableSynAckPacket thirdAckPacket capableSynAckPacket capableSynOption
        capableSynOption thirdAckOption capableSynOption ∧
      ToolJoinHandshake secondJoinSynPacket secondJoinSynAckPacket secondJoinSynAckPacket secondJoinAckPacket
        joinSynOption joinSynAckOption joinAckOption joinSynAckOption ∧
      ∃ r₁ r₂ r₃ r₄ r₅ r₆, mpTrace capableParsed
        [.option capableSynPacket capableSynPacket 0 capableSynOption .inbound,
          .option capableSynAckPacket capableSynAckPacket 0 capableSynOption .outbound,
          .option thirdAckPacket thirdAckPacket 0 thirdAckOption .inbound,
          .option secondJoinSynPacket secondJoinSynPacket 0 joinSynOption .inbound,
          .option secondJoinSynAckPacket secondJoinSynAckPacket 0 joinSynAckOption .outbound,
          .option secondJoinAckPacket secondJoinAckPacket 0 joinAckOption .inbound] = [r₁, r₂, r₃, r₄, r₅, r₆] :=
  have hs : CapableNamesFresh capableParsed "a" "b" := ⟨⟨[], rfl⟩, by decide, rfl, rfl, rfl, rfl⟩
  have hc : CapableHandshake capableSynPacket capableSynAckPacket thirdAckPacket capableSynAckPacket capableSynOption
      capableSynOption thirdAckOption capableSynOption :=
    ⟨by decide, by decide, by decide, rfl⟩
  have hj : ToolJoinHandshake secondJoinSynPacket secondJoinSynAckPacket secondJoinSynAckPacket secondJoinAckPacket
      joinSynOption joinSynAckOption joinAckOption joinSynAckOption :=
    ⟨by decide, by decide, by decide, rfl, by decide, by decide, by decide⟩
  have ⟨r₁, r₂, r₃, r₄, r₅, r₆, htrace, _⟩ := join_authenticated_by_capable_keys hs hc hj
  ⟨hs, hc, hj, r₁, r₂, r₃, r₄, r₅, r₆, htrace⟩

end

end PacketdrillMptcp
