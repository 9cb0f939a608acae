import PacketdrillMptcp.Crypto
import PacketdrillMptcp.State

/-!
# MP_JOIN

`mptcp_subtype_mp_join` (`mptcp.c`, lines 479–672): the six cases of the
join handshake, by direction, SYN and ACK flags and option length. The SYN
cases create a subflow (inbound: the tool opens it; outbound: the kernel
does); the SYN/ACK and ACK cases find it by port pair and fill in the nonces,
the address ID and the HMAC.

The HMAC key is a 16-byte buffer filled through two `unsigned long *`, the
message an `unsigned msg[2]`; both are hashed as the bytes they hold in
memory (`hmacKey`, `hmacMsg`).
-/

namespace PacketdrillMptcp

/-- `hmac_key[16]` with `first` in bytes 0–7 and `second` in bytes 8–15. -/
def hmacKey (first second : UInt64) : List UInt8 := wire64 first ++ wire64 second

/-- `unsigned msg[2] = {first, second}`. -/
def hmacMsg (first second : UInt32) : List UInt8 := wire32 first ++ wire32 second

/-- `subflow->kernel_addr_id = …; subflow->kernel_rand_nbr = …;` (lines
516–519): the kernel's address ID and nonce from its SYN/ACK. -/
def MpSubflow.setKernelJoin (addrId : UInt8) (randNbr : UInt32) (subflow : MpSubflow) : MpSubflow :=
  { subflow with kernelAddrId := some addrId, kernelRandNbr := some randNbr }

/-- `subflow->packetdrill_rand_nbr = generate_32();` (line 606). -/
def MpSubflow.setPacketdrillRandNbr (randNbr : UInt32) (subflow : MpSubflow) : MpSubflow :=
  { subflow with packetdrillRandNbr := some randNbr }

/-- The inbound JOIN SYN (lines 485–500): the tool opens a subflow. -/
def mpJoinSynInbound (s : MpState) (packetToModify : Packet) (tcpOpt : TcpOption) :
    Status × MpState × TcpOption :=
  match newSubflowInbound s packetToModify with
  | (none, s) => (.err, s, tcpOpt)
  | (some subflow, s) =>
    (.ok, s, { tcpOpt with
      data.mpJoin.synNoAckReceiverToken := htonl (sha1Least32bits s.kernelKey),
      data.mpJoin.synNoAckSenderRandomNumber := subflow.packetdrillRandNbr.getD 0,
      data.mpJoin.synAddressId := subflow.packetdrillAddrId.getD 0 })

/-- The outbound JOIN SYN/ACK (lines 502–545): the kernel's nonce and address
ID are read from the live option into the subflow and copied, with the
truncated HMAC, into the expected option. -/
def mpJoinSynAckOutbound (s : MpState) (livePacket : Packet) (tcpOpt : TcpOption) :
    Status × MpState × TcpOption :=
  match findSubflowMatchingOutboundPacket s livePacket, getTcpOption livePacket tcpoptMptcp with
  | some subflow, some liveMpJoin =>
    let update := MpSubflow.setKernelJoin liveMpJoin.data.mpJoin.synAddressId
      liveMpJoin.data.mpJoin.synAckSenderRandomNumber
    let s := s.updateMatchingSubflow livePacket doesSubflowMatchOutboundPacket update
    let subflow := update subflow
    (.ok, s, { tcpOpt with
      data.mpJoin.synAddressId := liveMpJoin.data.mpJoin.synAddressId,
      data.mpJoin.synAckSenderRandomNumber := liveMpJoin.data.mpJoin.synAckSenderRandomNumber,
      data.mpJoin.synAckSenderHmac :=
        hmacSha1Truncat64 (hmacKey s.kernelKey s.packetdrillKey)
          (hmacMsg (subflow.kernelRandNbr.getD 0) (subflow.packetdrillRandNbr.getD 0)) })
  | _, _ => (.err, s, tcpOpt)

/-- The inbound JOIN ACK (lines 547–577): the tool's full HMAC. -/
def mpJoinAckInbound (s : MpState) (packetToModify : Packet) (tcpOpt : TcpOption) :
    Status × MpState × TcpOption :=
  match findSubflowMatchingInboundPacket s packetToModify with
  | none => (.err, s, tcpOpt)
  | some subflow =>
    (.ok, s, { tcpOpt with
      data.mpJoin.noSynSenderHmac :=
        hmacSha1 (hmacKey s.packetdrillKey s.kernelKey)
          (hmacMsg (subflow.packetdrillRandNbr.getD 0) (subflow.kernelRandNbr.getD 0)) })

/-- The outbound JOIN SYN (lines 579–592): the kernel opens a subflow, read
from the live packet. `new_subflow_outbound` is not checked for `NULL`. -/
def mpJoinSynOutbound (s : MpState) (livePacket : Packet) (tcpOpt : TcpOption) :
    Except Fault (Status × MpState × TcpOption) :=
  match newSubflowOutbound s livePacket with
  | (none, _) => .error .nullSubflow
  | (some subflow, s) =>
    .ok (.ok, s, { tcpOpt with
      data.mpJoin.synAddressId := subflow.kernelAddrId.getD 0,
      data.mpJoin.synNoAckSenderRandomNumber := htonl (subflow.kernelRandNbr.getD 0),
      data.mpJoin.synNoAckReceiverToken := htonl (sha1Least32bits s.kernelKey) })

/-- The inbound JOIN SYN/ACK (lines 594–630): a fresh nonce for the tool and
the next address ID from the counter. -/
def mpJoinSynAckInbound (s : MpState) (packetToModify : Packet) (tcpOpt : TcpOption) :
    Status × MpState × TcpOption :=
  match findSubflowMatchingInboundPacket s packetToModify with
  | none => (.err, s, tcpOpt)
  | some subflow =>
    let (randNbr, s) := s.generate32
    let update := MpSubflow.setPacketdrillRandNbr randNbr
    let s := s.updateMatchingSubflow packetToModify doesSubflowMatchInboundPacket update
    let subflow := update subflow
    let key := hmacKey s.packetdrillKey s.kernelKey
    let msg := hmacMsg (subflow.packetdrillRandNbr.getD 0) (subflow.kernelRandNbr.getD 0)
    let addressId := s.lastPacketdrillAddrId
    let s := { s with lastPacketdrillAddrId := s.lastPacketdrillAddrId + 1 }
    (.ok, s, { tcpOpt with
      data.mpJoin.synAddressId := addressId,
      data.mpJoin.synAckSenderRandomNumber := htonl (subflow.packetdrillRandNbr.getD 0),
      data.mpJoin.synAckSenderHmac := htobe64 (hmacSha1Truncat64 key msg) })

/-- The outbound JOIN ACK (lines 632–666): the kernel's full HMAC. -/
def mpJoinAckOutbound (s : MpState) (packetToModify : Packet) (tcpOpt : TcpOption) :
    Status × MpState × TcpOption :=
  match findSubflowMatchingOutboundPacket s packetToModify with
  | none => (.err, s, tcpOpt)
  | some subflow =>
    (.ok, s, { tcpOpt with
      data.mpJoin.noSynSenderHmac :=
        hmacSha1 (hmacKey s.kernelKey s.packetdrillKey)
          (hmacMsg (subflow.kernelRandNbr.getD 0) (subflow.packetdrillRandNbr.getD 0)) })

/-- `mptcp_subtype_mp_join(packet_to_modify, live_packet, tcp_opt_to_modify,
direction)` (lines 479–672). Only the outbound JOIN SYN case can dereference
a `NULL` subflow. -/
def mptcpSubtypeMpJoin (s : MpState) (packetToModify livePacket : Packet)
    (tcpOptToModify : TcpOption) (direction : Direction) :
    Except Fault (Status × MpState × TcpOption) :=
  let tcp := packetToModify.tcp
  let length := tcpOptToModify.length
  if direction = .inbound ∧ !tcp.ack ∧ tcp.syn ∧ length = tcpolenMpJoinSyn then
    .ok (mpJoinSynInbound s packetToModify tcpOptToModify)
  else if direction = .outbound ∧ tcp.ack ∧ tcp.syn ∧ length = tcpolenMpJoinSynAck then
    .ok (mpJoinSynAckOutbound s livePacket tcpOptToModify)
  else if direction = .inbound ∧ tcp.ack ∧ !tcp.syn ∧ length = tcpolenMpJoinAck then
    .ok (mpJoinAckInbound s packetToModify tcpOptToModify)
  else if direction = .outbound ∧ !tcp.ack ∧ tcp.syn ∧ length = tcpolenMpJoinSyn then
    mpJoinSynOutbound s livePacket tcpOptToModify
  else if direction = .inbound ∧ tcp.ack ∧ tcp.syn ∧ length = tcpolenMpJoinSynAck then
    .ok (mpJoinSynAckInbound s packetToModify tcpOptToModify)
  else if direction = .outbound ∧ tcp.ack ∧ !tcp.syn ∧ length = tcpolenMpJoinAck then
    .ok (mpJoinAckOutbound s packetToModify tcpOptToModify)
  else .ok (.err, s, tcpOptToModify)

/-! ## The cases -/

/-- The flags and length of a JOIN SYN. -/
def IsJoinSyn (packetToModify : Packet) (tcpOpt : TcpOption) : Prop :=
  packetToModify.tcp.ack = false ∧ packetToModify.tcp.syn = true ∧ tcpOpt.length = tcpolenMpJoinSyn

/-- The flags and length of a JOIN SYN/ACK. -/
def IsJoinSynAck (packetToModify : Packet) (tcpOpt : TcpOption) : Prop :=
  packetToModify.tcp.ack = true ∧ packetToModify.tcp.syn = true ∧ tcpOpt.length = tcpolenMpJoinSynAck

/-- The flags and length of a JOIN ACK. -/
def IsJoinAck (packetToModify : Packet) (tcpOpt : TcpOption) : Prop :=
  packetToModify.tcp.ack = true ∧ packetToModify.tcp.syn = false ∧ tcpOpt.length = tcpolenMpJoinAck

instance (packetToModify : Packet) (tcpOpt : TcpOption) : Decidable (IsJoinSyn packetToModify tcpOpt) :=
  inferInstanceAs (Decidable (_ ∧ _ ∧ _))

instance (packetToModify : Packet) (tcpOpt : TcpOption) : Decidable (IsJoinSynAck packetToModify tcpOpt) :=
  inferInstanceAs (Decidable (_ ∧ _ ∧ _))

instance (packetToModify : Packet) (tcpOpt : TcpOption) : Decidable (IsJoinAck packetToModify tcpOpt) :=
  inferInstanceAs (Decidable (_ ∧ _ ∧ _))

section
variable {s : MpState} {packetToModify livePacket : Packet} {tcpOpt : TcpOption}

theorem mptcpSubtypeMpJoin_synInbound (h : IsJoinSyn packetToModify tcpOpt) :
    mptcpSubtypeMpJoin s packetToModify livePacket tcpOpt .inbound =
      .ok (mpJoinSynInbound s packetToModify tcpOpt) := by
  simp [mptcpSubtypeMpJoin, h.1, h.2.1, h.2.2]

theorem mptcpSubtypeMpJoin_synAckOutbound (h : IsJoinSynAck packetToModify tcpOpt) :
    mptcpSubtypeMpJoin s packetToModify livePacket tcpOpt .outbound =
      .ok (mpJoinSynAckOutbound s livePacket tcpOpt) := by
  simp [mptcpSubtypeMpJoin, h.1, h.2.1, h.2.2]

theorem mptcpSubtypeMpJoin_ackInbound (h : IsJoinAck packetToModify tcpOpt) :
    mptcpSubtypeMpJoin s packetToModify livePacket tcpOpt .inbound =
      .ok (mpJoinAckInbound s packetToModify tcpOpt) := by
  simp [mptcpSubtypeMpJoin, h.1, h.2.1, h.2.2]

theorem mptcpSubtypeMpJoin_synOutbound (h : IsJoinSyn packetToModify tcpOpt) :
    mptcpSubtypeMpJoin s packetToModify livePacket tcpOpt .outbound =
      mpJoinSynOutbound s livePacket tcpOpt := by
  simp [mptcpSubtypeMpJoin, h.1, h.2.1, h.2.2]

theorem mptcpSubtypeMpJoin_synAckInbound (h : IsJoinSynAck packetToModify tcpOpt) :
    mptcpSubtypeMpJoin s packetToModify livePacket tcpOpt .inbound =
      .ok (mpJoinSynAckInbound s packetToModify tcpOpt) := by
  simp [mptcpSubtypeMpJoin, h.1, h.2.1, h.2.2, tcpolenMpJoinSynAck, tcpolenMpJoinAck]

theorem mptcpSubtypeMpJoin_ackOutbound (h : IsJoinAck packetToModify tcpOpt) :
    mptcpSubtypeMpJoin s packetToModify livePacket tcpOpt .outbound =
      .ok (mpJoinAckOutbound s packetToModify tcpOpt) := by
  simp [mptcpSubtypeMpJoin, h.1, h.2.1, h.2.2, tcpolenMpJoinSynAck, tcpolenMpJoinAck, tcpolenMpJoinSyn]

theorem mptcpSubtypeMpJoin_err {direction : Direction} (hsyn : ¬IsJoinSyn packetToModify tcpOpt)
    (hsynAck : ¬IsJoinSynAck packetToModify tcpOpt) (hack : ¬IsJoinAck packetToModify tcpOpt) :
    mptcpSubtypeMpJoin s packetToModify livePacket tcpOpt direction = .ok (.err, s, tcpOpt) := by
  have hsyn' : ∀ {d : Direction}, ¬(direction = d ∧ (!packetToModify.tcp.ack) = true ∧
      packetToModify.tcp.syn = true ∧ tcpOpt.length = tcpolenMpJoinSyn) :=
    fun h => hsyn ⟨by simpa using h.2.1, h.2.2⟩
  have hack' : ∀ {d : Direction}, ¬(direction = d ∧ packetToModify.tcp.ack = true ∧
      (!packetToModify.tcp.syn) = true ∧ tcpOpt.length = tcpolenMpJoinAck) :=
    fun h => hack ⟨h.2.1, by simpa using h.2.2.1, h.2.2.2⟩
  simp only [mptcpSubtypeMpJoin]
  rw [if_neg hsyn', if_neg fun h => hsynAck h.2, if_neg hack', if_neg hsyn', if_neg fun h => hsynAck h.2,
    if_neg hack']

end

/-- The six cases of `mptcp_subtype_mp_join` by direction, flags and length,
and the failing case, which passed none of the tests. -/
theorem mptcpSubtypeMpJoin_cases (s : MpState) (packetToModify livePacket : Packet)
    (tcpOpt : TcpOption) (direction : Direction) :
    (mptcpSubtypeMpJoin s packetToModify livePacket tcpOpt direction =
        .ok (mpJoinSynInbound s packetToModify tcpOpt) ∧
      direction = .inbound ∧ IsJoinSyn packetToModify tcpOpt) ∨
    (mptcpSubtypeMpJoin s packetToModify livePacket tcpOpt direction =
        .ok (mpJoinSynAckOutbound s livePacket tcpOpt) ∧
      direction = .outbound ∧ IsJoinSynAck packetToModify tcpOpt) ∨
    (mptcpSubtypeMpJoin s packetToModify livePacket tcpOpt direction =
        .ok (mpJoinAckInbound s packetToModify tcpOpt) ∧
      direction = .inbound ∧ IsJoinAck packetToModify tcpOpt) ∨
    (mptcpSubtypeMpJoin s packetToModify livePacket tcpOpt direction =
        mpJoinSynOutbound s livePacket tcpOpt ∧
      direction = .outbound ∧ IsJoinSyn packetToModify tcpOpt) ∨
    (mptcpSubtypeMpJoin s packetToModify livePacket tcpOpt direction =
        .ok (mpJoinSynAckInbound s packetToModify tcpOpt) ∧
      direction = .inbound ∧ IsJoinSynAck packetToModify tcpOpt) ∨
    (mptcpSubtypeMpJoin s packetToModify livePacket tcpOpt direction =
        .ok (mpJoinAckOutbound s packetToModify tcpOpt) ∧
      direction = .outbound ∧ IsJoinAck packetToModify tcpOpt) ∨
    (mptcpSubtypeMpJoin s packetToModify livePacket tcpOpt direction = .ok (.err, s, tcpOpt) ∧
      ¬IsJoinSyn packetToModify tcpOpt ∧ ¬IsJoinSynAck packetToModify tcpOpt) := by
  by_cases hsyn : IsJoinSyn packetToModify tcpOpt
  · cases direction
    · exact .inl ⟨mptcpSubtypeMpJoin_synInbound hsyn, rfl, hsyn⟩
    · exact .inr <| .inr <| .inr <| .inl ⟨mptcpSubtypeMpJoin_synOutbound hsyn, rfl, hsyn⟩
  by_cases hsynAck : IsJoinSynAck packetToModify tcpOpt
  · cases direction
    · exact .inr <| .inr <| .inr <| .inr <| .inl ⟨mptcpSubtypeMpJoin_synAckInbound hsynAck, rfl, hsynAck⟩
    · exact .inr <| .inl ⟨mptcpSubtypeMpJoin_synAckOutbound hsynAck, rfl, hsynAck⟩
  by_cases hack : IsJoinAck packetToModify tcpOpt
  · cases direction
    · exact .inr <| .inr <| .inl ⟨mptcpSubtypeMpJoin_ackInbound hack, rfl, hack⟩
    · exact .inr <| .inr <| .inr <| .inr <| .inr <| .inl ⟨mptcpSubtypeMpJoin_ackOutbound hack, rfl, hack⟩
  · exact .inr <| .inr <| .inr <| .inr <| .inr <| .inr ⟨mptcpSubtypeMpJoin_err hsyn hsynAck hack, hsyn, hsynAck⟩

/-! ## What the cases change -/

theorem mpJoinSynInbound_state (s : MpState) (packetToModify : Packet) (tcpOpt : TcpOption) :
    (mpJoinSynInbound s packetToModify tcpOpt).2.1 = (newSubflowInbound s packetToModify).2 := by
  unfold mpJoinSynInbound; split <;> rename_i h <;> rw [h]

/-- An accepted inbound JOIN SYN created `subflow` and wrote its nonce and
address ID, with the token of the kernel's key. -/
theorem mpJoinSynInbound_ok {s s' : MpState} {packetToModify : Packet} {tcpOpt tcpOpt' : TcpOption}
    (h : mpJoinSynInbound s packetToModify tcpOpt = (.ok, s', tcpOpt')) :
    ∃ subflow, newSubflowInbound s packetToModify = (some subflow, s') ∧
      tcpOpt' = { tcpOpt with
        data.mpJoin.synNoAckReceiverToken := htonl (sha1Least32bits s.kernelKey),
        data.mpJoin.synNoAckSenderRandomNumber := subflow.packetdrillRandNbr.getD 0,
        data.mpJoin.synAddressId := subflow.packetdrillAddrId.getD 0 } := by
  have hkey := (newSubflowInbound_frame s packetToModify).kernelKey
  unfold mpJoinSynInbound at h
  split at h <;> rename_i heq
  · cases h
  · cases h
    rw [heq] at hkey
    exact ⟨_, heq, by rw [hkey]⟩

/-- An outbound JOIN SYN that does not fault created `subflow` from the live
packet and copied the kernel's nonce, byte-swapped, into the option. -/
theorem mpJoinSynOutbound_ok {s s' : MpState} {livePacket : Packet} {tcpOpt tcpOpt' : TcpOption}
    {status : Status} (h : mpJoinSynOutbound s livePacket tcpOpt = .ok (status, s', tcpOpt')) :
    ∃ subflow, newSubflowOutbound s livePacket = (some subflow, s') ∧ status = .ok ∧
      tcpOpt' = { tcpOpt with
        data.mpJoin.synAddressId := subflow.kernelAddrId.getD 0,
        data.mpJoin.synNoAckSenderRandomNumber := htonl (subflow.kernelRandNbr.getD 0),
        data.mpJoin.synNoAckReceiverToken := htonl (sha1Least32bits s.kernelKey) } := by
  have hkey := (newSubflowOutbound_frame s livePacket).kernelKey
  unfold mpJoinSynOutbound at h
  split at h <;> rename_i heq
  · cases h
  · cases h
    rw [heq] at hkey
    exact ⟨_, heq, rfl, by rw [hkey]⟩

/-- An accepted outbound JOIN SYN/ACK found `subflow` and the live option,
recorded the kernel's address ID and nonce, and wrote them with the truncated
HMAC. -/
theorem mpJoinSynAckOutbound_ok {s s' : MpState} {livePacket : Packet} {tcpOpt tcpOpt' : TcpOption}
    (h : mpJoinSynAckOutbound s livePacket tcpOpt = (.ok, s', tcpOpt')) :
    ∃ subflow liveMpJoin, findSubflowMatchingOutboundPacket s livePacket = some subflow ∧
      getTcpOption livePacket tcpoptMptcp = some liveMpJoin ∧
      s' = s.updateMatchingSubflow livePacket doesSubflowMatchOutboundPacket
        (MpSubflow.setKernelJoin liveMpJoin.data.mpJoin.synAddressId
          liveMpJoin.data.mpJoin.synAckSenderRandomNumber) ∧
      tcpOpt' = { tcpOpt with
        data.mpJoin.synAddressId := liveMpJoin.data.mpJoin.synAddressId,
        data.mpJoin.synAckSenderRandomNumber := liveMpJoin.data.mpJoin.synAckSenderRandomNumber,
        data.mpJoin.synAckSenderHmac :=
          hmacSha1Truncat64 (hmacKey s.kernelKey s.packetdrillKey)
            (hmacMsg liveMpJoin.data.mpJoin.synAckSenderRandomNumber (subflow.packetdrillRandNbr.getD 0)) } := by
  unfold mpJoinSynAckOutbound at h
  split at h
  · rename_i subflow liveMpJoin hfind hlive
    cases h; exact ⟨subflow, liveMpJoin, hfind, hlive, rfl, rfl⟩
  · cases h

/-- An accepted inbound JOIN SYN/ACK found `subflow`, gave it the
generator's next draw as tool nonce, took the next address ID, and wrote the
nonce byte-swapped and the truncated HMAC with `htobe64`. -/
theorem mpJoinSynAckInbound_ok {s s' : MpState} {packetToModify : Packet} {tcpOpt tcpOpt' : TcpOption}
    (h : mpJoinSynAckInbound s packetToModify tcpOpt = (.ok, s', tcpOpt')) :
    ∃ subflow, findSubflowMatchingInboundPacket s packetToModify = some subflow ∧
      s' = { s.generate32.2.updateMatchingSubflow packetToModify doesSubflowMatchInboundPacket
          (MpSubflow.setPacketdrillRandNbr s.generate32.1) with
        lastPacketdrillAddrId := s.lastPacketdrillAddrId + 1 } ∧
      tcpOpt' = { tcpOpt with
        data.mpJoin.synAddressId := s.lastPacketdrillAddrId,
        data.mpJoin.synAckSenderRandomNumber := htonl s.generate32.1,
        data.mpJoin.synAckSenderHmac :=
          htobe64 (hmacSha1Truncat64 (hmacKey s.packetdrillKey s.kernelKey)
            (hmacMsg s.generate32.1 (subflow.kernelRandNbr.getD 0))) } := by
  unfold mpJoinSynAckInbound at h
  split at h
  · cases h
  · rename_i subflow hfind
    cases h; exact ⟨subflow, hfind, rfl, rfl⟩

/-- An accepted inbound JOIN ACK found `subflow` and wrote the tool's full
HMAC. -/
theorem mpJoinAckInbound_ok {s s' : MpState} {packetToModify : Packet} {tcpOpt tcpOpt' : TcpOption}
    (h : mpJoinAckInbound s packetToModify tcpOpt = (.ok, s', tcpOpt')) :
    ∃ subflow, findSubflowMatchingInboundPacket s packetToModify = some subflow ∧ s' = s ∧
      tcpOpt' = { tcpOpt with
        data.mpJoin.noSynSenderHmac := hmacSha1 (hmacKey s.packetdrillKey s.kernelKey)
          (hmacMsg (subflow.packetdrillRandNbr.getD 0) (subflow.kernelRandNbr.getD 0)) } := by
  unfold mpJoinAckInbound at h
  split at h
  · cases h
  · cases h; exact ⟨_, ‹_›, rfl, rfl⟩

/-- An accepted outbound JOIN ACK found `subflow` and wrote the kernel's full
HMAC. -/
theorem mpJoinAckOutbound_ok {s s' : MpState} {packetToModify : Packet} {tcpOpt tcpOpt' : TcpOption}
    (h : mpJoinAckOutbound s packetToModify tcpOpt = (.ok, s', tcpOpt')) :
    ∃ subflow, findSubflowMatchingOutboundPacket s packetToModify = some subflow ∧ s' = s ∧
      tcpOpt' = { tcpOpt with
        data.mpJoin.noSynSenderHmac := hmacSha1 (hmacKey s.kernelKey s.packetdrillKey)
          (hmacMsg (subflow.kernelRandNbr.getD 0) (subflow.packetdrillRandNbr.getD 0)) } := by
  unfold mpJoinAckOutbound at h
  split at h
  · cases h
  · cases h; exact ⟨_, ‹_›, rfl, rfl⟩

theorem mpJoinAckInbound_state (s : MpState) (packetToModify : Packet) (tcpOpt : TcpOption) :
    (mpJoinAckInbound s packetToModify tcpOpt).2.1 = s := by
  unfold mpJoinAckInbound; split <;> rfl

theorem mpJoinAckOutbound_state (s : MpState) (packetToModify : Packet) (tcpOpt : TcpOption) :
    (mpJoinAckOutbound s packetToModify tcpOpt).2.1 = s := by
  unfold mpJoinAckOutbound; split <;> rfl

/-- The outbound SYN/ACK records the kernel's nonce and address ID in the
first subflow matching the live packet, if there is one and the live packet
has an MPTCP option. -/
theorem mpJoinSynAckOutbound_subflows (s : MpState) (livePacket : Packet) (tcpOpt : TcpOption) :
    (mpJoinSynAckOutbound s livePacket tcpOpt).2.1.subflows = s.subflows ∨
    ∃ addrId randNbr, (mpJoinSynAckOutbound s livePacket tcpOpt).2.1.subflows =
      updateFirst (doesSubflowMatchOutboundPacket · livePacket) (MpSubflow.setKernelJoin addrId randNbr) s.subflows := by
  unfold mpJoinSynAckOutbound
  split
  · exact .inr ⟨_, _, rfl⟩
  · exact .inl rfl

/-- The inbound SYN/ACK gives the first subflow matching the packet, if there
is one, the generator's next draw as its tool nonce. -/
theorem mpJoinSynAckInbound_subflows (s : MpState) (packetToModify : Packet) (tcpOpt : TcpOption) :
    (mpJoinSynAckInbound s packetToModify tcpOpt).2.1.subflows = s.subflows ∨
    (mpJoinSynAckInbound s packetToModify tcpOpt).2.1.subflows =
      updateFirst (doesSubflowMatchInboundPacket · packetToModify)
        (MpSubflow.setPacketdrillRandNbr (s.random 0).toUInt32) s.subflows := by
  unfold mpJoinSynAckInbound
  split
  · exact .inl rfl
  · exact .inr rfl

theorem mpJoinSynInbound_frame (s : MpState) (packetToModify : Packet) (tcpOpt : TcpOption) :
    SubflowFrame s (mpJoinSynInbound s packetToModify tcpOpt).2.1 := by
  unfold mpJoinSynInbound
  have := newSubflowInbound_frame s packetToModify
  split <;> rename_i heq <;> rw [heq] at this <;> exact this

theorem mpJoinSynAckOutbound_frame (s : MpState) (livePacket : Packet) (tcpOpt : TcpOption) :
    SubflowFrame s (mpJoinSynAckOutbound s livePacket tcpOpt).2.1 := by
  unfold mpJoinSynAckOutbound; split <;> exact ⟨rfl, rfl, rfl, rfl, rfl, rfl, rfl, rfl⟩

theorem mpJoinSynOutbound_frame {s s' : MpState} {livePacket : Packet} {tcpOpt tcpOpt' : TcpOption}
    {status : Status} (h : mpJoinSynOutbound s livePacket tcpOpt = .ok (status, s', tcpOpt')) :
    SubflowFrame s s' := by
  unfold mpJoinSynOutbound at h
  have := newSubflowOutbound_frame s livePacket
  split at h <;> rename_i heq
  · cases h
  · cases h; rw [heq] at this; exact this

theorem mpJoinSynAckInbound_frame (s : MpState) (packetToModify : Packet) (tcpOpt : TcpOption) :
    SubflowFrame s (mpJoinSynAckInbound s packetToModify tcpOpt).2.1 := by
  unfold mpJoinSynAckInbound; split <;> exact ⟨rfl, rfl, rfl, rfl, rfl, rfl, rfl, rfl⟩

/-- The join handler changes nothing but subflows, the address-ID counter and
the generator. -/
theorem mptcpSubtypeMpJoin_frame {s s' : MpState} {packetToModify livePacket : Packet}
    {tcpOpt tcpOpt' : TcpOption} {direction : Direction} {status : Status}
    (h : mptcpSubtypeMpJoin s packetToModify livePacket tcpOpt direction = .ok (status, s', tcpOpt')) :
    SubflowFrame s s' := by
  rcases mptcpSubtypeMpJoin_cases s packetToModify livePacket tcpOpt direction with
    ⟨hc, -⟩ | ⟨hc, -⟩ | ⟨hc, -⟩ | ⟨hc, -⟩ | ⟨hc, -⟩ | ⟨hc, -⟩ | ⟨hc, -⟩ <;> rw [hc] at h
  · exact state_of_ok (mpJoinSynInbound_frame s packetToModify tcpOpt) h
  · exact state_of_ok (mpJoinSynAckOutbound_frame s livePacket tcpOpt) h
  · exact state_of_ok (P := SubflowFrame s) (by unfold mpJoinAckInbound; split <;> exact .refl s) h
  · exact mpJoinSynOutbound_frame h
  · exact state_of_ok (mpJoinSynAckInbound_frame s packetToModify tcpOpt) h
  · exact state_of_ok (P := SubflowFrame s) (by unfold mpJoinAckOutbound; split <;> exact .refl s) h
  · cases h; exact .refl s

end PacketdrillMptcp
