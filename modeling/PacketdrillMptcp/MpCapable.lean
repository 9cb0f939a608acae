import PacketdrillMptcp.Crypto
import PacketdrillMptcp.State

/-!
# MP_CAPABLE

The key exchange of the MPTCP handshake (`mptcp.c`, lines 325–472). On a
SYN or SYN/ACK the tool's key is generated (`mptcp_gen_key`) or the kernel's
key is read from the live packet (`extract_and_set_kernel_key`); both first
adopt the value of the front queued name if the script defined it. Then one
name is dequeued and the key it is bound to is written into the option. On
the third ACK two names are dequeued, the initial data sequence number is
derived from the tool's key, and the first subflow is created.
-/

namespace PacketdrillMptcp

/-- The common first step of `mptcp_gen_key` and `extract_and_set_kernel_key`:
if the binding of `varName` is script-defined, store its value in `slot`. -/
def setKeyFromScript (s : MpState) (slot : KeySlot) (varName : String) : MpState :=
  match findMpVar s varName with
  | some ⟨_, .scriptDefined value⟩ => s.setKey slot value
  | _ => s

/-- The check that opens `extract_and_set_kernel_key` (lines 400–406): the
same, for the front queued name if there is one. -/
def adoptFrontScriptKey (s : MpState) (slot : KeySlot) : MpState :=
  match queueFront s with
  | some varName => setKeyFromScript s slot varName
  | none => s

/-- `mptcp_gen_key()` (lines 325–351). -/
def mptcpGenKey (s : MpState) : Status × MpState :=
  match queueFront s with
  | none => (.err, s)
  | some sndVarName =>
    let s := setKeyFromScript s .packetdrillKey sndVarName
    if s.packetdrillKeySet then (.ok, s)
    else
      let (key, s) := s.rand64
      (.ok, addMpVarKey (setPacketdrillKey s key) sndVarName .packetdrillKey)

/-- `mptcp_set_mp_cap_syn_key(tcp_opt)` (lines 358–365). -/
def mptcpSetMpCapSynKey (s : MpState) (tcpOpt : TcpOption) : Status × MpState × TcpOption :=
  let (key, s) := findNextKey s
  match key with
  | none => (.err, s, tcpOpt)
  | some key => (.ok, s, { tcpOpt with data.mpCapable.synKey := key.read s })

/-- `mptcp_set_mp_cap_keys(tcp_opt)` (lines 371–383). -/
def mptcpSetMpCapKeys (s : MpState) (tcpOpt : TcpOption) : Status × MpState × TcpOption :=
  let (senderKey, s) := findNextKey s
  match senderKey with
  | none => (.err, s, tcpOpt)
  | some senderKey =>
    let tcpOpt := { tcpOpt with data.mpCapable.noSynSenderKey := senderKey.read s }
    let (receiverKey, s) := findNextKey s
    match receiverKey with
    | none => (.err, s, tcpOpt)
    | some receiverKey => (.ok, s, { tcpOpt with data.mpCapable.noSynReceiverKey := receiverKey.read s })

/-- Writing the SYN key dequeues one name, found or not. -/
theorem mptcpSetMpCapSynKey_state (s : MpState) (tcpOpt : TcpOption) :
    (mptcpSetMpCapSynKey s tcpOpt).2.1 = { s with varsQueue := s.varsQueue.tail } := by
  unfold mptcpSetMpCapSynKey findNextKey dequeueVar
  dsimp only
  split <;> rfl

/-- Writing the third-ACK keys dequeues a second name only if the first was
found. -/
theorem mptcpSetMpCapKeys_state (s : MpState) (tcpOpt : TcpOption) :
    (mptcpSetMpCapKeys s tcpOpt).2.1 =
      { s with varsQueue := if (findNextKey s).1.isSome then s.varsQueue.tail.tail else s.varsQueue.tail } := by
  unfold mptcpSetMpCapKeys findNextKey dequeueVar
  dsimp only
  split
  · rename_i h; simp [h]
  · rename_i h; simp only [h]; split <;> rfl

/-- `extract_and_set_kernel_key(live_packet)` (lines 389–421). -/
def extractAndSetKernelKey (s : MpState) (livePacket : Packet) : Status × MpState :=
  match getTcpOption livePacket tcpoptMptcp with
  | none => (.err, s)
  | some mpcapOpt =>
    let s := adoptFrontScriptKey s .kernelKey
    if s.kernelKeySet then (.ok, s)
    else
      let s := setKernelKey s mpcapOpt.data.mpCapable.synKey
      match queueFront s with
      | none => (.err, s)
      | some varName => (.ok, addMpVarKey s varName .kernelKey)

/-- C's `a || b` on two status codes. -/
def Status.or : Status → Status → Status
  | .ok, .ok => .ok
  | _, _ => .err

/-- `error = mptcp_gen_key(); error = mptcp_set_mp_cap_syn_key(tcp_opt) || error;`,
the body of both inbound SYN cases of `mptcp_subtype_mp_capable`. -/
def mpCapableGenAndSetKey (s : MpState) (tcpOpt : TcpOption) : Status × MpState × TcpOption :=
  let (error, s) := mptcpGenKey s
  let (error', s, tcpOpt) := mptcpSetMpCapSynKey s tcpOpt
  (error'.or error, s, tcpOpt)

/-- The outbound SYN case (lines 439–444): the status of
`extract_and_set_kernel_key` is overwritten by the next assignment. -/
def mpCapableExtractAndSetKey (s : MpState) (livePacket : Packet) (tcpOpt : TcpOption) :
    Status × MpState × TcpOption :=
  let (_, s) := extractAndSetKernelKey s livePacket
  mptcpSetMpCapSynKey s tcpOpt

/-- `new_subflow_inbound` or `new_subflow_outbound`, by direction. -/
def newSubflow (s : MpState) (packet : Packet) : Direction → Option MpSubflow × MpState
  | .inbound => newSubflowInbound s packet
  | .outbound => newSubflowOutbound s packet

theorem newSubflow_frame (s : MpState) (packet : Packet) :
    ∀ direction, SubflowFrame s (newSubflow s packet direction).2
  | .inbound => newSubflowInbound_frame s packet
  | .outbound => newSubflowOutbound_frame s packet

/-- The third-ACK case (lines 446–458): both keys are written, the initial
DSN is derived from the tool's key, and the first subflow is created; what
`new_subflow_*` returns is not looked at. -/
def mpCapableThirdAck (s : MpState) (packetToModify : Packet) (tcpOpt : TcpOption)
    (direction : Direction) : Status × MpState × TcpOption :=
  let (error, s, tcpOpt) := mptcpSetMpCapKeys s tcpOpt
  let s := { s with initialDsn := sha1Least64bits s.packetdrillKey }
  (error, (newSubflow s packetToModify direction).2, tcpOpt)

/-- `mptcp_subtype_mp_capable(packet_to_modify, live_packet, tcp_opt_to_modify,
direction)` (lines 426–472). -/
def mptcpSubtypeMpCapable (s : MpState) (packetToModify livePacket : Packet)
    (tcpOptToModify : TcpOption) (direction : Direction) : Status × MpState × TcpOption :=
  let tcp := packetToModify.tcp
  let length := tcpOptToModify.length
  if length = tcpolenMpCapableSyn ∧ tcp.syn ∧ direction = .inbound ∧ !tcp.ack then
    mpCapableGenAndSetKey s tcpOptToModify
  else if length = tcpolenMpCapableSyn ∧ tcp.syn ∧ direction = .outbound then
    mpCapableExtractAndSetKey s livePacket tcpOptToModify
  else if length = tcpolenMpCapable ∧ !tcp.syn ∧ tcp.ack then
    mpCapableThirdAck s packetToModify tcpOptToModify direction
  else if length = tcpolenMpCapableSyn ∧ tcp.syn ∧ direction = .inbound ∧ tcp.ack then
    mpCapableGenAndSetKey s tcpOptToModify
  else (.err, s, tcpOptToModify)

/-- The tests shared by the SYN and SYN/ACK cases. -/
def IsCapableSyn (packetToModify : Packet) (tcpOpt : TcpOption) : Prop :=
  tcpOpt.length = tcpolenMpCapableSyn ∧ packetToModify.tcp.syn = true

/-- The tests of the third-ACK case (lines 446–448). -/
def IsThirdAck (packetToModify : Packet) (tcpOpt : TcpOption) : Prop :=
  tcpOpt.length = tcpolenMpCapable ∧ packetToModify.tcp.syn = false ∧ packetToModify.tcp.ack = true

instance (packetToModify : Packet) (tcpOpt : TcpOption) : Decidable (IsCapableSyn packetToModify tcpOpt) :=
  inferInstanceAs (Decidable (_ ∧ _))

instance (packetToModify : Packet) (tcpOpt : TcpOption) : Decidable (IsThirdAck packetToModify tcpOpt) :=
  inferInstanceAs (Decidable (_ ∧ _ ∧ _))

section
variable {s : MpState} {packetToModify livePacket : Packet} {tcpOpt : TcpOption}

theorem mptcpSubtypeMpCapable_synInbound (h : IsCapableSyn packetToModify tcpOpt) :
    mptcpSubtypeMpCapable s packetToModify livePacket tcpOpt .inbound = mpCapableGenAndSetKey s tcpOpt := by
  cases hack : packetToModify.tcp.ack <;>
    simp [mptcpSubtypeMpCapable, h.1, h.2, hack, tcpolenMpCapableSyn, tcpolenMpCapable]

theorem mptcpSubtypeMpCapable_synOutbound (h : IsCapableSyn packetToModify tcpOpt) :
    mptcpSubtypeMpCapable s packetToModify livePacket tcpOpt .outbound =
      mpCapableExtractAndSetKey s livePacket tcpOpt := by
  simp [mptcpSubtypeMpCapable, h.1, h.2]

theorem mptcpSubtypeMpCapable_thirdAck {direction : Direction} (h : IsThirdAck packetToModify tcpOpt) :
    mptcpSubtypeMpCapable s packetToModify livePacket tcpOpt direction =
      mpCapableThirdAck s packetToModify tcpOpt direction := by
  simp [mptcpSubtypeMpCapable, h.1, h.2.1, h.2.2, tcpolenMpCapableSyn, tcpolenMpCapable]

theorem mptcpSubtypeMpCapable_err {direction : Direction} (hsyn : ¬IsCapableSyn packetToModify tcpOpt)
    (hack : ¬IsThirdAck packetToModify tcpOpt) :
    mptcpSubtypeMpCapable s packetToModify livePacket tcpOpt direction = (.err, s, tcpOpt) := by
  simp only [mptcpSubtypeMpCapable]
  rw [if_neg fun h => hsyn ⟨h.1, h.2.1⟩, if_neg fun h => hsyn ⟨h.1, h.2.1⟩,
    if_neg fun h => hack ⟨h.1, by simpa using h.2.1, h.2.2⟩, if_neg fun h => hsyn ⟨h.1, h.2.1⟩]

end

/-- The cases of `mptcp_subtype_mp_capable`, with the tests each one passed:
both inbound SYN forms generate the tool's key, the outbound SYN extracts the
kernel's, the third ACK writes both keys, anything else fails. -/
theorem mptcpSubtypeMpCapable_cases (s : MpState) (packetToModify livePacket : Packet)
    (tcpOpt : TcpOption) (direction : Direction) :
    (mptcpSubtypeMpCapable s packetToModify livePacket tcpOpt direction = mpCapableGenAndSetKey s tcpOpt ∧
      IsCapableSyn packetToModify tcpOpt ∧ direction = .inbound) ∨
    (mptcpSubtypeMpCapable s packetToModify livePacket tcpOpt direction =
        mpCapableExtractAndSetKey s livePacket tcpOpt ∧
      IsCapableSyn packetToModify tcpOpt ∧ direction = .outbound) ∨
    (mptcpSubtypeMpCapable s packetToModify livePacket tcpOpt direction =
        mpCapableThirdAck s packetToModify tcpOpt direction ∧ IsThirdAck packetToModify tcpOpt) ∨
    (mptcpSubtypeMpCapable s packetToModify livePacket tcpOpt direction = (.err, s, tcpOpt) ∧
      ¬IsCapableSyn packetToModify tcpOpt ∧ ¬IsThirdAck packetToModify tcpOpt) := by
  by_cases hsyn : IsCapableSyn packetToModify tcpOpt
  · cases direction
    · exact .inl ⟨mptcpSubtypeMpCapable_synInbound hsyn, hsyn, rfl⟩
    · exact .inr (.inl ⟨mptcpSubtypeMpCapable_synOutbound hsyn, hsyn, rfl⟩)
  by_cases hack : IsThirdAck packetToModify tcpOpt
  · exact .inr (.inr (.inl ⟨mptcpSubtypeMpCapable_thirdAck hack, hack⟩))
  · exact .inr (.inr (.inr ⟨mptcpSubtypeMpCapable_err hsyn hack, hsyn, hack⟩))

theorem mpCapableGenAndSetKey_eq (s : MpState) (tcpOpt : TcpOption) :
    mpCapableGenAndSetKey s tcpOpt =
      ((mptcpSetMpCapSynKey (mptcpGenKey s).2 tcpOpt).1.or (mptcpGenKey s).1,
        (mptcpSetMpCapSynKey (mptcpGenKey s).2 tcpOpt).2) := rfl

theorem mpCapableThirdAck_eq (s : MpState) (packetToModify : Packet) (tcpOpt : TcpOption)
    (direction : Direction) :
    mpCapableThirdAck s packetToModify tcpOpt direction =
      ((mptcpSetMpCapKeys s tcpOpt).1,
        (newSubflow { (mptcpSetMpCapKeys s tcpOpt).2.1 with
          initialDsn := sha1Least64bits (mptcpSetMpCapKeys s tcpOpt).2.1.packetdrillKey }
          packetToModify direction).2,
        (mptcpSetMpCapKeys s tcpOpt).2.2) := rfl

theorem mpCapableGenAndSetKey_state (s : MpState) (tcpOpt : TcpOption) :
    (mpCapableGenAndSetKey s tcpOpt).2.1 = (mptcpSetMpCapSynKey (mptcpGenKey s).2 tcpOpt).2.1 := rfl

theorem mpCapableExtractAndSetKey_state (s : MpState) (livePacket : Packet) (tcpOpt : TcpOption) :
    (mpCapableExtractAndSetKey s livePacket tcpOpt).2.1 =
      (mptcpSetMpCapSynKey (extractAndSetKernelKey s livePacket).2 tcpOpt).2.1 := rfl

theorem mpCapableThirdAck_state (s : MpState) (packetToModify : Packet) (tcpOpt : TcpOption)
    (direction : Direction) :
    (mpCapableThirdAck s packetToModify tcpOpt direction).2.1 =
      (newSubflow { (mptcpSetMpCapKeys s tcpOpt).2.1 with
        initialDsn := sha1Least64bits (mptcpSetMpCapKeys s tcpOpt).2.1.packetdrillKey }
        packetToModify direction).2 := rfl

/-! ## What the cases change -/

/-- `s'` agrees with `s` on the subflows, the address-ID counter and the
initial data sequence numbers: all that the SYN cases leave alone. -/
structure KeyExchangeFrame (s s' : MpState) : Prop where
  lastPacketdrillAddrId : s'.lastPacketdrillAddrId = s.lastPacketdrillAddrId
  subflows : s'.subflows = s.subflows
  initialDsn : s'.initialDsn = s.initialDsn
  initialDack : s'.initialDack = s.initialDack

theorem KeyExchangeFrame.trans {s s' s'' : MpState} (h : KeyExchangeFrame s s') (h' : KeyExchangeFrame s' s'') :
    KeyExchangeFrame s s'' :=
  ⟨h'.1.trans h.1, h'.2.trans h.2, h'.3.trans h.3, h'.4.trans h.4⟩

theorem mptcpGenKey_frame (s : MpState) : KeyExchangeFrame s (mptcpGenKey s).2 := by
  unfold mptcpGenKey setKeyFromScript
  split
  · exact ⟨rfl, rfl, rfl, rfl⟩
  · dsimp only
    split <;> split <;> exact ⟨rfl, rfl, rfl, rfl⟩

theorem extractAndSetKernelKey_frame (s : MpState) (livePacket : Packet) :
    KeyExchangeFrame s (extractAndSetKernelKey s livePacket).2 := by
  have hadopt : KeyExchangeFrame s (adoptFrontScriptKey s .kernelKey) := by
    unfold adoptFrontScriptKey setKeyFromScript
    split
    · split <;> exact ⟨rfl, rfl, rfl, rfl⟩
    · exact ⟨rfl, rfl, rfl, rfl⟩
  unfold extractAndSetKernelKey
  split
  · exact ⟨rfl, rfl, rfl, rfl⟩
  · dsimp only
    split
    · exact hadopt
    · exact hadopt.trans (by split <;> exact ⟨rfl, rfl, rfl, rfl⟩)

theorem mptcpSetMpCapSynKey_frame (s : MpState) (tcpOpt : TcpOption) :
    KeyExchangeFrame s (mptcpSetMpCapSynKey s tcpOpt).2.1 := by
  rw [mptcpSetMpCapSynKey_state]; exact ⟨rfl, rfl, rfl, rfl⟩

theorem mpCapableGenAndSetKey_frame (s : MpState) (tcpOpt : TcpOption) :
    KeyExchangeFrame s (mpCapableGenAndSetKey s tcpOpt).2.1 :=
  (mptcpGenKey_frame s).trans (mptcpSetMpCapSynKey_frame _ tcpOpt)

theorem mpCapableExtractAndSetKey_frame (s : MpState) (livePacket : Packet) (tcpOpt : TcpOption) :
    KeyExchangeFrame s (mpCapableExtractAndSetKey s livePacket tcpOpt).2.1 :=
  (extractAndSetKernelKey_frame s livePacket).trans (mptcpSetMpCapSynKey_frame _ tcpOpt)

/-- The third ACK derives the initial DSN from the tool's key it finds. -/
theorem mpCapableThirdAck_initialDsn (s : MpState) (packetToModify : Packet) (tcpOpt : TcpOption)
    (direction : Direction) :
    (mpCapableThirdAck s packetToModify tcpOpt direction).2.1.initialDsn = sha1Least64bits s.packetdrillKey := by
  rw [mpCapableThirdAck_state, (newSubflow_frame _ _ _).initialDsn, mptcpSetMpCapKeys_state]

theorem mpCapableThirdAck_initialDack (s : MpState) (packetToModify : Packet) (tcpOpt : TcpOption)
    (direction : Direction) :
    (mpCapableThirdAck s packetToModify tcpOpt direction).2.1.initialDack = s.initialDack := by
  rw [mpCapableThirdAck_state, (newSubflow_frame _ _ _).initialDack, mptcpSetMpCapKeys_state]

/-- The third ACK changes the subflows only by the creation. -/
theorem mpCapableThirdAck_subflows (s : MpState) (packetToModify : Packet) (tcpOpt : TcpOption)
    (direction : Direction) : ∃ s1 : MpState, s1.subflows = s.subflows ∧
      (mpCapableThirdAck s packetToModify tcpOpt direction).2.1 = (newSubflow s1 packetToModify direction).2 :=
  ⟨_, by rw [mptcpSetMpCapKeys_state], mpCapableThirdAck_state s packetToModify tcpOpt direction⟩

/-- Only the third ACK sets the initial DSN. -/
theorem mptcpSubtypeMpCapable_initialDsn (s : MpState) (packetToModify livePacket : Packet)
    (tcpOpt : TcpOption) (direction : Direction) :
    (mptcpSubtypeMpCapable s packetToModify livePacket tcpOpt direction).2.1.initialDsn =
      if IsThirdAck packetToModify tcpOpt then sha1Least64bits s.packetdrillKey else s.initialDsn := by
  have hsyn : IsCapableSyn packetToModify tcpOpt → ¬IsThirdAck packetToModify tcpOpt :=
    fun ⟨hlen, _⟩ ⟨hlen', _⟩ => by simp [hlen] at hlen'; contradiction
  rcases mptcpSubtypeMpCapable_cases s packetToModify livePacket tcpOpt direction with
    ⟨h, hc, -⟩ | ⟨h, hc, -⟩ | ⟨h, hack⟩ | ⟨h, -, hack⟩ <;> rw [h]
  · rw [if_neg (hsyn hc), (mpCapableGenAndSetKey_frame s tcpOpt).initialDsn]
  · rw [if_neg (hsyn hc), (mpCapableExtractAndSetKey_frame s livePacket tcpOpt).initialDsn]
  · rw [if_pos hack, mpCapableThirdAck_initialDsn]
  · rw [if_neg hack]

theorem mptcpSubtypeMpCapable_initialDack (s : MpState) (packetToModify livePacket : Packet)
    (tcpOpt : TcpOption) (direction : Direction) :
    (mptcpSubtypeMpCapable s packetToModify livePacket tcpOpt direction).2.1.initialDack = s.initialDack := by
  rcases mptcpSubtypeMpCapable_cases s packetToModify livePacket tcpOpt direction with
    ⟨h, -⟩ | ⟨h, -⟩ | ⟨h, -⟩ | ⟨h, -⟩ <;> rw [h]
  · exact (mpCapableGenAndSetKey_frame s tcpOpt).initialDack
  · exact (mpCapableExtractAndSetKey_frame s livePacket tcpOpt).initialDack
  · exact mpCapableThirdAck_initialDack s packetToModify tcpOpt direction

end PacketdrillMptcp
