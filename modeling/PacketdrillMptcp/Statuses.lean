import PacketdrillMptcp.Bindings
import PacketdrillMptcp.Crashes

/-!
# Which calls return `STATUS_OK`

Every handler of `mptcp.c` that returns reports `STATUS_OK` or `STATUS_ERR`,
and `mptcp_insert_and_extract_opt_fields` (lines 784–833) stops the packet at
the first `STATUS_ERR`. The status depends only on the state before the call
and on the packets. An `enqueue_var` call needs room in the queue, which
holds a fixed number of names. An MP_CAPABLE SYN or SYN/ACK needs a queued
name that is bound once its key call has run. The key call binds an unbound
front name only while its key is unset, so a retransmitted SYN naming a fresh
key fails. A third ACK needs the two front names bound. An MP_JOIN option
needs its case's flags and length, and a subflow or a live option the case
reads. An outbound SYN/ACK looks its subflow up by the live packet, an
outbound ACK by the packet to modify. A DSS option never fails, and an
unknown subtype always does.

Results:
* `mpStep_status_ok_iff`: a call that returns answers `STATUS_OK` exactly
  when `MpInput.Accepted` holds of the state before it.
* `packet_status_err_iff`: a packet the engine returns from is answered
  `STATUS_ERR` exactly when the engine reaches one of its MPTCP options,
  every earlier one accepted, in a state where that option is not accepted.
-/

namespace PacketdrillMptcp

/-! ## The queue and the bindings around a key call -/

@[simp] theorem findMpVar_dequeueVar (s : MpState) (name : String) :
    findMpVar (dequeueVar s).2 name = findMpVar s name := rfl

@[simp] theorem dequeueVar_varsQueue (s : MpState) : (dequeueVar s).2.varsQueue = s.varsQueue.tail := rfl

@[simp] theorem MpState.setKey_packetdrillKeySet (s : MpState) (k : UInt64) :
    (s.setKey .packetdrillKey k).packetdrillKeySet = true := rfl

@[simp] theorem MpState.setKey_kernelKeySet (s : MpState) (k : UInt64) :
    (s.setKey .kernelKey k).kernelKeySet = true := rfl

@[simp] theorem queueFront_setKey (s : MpState) (slot : KeySlot) (k : UInt64) :
    queueFront (s.setKey slot k) = queueFront s := by
  cases slot <;> rfl

theorem findMpVar_addMpVarKey_self (s : MpState) (name : String) (slot : KeySlot) :
    findMpVar (addMpVarKey s name slot) name = some ⟨name, .key slot⟩ := by
  simp [findMpVar, addMpVarKey, addMpVar]

theorem findNextKey_eq (s : MpState) :
    findNextKey s = ((queueFront s).bind fun name => (findMpVar s name).map (·.value), (dequeueVar s).2) := rfl

theorem Status.or_eq_ok_iff {a b : Status} : a.or b = .ok ↔ a = .ok ∧ b = .ok := by
  cases a <;> cases b <;> simp [Status.or]

/-- `mptcp_set_mp_cap_syn_key` succeeds exactly when the front name is bound. -/
theorem mptcpSetMpCapSynKey_status (s : MpState) (tcpOpt : TcpOption) :
    (mptcpSetMpCapSynKey s tcpOpt).1 = .ok ↔ ∃ name ∈ queueFront s, findMpVar s name ≠ none := by
  unfold mptcpSetMpCapSynKey
  rw [findNextKey_eq]
  rcases queueFront s with _ | name
  · simp
  · rcases hfind : findMpVar s name with _ | var <;> simp [hfind]

/-- `mptcp_set_mp_cap_keys` succeeds exactly when the two front names are
bound. -/
theorem mptcpSetMpCapKeys_status (s : MpState) (tcpOpt : TcpOption) :
    (mptcpSetMpCapKeys s tcpOpt).1 = .ok ↔
      2 ≤ s.varsQueue.length ∧ ∀ name ∈ s.varsQueue.take 2, findMpVar s name ≠ none := by
  unfold mptcpSetMpCapKeys
  simp only [findNextKey_eq, findMpVar_dequeueVar, queueFront, dequeueVar_varsQueue]
  rcases hq : s.varsQueue with _ | ⟨sender, _ | ⟨receiver, rest⟩⟩
  · simp
  · rcases hs : findMpVar s sender with _ | var <;> simp [hs]
  · rcases hs : findMpVar s sender with _ | var
    · simp [hs]
    · rcases hr : findMpVar s receiver with _ | var' <;> simp [hs, hr]

theorem mptcpGenKey_status (s : MpState) : (mptcpGenKey s).1 = .ok ↔ queueFront s ≠ none := by
  unfold mptcpGenKey
  rcases queueFront s with _ | name
  · simp
  · simp only [ne_eq, reduceCtorEq, not_false_eq_true, iff_true]
    split <;> rfl

theorem mptcpGenKey_queueFront (s : MpState) : queueFront (mptcpGenKey s).2 = queueFront s := by
  rw [queueFront, queueFront, (mptcpGenKey_frontBound s).1]

theorem extractAndSetKernelKey_queueFront (s : MpState) (livePacket : Packet) :
    queueFront (extractAndSetKernelKey s livePacket).2 = queueFront s := by
  rw [queueFront, queueFront, (extractAndSetKernelKey_frontBound s livePacket).1]

/-- After `mptcp_gen_key` the front name is bound if it was, and otherwise
exactly when the tool's key was unset. -/
theorem mptcpGenKey_findFront {s : MpState} {name : String} (hfront : queueFront s = some name) :
    findMpVar (mptcpGenKey s).2 name ≠ none ↔ findMpVar s name ≠ none ∨ s.packetdrillKeySet = false := by
  unfold mptcpGenKey
  rw [hfront]
  dsimp only
  rcases hfind : findMpVar s name with _ | ⟨n, slot | value⟩ <;>
    cases hset : s.packetdrillKeySet <;>
    simp [setKeyFromScript, hfind, hset, findMpVar_addMpVarKey_self, findMpVar_setKey, setPacketdrillKey,
      MpState.rand64]

/-- After `extract_and_set_kernel_key` the front name is bound if it was, and
otherwise exactly when the live packet has an MPTCP option and the kernel's
key was unset. -/
theorem extractAndSetKernelKey_findFront {s : MpState} {name : String} (hfront : queueFront s = some name)
    (livePacket : Packet) :
    findMpVar (extractAndSetKernelKey s livePacket).2 name ≠ none ↔
      findMpVar s name ≠ none ∨ getTcpOption livePacket tcpoptMptcp ≠ none ∧ s.kernelKeySet = false := by
  unfold extractAndSetKernelKey
  rcases hlive : getTcpOption livePacket tcpoptMptcp with _ | mpcapOpt
  · simp
  · rw [adoptFrontScriptKey_front hfront]
    dsimp only
    rcases hfind : findMpVar s name with _ | ⟨n, slot | value⟩ <;>
      cases hset : s.kernelKeySet <;>
      simp [setKeyFromScript, hfind, hset, hfront, findMpVar_addMpVarKey_self, findMpVar_setKey, setKernelKey]

/-! ## MP_CAPABLE -/

/-- Whether the key call of a SYN or SYN/ACK binds an unbound front name:
`mptcp_gen_key` does while the tool's key is unset, and
`extract_and_set_kernel_key` does while the kernel's key is unset and the
live packet carries an MPTCP option. -/
def SynKeyBinds (s : MpState) (livePacket : Packet) : Direction → Prop
  | .inbound => s.packetdrillKeySet = false
  | .outbound => getTcpOption livePacket tcpoptMptcp ≠ none ∧ s.kernelKeySet = false

instance (s : MpState) (livePacket : Packet) : (direction : Direction) → Decidable (SynKeyBinds s livePacket direction)
  | .inbound => inferInstanceAs (Decidable (_ = _))
  | .outbound => inferInstanceAs (Decidable (_ ∧ _))

/-- When `mptcp_subtype_mp_capable` returns `STATUS_OK`: a SYN or SYN/ACK
whose front queued name is bound, or gets bound by the key call; or a third
ACK whose two front names are bound. -/
def CapableAccepted (s : MpState) (packetToModify livePacket : Packet) (tcpOpt : TcpOption)
    (direction : Direction) : Prop :=
  IsCapableSyn packetToModify tcpOpt ∧
      (∃ name ∈ queueFront s, findMpVar s name ≠ none ∨ SynKeyBinds s livePacket direction) ∨
    IsThirdAck packetToModify tcpOpt ∧
      2 ≤ s.varsQueue.length ∧ ∀ name ∈ s.varsQueue.take 2, findMpVar s name ≠ none

instance (s : MpState) (packetToModify livePacket : Packet) (tcpOpt : TcpOption) (direction : Direction) :
    Decidable (CapableAccepted s packetToModify livePacket tcpOpt direction) :=
  inferInstanceAs (Decidable (_ ∨ _))

theorem mpCapableGenAndSetKey_status (s : MpState) (tcpOpt : TcpOption) :
    (mpCapableGenAndSetKey s tcpOpt).1 = .ok ↔
      ∃ name ∈ queueFront s, findMpVar s name ≠ none ∨ s.packetdrillKeySet = false := by
  rw [mpCapableGenAndSetKey_eq, Status.or_eq_ok_iff, mptcpSetMpCapSynKey_status, mptcpGenKey_status,
    mptcpGenKey_queueFront]
  constructor
  · rintro ⟨⟨name, hfront, hbound⟩, -⟩
    exact ⟨name, hfront, (mptcpGenKey_findFront hfront).mp hbound⟩
  · rintro ⟨name, hfront, hbound⟩
    exact ⟨⟨name, hfront, (mptcpGenKey_findFront hfront).mpr hbound⟩, by rw [Option.mem_def.mp hfront]; simp⟩

theorem mpCapableExtractAndSetKey_status (s : MpState) (livePacket : Packet) (tcpOpt : TcpOption) :
    (mpCapableExtractAndSetKey s livePacket tcpOpt).1 = .ok ↔
      ∃ name ∈ queueFront s, findMpVar s name ≠ none ∨
        getTcpOption livePacket tcpoptMptcp ≠ none ∧ s.kernelKeySet = false := by
  have heq : mpCapableExtractAndSetKey s livePacket tcpOpt =
      mptcpSetMpCapSynKey (extractAndSetKernelKey s livePacket).2 tcpOpt := rfl
  rw [heq, mptcpSetMpCapSynKey_status, extractAndSetKernelKey_queueFront]
  exact exists_congr fun name => and_congr_right fun hfront => extractAndSetKernelKey_findFront hfront livePacket

/-- `mptcp_subtype_mp_capable` returns `STATUS_OK` exactly in the cases of
`CapableAccepted`. -/
theorem mptcpSubtypeMpCapable_status (s : MpState) (packetToModify livePacket : Packet) (tcpOpt : TcpOption)
    (direction : Direction) :
    (mptcpSubtypeMpCapable s packetToModify livePacket tcpOpt direction).1 = .ok ↔
      CapableAccepted s packetToModify livePacket tcpOpt direction := by
  unfold CapableAccepted
  rcases mptcpSubtypeMpCapable_cases s packetToModify livePacket tcpOpt direction with
    ⟨h, hsyn, rfl⟩ | ⟨h, hsyn, rfl⟩ | ⟨h, hack⟩ | ⟨h, hsyn, hack⟩ <;> rw [h]
  · simp only [mpCapableGenAndSetKey_status, SynKeyBinds, hsyn, hsyn.not_isThirdAck, true_and, false_and,
      or_false]
  · simp only [mpCapableExtractAndSetKey_status, SynKeyBinds, hsyn, hsyn.not_isThirdAck, true_and, false_and,
      or_false]
  · have hsyn : ¬IsCapableSyn packetToModify tcpOpt := fun hsyn => hsyn.not_isThirdAck hack
    simp only [mpCapableThirdAck_eq, mptcpSetMpCapKeys_status, hsyn, hack, true_and, false_and, false_or]
  · simp [hsyn, hack]

/-! ## MP_JOIN -/

theorem IsJoinAck.not_isJoinSynAck {packetToModify : Packet} {tcpOpt : TcpOption}
    (h : IsJoinAck packetToModify tcpOpt) : ¬IsJoinSynAck packetToModify tcpOpt :=
  fun hsynAck => by have := h.2.1.symm.trans hsynAck.2.1; exact absurd this (by decide)

theorem mpJoinSynInbound_status (s : MpState) (packetToModify : Packet) (tcpOpt : TcpOption) :
    (mpJoinSynInbound s packetToModify tcpOpt).1 = .ok ↔ packetToModify.ipAddresses ≠ none := by
  unfold mpJoinSynInbound newSubflowInbound
  rcases packetToModify.ipAddresses with _ | ⟨srcIp, dstIp⟩ <;> simp

theorem mpJoinSynAckOutbound_status (s : MpState) (livePacket : Packet) (tcpOpt : TcpOption) :
    (mpJoinSynAckOutbound s livePacket tcpOpt).1 = .ok ↔
      findSubflowMatchingOutboundPacket s livePacket ≠ none ∧ getTcpOption livePacket tcpoptMptcp ≠ none := by
  unfold mpJoinSynAckOutbound
  rcases findSubflowMatchingOutboundPacket s livePacket with _ | subflow <;>
    rcases getTcpOption livePacket tcpoptMptcp with _ | liveMpJoin <;> simp

theorem mpJoinAckInbound_status (s : MpState) (packetToModify : Packet) (tcpOpt : TcpOption) :
    (mpJoinAckInbound s packetToModify tcpOpt).1 = .ok ↔ findSubflowMatchingInboundPacket s packetToModify ≠ none := by
  unfold mpJoinAckInbound
  rcases findSubflowMatchingInboundPacket s packetToModify with _ | subflow <;> simp

theorem mpJoinSynAckInbound_status (s : MpState) (packetToModify : Packet) (tcpOpt : TcpOption) :
    (mpJoinSynAckInbound s packetToModify tcpOpt).1 = .ok ↔
      findSubflowMatchingInboundPacket s packetToModify ≠ none := by
  unfold mpJoinSynAckInbound
  rcases findSubflowMatchingInboundPacket s packetToModify with _ | subflow <;> simp

theorem mpJoinAckOutbound_status (s : MpState) (packetToModify : Packet) (tcpOpt : TcpOption) :
    (mpJoinAckOutbound s packetToModify tcpOpt).1 = .ok ↔
      findSubflowMatchingOutboundPacket s packetToModify ≠ none := by
  unfold mpJoinAckOutbound
  rcases findSubflowMatchingOutboundPacket s packetToModify with _ | subflow <;> simp

/-- The outbound JOIN SYN never returns `STATUS_ERR`: it returns or crashes. -/
theorem mpJoinSynOutbound_status {s s' : MpState} {livePacket : Packet} {tcpOpt tcpOpt' : TcpOption}
    {status : Status} (h : mpJoinSynOutbound s livePacket tcpOpt = .ok (status, s', tcpOpt')) : status = .ok := by
  unfold mpJoinSynOutbound at h
  split at h
  · cases h
  · cases h; rfl

/-- When `mptcp_subtype_mp_join` returns `STATUS_OK`, by direction: inbound,
a SYN on a packet with an IP header, or a SYN/ACK or ACK whose subflow is
found; outbound, a SYN, a SYN/ACK whose subflow is found by the live packet,
which carries an MPTCP option, or an ACK whose subflow is found. -/
def JoinAccepted (s : MpState) (packetToModify livePacket : Packet) (tcpOpt : TcpOption) : Direction → Prop
  | .inbound =>
    IsJoinSyn packetToModify tcpOpt ∧ packetToModify.ipAddresses ≠ none ∨
      (IsJoinSynAck packetToModify tcpOpt ∨ IsJoinAck packetToModify tcpOpt) ∧
        findSubflowMatchingInboundPacket s packetToModify ≠ none
  | .outbound =>
    IsJoinSyn packetToModify tcpOpt ∨
      IsJoinSynAck packetToModify tcpOpt ∧ findSubflowMatchingOutboundPacket s livePacket ≠ none ∧
        getTcpOption livePacket tcpoptMptcp ≠ none ∨
      IsJoinAck packetToModify tcpOpt ∧ findSubflowMatchingOutboundPacket s packetToModify ≠ none

instance (s : MpState) (packetToModify livePacket : Packet) (tcpOpt : TcpOption) :
    (direction : Direction) → Decidable (JoinAccepted s packetToModify livePacket tcpOpt direction)
  | .inbound => inferInstanceAs (Decidable (_ ∨ _))
  | .outbound => inferInstanceAs (Decidable (_ ∨ _))

/-- Of an MP_JOIN call that returns, the status is `STATUS_OK` exactly in the
cases of `JoinAccepted`. -/
theorem mptcpSubtypeMpJoin_status {s s' : MpState} {packetToModify livePacket : Packet}
    {tcpOpt tcpOpt' : TcpOption} {direction : Direction} {status : Status}
    (h : mptcpSubtypeMpJoin s packetToModify livePacket tcpOpt direction = .ok (status, s', tcpOpt')) :
    status = .ok ↔ JoinAccepted s packetToModify livePacket tcpOpt direction := by
  have hfst {r : Status × MpState × TcpOption}
      (hr : (Except.ok r : Except Fault (Status × MpState × TcpOption)) = .ok (status, s', tcpOpt')) :
      status = r.1 := by cases hr; rfl
  by_cases hsyn : IsJoinSyn packetToModify tcpOpt
  · have hsynAck : ¬IsJoinSynAck packetToModify tcpOpt := fun h => h.not_isJoinSyn hsyn
    have hack : ¬IsJoinAck packetToModify tcpOpt := fun h => h.not_isJoinSyn hsyn
    cases direction with
    | inbound =>
      rw [hfst ((mptcpSubtypeMpJoin_synInbound hsyn).symm.trans h), mpJoinSynInbound_status]
      simp [JoinAccepted, hsyn, hsynAck, hack]
    | outbound =>
      rw [mptcpSubtypeMpJoin_synOutbound hsyn] at h
      simp [JoinAccepted, hsyn, mpJoinSynOutbound_status h]
  by_cases hsynAck : IsJoinSynAck packetToModify tcpOpt
  · have hack : ¬IsJoinAck packetToModify tcpOpt := fun h => h.not_isJoinSynAck hsynAck
    cases direction with
    | inbound =>
      rw [hfst ((mptcpSubtypeMpJoin_synAckInbound hsynAck).symm.trans h), mpJoinSynAckInbound_status]
      simp [JoinAccepted, hsyn, hsynAck]
    | outbound =>
      rw [hfst ((mptcpSubtypeMpJoin_synAckOutbound hsynAck).symm.trans h), mpJoinSynAckOutbound_status]
      simp [JoinAccepted, hsyn, hsynAck, hack]
  by_cases hack : IsJoinAck packetToModify tcpOpt
  · cases direction with
    | inbound =>
      rw [hfst ((mptcpSubtypeMpJoin_ackInbound hack).symm.trans h), mpJoinAckInbound_status]
      simp [JoinAccepted, hsyn, hack]
    | outbound =>
      rw [hfst ((mptcpSubtypeMpJoin_ackOutbound hack).symm.trans h), mpJoinAckOutbound_status]
      simp [JoinAccepted, hsyn, hsynAck, hack]
  · rw [hfst ((mptcpSubtypeMpJoin_err hsyn hsynAck hack).symm.trans h)]
    cases direction <;> simp [JoinAccepted, hsyn, hsynAck, hack]

/-! ## Every option -/

/-- Of a DSS call that returns, the status is `STATUS_OK`. -/
theorem mptcpSubtypeDss_status {s s' : MpState} {packetToModify : Packet} {i : ℕ} {tcpOpt tcpOpt' : TcpOption}
    {direction : Direction} {status : Status}
    (h : mptcpSubtypeDss s packetToModify i tcpOpt direction = .ok (status, s', tcpOpt')) : status = .ok := by
  cases direction with
  | inbound => exact (mptcpSubtypeDss_inbound h).1
  | outbound => cases h; rfl

/-- When an option call returns `STATUS_OK`: by its subtype, in the cases of
`CapableAccepted` and `JoinAccepted`, or always for DSS. -/
def OptionAccepted (s : MpState) (packetToModify livePacket : Packet) (tcpOpt : TcpOption)
    (direction : Direction) : Prop :=
  tcpOpt.data.subtype = mpCapableSubtype ∧ CapableAccepted s packetToModify livePacket tcpOpt direction ∨
    tcpOpt.data.subtype = mpJoinSubtype ∧ JoinAccepted s packetToModify livePacket tcpOpt direction ∨
    tcpOpt.data.subtype = dssSubtype

instance (s : MpState) (packetToModify livePacket : Packet) (tcpOpt : TcpOption) (direction : Direction) :
    Decidable (OptionAccepted s packetToModify livePacket tcpOpt direction) :=
  inferInstanceAs (Decidable (_ ∨ _))

theorem mptcpOption_status {s s' : MpState} {packetToModify livePacket : Packet} {i : ℕ}
    {tcpOpt tcpOpt' : TcpOption} {direction : Direction} {status : Status}
    (h : mptcpOption s packetToModify livePacket i tcpOpt direction = .ok (status, s', tcpOpt')) :
    status = .ok ↔ OptionAccepted s packetToModify livePacket tcpOpt direction := by
  have hcapJoin : mpCapableSubtype ≠ mpJoinSubtype := by decide
  have hcapDss : mpCapableSubtype ≠ dssSubtype := by decide
  have hjoinDss : mpJoinSubtype ≠ dssSubtype := by decide
  unfold OptionAccepted
  rcases mptcpOption_cases h with ⟨hsub, hcap⟩ | ⟨hsub, hjoin⟩ | ⟨hsub, hdss⟩ | ⟨hcap, hjoin, hdss, rfl, -, -⟩
  · rw [show status = (mptcpSubtypeMpCapable s packetToModify livePacket tcpOpt direction).1 by rw [hcap],
      mptcpSubtypeMpCapable_status, hsub]
    simp [hcapJoin, hcapDss]
  · rw [mptcpSubtypeMpJoin_status hjoin, hsub]
    simp [hjoinDss, hcapJoin.symm]
  · simp [mptcpSubtypeDss_status hdss, hsub]
  · simp [hcap, hjoin, hdss]

/-- When a call returns `STATUS_OK`: `enqueue_var` when the queue has room,
`add_mp_var_script_defined` always, an option call in the cases of
`OptionAccepted`. -/
def MpInput.Accepted (s : MpState) : MpInput → Prop
  | .option packetToModify livePacket _ tcpOpt direction => OptionAccepted s packetToModify livePacket tcpOpt direction
  | .enqueueVar _ _ => s.varsQueue.length < s.varsQueueCapacity
  | .addMpVarScriptDefined _ _ => True

instance (s : MpState) : (x : MpInput) → Decidable (x.Accepted s)
  | .option _ _ _ _ _ => inferInstanceAs (Decidable (OptionAccepted _ _ _ _ _))
  | .enqueueVar _ _ => inferInstanceAs (Decidable (_ < _))
  | .addMpVarScriptDefined _ _ => inferInstanceAs (Decidable True)

/-- Of every call that returns, from any state, the status is `STATUS_OK`
exactly when the call is accepted (`MpInput.Accepted`) in the state before
it. -/
theorem mpStep_status_ok_iff {s s' : MpState} {x : MpInput} {status : Status} {out : Option TcpOption}
    (h : mpStep s x = .ok (status, s', out)) : status = .ok ↔ x.Accepted s := by
  cases x with
  | enqueueVar name heap =>
    unfold mpStep enqueueVar at h
    split_ifs at h with hroom <;> cases h
    exacts [⟨fun _ => hroom, fun _ => rfl⟩, ⟨nofun, fun h => absurd h hroom⟩]
  | addMpVarScriptDefined => cases h; exact ⟨fun _ => trivial, fun _ => rfl⟩
  | option packetToModify livePacket i tcpOpt direction =>
    obtain ⟨tcpOpt', hopt, -⟩ := mpStep_option.mp h
    exact mptcpOption_status hopt

/-- A SYN with no queued name is not accepted. -/
example : ¬capableSynIn.Accepted (initMpState 8 fun _ => 0) := by decide

/-! ## Packets -/

/-- What accepts reads of the packet are its headers, not its options. -/
theorem OptionAccepted.withOptions {s : MpState} {packet livePacket : Packet} {tcpOptions : List TcpOption}
    {tcpOpt : TcpOption} {direction : Direction} :
    OptionAccepted s { packet with tcpOptions := tcpOptions } livePacket tcpOpt direction ↔
      OptionAccepted s packet livePacket tcpOpt direction :=
  Iff.rfl

/-- Of every packet the engine returns from, the status is `STATUS_ERR`
exactly when the engine reaches one of its MPTCP options, every earlier
option having returned `STATUS_OK`, in a state `s₀` where that option is not
accepted. -/
theorem packet_status_err_iff {s s' : MpState} {packetToModify livePacket packet' : Packet}
    {direction : Direction} {status : Status}
    (h : mptcpInsertAndExtractOptFields s packetToModify livePacket direction = .ok (status, s', packet')) :
    status = .err ↔
      ∃ pre tcpOpt rest s₀ packet₀, packetToModify.tcpOptions = pre ++ tcpOpt :: rest ∧
        tcpOpt.kind = tcpoptMptcp ∧
        optionsLoop livePacket direction 0 pre s packetToModify = .ok (.ok, s₀, packet₀) ∧
        ¬OptionAccepted s₀ packetToModify livePacket tcpOpt direction := by
  constructor
  · rintro rfl
    have hr : ∀ s₁ packet₁, (.ok (.err, s', packet') : Except Fault (Status × MpState × Packet)) ≠
        .ok (.ok, s₁, packet₁) := fun _ _ h => nomatch h
    obtain ⟨pre, tcpOpt, rest, s₀, packet₀, hopts, hkind, hpre, hstop⟩ :=
      optionsLoop_stop livePacket direction hr 0 _ s packetToModify h
    obtain ⟨tcpOptions, rfl⟩ := optionsLoop_packet livePacket direction 0 pre s s₀ packetToModify _ .ok hpre
    refine ⟨pre, tcpOpt, rest, s₀, _, hopts, hkind, hpre, fun hacc => ?_⟩
    rcases hopt : mptcpOption s₀ _ livePacket (0 + pre.length) tcpOpt direction with _ | ⟨status, s₁, tcpOpt₁⟩ <;>
      rw [hopt] at hstop
    · cases hstop
    · cases hstop
      exact nomatch (mptcpOption_status hopt).mpr (OptionAccepted.withOptions.mpr hacc)
  · rintro ⟨pre, tcpOpt, rest, s₀, packet₀, hopts, hkind, hpre, hnot⟩
    obtain ⟨tcpOptions, rfl⟩ := optionsLoop_packet livePacket direction 0 pre s s₀ packetToModify _ .ok hpre
    unfold mptcpInsertAndExtractOptFields at h
    rw [hopts] at h
    rcases hopt : mptcpOption s₀ _ livePacket (0 + pre.length) tcpOpt direction with
      fault | ⟨_ | _, s₁, tcpOpt₁⟩
    · have hstop : optionsLoop livePacket direction 0 (pre ++ tcpOpt :: rest) s packetToModify = .error fault :=
        optionsLoop_of_stop livePacket direction rest hkind (by intro _ _ h; cases h) pre 0 s s₀ packetToModify _
          hpre (by rw [hopt]; rfl)
      rw [hstop] at h
      cases h
    · exact absurd (OptionAccepted.withOptions.mp ((mptcpOption_status hopt).mp rfl)) hnot
    · have hstop : optionsLoop livePacket direction 0 (pre ++ tcpOpt :: rest) s packetToModify = .ok (.err, s₁, _) :=
        optionsLoop_of_stop livePacket direction rest hkind (by intro _ _ h; cases h) pre 0 s s₀ packetToModify _
          hpre (by rw [hopt]; rfl)
      rw [hstop] at h
      cases h
      rfl

/-- With room for one name: the tool's key set by a SYN naming `a`, and then a
fresh name `c` queued, which fills the queue. -/
def freshNameState : MpState :=
  (runInputs (initMpState 1 fun _ => 0) [.enqueueVar "a" "", capableSynIn, .enqueueVar "c" ""]).getD
    (initMpState 1 fun _ => 0)

/-- A retransmitted SYN naming `c` fails: the tool's key is set, so
`mptcp_gen_key` leaves `c` unbound. A further name does not fit in the full
queue: `enqueue_var` fails and leaves the state as it was. -/
theorem full_queue_and_fresh_name_syn_rejected :
    (mpStep freshNameState capableSynIn =
        .ok (.err, (stepAnswer freshNameState capableSynIn).2.1, (stepAnswer freshNameState capableSynIn).2.2) ∧
      (Status.err = .ok ↔ capableSynIn.Accepted freshNameState)) ∧
    (mpStep freshNameState (.enqueueVar "d" "") = .ok (.err, freshNameState, none) ∧
      (Status.err = .ok ↔ (MpInput.enqueueVar "d" "").Accepted freshNameState)) :=
  have hsyn : mpStep freshNameState capableSynIn =
      .ok (.err, (stepAnswer freshNameState capableSynIn).2.1, (stepAnswer freshNameState capableSynIn).2.2) := rfl
  have hfull : mpStep freshNameState (.enqueueVar "d" "") = .ok (.err, freshNameState, none) := rfl
  ⟨⟨hsyn, mpStep_status_ok_iff hsyn⟩, hfull, mpStep_status_ok_iff hfull⟩

/-- The same SYN as a packet. -/
def freshNameSyn : Packet := tcpPacket 0x1027 0x5000 true false [mptcpOptionOf mpCapableSubtype tcpolenMpCapableSyn]

/-- What the engine returns for it. -/
def freshNameSynAnswer : Status × MpState × Packet :=
  match mptcpInsertAndExtractOptFields freshNameState freshNameSyn freshNameSyn .inbound with
  | .ok r => r
  | .error _ => (.ok, freshNameState, freshNameSyn)

/-- The packet of the retransmitted SYN is answered `STATUS_ERR` at its one
option. -/
theorem freshNameSyn_rejected :
    mptcpInsertAndExtractOptFields freshNameState freshNameSyn freshNameSyn .inbound =
        .ok (freshNameSynAnswer.1, freshNameSynAnswer.2.1, freshNameSynAnswer.2.2) ∧
      (freshNameSynAnswer.1 = .err ↔
        ∃ pre tcpOpt rest s₀ packet₀, freshNameSyn.tcpOptions = pre ++ tcpOpt :: rest ∧
          tcpOpt.kind = tcpoptMptcp ∧
          optionsLoop freshNameSyn .inbound 0 pre freshNameState freshNameSyn = .ok (.ok, s₀, packet₀) ∧
          ¬OptionAccepted s₀ freshNameSyn freshNameSyn tcpOpt .inbound) :=
  have h : mptcpInsertAndExtractOptFields freshNameState freshNameSyn freshNameSyn .inbound =
      .ok (freshNameSynAnswer.1, freshNameSynAnswer.2.1, freshNameSynAnswer.2.2) := rfl
  ⟨h, packet_status_err_iff h⟩

end PacketdrillMptcp
