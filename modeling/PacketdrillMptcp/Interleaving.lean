import PacketdrillMptcp.DataSeq
import PacketdrillMptcp.JoinFields
import PacketdrillMptcp.Bindings

/-!
# Interleavings of subflows

The packets of different subflows reach `mp_state` in whatever order the
test interleaves them. A DSS option (`mptcp_subtype_dss`, lines 674–774)
reads the initial DSN and DACK and the first record of its packet's pair, and
writes at most that record, through `dssUpdate`
(`mptcpSubtypeDss_transport`). The calls that avoid the pair
(`MpInput.AvoidsPair`) are the parser's calls, the MP_CAPABLE options but the
third ACK, and the MP_JOIN and DSS options of packets on other pairs. Each of
them commutes with a write to the first record of the pair
(`mpStep_updatePair`: the key exchange never touches subflows, and every
search-and-update of another pair skips that record) and keeps what the DSS
option reads (`mpStep_dssView`).

Results:
* `dss_call_commutes_with_avoiding_call`: a DSS option call and a call that
  avoids its pair, run in either order, return the same statuses and options
  and leave the same state.
* `runInputs_swap_dss_call`: in any run, swapping a DSS option call with a
  next call that avoids its pair leaves the run's outcome.
-/

namespace PacketdrillMptcp

/-! ## Writes through a search -/

theorem updateFirst_id {α : Type} (p : α → Bool) : ∀ l : List α, updateFirst p id l = l
  | [] => rfl
  | a :: l => by
    unfold updateFirst
    split
    · rfl
    · rw [updateFirst_id p l]

theorem updateFirst_cons_of_not {α : Type} {p : α → Bool} (f : α → α) {a : α} (ha : p a = false)
    (l : List α) : updateFirst p f (a :: l) = a :: updateFirst p f l := by
  simp [updateFirst, ha]

/-- Writes, by key-preserving functions, to the first elements of two
different keys commute. -/
theorem updateFirst_comm {α β : Type} [DecidableEq β] (key : α → β) {f g : α → α}
    (hf : ∀ a, key (f a) = key a) (hg : ∀ a, key (g a) = key a) {k k' : β} (hk : k ≠ k') :
    ∀ l : List α,
      updateFirst (fun a => decide (key a = k)) f (updateFirst (fun a => decide (key a = k')) g l) =
        updateFirst (fun a => decide (key a = k')) g (updateFirst (fun a => decide (key a = k)) f l)
  | [] => rfl
  | a :: l => by
    by_cases ha : key a = k
    · simp [updateFirst, ha, hf, hk]
    · by_cases ha' : key a = k'
      · simp [updateFirst, ha', hg, hk.symm]
      · simp [updateFirst, ha, ha', updateFirst_comm key hf hg hk l]

/-! ## A write to the first record of a pair -/

/-- `f` applied to the first subflow with port pair `pair`: the write every
search-and-update of `mptcp.c` makes. -/
def MpState.updatePair (s : MpState) (pair : UInt16 × UInt16) (f : MpSubflow → MpSubflow) : MpState :=
  { s with subflows := updateFirst (fun subflow => decide (subflow.ports = pair)) f s.subflows }

theorem MpState.updateMatchingSubflow_inbound (s : MpState) (packet : Packet) (f : MpSubflow → MpSubflow) :
    s.updateMatchingSubflow packet doesSubflowMatchInboundPacket f = s.updatePair packet.inboundPorts f := by
  simp only [MpState.updateMatchingSubflow, MpState.updatePair, doesSubflowMatchInboundPacket_eq]

theorem MpState.updateMatchingSubflow_outbound (s : MpState) (packet : Packet) (f : MpSubflow → MpSubflow) :
    s.updateMatchingSubflow packet doesSubflowMatchOutboundPacket f = s.updatePair packet.outboundPorts f := by
  simp only [MpState.updateMatchingSubflow, MpState.updatePair, doesSubflowMatchOutboundPacket_eq]

section
variable (t : MpState) (A : UInt16 × UInt16) (f : MpSubflow → MpSubflow)

theorem MpState.updatePair_id : t.updatePair A id = t := by
  simp only [MpState.updatePair, updateFirst_id]

/-! The key exchange neither reads nor writes subflows. -/

@[simp] theorem MpState.updatePair_packetdrillKeySet : (t.updatePair A f).packetdrillKeySet = t.packetdrillKeySet :=
  rfl

@[simp] theorem MpState.updatePair_kernelKeySet : (t.updatePair A f).kernelKeySet = t.kernelKeySet := rfl

@[simp] theorem queueFront_updatePair : queueFront (t.updatePair A f) = queueFront t := rfl

@[simp] theorem findMpVar_updatePair (name : String) : findMpVar (t.updatePair A f) name = findMpVar t name := rfl

@[simp] theorem findNextKey_updatePair :
    findNextKey (t.updatePair A f) = ((findNextKey t).1, (findNextKey t).2.updatePair A f) := rfl

@[simp] theorem MpState.rand64_updatePair : (t.updatePair A f).rand64 = (t.rand64.1, t.rand64.2.updatePair A f) := rfl

@[simp] theorem MpState.generate32_updatePair :
    (t.updatePair A f).generate32 = (t.generate32.1, t.generate32.2.updatePair A f) := rfl

@[simp] theorem MpState.setKey_updatePair (slot : KeySlot) (key : UInt64) :
    (t.updatePair A f).setKey slot key = (t.setKey slot key).updatePair A f := by
  cases slot <;> rfl

@[simp] theorem setKernelKey_updatePair (key : UInt64) :
    setKernelKey (t.updatePair A f) key = (setKernelKey t key).updatePair A f := rfl

@[simp] theorem setPacketdrillKey_updatePair (key : UInt64) :
    setPacketdrillKey (t.updatePair A f) key = (setPacketdrillKey t key).updatePair A f := rfl

@[simp] theorem addMpVarKey_updatePair (name : String) (slot : KeySlot) :
    addMpVarKey (t.updatePair A f) name slot = (addMpVarKey t name slot).updatePair A f := rfl

@[simp] theorem enqueueVar_updatePair (name heap : String) :
    enqueueVar (t.updatePair A f) name heap = ((enqueueVar t name heap).1, (enqueueVar t name heap).2.updatePair A f) := by
  simp only [enqueueVar, MpState.updatePair]
  split_ifs <;> rfl

@[simp] theorem MpVarValue.read_updatePair (value : MpVarValue) : value.read (t.updatePair A f) = value.read t := by
  cases value with
  | key slot => cases slot <;> rfl
  | scriptDefined => rfl

theorem setKeyFromScript_updatePair (slot : KeySlot) (name : String) :
    setKeyFromScript (t.updatePair A f) slot name = (setKeyFromScript t slot name).updatePair A f := by
  simp only [setKeyFromScript, findMpVar_updatePair, MpState.setKey_updatePair]
  split <;> rfl

theorem adoptFrontScriptKey_updatePair (slot : KeySlot) :
    adoptFrontScriptKey (t.updatePair A f) slot = (adoptFrontScriptKey t slot).updatePair A f := by
  simp only [adoptFrontScriptKey, queueFront_updatePair, setKeyFromScript_updatePair]
  split <;> rfl

theorem mptcpGenKey_updatePair :
    mptcpGenKey (t.updatePair A f) = ((mptcpGenKey t).1, (mptcpGenKey t).2.updatePair A f) := by
  simp only [mptcpGenKey, queueFront_updatePair, setKeyFromScript_updatePair, MpState.updatePair_packetdrillKeySet,
    MpState.rand64_updatePair, setPacketdrillKey_updatePair, addMpVarKey_updatePair]
  split
  · rfl
  · split <;> rfl

theorem extractAndSetKernelKey_updatePair (livePacket : Packet) :
    extractAndSetKernelKey (t.updatePair A f) livePacket =
      ((extractAndSetKernelKey t livePacket).1, (extractAndSetKernelKey t livePacket).2.updatePair A f) := by
  simp only [extractAndSetKernelKey, adoptFrontScriptKey_updatePair, MpState.updatePair_kernelKeySet,
    setKernelKey_updatePair, queueFront_updatePair, addMpVarKey_updatePair]
  split
  · rfl
  · split
    · rfl
    · split <;> rfl

/-- An answer with its state rewritten by `g`. -/
def mapAnswer {α : Type} (g : MpState → MpState) (r : Status × MpState × α) : Status × MpState × α :=
  (r.1, g r.2.1, r.2.2)

theorem mptcpSetMpCapSynKey_updatePair (tcpOpt : TcpOption) :
    mptcpSetMpCapSynKey (t.updatePair A f) tcpOpt = mapAnswer (·.updatePair A f) (mptcpSetMpCapSynKey t tcpOpt) := by
  simp only [mptcpSetMpCapSynKey, findNextKey_updatePair, MpVarValue.read_updatePair]
  split <;> rfl

theorem mpCapableGenAndSetKey_updatePair (tcpOpt : TcpOption) :
    mpCapableGenAndSetKey (t.updatePair A f) tcpOpt =
      mapAnswer (·.updatePair A f) (mpCapableGenAndSetKey t tcpOpt) := by
  simp only [mpCapableGenAndSetKey, mptcpGenKey_updatePair, mptcpSetMpCapSynKey_updatePair]
  rfl

theorem mpCapableExtractAndSetKey_updatePair (livePacket : Packet) (tcpOpt : TcpOption) :
    mpCapableExtractAndSetKey (t.updatePair A f) livePacket tcpOpt =
      mapAnswer (·.updatePair A f) (mpCapableExtractAndSetKey t livePacket tcpOpt) := by
  simp only [mpCapableExtractAndSetKey, extractAndSetKernelKey_updatePair, mptcpSetMpCapSynKey_updatePair]

/-- Every MP_CAPABLE option but the third ACK commutes with a write to a
subflow. -/
theorem mptcpSubtypeMpCapable_updatePair {packetToModify livePacket : Packet} {tcpOpt : TcpOption}
    (direction : Direction) (hack : ¬IsThirdAck packetToModify tcpOpt) :
    mptcpSubtypeMpCapable (t.updatePair A f) packetToModify livePacket tcpOpt direction =
      mapAnswer (·.updatePair A f) (mptcpSubtypeMpCapable t packetToModify livePacket tcpOpt direction) := by
  by_cases hsyn : IsCapableSyn packetToModify tcpOpt
  · cases direction
    · simp only [mptcpSubtypeMpCapable_synInbound hsyn]; exact mpCapableGenAndSetKey_updatePair t A f tcpOpt
    · simp only [mptcpSubtypeMpCapable_synOutbound hsyn]
      exact mpCapableExtractAndSetKey_updatePair t A f livePacket tcpOpt
  · simp only [mptcpSubtypeMpCapable_err hsyn hack]; rfl

end

/-! ## Writes to the records of two pairs -/

theorem MpSubflow.setKernelJoin_ports (addrId : UInt8) (randNbr : UInt32) (subflow : MpSubflow) :
    (subflow.setKernelJoin addrId randNbr).ports = subflow.ports := rfl

theorem MpSubflow.setPacketdrillRandNbr_ports (randNbr : UInt32) (subflow : MpSubflow) :
    (subflow.setPacketdrillRandNbr randNbr).ports = subflow.ports := rfl

theorem MpSubflow.advanceSeq_ports (length : UInt16) (subflow : MpSubflow) :
    (subflow.advanceSeq length).ports = subflow.ports := rfl

section
variable (t : MpState) {A : UInt16 × UInt16} {f : MpSubflow → MpSubflow}
  {packet : Packet} {tcpOpt : TcpOption}

theorem MpState.updatePair_comm {B : UInt16 × UInt16} {g : MpSubflow → MpSubflow} (hAB : A ≠ B)
    (hf : ∀ subflow, (f subflow).ports = subflow.ports) (hg : ∀ subflow, (g subflow).ports = subflow.ports) :
    (t.updatePair A f).updatePair B g = (t.updatePair B g).updatePair A f := by
  simp only [MpState.updatePair, updateFirst_comm MpSubflow.ports hg hf (Ne.symm hAB)]

theorem findSubflowMatchingInboundPacket_updatePair (hf : ∀ subflow, (f subflow).ports = subflow.ports)
    (hne : packet.inboundPorts ≠ A) :
    findSubflowMatchingInboundPacket (t.updatePair A f) packet = findSubflowMatchingInboundPacket t packet := by
  simp only [findSubflowMatchingInboundPacket_eq, MpState.updatePair]
  rw [find?_updateFirst MpSubflow.ports f hf, if_neg hne]

theorem findSubflowMatchingOutboundPacket_updatePair (hf : ∀ subflow, (f subflow).ports = subflow.ports)
    (hne : packet.outboundPorts ≠ A) :
    findSubflowMatchingOutboundPacket (t.updatePair A f) packet = findSubflowMatchingOutboundPacket t packet := by
  simp only [findSubflowMatchingOutboundPacket_eq, MpState.updatePair]
  rw [find?_updateFirst MpSubflow.ports f hf, if_neg hne]

/-- A subflow created on another pair goes in front of the written one. -/
theorem newSubflowInbound_updatePair (hne : packet.inboundPorts ≠ A) :
    newSubflowInbound (t.updatePair A f) packet =
      ((newSubflowInbound t packet).1, (newSubflowInbound t packet).2.updatePair A f) := by
  unfold newSubflowInbound
  split
  · rfl
  · dsimp only [MpState.updatePair, MpState.generate32]
    rw [updateFirst_cons_of_not f (decide_eq_false hne)]

theorem newSubflowOutbound_updatePair (hne : packet.outboundPorts ≠ A) :
    newSubflowOutbound (t.updatePair A f) packet =
      ((newSubflowOutbound t packet).1, (newSubflowOutbound t packet).2.updatePair A f) := by
  unfold newSubflowOutbound
  split
  · dsimp only [MpState.updatePair]
    rw [updateFirst_cons_of_not f (decide_eq_false hne)]
  · rfl

/-! The MP_JOIN cases of another pair. -/

theorem mpJoinSynInbound_updatePair (hne : packet.inboundPorts ≠ A) :
    mpJoinSynInbound (t.updatePair A f) packet tcpOpt =
      mapAnswer (·.updatePair A f) (mpJoinSynInbound t packet tcpOpt) := by
  unfold mpJoinSynInbound
  rw [newSubflowInbound_updatePair t hne]
  rcases newSubflowInbound t packet with ⟨_ | _, _⟩ <;> rfl

theorem mpJoinSynAckOutbound_updatePair (hf : ∀ subflow, (f subflow).ports = subflow.ports)
    (hne : packet.outboundPorts ≠ A) :
    mpJoinSynAckOutbound (t.updatePair A f) packet tcpOpt =
      mapAnswer (·.updatePair A f) (mpJoinSynAckOutbound t packet tcpOpt) := by
  unfold mpJoinSynAckOutbound
  rw [findSubflowMatchingOutboundPacket_updatePair t hf hne]
  split
  · simp only [MpState.updateMatchingSubflow_outbound]
    rw [MpState.updatePair_comm t (Ne.symm hne) hf (MpSubflow.setKernelJoin_ports _ _)]
    rfl
  · rfl

theorem mpJoinAckInbound_updatePair (hf : ∀ subflow, (f subflow).ports = subflow.ports)
    (hne : packet.inboundPorts ≠ A) :
    mpJoinAckInbound (t.updatePair A f) packet tcpOpt =
      mapAnswer (·.updatePair A f) (mpJoinAckInbound t packet tcpOpt) := by
  unfold mpJoinAckInbound
  rw [findSubflowMatchingInboundPacket_updatePair t hf hne]
  split <;> rfl

theorem mpJoinSynOutbound_updatePair (hne : packet.outboundPorts ≠ A) :
    mpJoinSynOutbound (t.updatePair A f) packet tcpOpt =
      (mpJoinSynOutbound t packet tcpOpt).map (mapAnswer (·.updatePair A f)) := by
  unfold mpJoinSynOutbound
  rw [newSubflowOutbound_updatePair t hne]
  rcases newSubflowOutbound t packet with ⟨_ | _, _⟩ <;> rfl

theorem mpJoinSynAckInbound_updatePair (hf : ∀ subflow, (f subflow).ports = subflow.ports)
    (hne : packet.inboundPorts ≠ A) :
    mpJoinSynAckInbound (t.updatePair A f) packet tcpOpt =
      mapAnswer (·.updatePair A f) (mpJoinSynAckInbound t packet tcpOpt) := by
  unfold mpJoinSynAckInbound
  rw [findSubflowMatchingInboundPacket_updatePair t hf hne]
  split
  · rfl
  · simp only [MpState.generate32_updatePair, MpState.updateMatchingSubflow_inbound]
    rw [MpState.updatePair_comm _ (Ne.symm hne) hf (MpSubflow.setPacketdrillRandNbr_ports _)]
    rfl

theorem mpJoinAckOutbound_updatePair (hf : ∀ subflow, (f subflow).ports = subflow.ports)
    (hne : packet.outboundPorts ≠ A) :
    mpJoinAckOutbound (t.updatePair A f) packet tcpOpt =
      mapAnswer (·.updatePair A f) (mpJoinAckOutbound t packet tcpOpt) := by
  unfold mpJoinAckOutbound
  rw [findSubflowMatchingOutboundPacket_updatePair t hf hne]
  split <;> rfl

/-- An MP_JOIN option whose packets are on other pairs commutes with a write
to the first record of `A`. -/
theorem mptcpSubtypeMpJoin_updatePair {livePacket : Packet} (direction : Direction)
    (hf : ∀ subflow, (f subflow).ports = subflow.ports) (hin : packet.inboundPorts ≠ A)
    (hout : packet.outboundPorts ≠ A) (hlive : livePacket.outboundPorts ≠ A) :
    mptcpSubtypeMpJoin (t.updatePair A f) packet livePacket tcpOpt direction =
      (mptcpSubtypeMpJoin t packet livePacket tcpOpt direction).map (mapAnswer (·.updatePair A f)) := by
  by_cases hsyn : IsJoinSyn packet tcpOpt
  · cases direction
    · simp only [mptcpSubtypeMpJoin_synInbound hsyn, mpJoinSynInbound_updatePair t hin]; rfl
    · simp only [mptcpSubtypeMpJoin_synOutbound hsyn]; exact mpJoinSynOutbound_updatePair t hlive
  by_cases hsynAck : IsJoinSynAck packet tcpOpt
  · cases direction
    · simp only [mptcpSubtypeMpJoin_synAckInbound hsynAck, mpJoinSynAckInbound_updatePair t hf hin]; rfl
    · simp only [mptcpSubtypeMpJoin_synAckOutbound hsynAck, mpJoinSynAckOutbound_updatePair t hf hlive]; rfl
  by_cases hack : IsJoinAck packet tcpOpt
  · cases direction
    · simp only [mptcpSubtypeMpJoin_ackInbound hack, mpJoinAckInbound_updatePair t hf hin]; rfl
    · simp only [mptcpSubtypeMpJoin_ackOutbound hack, mpJoinAckOutbound_updatePair t hf hout]; rfl
  · simp only [mptcpSubtypeMpJoin_err hsyn hsynAck hack]; rfl

/-! The DSS options of another pair. -/

theorem dssDsn8_updatePair (hf : ∀ subflow, (f subflow).ports = subflow.ports) (hne : packet.inboundPorts ≠ A)
    (i : ℕ) : dssDsn8 (t.updatePair A f) packet i tcpOpt =
      (dssDsn8 t packet i tcpOpt).map fun r => (r.1.updatePair A f, r.2) := by
  unfold dssDsn8
  rw [findSubflowMatchingInboundPacket_updatePair t hf hne]
  split
  · rfl
  · dsimp only
    split
    · rfl
    · simp only [MpState.updateMatchingSubflow_inbound]
      rw [MpState.updatePair_comm t (Ne.symm hne) hf (MpSubflow.advanceSeq_ports _)]
      rfl

theorem dssDsn8Wocs_updatePair (hf : ∀ subflow, (f subflow).ports = subflow.ports)
    (hne : packet.inboundPorts ≠ A) : dssDsn8Wocs (t.updatePair A f) packet tcpOpt =
      (dssDsn8Wocs t packet tcpOpt).map fun r => (r.1.updatePair A f, r.2) := by
  unfold dssDsn8Wocs
  rw [findSubflowMatchingInboundPacket_updatePair t hf hne]
  split
  · rfl
  · dsimp only
    split
    · rfl
    · simp only [MpState.updateMatchingSubflow_inbound]
      rw [MpState.updatePair_comm t (Ne.symm hne) hf (MpSubflow.advanceSeq_ports _)]
      rfl

theorem mptcpSubtypeDss_updatePair (i : ℕ) (direction : Direction)
    (hf : ∀ subflow, (f subflow).ports = subflow.ports) (hne : packet.inboundPorts ≠ A) :
    mptcpSubtypeDss (t.updatePair A f) packet i tcpOpt direction =
      (mptcpSubtypeDss t packet i tcpOpt direction).map (mapAnswer (·.updatePair A f)) := by
  cases direction with
  | outbound => rfl
  | inbound =>
    have hdsn : dssDsn (t.updatePair A f) packet i tcpOpt =
        (dssDsn t packet i tcpOpt).map fun r => (r.1.updatePair A f, r.2) := by
      unfold dssDsn
      split_ifs
      · exact dssDsn8_updatePair t hf hne i
      · exact dssDsn8Wocs_updatePair t hf hne
      · rfl
    simp only [mptcpSubtypeDss, hdsn]
    cases dssDsn t packet i tcpOpt <;> rfl

end

/-! ## Calls that avoid a pair -/

/-- The calls that neither read nor write the initial DSN and DACK and the
first record of `pair`: the parser's calls; MP_CAPABLE options but the third
ACK; MP_JOIN options neither of whose packets is on `pair`, in either
orientation; DSS options on other pairs; and options of unknown subtype. -/
def MpInput.AvoidsPair (pair : UInt16 × UInt16) : MpInput → Prop
  | .option packetToModify livePacket _ tcpOpt _ =>
    if tcpOpt.data.subtype = mpCapableSubtype then ¬PacketdrillMptcp.IsThirdAck packetToModify tcpOpt
    else if tcpOpt.data.subtype = mpJoinSubtype then
      packetToModify.inboundPorts ≠ pair ∧ packetToModify.outboundPorts ≠ pair ∧ livePacket.outboundPorts ≠ pair
    else if tcpOpt.data.subtype = dssSubtype then packetToModify.inboundPorts ≠ pair
    else True
  | _ => True

instance (pair : UInt16 × UInt16) : DecidablePred (MpInput.AvoidsPair pair)
  | .option _ _ _ _ _ => by unfold MpInput.AvoidsPair; infer_instance
  | .enqueueVar _ _ => inferInstanceAs (Decidable True)
  | .addMpVarScriptDefined _ _ => inferInstanceAs (Decidable True)

section
variable {A : UInt16 × UInt16} {packetToModify livePacket : Packet} {i : ℕ} {tcpOpt : TcpOption}
  {direction : Direction}

theorem MpInput.AvoidsPair.not_isThirdAck {x : MpInput} (hx : x.AvoidsPair A) : ¬x.IsThirdAck := by
  cases x with
  | option packetToModify livePacket i tcpOpt direction =>
    rintro ⟨hcap, hack⟩
    simp only [MpInput.AvoidsPair, if_pos hcap] at hx
    exact hx hack
  | _ => exact id

theorem MpInput.AvoidsPair.of_mpJoin
    (hx : (MpInput.option packetToModify livePacket i tcpOpt direction).AvoidsPair A)
    (hjoin : tcpOpt.data.subtype = mpJoinSubtype) :
    packetToModify.inboundPorts ≠ A ∧ packetToModify.outboundPorts ≠ A ∧ livePacket.outboundPorts ≠ A := by
  simpa [MpInput.AvoidsPair, hjoin, mpJoinSubtype, mpCapableSubtype] using hx

theorem MpInput.AvoidsPair.of_dss
    (hx : (MpInput.option packetToModify livePacket i tcpOpt direction).AvoidsPair A)
    (hdss : tcpOpt.data.subtype = dssSubtype) : packetToModify.inboundPorts ≠ A := by
  simpa [MpInput.AvoidsPair, hdss, dssSubtype, mpJoinSubtype, mpCapableSubtype] using hx

/-- A call that avoids `A` creates no record of pair `A`. -/
theorem MpInput.AvoidsPair.createdPorts_ne {x : MpInput} {ports : UInt16 × UInt16} (hx : x.AvoidsPair A)
    (h : x.createdPorts = some ports) : ports ≠ A := by
  cases x with
  | option packetToModify livePacket i tcpOpt direction =>
    by_cases hcap : tcpOpt.data.subtype = mpCapableSubtype
    · rw [createdPorts_of_mpCapable hcap, if_neg fun hack => hx.not_isThirdAck ⟨hcap, hack⟩] at h
      cases h
    · by_cases hjoin : tcpOpt.data.subtype = mpJoinSubtype
      · obtain ⟨hin, -, hlive⟩ := hx.of_mpJoin hjoin
        rw [createdPorts_of_mpJoin hjoin] at h
        split_ifs at h
        cases direction <;> simp only [creationPorts, Option.map_eq_some', Option.bind_eq_some] at h
        · obtain ⟨_, -, rfl⟩ := h; exact hin
        · obtain ⟨_, -, _, -, rfl⟩ := h; exact hlive
      · rw [createdPorts_of_other hcap hjoin] at h
        cases h
  | _ => cases h

end

section
variable (t : MpState) {A : UInt16 × UInt16} {f : MpSubflow → MpSubflow}

theorem mptcpOption_updatePair {packetToModify livePacket : Packet} {i : ℕ} {tcpOpt : TcpOption}
    {direction : Direction} (hf : ∀ subflow, (f subflow).ports = subflow.ports)
    (hx : (MpInput.option packetToModify livePacket i tcpOpt direction).AvoidsPair A) :
    mptcpOption (t.updatePair A f) packetToModify livePacket i tcpOpt direction =
      (mptcpOption t packetToModify livePacket i tcpOpt direction).map (mapAnswer (·.updatePair A f)) := by
  dsimp only [MpInput.AvoidsPair] at hx
  dsimp only [mptcpOption]
  split_ifs at hx ⊢
  · rw [mptcpSubtypeMpCapable_updatePair t A f direction hx]; rfl
  · exact mptcpSubtypeMpJoin_updatePair t direction hf hx.1 hx.2.1 hx.2.2
  · exact mptcpSubtypeDss_updatePair t i direction hf hx
  · rfl

/-- A call that avoids `A` commutes with a write to the first record of `A`,
failure included. -/
theorem mpStep_updatePair {x : MpInput} (hf : ∀ subflow, (f subflow).ports = subflow.ports) (hx : x.AvoidsPair A) :
    mpStep (t.updatePair A f) x = (mpStep t x).map (mapAnswer (·.updatePair A f)) := by
  cases x with
  | option packetToModify livePacket i tcpOpt direction =>
    simp only [mpStep, mptcpOption_updatePair t hf hx]
    cases mptcpOption t packetToModify livePacket i tcpOpt direction <;> rfl
  | enqueueVar name heap => simp only [mpStep, enqueueVar_updatePair]; rfl
  | addMpVarScriptDefined => rfl

/-- A call that avoids the pair of `packet` keeps what a DSS option of
`packet` reads. -/
theorem mpStep_dssView {t' : MpState} {packet : Packet} {x : MpInput} {status : Status} {out : Option TcpOption}
    (hx : x.AvoidsPair packet.inboundPorts) (h : mpStep t x = .ok (status, t', out)) :
    t'.initialDsn = t.initialDsn ∧ t'.initialDack = t.initialDack ∧
      findSubflowMatchingInboundPacket t' packet = findSubflowMatchingInboundPacket t packet := by
  refine ⟨by rw [mpStep_initialDsn h, if_neg hx.not_isThirdAck], mpStep_initialDack h, ?_⟩
  simp only [findSubflowMatchingInboundPacket_eq]
  rcases mpStep_subflows h with ⟨subflow, hcreated, hsubflows, -⟩ |
    ⟨-, packetToModify, livePacket, i, tcpOpt, rfl, hjoin, -, hsubflows⟩ |
    ⟨-, packetToModify, livePacket, i, tcpOpt, _, _, rfl, hjoin, -, hsubflows⟩ |
    ⟨-, packetToModify, livePacket, i, tcpOpt, _, _, rfl, hdss, _, _, _, _, hsubflows⟩ | ⟨-, -, hsubflows⟩ <;>
    rw [hsubflows]
  · rw [List.find?_cons_of_neg _ (by simpa using hx.createdPorts_ne hcreated)]
  · simp only [doesSubflowMatchInboundPacket_eq]
    rw [find?_updateFirst MpSubflow.ports _ (MpSubflow.setPacketdrillRandNbr_ports _),
      if_neg (hx.of_mpJoin hjoin).1.symm]
  · simp only [doesSubflowMatchOutboundPacket_eq]
    rw [find?_updateFirst MpSubflow.ports _ (MpSubflow.setKernelJoin_ports _ _),
      if_neg (hx.of_mpJoin hjoin).2.2.symm]
  · simp only [doesSubflowMatchInboundPacket_eq]
    rw [find?_updateFirst MpSubflow.ports _ (MpSubflow.advanceSeq_ports _), if_neg (hx.of_dss hdss).symm]

end

/-! ## What a DSS call reads and writes -/

/-- The write a DSS option makes to the first subflow of its packet's pair:
in the two DSN cases of an inbound packet with an IPv4 header, the subflow
advances by the payload length; otherwise nothing. -/
def dssUpdate (packetToModify : Packet) (tcpOpt : TcpOption) (direction : Direction) : MpSubflow → MpSubflow :=
  match direction, packetToModify.ipv4 with
  | .inbound, some ipv4 => if IsDsnDss tcpOpt then MpSubflow.advanceSeq (dssTcpPayloadLength packetToModify ipv4) else id
  | _, _ => id

theorem dssUpdate_ports (packetToModify : Packet) (tcpOpt : TcpOption) (direction : Direction)
    (subflow : MpSubflow) : (dssUpdate packetToModify tcpOpt direction subflow).ports = subflow.ports := by
  rcases direction with _ | _ <;> rcases hipv4 : packetToModify.ipv4 with _ | ipv4 <;>
    simp only [dssUpdate, hipv4, id_eq]
  split <;> rfl

section
variable {s t : MpState} {packetToModify : Packet} {tcpOpt : TcpOption}

/-- The DSN cases read the initial DSN and the record the packet finds: a
state that agrees on those gets the same answer, with its own record
written. -/
theorem dssDsn_transport (hdsn : t.initialDsn = s.initialDsn)
    (hfind : findSubflowMatchingInboundPacket t packetToModify = findSubflowMatchingInboundPacket s packetToModify)
    (i : ℕ) : dssDsn t packetToModify i tcpOpt = (dssDsn s packetToModify i tcpOpt).map
      fun r => (t.updatePair packetToModify.inboundPorts (dssUpdate packetToModify tcpOpt .inbound), r.2) := by
  unfold dssDsn
  split_ifs with h8 hwocs
  · unfold dssDsn8
    rw [hfind, hdsn]
    rcases hipv4 : packetToModify.ipv4 with _ | ipv4
    · rfl
    · dsimp only
      rcases findSubflowMatchingInboundPacket s packetToModify with _ | subflow
      · rfl
      · simp only [dssUpdate, hipv4, if_pos (show IsDsnDss tcpOpt from ⟨h8.1, .inl h8.2⟩),
          MpState.updateMatchingSubflow_inbound]
        rfl
  · unfold dssDsn8Wocs
    rw [hfind, hdsn]
    rcases hipv4 : packetToModify.ipv4 with _ | ipv4
    · rfl
    · dsimp only
      rcases findSubflowMatchingInboundPacket s packetToModify with _ | subflow
      · rfl
      · simp only [dssUpdate, hipv4, if_pos (show IsDsnDss tcpOpt from ⟨hwocs.1, .inr hwocs.2⟩),
          MpState.updateMatchingSubflow_inbound]
        rfl
  · have hnot : ¬IsDsnDss tcpOpt := fun ⟨hflag, hlen⟩ => hlen.elim (h8 ⟨hflag, ·⟩) (hwocs ⟨hflag, ·⟩)
    have hid : dssUpdate packetToModify tcpOpt .inbound = id := by
      rcases hipv4 : packetToModify.ipv4 with _ | _ <;> simp [dssUpdate, hipv4, hnot]
    rw [hid, t.updatePair_id]
    rfl

/-- A DSS call, in either direction, reads the initial DSN and DACK and the
record its packet finds: a state that agrees on those gets the same answer,
failure included, with its own record written by `dssUpdate`. -/
theorem mptcpSubtypeDss_transport (hdsn : t.initialDsn = s.initialDsn) (hdack : t.initialDack = s.initialDack)
    (hfind : findSubflowMatchingInboundPacket t packetToModify = findSubflowMatchingInboundPacket s packetToModify)
    (i : ℕ) (direction : Direction) :
    mptcpSubtypeDss t packetToModify i tcpOpt direction = (mptcpSubtypeDss s packetToModify i tcpOpt direction).map
      (mapAnswer fun _ => t.updatePair packetToModify.inboundPorts (dssUpdate packetToModify tcpOpt direction)) := by
  cases direction with
  | outbound =>
    have hid : dssUpdate packetToModify tcpOpt .outbound = id := rfl
    show Except.ok _ = Except.ok _
    rw [hid, t.updatePair_id]
    rfl
  | inbound =>
    simp only [mptcpSubtypeDss, dssDsn_transport hdsn hfind i]
    rcases hr : dssDsn s packetToModify i tcpOpt with _ | ⟨s₁, tcpOpt₁⟩
    · rfl
    · have hs₁ : s₁.initialDack = s.initialDack := by
        have hself := @dssDsn_transport s s packetToModify tcpOpt rfl rfl i
        rw [hr] at hself
        rw [(Prod.mk.inj (Except.ok.inj hself)).1]
        rfl
      simp only [Except.map, mapAnswer, dssDack, MpState.updatePair, hdack, hs₁]

end

section
variable {s t : MpState} {packetToModify livePacket : Packet} {i : ℕ} {tcpOpt : TcpOption}
  {direction : Direction}

/-- The same, for the call of `mpStep`. -/
theorem mpStep_dss_transport (hdss : tcpOpt.data.subtype = dssSubtype) (hdsn : t.initialDsn = s.initialDsn)
    (hdack : t.initialDack = s.initialDack)
    (hfind : findSubflowMatchingInboundPacket t packetToModify = findSubflowMatchingInboundPacket s packetToModify) :
    mpStep t (.option packetToModify livePacket i tcpOpt direction) =
      (mpStep s (.option packetToModify livePacket i tcpOpt direction)).map
        (mapAnswer fun _ => t.updatePair packetToModify.inboundPorts (dssUpdate packetToModify tcpOpt direction)) := by
  simp only [mpStep, mptcpOption_of_dss hdss, mptcpSubtypeDss_transport hdsn hdack hfind]
  cases mptcpSubtypeDss s packetToModify i tcpOpt direction <;> rfl

/-- What a DSS option call leaves: its own record written by `dssUpdate`. -/
theorem mpStep_dss_state {s' : MpState} {status : Status} {out : Option TcpOption}
    (hdss : tcpOpt.data.subtype = dssSubtype)
    (h : mpStep s (.option packetToModify livePacket i tcpOpt direction) = .ok (status, s', out)) :
    s' = s.updatePair packetToModify.inboundPorts (dssUpdate packetToModify tcpOpt direction) := by
  have hself := @mpStep_dss_transport s s packetToModify livePacket i tcpOpt direction hdss rfl rfl rfl
  rw [h] at hself
  exact (Prod.mk.inj (Prod.mk.inj (Except.ok.inj hself)).2).1

end

/-! ## Reordering -/

/-- A DSS option call and any call that avoids its packet's pair can be run
in either order: the two orders return the same statuses and options and
leave the same state. -/
theorem dss_call_commutes_with_avoiding_call {s s' : MpState} {packetToModify livePacket : Packet} {i : ℕ}
    {tcpOpt : TcpOption} {direction : Direction} {x : MpInput} {status₁ status₂ : Status}
    {out₁ out₂ : Option TcpOption} (hdss : tcpOpt.data.subtype = dssSubtype)
    (hx : x.AvoidsPair packetToModify.inboundPorts) :
    (∃ s₁, mpStep s (.option packetToModify livePacket i tcpOpt direction) = .ok (status₁, s₁, out₁) ∧
        mpStep s₁ x = .ok (status₂, s', out₂)) ↔
      (∃ s₂, mpStep s x = .ok (status₂, s₂, out₂) ∧
        mpStep s₂ (.option packetToModify livePacket i tcpOpt direction) = .ok (status₁, s', out₁)) := by
  have hf := dssUpdate_ports packetToModify tcpOpt direction
  constructor
  · rintro ⟨s₁, h₁, h₂⟩
    obtain rfl := mpStep_dss_state hdss h₁
    rw [mpStep_updatePair s hf hx] at h₂
    rcases hstep : mpStep s x with _ | ⟨status, s₂, out⟩ <;> rw [hstep] at h₂
    · cases h₂
    · simp only [Except.map, mapAnswer, Except.ok.injEq, Prod.mk.injEq] at h₂
      obtain ⟨rfl, rfl, rfl⟩ := h₂
      obtain ⟨hdsn, hdack, hfind⟩ := mpStep_dssView s hx hstep
      exact ⟨s₂, rfl, by rw [mpStep_dss_transport hdss hdsn hdack hfind, h₁]; rfl⟩
  · rintro ⟨s₂, h₂, h₁⟩
    obtain ⟨hdsn, hdack, hfind⟩ := mpStep_dssView s hx h₂
    rw [mpStep_dss_transport hdss hdsn hdack hfind] at h₁
    rcases hstep : mpStep s (.option packetToModify livePacket i tcpOpt direction) with _ | ⟨status, s₁, out⟩ <;>
      rw [hstep] at h₁
    · cases h₁
    · simp only [Except.map, mapAnswer, Except.ok.injEq, Prod.mk.injEq] at h₁
      obtain ⟨rfl, rfl, rfl⟩ := h₁
      refine ⟨s₁, rfl, ?_⟩
      rw [mpStep_dss_state hdss hstep, mpStep_updatePair s hf hx, h₂]
      rfl

theorem runInputs_append (s : MpState) (xs ys : List MpInput) :
    runInputs s (xs ++ ys) = (runInputs s xs).bind (runInputs · ys) := by
  induction xs generalizing s with
  | nil => rfl
  | cons x xs ih =>
    simp only [List.cons_append, runInputs]
    split
    · exact ih _
    · rfl

/-- In a run, a DSS option call and the next call, when that one avoids the
option's pair, can be swapped: the run ends in the same state, or fails
either way. -/
theorem runInputs_swap_dss_call {s : MpState} {packetToModify livePacket : Packet} {i : ℕ}
    {tcpOpt : TcpOption} {direction : Direction} {x : MpInput} (pre post : List MpInput)
    (hdss : tcpOpt.data.subtype = dssSubtype) (hx : x.AvoidsPair packetToModify.inboundPorts) :
    runInputs s (pre ++ .option packetToModify livePacket i tcpOpt direction :: x :: post) =
      runInputs s (pre ++ x :: .option packetToModify livePacket i tcpOpt direction :: post) := by
  rw [runInputs_append, runInputs_append]
  congr 1
  funext s
  have hf := dssUpdate_ports packetToModify tcpOpt direction
  have hback : ∀ {s₂ : MpState} {status : Status} {out : Option TcpOption}, mpStep s x = .ok (status, s₂, out) →
      mpStep s₂ (.option packetToModify livePacket i tcpOpt direction) =
        (mpStep s (.option packetToModify livePacket i tcpOpt direction)).map
          (mapAnswer fun _ => s₂.updatePair packetToModify.inboundPorts (dssUpdate packetToModify tcpOpt direction)) :=
    fun h => have hv := mpStep_dssView s hx h; mpStep_dss_transport hdss hv.1 hv.2.1 hv.2.2
  have hU := mpStep_updatePair s hf hx
  simp only [runInputs]
  -- the nine combinations of how the two calls end, each order read back to the first
  rcases hstep : mpStep s x with _ | ⟨_ | _, s₂, out₂⟩ <;>
    rcases hd : mpStep s (.option packetToModify livePacket i tcpOpt direction) with _ | ⟨_ | _, s₁, out₁⟩ <;>
    (try obtain rfl := mpStep_dss_state hdss hd) <;> (try dsimp only) <;>
    (try rw [hU, hstep]) <;> (try rw [hback hstep, hd]) <;> rfl

/-- A data option with a DSN and no checksum. -/
def dataOption : TcpOption :=
  { mptcpOptionOf dssSubtype tcpolenDssDsn8Wocs with data.dss.flagDsn := true }

/-- The tool's data packet from port `srcPort` (network order) to port 80. -/
def dataPacket (srcPort : UInt16) : Packet := tcpPacket srcPort 0x5000 false true [dataOption]

def dataIn (srcPort : UInt16) : MpInput :=
  .option (dataPacket srcPort) (dataPacket srcPort) 0 dataOption .inbound

/-- The tool has opened a subflow from port 10000. -/
def firstSubflowState : MpState := (newSubflowInbound (initMpState 8 fun _ => 0) (dataPacket 0x1027)).2

/-- The state after data on that subflow. -/
def dataOnFirst : MpState := (stepAnswer firstSubflowState (dataIn 0x1027)).2.1

/-- Data on the subflow from port 10000 and the JOIN SYN that opens a subflow
from port 10001 can come in either order. -/
theorem data_and_second_join_reorder :
    dataOption.data.subtype = dssSubtype ∧ secondJoinSynIn.AvoidsPair (dataPacket 0x1027).inboundPorts ∧
    ∃ s₂, mpStep firstSubflowState secondJoinSynIn =
        .ok (.ok, s₂, (stepAnswer dataOnFirst secondJoinSynIn).2.2) ∧
      mpStep s₂ (dataIn 0x1027) =
        .ok (.ok, (stepAnswer dataOnFirst secondJoinSynIn).2.1, (stepAnswer firstSubflowState (dataIn 0x1027)).2.2) := by
  have hx : secondJoinSynIn.AvoidsPair (dataPacket 0x1027).inboundPorts := by decide
  have h₁ : mpStep firstSubflowState (dataIn 0x1027) =
      .ok (.ok, dataOnFirst, (stepAnswer firstSubflowState (dataIn 0x1027)).2.2) := rfl
  have h₂ : mpStep dataOnFirst secondJoinSynIn =
      .ok (.ok, (stepAnswer dataOnFirst secondJoinSynIn).2.1, (stepAnswer dataOnFirst secondJoinSynIn).2.2) := rfl
  exact ⟨rfl, hx, (dss_call_commutes_with_avoiding_call rfl hx).mp ⟨dataOnFirst, h₁, h₂⟩⟩

/-- The same two calls, as a run. -/
theorem data_and_second_join_swap :
    dataOption.data.subtype = dssSubtype ∧ secondJoinSynIn.AvoidsPair (dataPacket 0x1027).inboundPorts ∧
    runInputs firstSubflowState ([] ++ dataIn 0x1027 :: secondJoinSynIn :: []) =
      runInputs firstSubflowState ([] ++ secondJoinSynIn :: dataIn 0x1027 :: []) := by
  have hx : secondJoinSynIn.AvoidsPair (dataPacket 0x1027).inboundPorts := by decide
  exact ⟨rfl, hx, runInputs_swap_dss_call [] [] rfl hx⟩

end PacketdrillMptcp
