import PacketdrillMptcp.Engine

/-!
# The subflow table

`mp_state.subflows` (`mptcp.c`, lines 186–293) is a list to which
`new_subflow_inbound` and `new_subflow_outbound` prepend a record, with no
test for a record of the same port pair; every search returns the first
record that matches, so the newest record of a pair shadows the older ones.

Results:
* `mpStep_subflows`: what one call does to the table: it prepends the record
  it creates, or rewrites the first record matching its packet (a fresh tool
  nonce, the kernel's nonce and address ID, or a grown sequence number), or
  leaves the table alone.
-/

namespace PacketdrillMptcp

/-! ## Creation -/

/-- The port pair of the record `new_subflow_*` creates from `packet`, if it
creates one: an inbound packet needs an IP header, an outbound one also an
MPTCP option. -/
def creationPorts (packet : Packet) : Direction → Option (UInt16 × UInt16)
  | .inbound => packet.ipAddresses.map fun _ => packet.inboundPorts
  | .outbound => (getTcpOption packet tcpoptMptcp).bind fun _ => packet.ipAddresses.map fun _ => packet.outboundPorts

/-- The record `new_subflow_inbound` creates goes in front of the table; it
has the packet's pair, a fresh tool nonce, the next tool address ID and
sequence number 0. -/
theorem newSubflowInbound_spec (s : MpState) (packet : Packet) :
    (newSubflowInbound s packet).2.subflows = (newSubflowInbound s packet).1.toList ++ s.subflows ∧
    (newSubflowInbound s packet).1.map MpSubflow.ports = creationPorts packet .inbound ∧
    ∀ subflow ∈ (newSubflowInbound s packet).1,
      subflow.packetdrillRandNbr = some (s.random 0).toUInt32 ∧
      subflow.packetdrillAddrId = some s.lastPacketdrillAddrId ∧ subflow.subflowSequenceNumber = 0 := by
  unfold newSubflowInbound creationPorts
  split <;> rename_i h <;> simp [h, MpState.generate32, MpSubflow.ports, Packet.inboundPorts]

/-- The record `new_subflow_outbound` creates goes in front of the table; it
has the packet's pair swapped to the tool's side, the kernel's nonce and
address ID from the packet's option, and sequence number 0. -/
theorem newSubflowOutbound_spec (s : MpState) (packet : Packet) :
    (newSubflowOutbound s packet).2.subflows = (newSubflowOutbound s packet).1.toList ++ s.subflows ∧
    (newSubflowOutbound s packet).1.map MpSubflow.ports = creationPorts packet .outbound ∧
    ∀ subflow ∈ (newSubflowOutbound s packet).1,
      subflow.packetdrillRandNbr = none ∧ subflow.packetdrillAddrId = none ∧
      subflow.subflowSequenceNumber = 0 := by
  unfold newSubflowOutbound creationPorts
  split <;> rename_i h1 h2
  · simp [h1, h2, MpSubflow.ports, Packet.outboundPorts]
  · cases h : getTcpOption packet tcpoptMptcp <;> cases h' : packet.ipAddresses <;> simp_all
    exact h2 _ _ _ rfl rfl

theorem newSubflow_spec (s : MpState) (packet : Packet) (direction : Direction) :
    (newSubflow s packet direction).2.subflows = (newSubflow s packet direction).1.toList ++ s.subflows ∧
    (newSubflow s packet direction).1.map MpSubflow.ports = creationPorts packet direction ∧
    ∀ subflow ∈ (newSubflow s packet direction).1, subflow.subflowSequenceNumber = 0 := by
  cases direction
  · obtain ⟨h1, h2, h3⟩ := newSubflowInbound_spec s packet
    exact ⟨h1, h2, fun sf hsf => (h3 sf hsf).2.2⟩
  · obtain ⟨h1, h2, h3⟩ := newSubflowOutbound_spec s packet
    exact ⟨h1, h2, fun sf hsf => (h3 sf hsf).2.2⟩

/-- The port pair of the record a call creates, if it creates one: an
MP_CAPABLE third ACK creates it from the packet to modify, an MP_JOIN SYN from
the packet to modify (inbound) or from the live packet (outbound). -/
def MpInput.createdPorts : MpInput → Option (UInt16 × UInt16)
  | .option packetToModify livePacket _ tcpOpt direction =>
    if tcpOpt.data.subtype = mpCapableSubtype ∧ PacketdrillMptcp.IsThirdAck packetToModify tcpOpt then
      creationPorts packetToModify direction
    else if tcpOpt.data.subtype = mpJoinSubtype ∧ IsJoinSyn packetToModify tcpOpt then
      match direction with
      | .inbound => creationPorts packetToModify .inbound
      | .outbound => creationPorts livePacket .outbound
    else none
  | _ => none

theorem createdPorts_of_mpCapable {packetToModify livePacket : Packet} {i : ℕ} {tcpOpt : TcpOption}
    {direction : Direction} (hsub : tcpOpt.data.subtype = mpCapableSubtype) :
    (MpInput.option packetToModify livePacket i tcpOpt direction).createdPorts =
      if IsThirdAck packetToModify tcpOpt then creationPorts packetToModify direction else none := by
  simp [MpInput.createdPorts, hsub, mpCapableSubtype, mpJoinSubtype]

theorem createdPorts_of_mpJoin {packetToModify livePacket : Packet} {i : ℕ} {tcpOpt : TcpOption}
    {direction : Direction} (hsub : tcpOpt.data.subtype = mpJoinSubtype) :
    (MpInput.option packetToModify livePacket i tcpOpt direction).createdPorts =
      if IsJoinSyn packetToModify tcpOpt then
        (match direction with
          | .inbound => creationPorts packetToModify .inbound
          | .outbound => creationPorts livePacket .outbound)
      else none := by
  simp [MpInput.createdPorts, hsub, mpCapableSubtype, mpJoinSubtype]

theorem createdPorts_of_other {packetToModify livePacket : Packet} {i : ℕ} {tcpOpt : TcpOption}
    {direction : Direction} (hcap : tcpOpt.data.subtype ≠ mpCapableSubtype)
    (hjoin : tcpOpt.data.subtype ≠ mpJoinSubtype) :
    (MpInput.option packetToModify livePacket i tcpOpt direction).createdPorts = none := by
  simp [MpInput.createdPorts, hcap, hjoin]

/-- The tool-perspective pair of an inbound DSN-carrying DSS option's packet,
if the call is one. -/
def MpInput.dsnDssPorts : MpInput → Option (UInt16 × UInt16)
  | .option packetToModify _ _ tcpOpt .inbound =>
    if tcpOpt.data.subtype = dssSubtype ∧ IsDsnDss tcpOpt then some packetToModify.inboundPorts else none
  | _ => none

theorem dsnDssPorts_of_ne {packetToModify livePacket : Packet} {i : ℕ} {tcpOpt : TcpOption}
    {direction : Direction} (h : tcpOpt.data.subtype ≠ dssSubtype) :
    (MpInput.option packetToModify livePacket i tcpOpt direction).dsnDssPorts = none := by
  cases direction <;> simp [MpInput.dsnDssPorts, h]

theorem dsnDssPorts_of_dss {packetToModify livePacket : Packet} {i : ℕ} {tcpOpt : TcpOption}
    {direction : Direction} (hsub : tcpOpt.data.subtype = dssSubtype) :
    (MpInput.option packetToModify livePacket i tcpOpt direction).dsnDssPorts =
      if direction = .inbound ∧ IsDsnDss tcpOpt then some packetToModify.inboundPorts else none := by
  cases direction <;> simp [MpInput.dsnDssPorts, hsub]

theorem IsCapableSyn.not_isThirdAck {packetToModify : Packet} {tcpOpt : TcpOption}
    (h : IsCapableSyn packetToModify tcpOpt) : ¬IsThirdAck packetToModify tcpOpt :=
  fun hack => by have := h.1.symm.trans hack.1; exact absurd this (by decide)

theorem IsJoinSynAck.not_isJoinSyn {packetToModify : Packet} {tcpOpt : TcpOption}
    (h : IsJoinSynAck packetToModify tcpOpt) : ¬IsJoinSyn packetToModify tcpOpt :=
  fun hsyn => by have := h.1.symm.trans hsyn.1; exact absurd this (by decide)

theorem IsJoinAck.not_isJoinSyn {packetToModify : Packet} {tcpOpt : TcpOption}
    (h : IsJoinAck packetToModify tcpOpt) : ¬IsJoinSyn packetToModify tcpOpt :=
  fun hsyn => by have := h.2.1.symm.trans hsyn.2.1; exact absurd this (by decide)

/-! ## One call -/

/-- What a call does to the subflow table: it prepends the record it
creates; or, as an inbound JOIN SYN/ACK, gives the first record matching its
packet a fresh tool nonce; or, as an outbound JOIN SYN/ACK, records the
kernel's nonce and address ID in the first record matching the live packet;
or, as an inbound DSN-carrying DSS option, writes the sequence number of the
first record matching its packet and advances it by the data-level length it
writes; or it leaves the table alone. -/
theorem mpStep_subflows {s s' : MpState} {x : MpInput} {status : Status} {out : Option TcpOption}
    (h : mpStep s x = .ok (status, s', out)) :
    (∃ subflow, x.createdPorts = some subflow.ports ∧ s'.subflows = subflow :: s.subflows ∧
      subflow.subflowSequenceNumber = 0) ∨
    (x.createdPorts = none ∧ ∃ packetToModify livePacket i tcpOpt,
      x = .option packetToModify livePacket i tcpOpt .inbound ∧ tcpOpt.data.subtype = mpJoinSubtype ∧
      IsJoinSynAck packetToModify tcpOpt ∧
      s'.subflows = updateFirst (doesSubflowMatchInboundPacket · packetToModify)
        (MpSubflow.setPacketdrillRandNbr (s.random 0).toUInt32) s.subflows) ∨
    (x.createdPorts = none ∧ ∃ packetToModify livePacket i tcpOpt addrId randNbr,
      x = .option packetToModify livePacket i tcpOpt .outbound ∧ tcpOpt.data.subtype = mpJoinSubtype ∧
      IsJoinSynAck packetToModify tcpOpt ∧
      s'.subflows = updateFirst (doesSubflowMatchOutboundPacket · livePacket)
        (MpSubflow.setKernelJoin addrId randNbr) s.subflows) ∨
    (x.createdPorts = none ∧ ∃ packetToModify livePacket i tcpOpt tcpOpt' subflow,
      x = .option packetToModify livePacket i tcpOpt .inbound ∧ tcpOpt.data.subtype = dssSubtype ∧
      IsDsnDss tcpOpt ∧ out = some tcpOpt' ∧
      findSubflowMatchingInboundPacket s packetToModify = some subflow ∧
      tcpOpt'.dssSubflowSeqNbr = htonl subflow.subflowSequenceNumber ∧
      s'.subflows = updateFirst (doesSubflowMatchInboundPacket · packetToModify)
        (MpSubflow.advanceSeq (ntohs tcpOpt'.dssDataLevelLength)) s.subflows) ∨
    (x.createdPorts = none ∧ x.dsnDssPorts = none ∧ s'.subflows = s.subflows) := by
  cases x with
  | enqueueVar name heap =>
    obtain ⟨_, rfl, rfl⟩ := mpStep_enqueueVar h
    exact .inr (.inr (.inr (.inr ⟨rfl, rfl, rfl⟩)))
  | addMpVarScriptDefined name value => cases h; exact .inr (.inr (.inr (.inr ⟨rfl, rfl, rfl⟩)))
  | option packetToModify livePacket i tcpOpt direction =>
    obtain ⟨tcpOpt', hopt, hout⟩ := mpStep_option.mp h
    rcases mptcpOption_cases hopt with ⟨hsub, hcap⟩ | ⟨hsub, hjoin⟩ | ⟨hsub, hdss⟩ |
      ⟨hcap, hjoin, hdss, -, rfl, -⟩
    · have hdsnNone : (MpInput.option packetToModify livePacket i tcpOpt direction).dsnDssPorts = none :=
        dsnDssPorts_of_ne (by rw [hsub]; decide)
      have hs' := congrArg (·.2.1) hcap
      dsimp only at hs'
      subst hs'
      rcases mptcpSubtypeMpCapable_cases s packetToModify livePacket tcpOpt direction with
        ⟨hc, hsyn, -⟩ | ⟨hc, hsyn, -⟩ | ⟨hc, hack⟩ | ⟨hc, -, hack⟩ <;> rw [hc] <;>
        rw [createdPorts_of_mpCapable hsub]
      · exact .inr (.inr (.inr (.inr ⟨if_neg hsyn.not_isThirdAck, hdsnNone,
          (mpCapableGenAndSetKey_frame s tcpOpt).subflows⟩)))
      · exact .inr (.inr (.inr (.inr ⟨if_neg hsyn.not_isThirdAck, hdsnNone,
          (mpCapableExtractAndSetKey_frame s livePacket tcpOpt).subflows⟩)))
      · obtain ⟨s1, hs1, hstate⟩ := mpCapableThirdAck_subflows s packetToModify tcpOpt direction
        obtain ⟨hsubflows, hports, hseq⟩ := newSubflow_spec s1 packetToModify direction
        rw [if_pos hack, hstate, hsubflows, hs1, ← hports]
        rcases hnew : (newSubflow s1 packetToModify direction).1 with _ | subflow
        · exact .inr (.inr (.inr (.inr ⟨rfl, hdsnNone, rfl⟩)))
        · exact .inl ⟨subflow, rfl, rfl, hseq subflow hnew⟩
      · exact .inr (.inr (.inr (.inr ⟨if_neg hack, hdsnNone, rfl⟩)))
    · have hdsnNone : (MpInput.option packetToModify livePacket i tcpOpt direction).dsnDssPorts = none :=
        dsnDssPorts_of_ne (by rw [hsub]; decide)
      rw [createdPorts_of_mpJoin hsub]
      rcases mptcpSubtypeMpJoin_cases s packetToModify livePacket tcpOpt direction with
        ⟨hc, rfl, hsyn⟩ | ⟨hc, rfl, hsynack⟩ | ⟨hc, rfl, hack⟩ | ⟨hc, rfl, hsyn⟩ | ⟨hc, rfl, hsynack⟩ |
        ⟨hc, rfl, hack⟩ | ⟨hc, hsyn, -⟩ <;> rw [hc] at hjoin
      · obtain rfl := state_eq_of_ok hjoin
        rw [if_pos hsyn, mpJoinSynInbound_state]
        obtain ⟨hsubflows, hports, hseq⟩ := newSubflowInbound_spec s packetToModify
        dsimp only
        rw [hsubflows, ← hports]
        rcases hnew : (newSubflowInbound s packetToModify).1 with _ | subflow
        · exact .inr (.inr (.inr (.inr ⟨rfl, hdsnNone, rfl⟩)))
        · exact .inl ⟨subflow, rfl, rfl, (hseq subflow hnew).2.2⟩
      · obtain rfl := state_eq_of_ok hjoin
        rw [if_neg hsynack.not_isJoinSyn]
        rcases mpJoinSynAckOutbound_subflows s livePacket tcpOpt with hsame | ⟨addrId, randNbr, hupdate⟩
        · exact .inr (.inr (.inr (.inr ⟨rfl, hdsnNone, hsame⟩)))
        · exact .inr (.inr (.inl ⟨rfl, _, _, _, _, _, _, rfl, hsub, hsynack, hupdate⟩))
      · obtain rfl := state_eq_of_ok hjoin
        rw [if_neg hack.not_isJoinSyn, mpJoinAckInbound_state]
        exact .inr (.inr (.inr (.inr ⟨rfl, hdsnNone, rfl⟩)))
      · obtain ⟨subflow, hnew, -⟩ := mpJoinSynOutbound_ok hjoin
        obtain ⟨hsubflows, hports, hseq⟩ := newSubflowOutbound_spec s livePacket
        rw [hnew] at hsubflows hports hseq
        rw [if_pos hsyn]
        dsimp only
        rw [← hports]
        exact .inl ⟨subflow, rfl, hsubflows, (hseq subflow rfl).2.2⟩
      · obtain rfl := state_eq_of_ok hjoin
        rw [if_neg hsynack.not_isJoinSyn]
        rcases mpJoinSynAckInbound_subflows s packetToModify tcpOpt with hsame | hupdate
        · exact .inr (.inr (.inr (.inr ⟨rfl, hdsnNone, hsame⟩)))
        · exact .inr (.inl ⟨rfl, _, _, _, _, rfl, hsub, hsynack, hupdate⟩)
      · obtain rfl := state_eq_of_ok hjoin
        rw [if_neg hack.not_isJoinSyn, mpJoinAckOutbound_state]
        exact .inr (.inr (.inr (.inr ⟨rfl, hdsnNone, rfl⟩)))
      · cases hjoin
        exact .inr (.inr (.inr (.inr ⟨if_neg hsyn, hdsnNone, rfl⟩)))
    · have hcreated : (MpInput.option packetToModify livePacket i tcpOpt direction).createdPorts = none :=
        createdPorts_of_other (by rw [hsub]; decide) (by rw [hsub]; decide)
      rcases mptcpSubtypeDss_subflows hdss with ⟨rfl, hdsn, subflow, hfind, hseq, hsubflows⟩ | ⟨hnot, rfl⟩
      · exact .inr (.inr (.inr (.inl
          ⟨hcreated, _, _, _, _, _, _, rfl, hsub, hdsn, hout, hfind, hseq, hsubflows⟩)))
      · exact .inr (.inr (.inr (.inr ⟨hcreated, by rw [dsnDssPorts_of_dss hsub, if_neg hnot], rfl⟩)))
    · exact .inr (.inr (.inr (.inr ⟨createdPorts_of_other hcap hjoin, dsnDssPorts_of_ne hdss, rfl⟩)))

theorem dsnDssPorts_eq_none_of_createdPorts {x : MpInput} {ports : UInt16 × UInt16}
    (h : x.createdPorts = some ports) : x.dsnDssPorts = none := by
  cases x with
  | option packetToModify livePacket i tcpOpt direction =>
    by_cases hsub : tcpOpt.data.subtype = dssSubtype
    · rw [createdPorts_of_other (by rw [hsub]; decide) (by rw [hsub]; decide)] at h
      cases h
    · exact dsnDssPorts_of_ne hsub
  | enqueueVar => rfl
  | addMpVarScriptDefined => rfl

/-! ## Port pairs -/

theorem findSubflowMatchingInboundPacket_eq (s : MpState) (packet : Packet) :
    findSubflowMatchingInboundPacket s packet =
      s.subflows.find? fun subflow => decide (subflow.ports = packet.inboundPorts) := by
  simp only [findSubflowMatchingInboundPacket, findMatchingSubflow, doesSubflowMatchInboundPacket_eq]

/-- Each call puts the pair of the record it creates, if any, in front of the
table's pairs, and changes no other pair. -/
theorem mpStep_subflowPorts {s s' : MpState} {x : MpInput} {status : Status} {out : Option TcpOption}
    (h : mpStep s x = .ok (status, s', out)) :
    s'.subflows.map MpSubflow.ports = x.createdPorts.toList ++ s.subflows.map MpSubflow.ports := by
  rcases mpStep_subflows h with ⟨subflow, hc, hs, -⟩ | ⟨hc, _, _, _, _, -, -, -, hs⟩ |
    ⟨hc, _, _, _, _, _, _, -, -, -, hs⟩ | ⟨hc, _, _, _, _, _, _, -, -, -, -, -, -, hs⟩ | ⟨hc, -, hs⟩ <;>
    rw [hs, hc]
  · rfl
  iterate 3 (refine map_updateFirst _ _ MpSubflow.ports ?_ s.subflows; intro; rfl)
  · rfl

theorem foldl_prepend_filterMap {α β : Type} (g : α → Option β) :
    ∀ (l : List α) (acc : List β), l.foldl (fun acc a => (g a).toList ++ acc) acc = (l.filterMap g).reverse ++ acc
  | [], _ => rfl
  | a :: l, acc => by
    rw [List.foldl_cons, foldl_prepend_filterMap g l]
    cases h : g a <;> simp [List.filterMap_cons, h]

/-- The pairs of the table after a run whose calls all succeed are the pairs
of the records the run created, newest first, duplicates included. -/
theorem subflow_ports_are_created_ports (varsQueueCapacity : ℕ) (random : ℕ → UInt64) (xs : List MpInput) {s : MpState}
    (h : runInputs (initMpState varsQueueCapacity random) xs = some s) :
    s.subflows.map MpSubflow.ports =
      ((mpTrace (initMpState varsQueueCapacity random) xs).filterMap (·.input.createdPorts)).reverse := by
  rw [runInputs_fold (fun s => s.subflows.map MpSubflow.ports) (fun acc r => r.input.createdPorts.toList ++ acc)
    (fun _ hr => mpStep_subflowPorts hr) h, foldl_prepend_filterMap]
  exact List.append_nil _

/-- A JOIN SYN option as the script writes it. -/
def joinSynOption : TcpOption := mptcpOptionOf mpJoinSubtype tcpolenMpJoinSyn

/-- A SYN from port 10000 to port 80 carrying `joinSynOption`. -/
def joinSynPacket : Packet := tcpPacket 0x1027 0x5000 true false [joinSynOption]

/-- The tool's JOIN SYN. -/
def joinSynIn : MpInput := .option joinSynPacket joinSynPacket 0 joinSynOption .inbound

theorem joinSynIn_ports :
    runInputs (initMpState 8 fun _ => 0) [joinSynIn] = some (newSubflowInbound (initMpState 8 fun _ => 0) joinSynPacket).2 ∧
    (newSubflowInbound (initMpState 8 fun _ => 0) joinSynPacket).2.subflows.map MpSubflow.ports =
      ((mpTrace (initMpState 8 fun _ => 0) [joinSynIn]).filterMap (·.input.createdPorts)).reverse :=
  ⟨rfl, subflow_ports_are_created_ports _ _ _ rfl⟩

/-- A retransmitted JOIN SYN creates a second record for the same pair. -/
theorem subflow_table_holds_duplicate_pair :
    ∃ s, Reachable s ∧ ¬(s.subflows.map MpSubflow.ports).Nodup := by
  have hports : (runInputs (initMpState 8 fun _ => 0) [joinSynIn, joinSynIn]).map
      (·.subflows.map MpSubflow.ports) = some [(10000, 80), (10000, 80)] := by decide
  cases hs : runInputs (initMpState 8 fun _ => 0) [joinSynIn, joinSynIn] with
  | none => simp [hs] at hports
  | some s =>
    simp only [hs, Option.map_some', Option.some.injEq] at hports
    exact ⟨s, (runInputs_steps hs).reachable (.init _ _), by rw [hports]; decide⟩

/-! ## Sequence numbers -/

/-- The sequence number of the first record with pair `ports`, the record
every search by that pair finds. -/
def firstSeq (ports : UInt16 × UInt16) (s : MpState) : Option UInt32 :=
  (s.subflows.find? fun subflow => decide (subflow.ports = ports)).map (·.subflowSequenceNumber)

/-- The data-level length a call wrote into the option it returned. -/
def MpStepRecord.dataLevelLength (r : MpStepRecord) : UInt32 :=
  match r.out with
  | some tcpOpt => (ntohs tcpOpt.dssDataLevelLength).toUInt32
  | none => 0

/-- The running sequence number of pair `ports` after the call `r`, from
`acc`: 0 when `r` creates a record with that pair, grown by the data-level
length `r` writes when it is an inbound DSN-carrying DSS option on that pair,
`none` while no record with the pair was created. -/
def seqLedgerStep (ports : UInt16 × UInt16) (acc : Option UInt32) (r : MpStepRecord) : Option UInt32 :=
  if r.input.createdPorts = some ports then some 0
  else if r.input.dsnDssPorts = some ports then acc.map (· + r.dataLevelLength)
  else acc

theorem firstSeq_updateFirst (s : MpState) (subflows : List MpSubflow) (ports k : UInt16 × UInt16)
    (f : MpSubflow → MpSubflow) (hs : s.subflows = updateFirst (fun sf => decide (sf.ports = k)) f subflows)
    (hports : ∀ sf, (f sf).ports = sf.ports) :
    firstSeq ports s = if ports = k then
      (subflows.find? fun sf => decide (sf.ports = ports)).map (f · |>.subflowSequenceNumber)
    else (subflows.find? fun sf => decide (sf.ports = ports)).map (·.subflowSequenceNumber) := by
  rw [firstSeq, hs, find?_updateFirst MpSubflow.ports f hports ports k]
  split_ifs <;> simp [Option.map_map, Function.comp_def]

theorem seqLedgerStep_of_none {ports : UInt16 × UInt16} {acc : Option UInt32} {r : MpStepRecord}
    (hc : r.input.createdPorts = none) (hd : r.input.dsnDssPorts = none) : seqLedgerStep ports acc r = acc := by
  simp [seqLedgerStep, hc, hd]

/-- One call advances the running sequence number of every pair as
`seqLedgerStep` says. -/
theorem mpStep_firstSeq (ports : UInt16 × UInt16) {s s' : MpState} {x : MpInput} {status : Status}
    {out : Option TcpOption} (h : mpStep s x = .ok (status, s', out)) :
    firstSeq ports s' = seqLedgerStep ports (firstSeq ports s) ⟨s, x, s', out⟩ := by
  rcases mpStep_subflows h with ⟨subflow, hc, hs, hseq⟩ | ⟨hc, p, l, i, o, rfl, hsub, -, hs⟩ |
    ⟨hc, p, l, i, o, a, r, rfl, hsub, -, hs⟩ | ⟨hc, p, l, i, o, o', sf, rfl, hsub, hdsn, rfl, hfind, -, hs⟩ |
    ⟨hc, hd, hs⟩
  · simp only [seqLedgerStep]
    rw [hc, dsnDssPorts_eq_none_of_createdPorts hc]
    by_cases hp : subflow.ports = ports
    · simp [firstSeq, hs, hp, hseq]
    · simp [firstSeq, hs, hp]
  · rw [seqLedgerStep_of_none hc (dsnDssPorts_of_ne (by rw [hsub]; decide))]
    simp only [doesSubflowMatchInboundPacket_eq] at hs
    rw [firstSeq_updateFirst _ _ ports _ _ hs (fun _ => rfl)]
    split_ifs <;> rfl
  · rw [seqLedgerStep_of_none hc (dsnDssPorts_of_ne (by rw [hsub]; decide))]
    simp only [doesSubflowMatchOutboundPacket_eq] at hs
    rw [firstSeq_updateFirst _ _ ports _ _ hs (fun _ => rfl)]
    split_ifs <;> rfl
  · simp only [seqLedgerStep]
    rw [hc, dsnDssPorts_of_dss hsub, if_pos (show Direction.inbound = .inbound ∧ IsDsnDss o from ⟨rfl, hdsn⟩)]
    simp only [doesSubflowMatchInboundPacket_eq] at hs
    rw [firstSeq_updateFirst _ _ ports _ _ hs (fun _ => rfl)]
    by_cases hp : ports = p.inboundPorts
    · simp [hp, firstSeq, Option.map_map, Function.comp_def, MpSubflow.advanceSeq, MpStepRecord.dataLevelLength]
    · simp [hp, Ne.symm hp, firstSeq]
  · rw [seqLedgerStep_of_none hc hd, firstSeq, firstSeq, hs]

theorem mpTrace_dsnDss_seq {varsQueueCapacity : ℕ} {random : ℕ → UInt64} {xs : List MpInput} {before after : List MpStepRecord}
    {r : MpStepRecord} (htrace : mpTrace (initMpState varsQueueCapacity random) xs = before ++ r :: after)
    {ports : UInt16 × UInt16} (hdss : r.input.dsnDssPorts = some ports) :
    ∃ tcpOpt', r.out = some tcpOpt' ∧
      before.foldl (seqLedgerStep ports) none = some (ntohl tcpOpt'.dssSubflowSeqNbr) := by
  have hfold : firstSeq ports r.pre = before.foldl (seqLedgerStep ports) none :=
    mpTrace_pre_fold (firstSeq ports) (seqLedgerStep ports) (fun _ hr => mpStep_firstSeq ports hr) htrace
  rcases mpStep_subflows (mpTrace_step htrace) with ⟨_, hc, -⟩ | ⟨-, _, _, _, _, hx, hsub, -⟩ |
    ⟨-, _, _, _, _, _, _, hx, hsub, -⟩ | ⟨-, p, l, i, o, o', sf, hx, hsub, hdsn, hout, hfind, hseq, -⟩ | ⟨-, hd, -⟩
  · rw [dsnDssPorts_eq_none_of_createdPorts hc] at hdss; cases hdss
  · rw [hx, dsnDssPorts_of_ne (by rw [hsub]; decide)] at hdss; cases hdss
  · rw [hx, dsnDssPorts_of_ne (by rw [hsub]; decide)] at hdss; cases hdss
  · rw [hx, dsnDssPorts_of_dss hsub, if_pos (show Direction.inbound = .inbound ∧ IsDsnDss o from ⟨rfl, hdsn⟩),
      Option.some.injEq] at hdss
    subst hdss
    refine ⟨o', hout, ?_⟩
    rw [← hfold, hseq, ntohl, htonl_htonl, firstSeq, ← findSubflowMatchingInboundPacket_eq, hfind]
    rfl
  · rw [hd] at hdss; cases hdss

/-- Every inbound DSN-carrying DSS option a run accepts writes, as subflow
sequence number, the sum of the data-level lengths the run wrote on its pair
since the latest creation of a record with that pair. -/
theorem subflow_seq_counts_from_latest_creation (varsQueueCapacity : ℕ) (random : ℕ → UInt64) (xs : List MpInput) (k : ℕ)
    (hk : k < (mpTrace (initMpState varsQueueCapacity random) xs).length) {ports : UInt16 × UInt16}
    (hdss : (mpTrace (initMpState varsQueueCapacity random) xs)[k].input.dsnDssPorts = some ports) :
    ∃ tcpOpt', (mpTrace (initMpState varsQueueCapacity random) xs)[k].out = some tcpOpt' ∧
      ((mpTrace (initMpState varsQueueCapacity random) xs).take k).foldl (seqLedgerStep ports) none =
        some (ntohl tcpOpt'.dssSubflowSeqNbr) :=
  mpTrace_dsnDss_seq (by rw [← List.drop_eq_getElem_cons hk, List.take_append_drop]) hdss

/-- An inbound DSS option with a DSN and no checksum, as the script writes it. -/
def dsnWocsOption : TcpOption := { mptcpOptionOf dssSubtype tcpolenDssDsn8Wocs with data.dss.flagDsn := true }

/-- An ACK from port 10000 to port 80 with `dsnWocsOption` and 10 bytes of
payload. -/
def dsnWocsPacket : Packet := { tcpPacket 0x1027 0x5000 false true [dsnWocsOption] with ipBytes := 50 }

/-- The tool's DSS option on the pair of `joinSynIn`. -/
def dsnWocsIn : MpInput := .option dsnWocsPacket dsnWocsPacket 0 dsnWocsOption .inbound

theorem dsnWocsIn_seq :
    1 < (mpTrace (initMpState 8 fun _ => 0) [joinSynIn, dsnWocsIn]).length ∧
    (mpTrace (initMpState 8 fun _ => 0) [joinSynIn, dsnWocsIn])[1].input.dsnDssPorts = some (10000, 80) ∧
    ∃ tcpOpt', (mpTrace (initMpState 8 fun _ => 0) [joinSynIn, dsnWocsIn])[1].out = some tcpOpt' ∧
      ((mpTrace (initMpState 8 fun _ => 0) [joinSynIn, dsnWocsIn]).take 1).foldl (seqLedgerStep (10000, 80)) none =
        some (ntohl tcpOpt'.dssSubflowSeqNbr) :=
  ⟨by decide, by decide, subflow_seq_counts_from_latest_creation _ _ _ 1 (by decide) (by decide)⟩

/-- A JOIN SYN, a DSS option, the JOIN SYN again and the DSS option again, on
one pair. -/
def seqRestartRun : List MpInput := [joinSynIn, dsnWocsIn, joinSynIn, dsnWocsIn]

/-- The second DSS option writes sequence number 0, although the first wrote
a data-level length of 10 on the same pair after its first subflow was
created. -/
theorem subflow_seq_restarts_at_recreation :
    (mpTrace (initMpState 8 fun _ => 0) seqRestartRun).map
      (fun r => (r.input.dsnDssPorts, r.out.map fun o => (ntohl o.dssSubflowSeqNbr, ntohs o.dssDataLevelLength))) =
    [(none, some (0, 0)), (some (10000, 80), some (0, 10)), (none, some (0, 0)), (some (10000, 80), some (0, 10))] := by
  decide

/-! ## Identity fields -/

/-- A call that handles a JOIN SYN/ACK travelling in `direction`. -/
def MpInput.IsJoinSynAckOf (direction : Direction) : MpInput → Prop
  | .option packetToModify _ _ tcpOpt d =>
    d = direction ∧ tcpOpt.data.subtype = mpJoinSubtype ∧ IsJoinSynAck packetToModify tcpOpt
  | _ => False

/-- What the call `x` may change in a record already in the table: never its
port pair or its tool address ID; its tool nonce only as an inbound JOIN
SYN/ACK; its kernel nonce and address ID only as an outbound JOIN SYN/ACK. -/
structure RecordKept (x : MpInput) (new old : MpSubflow) : Prop where
  ports : new.ports = old.ports
  packetdrillAddrId : new.packetdrillAddrId = old.packetdrillAddrId
  packetdrillRandNbr : new.packetdrillRandNbr = old.packetdrillRandNbr ∨ x.IsJoinSynAckOf .inbound
  kernelJoin : (new.kernelRandNbr = old.kernelRandNbr ∧ new.kernelAddrId = old.kernelAddrId) ∨
    x.IsJoinSynAckOf .outbound

theorem RecordKept.refl (x : MpInput) (subflow : MpSubflow) : RecordKept x subflow subflow :=
  ⟨rfl, rfl, .inl rfl, .inl ⟨rfl, rfl⟩⟩

theorem forall₂_updateFirst {α : Type} {R : α → α → Prop} (hR : ∀ a, R a a) (p : α → Bool) (f : α → α)
    (hf : ∀ a, R (f a) a) : ∀ l : List α, List.Forall₂ R (updateFirst p f l) l
  | [] => .nil
  | a :: l => by
    unfold updateFirst
    split
    · exact .cons (hf a) (List.forall₂_same.mpr fun b _ => hR b)
    · exact .cons (hR a) (forall₂_updateFirst hR p f hf l)

/-- Every call keeps the records already in the table, behind the one it
creates, with their port pairs and tool address IDs; only an inbound JOIN
SYN/ACK changes a tool nonce, and only an outbound one a kernel nonce or
kernel address ID. -/
theorem subflow_records_keep_pair_and_address_id {s s' : MpState} {x : MpInput} {status : Status}
    {out : Option TcpOption} (h : mpStep s x = .ok (status, s', out)) :
    ∃ (created : Option MpSubflow) (rest : List MpSubflow),
      s'.subflows = created.toList ++ rest ∧ List.Forall₂ (RecordKept x) rest s.subflows := by
  rcases mpStep_subflows h with ⟨subflow, -, hs, -⟩ | ⟨-, p, l, i, o, rfl, hsub, hsynack, hs⟩ |
    ⟨-, p, l, i, o, a, r, rfl, hsub, hsynack, hs⟩ | ⟨-, p, l, i, o, o', sf, -, -, -, -, -, -, hs⟩ | ⟨-, -, hs⟩
  · exact ⟨some subflow, s.subflows, hs, List.forall₂_same.mpr fun sf _ => .refl _ sf⟩
  · refine ⟨none, _, hs, forall₂_updateFirst (RecordKept.refl _) _ _ (fun _ => ?_) _⟩
    exact ⟨rfl, rfl, .inr ⟨rfl, hsub, hsynack⟩, .inl ⟨rfl, rfl⟩⟩
  · refine ⟨none, _, hs, forall₂_updateFirst (RecordKept.refl _) _ _ (fun _ => ?_) _⟩
    exact ⟨rfl, rfl, .inl rfl, .inr ⟨rfl, hsub, hsynack⟩⟩
  · refine ⟨none, _, hs, forall₂_updateFirst (RecordKept.refl _) _ _ (fun _ => ?_) _⟩
    exact ⟨rfl, rfl, .inl rfl, .inl ⟨rfl, rfl⟩⟩
  · exact ⟨none, s.subflows, hs, List.forall₂_same.mpr fun sf _ => .refl _ sf⟩

/-- The kernel's JOIN SYN from port 80 to port 10000, seen live. -/
def kernelJoinSynPacket : Packet := tcpPacket 0x5000 0x1027 true false [joinSynOption]

/-- The expected kernel JOIN SYN; it creates the record of the tool's pair
(10000, 80). -/
def kernelJoinSynOut : MpInput := .option kernelJoinSynPacket kernelJoinSynPacket 0 joinSynOption .outbound

/-- A JOIN SYN/ACK option as the script writes it. -/
def joinSynAckOption : TcpOption := mptcpOptionOf mpJoinSubtype tcpolenMpJoinSynAck

/-- A SYN/ACK from port 10000 to port 80 with `joinSynAckOption`. -/
def joinSynAckPacket : Packet := tcpPacket 0x1027 0x5000 true true [joinSynAckOption]

/-- The tool's JOIN SYN/ACK from port 10000 to port 80. -/
def joinSynAckIn : MpInput := .option joinSynAckPacket joinSynAckPacket 0 joinSynAckOption .inbound

/-- A retransmitted SYN/ACK advertises another nonce (1, then 2) and another
address ID (0, then 1) for the same pair. -/
theorem join_synack_retransmission_changes_identity :
    (mpTrace (initMpState 8 fun n => UInt64.ofNat (n + 1)) [kernelJoinSynOut, joinSynAckIn, joinSynAckIn]).map
      (fun r => r.out.map fun o => (ntohl o.data.mpJoin.synAckSenderRandomNumber, o.data.mpJoin.synAddressId)) =
    [some (0, 0), some (1, 0), some (2, 1)] := by
  decide

/-- The table after the kernel's JOIN SYN and the tool's first JOIN SYN/ACK,
with a generator that draws 1, 2, … -/
def firstSynAckState : MpState :=
  (runInputs (initMpState 8 fun n => UInt64.ofNat (n + 1)) [kernelJoinSynOut, joinSynAckIn]).getD
    (initMpState 8 fun _ => 0)

/-- The retransmitted SYN/ACK keeps the one record of the table, with its pair
and tool address ID, and changes its tool nonce. -/
theorem retransmitted_synAck_keeps_record :
    firstSynAckState.subflows.length = 1 ∧
    (stepAnswer firstSynAckState joinSynAckIn).2.1.subflows.map (·.packetdrillRandNbr) ≠
      firstSynAckState.subflows.map (·.packetdrillRandNbr) ∧
    mpStep firstSynAckState joinSynAckIn = .ok (.ok, (stepAnswer firstSynAckState joinSynAckIn).2.1,
      (stepAnswer firstSynAckState joinSynAckIn).2.2) ∧
    ∃ (created : Option MpSubflow) (rest : List MpSubflow),
      (stepAnswer firstSynAckState joinSynAckIn).2.1.subflows = created.toList ++ rest ∧
      List.Forall₂ (RecordKept joinSynAckIn) rest firstSynAckState.subflows :=
  have h : mpStep firstSynAckState joinSynAckIn = .ok (.ok, (stepAnswer firstSynAckState joinSynAckIn).2.1,
      (stepAnswer firstSynAckState joinSynAckIn).2.2) := rfl
  ⟨by decide, by decide, h, subflow_records_keep_pair_and_address_id h⟩

end PacketdrillMptcp
