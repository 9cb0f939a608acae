import PacketdrillMptcp.Subflows

/-!
# Tool-side address IDs

The tool's address IDs come from one counter, the `u8`
`mp_state.last_packetdrill_addr_id`. `new_subflow_inbound` stores its value in
the record it creates and advances it (lines 206–207). The inbound JOIN
SYN/ACK writes its value into the option and advances it, without storing it
in the record (lines 619–621). `new_subflow_outbound` leaves the counter alone
and the record's tool address ID unset. It does so also when it creates the
first subflow of a connection the kernel opened, at an outbound MP_CAPABLE
third ACK (line 453).

Results:
* `mpStep_addrIdStep`: a call hands out no tool address ID and keeps the
  counter, or hands out the counter's value and advances it by one.
* `tool_addr_ids_count_up`: along every run from `init_mp_state`, the IDs
  handed out are 0, 1, 2, … modulo 256, whichever side opened the
  connection. They repeat after 256 of them. On a connection the kernel
  opened, the first subflow gets none, so the first join the tool opens
  gets 0.
-/

namespace PacketdrillMptcp

/-! ## The IDs a call hands out -/

/-- The tool address ID of the record a call from `s` to `s'` created, if it
created one: set by `new_subflow_inbound`, unset by `new_subflow_outbound`. -/
def createdToolAddrId (s s' : MpState) : Option UInt8 :=
  if s'.subflows.length = s.subflows.length + 1 then s'.subflows.head?.bind (·.packetdrillAddrId) else none

/-- The address ID an inbound JOIN SYN/ACK writes into its option (line 619). -/
def writtenToolAddrId : MpInput → Option TcpOption → Option UInt8
  | .option packetToModify _ _ tcpOpt .inbound, some tcpOpt' =>
    if tcpOpt.data.subtype = mpJoinSubtype ∧ IsJoinSynAck packetToModify tcpOpt then
      some tcpOpt'.data.mpJoin.synAddressId
    else none
  | _, _ => none

/-- The tool address IDs a call hands out. -/
def MpStepRecord.toolAddrIds (r : MpStepRecord) : List UInt8 :=
  (createdToolAddrId r.pre r.post).toList ++ (writtenToolAddrId r.input r.out).toList

/-- What a call does with the counter, given the IDs `ids` it hands out: none,
and the counter is kept; or the counter's value, and the counter advances. -/
def AddrIdStep (s s' : MpState) (ids : List UInt8) : Prop :=
  (ids = [] ∧ s'.lastPacketdrillAddrId = s.lastPacketdrillAddrId) ∨
    (ids = [s.lastPacketdrillAddrId] ∧ s'.lastPacketdrillAddrId = s.lastPacketdrillAddrId + 1)

theorem length_updateFirst {α : Type} (p : α → Bool) (f : α → α) (l : List α) :
    (updateFirst p f l).length = l.length := by
  simpa using congrArg List.length (map_updateFirst p f (fun _ => ()) (fun _ => rfl) l)

/-- A call that creates no record and keeps the counter hands out nothing. -/
theorem AddrIdStep.keep {s s' : MpState} (hsub : s'.subflows.length = s.subflows.length)
    (hlast : s'.lastPacketdrillAddrId = s.lastPacketdrillAddrId) :
    AddrIdStep s s' (createdToolAddrId s s').toList :=
  .inl ⟨by simp [createdToolAddrId, hsub], hlast⟩

theorem writtenToolAddrId_option (packetToModify livePacket : Packet) (i : ℕ) (tcpOpt tcpOpt' : TcpOption)
    (direction : Direction) :
    writtenToolAddrId (.option packetToModify livePacket i tcpOpt direction) (some tcpOpt') =
      if direction = .inbound ∧ tcpOpt.data.subtype = mpJoinSubtype ∧ IsJoinSynAck packetToModify tcpOpt then
        some tcpOpt'.data.mpJoin.synAddressId
      else none := by
  cases direction <;> simp [writtenToolAddrId]

/-- Only a JOIN option writes an address ID. -/
theorem writtenToolAddrId_of_ne {packetToModify livePacket : Packet} {i : ℕ} {tcpOpt : TcpOption}
    {direction : Direction} (hsub : tcpOpt.data.subtype ≠ mpJoinSubtype) (out : Option TcpOption) :
    writtenToolAddrId (.option packetToModify livePacket i tcpOpt direction) out = none := by
  cases direction <;> cases out <;> simp [writtenToolAddrId, hsub]

/-! ## The creators -/

/-- `new_subflow_inbound` hands the counter's value to the record it creates
and advances the counter. -/
theorem newSubflowInbound_addrIdStep (s : MpState) (packet : Packet) :
    AddrIdStep s (newSubflowInbound s packet).2 (createdToolAddrId s (newSubflowInbound s packet).2).toList := by
  unfold newSubflowInbound
  split
  · exact .keep rfl rfl
  · exact .inr ⟨by simp [createdToolAddrId, MpState.generate32], rfl⟩

/-- `new_subflow_outbound` hands out nothing: the record it creates has no
tool address ID. -/
theorem newSubflowOutbound_addrIdStep (s : MpState) (packet : Packet) :
    AddrIdStep s (newSubflowOutbound s packet).2 (createdToolAddrId s (newSubflowOutbound s packet).2).toList := by
  unfold newSubflowOutbound
  split
  · exact .inl ⟨by simp [createdToolAddrId], rfl⟩
  · exact .keep rfl rfl

/-! ## One call -/

theorem mptcpSubtypeMpCapable_addrIdStep (s : MpState) (packetToModify livePacket : Packet) (tcpOpt : TcpOption)
    (direction : Direction) :
    AddrIdStep s (mptcpSubtypeMpCapable s packetToModify livePacket tcpOpt direction).2.1
      (createdToolAddrId s (mptcpSubtypeMpCapable s packetToModify livePacket tcpOpt direction).2.1).toList := by
  rcases mptcpSubtypeMpCapable_cases s packetToModify livePacket tcpOpt direction with
    ⟨h, -⟩ | ⟨h, -⟩ | ⟨h, -⟩ | ⟨h, -⟩ <;> rw [h]
  · have hframe := mpCapableGenAndSetKey_frame s tcpOpt
    exact .keep (by rw [hframe.subflows]) hframe.lastPacketdrillAddrId
  · have hframe := mpCapableExtractAndSetKey_frame s livePacket tcpOpt
    exact .keep (by rw [hframe.subflows]) hframe.lastPacketdrillAddrId
  · rw [mpCapableThirdAck_state, mptcpSetMpCapKeys_state]
    cases direction
    · exact newSubflowInbound_addrIdStep _ packetToModify
    · exact newSubflowOutbound_addrIdStep _ packetToModify
  · exact .keep rfl rfl

/-- The join cases: the inbound SYN creates a record through
`new_subflow_inbound`, the outbound SYN through `new_subflow_outbound`, the
inbound SYN/ACK hands out the counter's value in its option, and the others
keep the counter. -/
theorem mptcpSubtypeMpJoin_addrIdStep {s s' : MpState} {packetToModify livePacket : Packet}
    {tcpOpt tcpOpt' : TcpOption} {direction : Direction}
    (h : mptcpSubtypeMpJoin s packetToModify livePacket tcpOpt direction = .ok (.ok, s', tcpOpt')) :
    AddrIdStep s s' ((createdToolAddrId s s').toList ++
      if direction = .inbound ∧ IsJoinSynAck packetToModify tcpOpt then [tcpOpt'.data.mpJoin.synAddressId]
      else []) := by
  rcases mptcpSubtypeMpJoin_cases s packetToModify livePacket tcpOpt direction with
    ⟨hc, rfl, hsyn⟩ | ⟨hc, rfl, -⟩ | ⟨hc, rfl, hack⟩ | ⟨hc, rfl, -⟩ | ⟨hc, rfl, hsynAck⟩ | ⟨hc, rfl, -⟩ |
    ⟨hc, -, -⟩ <;> rw [hc] at h
  · obtain ⟨_, hnew, rfl⟩ := mpJoinSynInbound_ok (Except.ok.inj h)
    rw [if_neg fun h => h.2.not_isJoinSyn hsyn, List.append_nil]
    simpa only [hnew] using newSubflowInbound_addrIdStep s packetToModify
  · obtain ⟨_, _, -, -, rfl, -⟩ := mpJoinSynAckOutbound_ok (Except.ok.inj h)
    rw [if_neg fun h => Direction.noConfusion h.1, List.append_nil]
    exact .keep (length_updateFirst _ _ _) rfl
  · obtain ⟨_, -, rfl, -⟩ := mpJoinAckInbound_ok (Except.ok.inj h)
    rw [if_neg fun h => absurd (hack.2.1.symm.trans h.2.2.1) (by decide), List.append_nil]
    exact .keep rfl rfl
  · obtain ⟨_, hnew, -, -⟩ := mpJoinSynOutbound_ok h
    rw [if_neg fun h => Direction.noConfusion h.1, List.append_nil]
    simpa only [hnew] using newSubflowOutbound_addrIdStep s livePacket
  · obtain ⟨_, -, rfl, rfl⟩ := mpJoinSynAckInbound_ok (Except.ok.inj h)
    rw [if_pos ⟨rfl, hsynAck⟩]
    refine .inr ⟨?_, rfl⟩
    simp [createdToolAddrId, MpState.updateMatchingSubflow, length_updateFirst, MpState.generate32]
  · obtain ⟨_, -, rfl, -⟩ := mpJoinAckOutbound_ok (Except.ok.inj h)
    rw [if_neg fun h => Direction.noConfusion h.1, List.append_nil]
    exact .keep rfl rfl
  · cases h

/-- The DSS handler keeps the counter and the number of records. -/
theorem mptcpSubtypeDss_counter {s s' : MpState} {packetToModify : Packet} {i : ℕ}
    {tcpOpt tcpOpt' : TcpOption} {direction : Direction} {status : Status}
    (h : mptcpSubtypeDss s packetToModify i tcpOpt direction = .ok (status, s', tcpOpt')) :
    s'.subflows.length = s.subflows.length ∧ s'.lastPacketdrillAddrId = s.lastPacketdrillAddrId := by
  cases direction with
  | outbound => cases h; exact ⟨rfl, rfl⟩
  | inbound =>
    obtain ⟨-, tcpOpt1, hdsn, -⟩ := mptcpSubtypeDss_inbound h
    unfold dssDsn at hdsn
    split_ifs at hdsn
    · obtain ⟨_, _, -, -, rfl, -⟩ := dssDsn8_ok hdsn; exact ⟨length_updateFirst .., rfl⟩
    · obtain ⟨_, _, -, -, rfl, -⟩ := dssDsn8Wocs_ok hdsn; exact ⟨length_updateFirst .., rfl⟩
    · cases hdsn; exact ⟨rfl, rfl⟩

/-- Every call that returns `STATUS_OK` hands out no tool address ID and
keeps the counter, or hands out the counter's value and advances it. -/
theorem mpStep_addrIdStep {s s' : MpState} {x : MpInput} {out : Option TcpOption}
    (h : mpStep s x = .ok (.ok, s', out)) : AddrIdStep s s' (MpStepRecord.toolAddrIds ⟨s, x, s', out⟩) := by
  cases x with
  | enqueueVar name heap =>
    obtain ⟨_, rfl, rfl⟩ := mpStep_enqueueVar h
    exact .inl ⟨by simp [MpStepRecord.toolAddrIds, createdToolAddrId, writtenToolAddrId], rfl⟩
  | addMpVarScriptDefined name value => cases h; exact .inl ⟨by simp [MpStepRecord.toolAddrIds,
      createdToolAddrId, writtenToolAddrId, addMpVarScriptDefined, addMpVar], rfl⟩
  | option packetToModify livePacket i tcpOpt direction =>
    obtain ⟨tcpOpt', hopt, rfl⟩ := mpStep_option.mp h
    rcases mptcpOption_cases hopt with ⟨hsub, hcap⟩ | ⟨hsub, hjoin⟩ | ⟨hsub, hdss⟩ | ⟨-, -, -, hst, -⟩
    · rw [MpStepRecord.toolAddrIds, writtenToolAddrId_of_ne (by rw [hsub]; decide), Option.toList_none,
        List.append_nil]
      simpa only [hcap] using mptcpSubtypeMpCapable_addrIdStep s packetToModify livePacket tcpOpt direction
    · have hstep := mptcpSubtypeMpJoin_addrIdStep hjoin
      simp only [MpStepRecord.toolAddrIds, writtenToolAddrId_option, hsub, true_and] at hstep ⊢
      split_ifs at hstep ⊢ <;> exact hstep
    · rw [MpStepRecord.toolAddrIds, writtenToolAddrId_of_ne (by rw [hsub]; decide), Option.toList_none,
        List.append_nil]
      exact .keep (mptcpSubtypeDss_counter hdss).1 (mptcpSubtypeDss_counter hdss).2
    · cases hst

/-! ## Runs -/

theorem uint8_add_ofNat_succ (a : UInt8) (n : ℕ) : a + UInt8.ofNat (n + 1) = a + 1 + UInt8.ofNat n := by
  apply uint8_ext
  simp only [uint8_toNat_add, uint8_toNat_ofNat, show (1 : UInt8).toNat = 1 from rfl]
  omega

theorem uint8_add_ofNat_zero (a : UInt8) : a + UInt8.ofNat 0 = a := add_zero a

/-- Along every run, the IDs handed out are the counter's next values, in
order. -/
theorem mpTrace_toolAddrIds (s : MpState) (xs : List MpInput) :
    ∃ k, (mpTrace s xs).flatMap MpStepRecord.toolAddrIds =
      (List.range k).map fun n => s.lastPacketdrillAddrId + UInt8.ofNat n := by
  induction xs generalizing s with
  | nil => exact ⟨0, rfl⟩
  | cons x xs ih =>
    unfold mpTrace
    split
    · rename_i s' out hstep
      obtain ⟨k, hk⟩ := ih s'
      rw [List.flatMap_cons, hk]
      rcases mpStep_addrIdStep hstep with ⟨hids, hlast⟩ | ⟨hids, hlast⟩ <;> rw [hids, hlast]
      · exact ⟨k, rfl⟩
      · refine ⟨k + 1, ?_⟩
        rw [List.range_succ_eq_map, List.map_cons, List.map_map]
        simp only [Function.comp_def, uint8_add_ofNat_succ, uint8_add_ofNat_zero]
        rfl
    · exact ⟨0, rfl⟩

/-- Along every run from `init_mp_state`, the tool-side address IDs the engine
hands out are 0, 1, 2, … modulo 256, in order: the ones `new_subflow_inbound`
stores in the records it creates and the ones the inbound JOIN SYN/ACK
writes. `new_subflow_outbound` hands out none, also for the first subflow of a
connection the kernel opened. -/
theorem tool_addr_ids_count_up (varsQueueCapacity : ℕ) (random : ℕ → UInt64) (xs : List MpInput) :
    ∃ k, (mpTrace (initMpState varsQueueCapacity random) xs).flatMap MpStepRecord.toolAddrIds = (List.range k).map UInt8.ofNat := by
  obtain ⟨k, hk⟩ := mpTrace_toolAddrIds (initMpState varsQueueCapacity random) xs
  exact ⟨k, hk.trans (List.map_congr_left fun n _ => zero_add _)⟩

/-! ## A connection the kernel opens -/

/-- The kernel's MP_CAPABLE SYN from port 80 to port 10000. -/
def capableSynOut : MpInput :=
  let tcpOpt := mptcpOptionOf mpCapableSubtype tcpolenMpCapableSyn
  let packet := tcpPacket 0x5000 0x1027 true false [tcpOpt]
  .option packet packet 0 tcpOpt .outbound

/-- The tool's MP_CAPABLE SYN/ACK from port 10000 to port 80. -/
def capableSynAckIn : MpInput :=
  let tcpOpt := mptcpOptionOf mpCapableSubtype tcpolenMpCapableSyn
  let packet := tcpPacket 0x1027 0x5000 true true [tcpOpt]
  .option packet packet 0 tcpOpt .inbound

/-- The kernel's MP_CAPABLE third ACK from port 80 to port 10000. -/
def thirdAckOut : MpInput :=
  let tcpOpt := mptcpOptionOf mpCapableSubtype tcpolenMpCapable
  let packet := tcpPacket 0x5000 0x1027 false true [tcpOpt]
  .option packet packet 0 tcpOpt .outbound

/-- The tool's JOIN SYN from port 10001 to port 80. -/
def secondJoinSynIn : MpInput :=
  let packet := tcpPacket 0x1127 0x5000 true false [joinSynOption]
  .option packet packet 0 joinSynOption .inbound

/-- The kernel opens the connection, its key named `a` and the tool's `b`,
and the tool then opens a second subflow. -/
def kernelOpenedRun : List MpInput :=
  [.enqueueVar "a" "", .enqueueVar "b" "", .enqueueVar "a" "", .enqueueVar "b" "",
    capableSynOut, capableSynAckIn, thirdAckOut, secondJoinSynIn]

/-- The first ID the run hands out, 0, goes to the tool's join, and the first
subflow has no tool address ID. -/
theorem kernelOpened_join_gets_zero :
    (∃ k, (mpTrace (initMpState 8 fun _ => 0) kernelOpenedRun).flatMap MpStepRecord.toolAddrIds =
      (List.range k).map UInt8.ofNat) ∧
    (mpTrace (initMpState 8 fun _ => 0) kernelOpenedRun).flatMap MpStepRecord.toolAddrIds = [0] ∧
    (runInputs (initMpState 8 fun _ => 0) kernelOpenedRun).map (·.subflows.map (·.packetdrillAddrId)) =
      some [some 0, none] :=
  ⟨tool_addr_ids_count_up _ _ kernelOpenedRun, by decide, by decide⟩

end PacketdrillMptcp
