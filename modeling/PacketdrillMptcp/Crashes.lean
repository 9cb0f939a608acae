import PacketdrillMptcp.Subflows

/-!
# When the engine crashes

Two handlers of `mptcp.c` write through pointers they never check for `NULL`.
The outbound MP_JOIN SYN case (lines 579–592) reads the subflow that
`new_subflow_outbound` returns, which is `NULL` when the live packet has no
MPTCP option or no IP header. The two DSN cases of `mptcp_subtype_dss`
(lines 681–755) read `packet_to_modify->ipv4->ihl` and then write through
the subflow that `find_subflow_matching_inbound_packet` returns. Every other
path of every handler returns a status.

Results:
* `mpStep_error_iff`: a call crashes exactly when it is an option call in
  those cases (`OptionFault`), with the fault the case names.
* `packet_crashes_iff_option_faults`: a packet crashes exactly when the
  engine reaches one of its MPTCP options, every earlier one having returned
  `STATUS_OK`, in a state where that option's call crashes.
* `dsn_dss_crashes_iff_pair_never_created`: after any run from
  `init_mp_state`, an inbound DSN-carrying DSS option on an IPv4 packet
  crashes exactly when no call of the run created a subflow with its pair.
-/

namespace PacketdrillMptcp

/-! ## The faults of each handler -/

/-- The DSN cases read the IPv4 header (lines 687, 735) and then the subflow
of the packet's pair (lines 700–703, 746–749). -/
def DsnFault (s : MpState) (packetToModify : Packet) (fault : Fault) : Prop :=
  packetToModify.ipv4 = none ∧ fault = .nullIpv4 ∨
    packetToModify.ipv4 ≠ none ∧ findSubflowMatchingInboundPacket s packetToModify = none ∧
      fault = .nullSubflow

instance (s : MpState) (packetToModify : Packet) (fault : Fault) : Decidable (DsnFault s packetToModify fault) :=
  inferInstanceAs (Decidable (_ ∨ _))

/-- `new_subflow_outbound(live_packet)` returns `NULL` (lines 223–225 and
237–239), and the outbound JOIN SYN case reads through it. -/
def JoinSynFault (livePacket : Packet) (fault : Fault) : Prop :=
  (getTcpOption livePacket tcpoptMptcp = none ∨ livePacket.ipAddresses = none) ∧ fault = .nullSubflow

instance (livePacket : Packet) (fault : Fault) : Decidable (JoinSynFault livePacket fault) :=
  inferInstanceAs (Decidable (_ ∧ _))

/-- The option calls that crash: an inbound DSN-carrying DSS option whose
packet has no IPv4 header or no subflow, and an outbound JOIN SYN whose live
packet yields no subflow. -/
def OptionFault (s : MpState) (packetToModify livePacket : Packet) (tcpOpt : TcpOption)
    (direction : Direction) (fault : Fault) : Prop :=
  (tcpOpt.data.subtype = dssSubtype ∧ direction = .inbound ∧ IsDsnDss tcpOpt ∧
      DsnFault s packetToModify fault) ∨
    (tcpOpt.data.subtype = mpJoinSubtype ∧ direction = .outbound ∧ IsJoinSyn packetToModify tcpOpt ∧
      JoinSynFault livePacket fault)

instance (s : MpState) (packetToModify livePacket : Packet) (tcpOpt : TcpOption) (direction : Direction)
    (fault : Fault) : Decidable (OptionFault s packetToModify livePacket tcpOpt direction fault) :=
  inferInstanceAs (Decidable (_ ∨ _))

theorem dssDsn8_error_iff {s : MpState} {packetToModify : Packet} {i : ℕ} {tcpOpt : TcpOption} {fault : Fault} :
    dssDsn8 s packetToModify i tcpOpt = .error fault ↔ DsnFault s packetToModify fault := by
  rcases hipv4 : packetToModify.ipv4 with _ | ipv4 <;>
    rcases hfind : findSubflowMatchingInboundPacket s packetToModify with _ | subflow <;>
    simp [dssDsn8, DsnFault, hipv4, hfind, eq_comm]

theorem dssDsn8Wocs_error_iff {s : MpState} {packetToModify : Packet} {tcpOpt : TcpOption} {fault : Fault} :
    dssDsn8Wocs s packetToModify tcpOpt = .error fault ↔ DsnFault s packetToModify fault := by
  rcases hipv4 : packetToModify.ipv4 with _ | ipv4 <;>
    rcases hfind : findSubflowMatchingInboundPacket s packetToModify with _ | subflow <;>
    simp [dssDsn8Wocs, DsnFault, hipv4, hfind, eq_comm]

theorem dssDsn_error_iff {s : MpState} {packetToModify : Packet} {i : ℕ} {tcpOpt : TcpOption} {fault : Fault} :
    dssDsn s packetToModify i tcpOpt = .error fault ↔ IsDsnDss tcpOpt ∧ DsnFault s packetToModify fault := by
  have hlen : tcpolenDssDsn8 ≠ tcpolenDssDsn8Wocs := by decide
  unfold dssDsn IsDsnDss
  split_ifs with h8 hwocs
  · rw [dssDsn8_error_iff]; exact ⟨fun h => ⟨⟨h8.1, .inl h8.2⟩, h⟩, And.right⟩
  · rw [dssDsn8Wocs_error_iff]; exact ⟨fun h => ⟨⟨hwocs.1, .inr hwocs.2⟩, h⟩, And.right⟩
  · refine ⟨nofun, fun ⟨⟨hflag, hlength⟩, _⟩ => ?_⟩
    rcases hlength with hlength | hlength
    exacts [h8 ⟨hflag, hlength⟩, hwocs ⟨hflag, hlength⟩]

/-- Only the inbound DSN cases of `mptcp_subtype_dss` crash. -/
theorem mptcpSubtypeDss_error_iff {s : MpState} {packetToModify : Packet} {i : ℕ} {tcpOpt : TcpOption}
    {direction : Direction} {fault : Fault} :
    mptcpSubtypeDss s packetToModify i tcpOpt direction = .error fault ↔
      direction = .inbound ∧ IsDsnDss tcpOpt ∧ DsnFault s packetToModify fault := by
  cases direction with
  | outbound => exact ⟨nofun, fun h => nomatch h.1⟩
  | inbound =>
    rw [← dssDsn_error_iff]
    simp only [mptcpSubtypeDss]
    rcases dssDsn s packetToModify i tcpOpt with _ | _ <;> simp [Except.map]

theorem mpJoinSynOutbound_error_iff {s : MpState} {livePacket : Packet} {tcpOpt : TcpOption} {fault : Fault} :
    mpJoinSynOutbound s livePacket tcpOpt = .error fault ↔ JoinSynFault livePacket fault := by
  rcases hopt : getTcpOption livePacket tcpoptMptcp with _ | mpJoinSyn <;>
    rcases haddr : livePacket.ipAddresses with _ | ⟨srcIp, dstIp⟩ <;>
    simp [mpJoinSynOutbound, newSubflowOutbound, JoinSynFault, hopt, haddr, eq_comm]

/-- Only the outbound JOIN SYN case of `mptcp_subtype_mp_join` crashes. -/
theorem mptcpSubtypeMpJoin_error_iff {s : MpState} {packetToModify livePacket : Packet} {tcpOpt : TcpOption}
    {direction : Direction} {fault : Fault} :
    mptcpSubtypeMpJoin s packetToModify livePacket tcpOpt direction = .error fault ↔
      direction = .outbound ∧ IsJoinSyn packetToModify tcpOpt ∧ JoinSynFault livePacket fault := by
  rcases mptcpSubtypeMpJoin_cases s packetToModify livePacket tcpOpt direction with
    ⟨h, rfl, -⟩ | ⟨h, rfl, hsynAck⟩ | ⟨h, rfl, -⟩ | ⟨h, rfl, hsyn⟩ | ⟨h, rfl, -⟩ | ⟨h, rfl, hack⟩ | ⟨h, hsyn, -⟩ <;>
    rw [h]
  · exact ⟨nofun, fun h => nomatch h.1⟩
  · exact ⟨nofun, fun h => (hsynAck.not_isJoinSyn h.2.1).elim⟩
  · exact ⟨nofun, fun h => nomatch h.1⟩
  · rw [mpJoinSynOutbound_error_iff]; exact ⟨fun h => ⟨rfl, hsyn, h⟩, fun h => h.2.2⟩
  · exact ⟨nofun, fun h => nomatch h.1⟩
  · exact ⟨nofun, fun h => (hack.not_isJoinSyn h.2.1).elim⟩
  · exact ⟨nofun, fun h => (hsyn h.2.1).elim⟩

/-- An option call crashes exactly in the cases of `OptionFault`: an inbound
DSN-carrying DSS option on a packet without an IPv4 header (`nullIpv4`) or
without a subflow of its pair (`nullSubflow`), and an outbound JOIN SYN whose
live packet has no MPTCP option or no IP header (`nullSubflow`). -/
theorem mptcpOption_error_iff {s : MpState} {packetToModify livePacket : Packet} {i : ℕ} {tcpOpt : TcpOption}
    {direction : Direction} {fault : Fault} :
    mptcpOption s packetToModify livePacket i tcpOpt direction = .error fault ↔
      OptionFault s packetToModify livePacket tcpOpt direction fault := by
  have hcapJoin : mpCapableSubtype ≠ mpJoinSubtype := by decide
  have hcapDss : mpCapableSubtype ≠ dssSubtype := by decide
  have hjoinDss : mpJoinSubtype ≠ dssSubtype := by decide
  unfold OptionFault
  by_cases hcap : tcpOpt.data.subtype = mpCapableSubtype
  · rw [mptcpOption_of_mpCapable hcap, hcap]
    simp [hcapJoin, hcapDss]
  by_cases hjoin : tcpOpt.data.subtype = mpJoinSubtype
  · rw [mptcpOption_of_mpJoin hjoin, mptcpSubtypeMpJoin_error_iff, hjoin]
    simp [hjoinDss]
  by_cases hdss : tcpOpt.data.subtype = dssSubtype
  · rw [mptcpOption_of_dss hdss, mptcpSubtypeDss_error_iff, hdss]
    simp [hjoinDss.symm]
  · simp [mptcpOption, hcap, hjoin, hdss]

/-- A call of a run crashes exactly when it is an option call in the cases of
`OptionFault`; the parser's calls never crash. -/
theorem mpStep_error_iff {s : MpState} {x : MpInput} {fault : Fault} :
    mpStep s x = .error fault ↔
      ∃ packetToModify livePacket i tcpOpt direction, x = .option packetToModify livePacket i tcpOpt direction ∧
        OptionFault s packetToModify livePacket tcpOpt direction fault := by
  cases x with
  | enqueueVar => simp [mpStep]
  | addMpVarScriptDefined => simp [mpStep]
  | option packetToModify livePacket i tcpOpt direction =>
    have hmap : mpStep s (.option packetToModify livePacket i tcpOpt direction) = .error fault ↔
        mptcpOption s packetToModify livePacket i tcpOpt direction = .error fault := by
      simp only [mpStep]
      rcases mptcpOption s packetToModify livePacket i tcpOpt direction with _ | _ <;> simp [Except.map]
    rw [hmap, mptcpOption_error_iff]
    exact ⟨fun h => ⟨_, _, _, _, _, rfl, h⟩, fun ⟨_, _, _, _, _, hx, h⟩ => by cases hx; exact h⟩

/-! ## Packets -/

/-- The loop changes nothing of the packet but its options. -/
theorem optionsLoop_packet (livePacket : Packet) (direction : Direction) :
    ∀ (i : ℕ) (opts : List TcpOption) (s s' : MpState) (packet packet' : Packet) (status : Status),
      optionsLoop livePacket direction i opts s packet = .ok (status, s', packet') →
      ∃ tcpOptions, packet' = { packet with tcpOptions := tcpOptions } := by
  intro i opts
  induction opts generalizing i with
  | nil => intro s s' packet packet' status h; cases h; exact ⟨packet.tcpOptions, rfl⟩
  | cons tcpOpt rest ih =>
    intro s s' packet packet' status h
    unfold optionsLoop at h
    split_ifs at h
    · split at h
      · cases h
      · cases h; exact ⟨_, rfl⟩
      · obtain ⟨tcpOptions, rfl⟩ := ih _ _ _ _ _ _ h; exact ⟨tcpOptions, rfl⟩
    · exact ih _ _ _ _ _ _ h

/-- What faults reads of the packet are its headers, not its options. -/
theorem OptionFault.withOptions {s : MpState} {packet livePacket : Packet} {tcpOptions : List TcpOption}
    {tcpOpt : TcpOption} {direction : Direction} {fault : Fault} :
    OptionFault s { packet with tcpOptions := tcpOptions } livePacket tcpOpt direction fault ↔
      OptionFault s packet livePacket tcpOpt direction fault :=
  Iff.rfl

/-- A loop that does not run to the end stops at an MPTCP option, every
earlier option having returned `STATUS_OK`, and returns what the call on that
option returned, with the option written back. -/
theorem optionsLoop_stop (livePacket : Packet) (direction : Direction) {r : Except Fault (Status × MpState × Packet)}
    (hr : ∀ s' packet', r ≠ .ok (.ok, s', packet')) :
    ∀ (i : ℕ) (opts : List TcpOption) (s : MpState) (packet : Packet),
      optionsLoop livePacket direction i opts s packet = r →
      ∃ pre tcpOpt rest s₀ packet₀, opts = pre ++ tcpOpt :: rest ∧ tcpOpt.kind = tcpoptMptcp ∧
        optionsLoop livePacket direction i pre s packet = .ok (.ok, s₀, packet₀) ∧
        (mptcpOption s₀ packet₀ livePacket (i + pre.length) tcpOpt direction).map
          (fun a => (a.1, a.2.1, packet₀.setOption (i + pre.length) a.2.2)) = r := by
  intro i opts
  induction opts generalizing i with
  | nil => intro s packet h; exact absurd h.symm (hr s packet)
  | cons tcpOpt rest ih =>
    intro s packet h
    unfold optionsLoop at h
    split_ifs at h with hkind
    · split at h
      · rename_i hopt
        exact ⟨[], tcpOpt, rest, s, packet, rfl, hkind, rfl, by rw [List.length_nil, Nat.add_zero, hopt]; exact h⟩
      · rename_i hopt
        exact ⟨[], tcpOpt, rest, s, packet, rfl, hkind, rfl, by rw [List.length_nil, Nat.add_zero, hopt]; exact h⟩
      · rename_i s₁ tcpOpt₁ hopt
        obtain ⟨pre, o, rest', s₀, packet₀, rfl, hk, hpre, hstop⟩ := ih (i + 1) s₁ _ h
        refine ⟨tcpOpt :: pre, o, rest', s₀, packet₀, rfl, hk, ?_, ?_⟩
        · simp only [optionsLoop, hkind, if_true, hopt]; exact hpre
        · rwa [List.length_cons, Nat.add_comm pre.length 1, ← Nat.add_assoc]
    · obtain ⟨pre, o, rest', s₀, packet₀, rfl, hk, hpre, hstop⟩ := ih (i + 1) s packet h
      refine ⟨tcpOpt :: pre, o, rest', s₀, packet₀, rfl, hk, ?_, ?_⟩
      · simp only [optionsLoop, hkind, if_false]; exact hpre
      · rwa [List.length_cons, Nat.add_comm pre.length 1, ← Nat.add_assoc]

/-- Conversely, a loop that reaches an MPTCP option whose call does not return
`STATUS_OK` stops there with what the call returned. -/
theorem optionsLoop_of_stop (livePacket : Packet) (direction : Direction) {tcpOpt : TcpOption}
    (rest : List TcpOption) (hkind : tcpOpt.kind = tcpoptMptcp) {r : Except Fault (Status × MpState × Packet)}
    (hr : ∀ s' packet', r ≠ .ok (.ok, s', packet')) :
    ∀ (pre : List TcpOption) (i : ℕ) (s s₀ : MpState) (packet packet₀ : Packet),
      optionsLoop livePacket direction i pre s packet = .ok (.ok, s₀, packet₀) →
      (mptcpOption s₀ packet₀ livePacket (i + pre.length) tcpOpt direction).map
          (fun a => (a.1, a.2.1, packet₀.setOption (i + pre.length) a.2.2)) = r →
      optionsLoop livePacket direction i (pre ++ tcpOpt :: rest) s packet = r
  | [], i, s, s₀, packet, packet₀, hpre, hstop => by
    simp only [optionsLoop, Except.ok.injEq, Prod.mk.injEq] at hpre
    obtain ⟨-, rfl, rfl⟩ := hpre
    rw [List.length_nil, Nat.add_zero] at hstop
    simp only [List.nil_append, optionsLoop, hkind, if_true]
    rcases hopt : mptcpOption s packet livePacket i tcpOpt direction with _ | ⟨_ | _, s₁, tcpOpt₁⟩ <;>
      rw [hopt] at hstop
    · exact hstop
    · exact absurd hstop.symm (hr _ _)
    · exact hstop
  | o :: pre, i, s, s₀, packet, packet₀, hpre, hstop => by
    rw [List.length_cons, Nat.add_comm pre.length 1, ← Nat.add_assoc] at hstop
    rw [List.cons_append]
    unfold optionsLoop at hpre ⊢
    split_ifs at hpre ⊢
    · split at hpre
      · cases hpre
      · cases hpre
      · exact optionsLoop_of_stop livePacket direction rest hkind hr pre (i + 1) _ s₀ _ packet₀ hpre hstop
    · exact optionsLoop_of_stop livePacket direction rest hkind hr pre (i + 1) s s₀ packet packet₀ hpre hstop

/-- A packet crashes exactly when the engine reaches one of its MPTCP options,
every earlier option having returned `STATUS_OK`, in a state `s₀` where that
option's call crashes (`OptionFault`, on the packet's own headers). -/
theorem packet_crashes_iff_option_faults {s : MpState} {packetToModify livePacket : Packet}
    {direction : Direction} {fault : Fault} :
    mptcpInsertAndExtractOptFields s packetToModify livePacket direction = .error fault ↔
      ∃ pre tcpOpt rest s₀ packet₀, packetToModify.tcpOptions = pre ++ tcpOpt :: rest ∧
        tcpOpt.kind = tcpoptMptcp ∧
        optionsLoop livePacket direction 0 pre s packetToModify = .ok (.ok, s₀, packet₀) ∧
        OptionFault s₀ packetToModify livePacket tcpOpt direction fault := by
  have hr : ∀ s' packet', (.error fault : Except Fault (Status × MpState × Packet)) ≠ .ok (.ok, s', packet') :=
    fun _ _ => nofun
  have hcall {s₀ : MpState} {packet₀ : Packet} {i : ℕ} {tcpOpt : TcpOption} :
      (mptcpOption s₀ packet₀ livePacket i tcpOpt direction).map
          (fun a => (a.1, a.2.1, packet₀.setOption i a.2.2)) = .error fault ↔
        OptionFault s₀ packet₀ livePacket tcpOpt direction fault := by
    rw [← mptcpOption_error_iff]
    rcases mptcpOption s₀ packet₀ livePacket i tcpOpt direction with _ | _ <;> simp [Except.map]
  constructor
  · intro h
    obtain ⟨pre, tcpOpt, rest, s₀, packet₀, hopts, hkind, hpre, hstop⟩ :=
      optionsLoop_stop livePacket direction hr 0 _ s packetToModify h
    obtain ⟨tcpOptions, rfl⟩ := optionsLoop_packet livePacket direction 0 pre s s₀ packetToModify _ .ok hpre
    exact ⟨pre, tcpOpt, rest, s₀, _, hopts, hkind, hpre, OptionFault.withOptions.mp (hcall.mp hstop)⟩
  · rintro ⟨pre, tcpOpt, rest, s₀, packet₀, hopts, hkind, hpre, hfault⟩
    obtain ⟨tcpOptions, rfl⟩ := optionsLoop_packet livePacket direction 0 pre s s₀ packetToModify _ .ok hpre
    unfold mptcpInsertAndExtractOptFields
    rw [hopts]
    exact optionsLoop_of_stop livePacket direction rest hkind hr pre 0 s s₀ packetToModify _ hpre
      (hcall.mpr (OptionFault.withOptions.mpr hfault))

/-! ## Runs -/

theorem findSubflowMatchingInboundPacket_eq_none {s : MpState} {packet : Packet} :
    findSubflowMatchingInboundPacket s packet = none ↔
      packet.inboundPorts ∉ s.subflows.map MpSubflow.ports := by
  simp [findSubflowMatchingInboundPacket_eq, List.find?_eq_none]

/-- The table's pairs after a run whose calls all succeed, as the run created
them. -/
theorem runInputs_subflowPorts {s s' : MpState} {xs : List MpInput} (h : runInputs s xs = some s') :
    s'.subflows.map MpSubflow.ports =
      ((mpTrace s xs).filterMap (·.input.createdPorts)).reverse ++ s.subflows.map MpSubflow.ports := by
  rw [runInputs_fold (fun s => s.subflows.map MpSubflow.ports) (fun acc r => r.input.createdPorts.toList ++ acc)
    (fun _ hr => mpStep_subflowPorts hr) h, foldl_prepend_filterMap]

/-- After any run from `init_mp_state` whose calls all succeed, an inbound
DSN-carrying DSS option on an IPv4 packet crashes exactly when no call of the
run created a subflow with the packet's pair: what the tool sends on a pair
must follow the handshake or JOIN SYN that opens it. -/
theorem dsn_dss_crashes_iff_pair_never_created (varsQueueCapacity : ℕ) (random : ℕ → UInt64) (xs : List MpInput) {s : MpState}
    {packetToModify livePacket : Packet} {i : ℕ} {tcpOpt : TcpOption}
    (h : runInputs (initMpState varsQueueCapacity random) xs = some s) (hsub : tcpOpt.data.subtype = dssSubtype)
    (hdsn : IsDsnDss tcpOpt) (hipv4 : packetToModify.ipv4 ≠ none) :
    (∃ fault, mptcpOption s packetToModify livePacket i tcpOpt .inbound = .error fault) ↔
      packetToModify.inboundPorts ∉ (mpTrace (initMpState varsQueueCapacity random) xs).filterMap (·.input.createdPorts) := by
  have hjoin : dssSubtype ≠ mpJoinSubtype := by decide
  simp only [mptcpOption_error_iff, OptionFault, DsnFault, hsub, hdsn, hipv4, hjoin,
    findSubflowMatchingInboundPacket_eq_none, runInputs_subflowPorts h]
  simp [initMpState, hipv4]

/-- A DSS option with the DSN flag on the pair of the tool's JOIN SYN, after
that JOIN SYN: the option call does not crash. -/
theorem dsnWocs_after_joinSyn_safe :
    runInputs (initMpState 8 fun _ => 0) [joinSynIn] = some (newSubflowInbound (initMpState 8 fun _ => 0) joinSynPacket).2 ∧
    dsnWocsOption.data.subtype = dssSubtype ∧ IsDsnDss dsnWocsOption ∧ dsnWocsPacket.ipv4 ≠ none ∧
    ((∃ fault, mptcpOption (newSubflowInbound (initMpState 8 fun _ => 0) joinSynPacket).2 dsnWocsPacket dsnWocsPacket 0
        dsnWocsOption .inbound = .error fault) ↔
      dsnWocsPacket.inboundPorts ∉ (mpTrace (initMpState 8 fun _ => 0) [joinSynIn]).filterMap (·.input.createdPorts)) :=
  have h : runInputs (initMpState 8 fun _ => 0) [joinSynIn] =
      some (newSubflowInbound (initMpState 8 fun _ => 0) joinSynPacket).2 := rfl
  have hdsn : IsDsnDss dsnWocsOption := by decide
  have hipv4 : dsnWocsPacket.ipv4 ≠ none := by decide
  ⟨h, rfl, hdsn, hipv4, dsn_dss_crashes_iff_pair_never_created _ _ _ h rfl hdsn hipv4⟩

end PacketdrillMptcp
