import PacketdrillMptcp.Bindings

/-!
# Isolation of subflows

Every search of `mp_state.subflows` (`find_matching_subflow`, `mptcp.c`,
lines 258–269) looks a record up by its port pair, and returns the first
record with that pair. Through the searches, the table is therefore a map from
port pairs to records (`MpState.subflowOf`). A call changes that map at the
pairs it names (`MpInput.touchedPairs`) and nowhere else. These are the pair
of the record it creates, the pair of the record an MP_JOIN SYN/ACK writes
(found by the packet inbound, by the live packet outbound), and the pair of
an inbound DSN-carrying DSS option. Every other pair keeps its record over
any run, whatever calls on other subflows are interleaved.

Results:
* `mpStep_subflowOf`: one call leaves the record of every pair it does not
  name.
* `subflow_isolated_in_runs`: a run leaves the record of every pair that none
  of its calls names.
-/

namespace PacketdrillMptcp

/-- The record a search for `pair` finds: the subflow table as a map from port
pairs to records. -/
def MpState.subflowOf (s : MpState) (pair : UInt16 × UInt16) : Option MpSubflow :=
  s.subflows.find? fun subflow => decide (subflow.ports = pair)

theorem findSubflowMatchingInboundPacket_eq_subflowOf (s : MpState) (packet : Packet) :
    findSubflowMatchingInboundPacket s packet = s.subflowOf packet.inboundPorts :=
  findSubflowMatchingInboundPacket_eq s packet

theorem findSubflowMatchingOutboundPacket_eq_subflowOf (s : MpState) (packet : Packet) :
    findSubflowMatchingOutboundPacket s packet = s.subflowOf packet.outboundPorts :=
  findSubflowMatchingOutboundPacket_eq s packet

/-- The pair of the record a JOIN SYN/ACK call writes: found by the packet to
modify inbound (line 597), by the live packet outbound (line 510). -/
def MpInput.joinSynAckPorts : MpInput → Option (UInt16 × UInt16)
  | .option packetToModify livePacket _ tcpOpt direction =>
    if tcpOpt.data.subtype = mpJoinSubtype ∧ IsJoinSynAck packetToModify tcpOpt then
      match direction with
      | .inbound => some packetToModify.inboundPorts
      | .outbound => some livePacket.outboundPorts
    else none
  | _ => none

/-- The pairs whose record a call may create or write. -/
def MpInput.touchedPairs (x : MpInput) : List (UInt16 × UInt16) :=
  x.createdPorts.toList ++ x.joinSynAckPorts.toList ++ x.dsnDssPorts.toList

/-! ## One call -/

/-- A record put in front of the table is what a search finds for its own
pair only. -/
theorem subflowOf_cons {s s' : MpState} {subflow : MpSubflow} (h : s'.subflows = subflow :: s.subflows)
    {pair : UInt16 × UInt16} (hpair : subflow.ports ≠ pair) : s'.subflowOf pair = s.subflowOf pair := by
  simp [MpState.subflowOf, h, List.find?_cons, hpair]

/-- A write through a search for `key`, by a function that keeps pairs, changes
what a search finds for `key` only. -/
theorem subflowOf_updateFirst {s s' : MpState} {key pair : UInt16 × UInt16} {f : MpSubflow → MpSubflow}
    (h : s'.subflows = updateFirst (fun subflow => decide (subflow.ports = key)) f s.subflows)
    (hf : ∀ subflow, (f subflow).ports = subflow.ports) (hpair : pair ≠ key) :
    s'.subflowOf pair = s.subflowOf pair := by
  rw [MpState.subflowOf, h, find?_updateFirst MpSubflow.ports f hf pair key, if_neg hpair]
  rfl

/-- One call leaves the record that a search finds for any pair it does not
name. -/
theorem mpStep_subflowOf {s s' : MpState} {x : MpInput} {status : Status} {out : Option TcpOption}
    (h : mpStep s x = .ok (status, s', out)) {pair : UInt16 × UInt16} (hpair : pair ∉ x.touchedPairs) :
    s'.subflowOf pair = s.subflowOf pair := by
  have inbound (packet : Packet) : (doesSubflowMatchInboundPacket · packet) =
      fun subflow => decide (subflow.ports = packet.inboundPorts) :=
    funext fun subflow => doesSubflowMatchInboundPacket_eq subflow packet
  have outbound (packet : Packet) : (doesSubflowMatchOutboundPacket · packet) =
      fun subflow => decide (subflow.ports = packet.outboundPorts) :=
    funext fun subflow => doesSubflowMatchOutboundPacket_eq subflow packet
  rcases mpStep_subflows h with ⟨subflow, hcreated, hs, -⟩ | ⟨-, p, l, i, o, rfl, hsub, hsynAck, hs⟩ |
    ⟨-, p, l, i, o, a, r, rfl, hsub, hsynAck, hs⟩ | ⟨-, p, l, i, o, o', sf, rfl, hsub, hdsn, -, -, -, hs⟩ |
    ⟨-, -, hs⟩
  · exact subflowOf_cons hs fun hp => hpair (by simp [MpInput.touchedPairs, hcreated, hp])
  · rw [inbound] at hs
    exact subflowOf_updateFirst hs (fun _ => rfl) fun hp =>
      hpair (by simp [MpInput.touchedPairs, MpInput.joinSynAckPorts, hsub, hsynAck, hp])
  · rw [outbound] at hs
    exact subflowOf_updateFirst hs (fun _ => rfl) fun hp =>
      hpair (by simp [MpInput.touchedPairs, MpInput.joinSynAckPorts, hsub, hsynAck, hp])
  · rw [inbound] at hs
    exact subflowOf_updateFirst hs (fun _ => rfl) fun hp =>
      hpair (by simp [MpInput.touchedPairs, MpInput.dsnDssPorts, hsub, hdsn, hp])
  · rw [MpState.subflowOf, hs]
    rfl

/-! ## Runs -/

/-- A run whose calls all succeed leaves the record that a search finds for
any pair none of its calls names: what the calls on other subflows do, in
whatever order, never reaches it. -/
theorem subflow_isolated_in_runs {s s' : MpState} {xs : List MpInput} (h : runInputs s xs = some s')
    {pair : UInt16 × UInt16} (hpair : ∀ x ∈ xs, pair ∉ x.touchedPairs) :
    s'.subflowOf pair = s.subflowOf pair := by
  induction xs generalizing s with
  | nil => cases h; rfl
  | cons x xs ih =>
    unfold runInputs at h
    split at h
    · rename_i s₁ out hstep
      rw [ih h fun y hy => hpair y (List.mem_cons_of_mem x hy),
        mpStep_subflowOf hstep (hpair x (List.mem_cons_self x xs))]
    · cases h

/-- After the tool's JOIN SYN, its second JOIN SYN, on another pair, leaves
the record of the first pair. -/
theorem second_join_keeps_first_record :
    runInputs (newSubflowInbound (initMpState 8 fun _ => 0) joinSynPacket).2 [secondJoinSynIn] =
        some (stepAnswer (newSubflowInbound (initMpState 8 fun _ => 0) joinSynPacket).2 secondJoinSynIn).2.1 ∧
      (∀ x ∈ [secondJoinSynIn], joinSynPacket.inboundPorts ∉ x.touchedPairs) ∧
      (stepAnswer (newSubflowInbound (initMpState 8 fun _ => 0) joinSynPacket).2 secondJoinSynIn).2.1.subflowOf
          joinSynPacket.inboundPorts =
        (newSubflowInbound (initMpState 8 fun _ => 0) joinSynPacket).2.subflowOf joinSynPacket.inboundPorts :=
  have h : runInputs (newSubflowInbound (initMpState 8 fun _ => 0) joinSynPacket).2 [secondJoinSynIn] =
      some (stepAnswer (newSubflowInbound (initMpState 8 fun _ => 0) joinSynPacket).2 secondJoinSynIn).2.1 := rfl
  have hpair : ∀ x ∈ [secondJoinSynIn], joinSynPacket.inboundPorts ∉ x.touchedPairs := by decide
  ⟨h, hpair, subflow_isolated_in_runs h hpair⟩

end PacketdrillMptcp
