import PacketdrillMptcp.Engine

/-!
# How failures surface

`mptcp_insert_and_extract_opt_fields` (`mptcp.c`, lines 784–833) returns the
status of the first handler that fails; a handler's status is the code of
the last step it assigned to `error`. In the outbound MP_CAPABLE SYN case
(lines 439–444) that is `mptcp_set_mp_cap_syn_key`, which overwrites the code
of `extract_and_set_kernel_key`.

Results:
* `outbound_capable_syn_ignores_extraction`: a kernel SYN or SYN/ACK whose
  live packet has no MPTCP option comes out exactly as if the kernel's key
  had not been looked for: `STATUS_OK` whenever the front name is bound.
-/

namespace PacketdrillMptcp

/-- `extract_and_set_kernel_key` fails, changing nothing, on a live packet
with no MPTCP option. -/
theorem extractAndSetKernelKey_of_none (s : MpState) {livePacket : Packet}
    (hlive : getTcpOption livePacket tcpoptMptcp = none) :
    extractAndSetKernelKey s livePacket = (.err, s) := by
  simp [extractAndSetKernelKey, hlive]

/-- A packet whose one option is an outbound MP_CAPABLE SYN or SYN/ACK, with a
live packet that has no MPTCP option: `extract_and_set_kernel_key` fails, and
the packet's outcome is that of writing the SYN key alone. -/
theorem outbound_capable_syn_ignores_extraction (s : MpState) {packetToModify livePacket : Packet}
    {tcpOpt : TcpOption} (hopts : packetToModify.tcpOptions = [tcpOpt]) (hkind : tcpOpt.kind = tcpoptMptcp)
    (hsub : tcpOpt.data.subtype = mpCapableSubtype) (hsyn : IsCapableSyn packetToModify tcpOpt)
    (hlive : getTcpOption livePacket tcpoptMptcp = none) :
    extractAndSetKernelKey s livePacket = (.err, s) ∧
    mptcpInsertAndExtractOptFields s packetToModify livePacket .outbound =
      .ok ((mptcpSetMpCapSynKey s tcpOpt).1, (mptcpSetMpCapSynKey s tcpOpt).2.1,
        packetToModify.setOption 0 (mptcpSetMpCapSynKey s tcpOpt).2.2) := by
  have hextract := extractAndSetKernelKey_of_none s hlive
  refine ⟨hextract, ?_⟩
  rw [mptcpInsertAndExtractOptFields_single s _ _ tcpOpt .outbound hopts hkind, mptcpOption_of_mpCapable hsub,
    mptcpSubtypeMpCapable_synOutbound hsyn, mpCapableExtractAndSetKey, hextract]
  rfl

/-- The script binds `b` to 2 and queues it, with a 0 after its buffer. -/
def boundFrontState : MpState := (enqueueVar (addMpVarScriptDefined (initMpState 1 fun _ => 0) "b" 2) "b" "").2

/-- An MP_CAPABLE SYN option as the script writes it. -/
def capableSynOption : TcpOption := mptcpOptionOf mpCapableSubtype tcpolenMpCapableSyn

/-- The kernel's SYN/ACK from port 80 to port 10000 as the script expects it. -/
def capableSynAckPacket : Packet := tcpPacket 0x5000 0x1027 true true [capableSynOption]

/-- The SYN/ACK the kernel sent, without options. -/
def optionlessSynAck : Packet := tcpPacket 0x5000 0x1027 true true []

/-- The kernel's key cannot be read, and the packet passes. -/
theorem synAck_without_live_option_accepted :
    extractAndSetKernelKey boundFrontState optionlessSynAck = (.err, boundFrontState) ∧
    (mptcpInsertAndExtractOptFields boundFrontState capableSynAckPacket optionlessSynAck .outbound).map
      (·.1) = .ok .ok := by
  obtain ⟨hextract, hrun⟩ := outbound_capable_syn_ignores_extraction boundFrontState
    (show capableSynAckPacket.tcpOptions = [capableSynOption] from rfl) rfl rfl ⟨rfl, rfl⟩
    (show getTcpOption optionlessSynAck tcpoptMptcp = none from rfl)
  exact ⟨hextract, by rw [hrun]; rfl⟩

end PacketdrillMptcp
