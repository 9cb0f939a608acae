import PacketdrillMptcp.Engine
import PacketdrillMptcp.Failures

/-!
# What the engine writes into a packet

`mptcp_insert_and_extract_opt_fields` (`mptcp.c`, lines 784–833) writes into
the packet it is handed only through `tcp_opt_to_modify`, one option at a
time, and every handler writes only fields of the option's `data` union: the
keys, tokens, nonces, address IDs, HMACs and data numbers. None of them
writes an option's kind or length, the subtype or the DSS flags, which
select the union member and so the option's layout on the wire
(`TcpOption.layout`).

Results:
* `mptcpOption_layout`: every option call returns an option of the layout it
  was handed.
* `optionsLoop_rewrite`: the loop over the options, from any position, leaves
  the options before it alone and rewrites each later one in place.
* `packet_rewrite_keeps_layout`: whatever the engine returns for a packet, the
  packet differs from the one it was handed only in its options; it has as
  many, each of the layout of the one it replaces, and every option that is
  not MPTCP is unchanged.
-/

namespace PacketdrillMptcp

/-- The fields that fix an option's layout on the wire: kind and length, the
subtype that selects the member of the `data` union, the flags of a DSS
option, which select its fields, and the bytes of an option that is not
MPTCP. The byte of the DSS flags is the address ID of an MP_JOIN option, so
the flags count for DSS options only. -/
def TcpOption.layout (tcpOpt : TcpOption) : UInt8 × UInt8 × UInt8 × Option (Bool × Bool) × List UInt8 :=
  (tcpOpt.kind, tcpOpt.length, tcpOpt.data.subtype,
    if tcpOpt.data.subtype = dssSubtype then some (tcpOpt.data.dss.flagDsn, tcpOpt.data.dss.flagDack) else none,
    tcpOpt.data.raw)

/-- The MP_JOIN fields are not part of the layout. Stated once, so that no proof
has to unfold the hashes a handler writes there. -/
theorem TcpOption.layout_mpJoin (tcpOpt : TcpOption) (m : MpJoinData) :
    ({ tcpOpt with data.mpJoin := m } : TcpOption).layout = tcpOpt.layout := rfl

/-- The option a handler returned, from the answer a call returned. -/
theorem option_of_ok {P : TcpOption → Prop} {r : Status × MpState × TcpOption} {status : Status}
    {s' : MpState} {tcpOpt' : TcpOption} (hr : P r.2.2)
    (h : (Except.ok r : Except Fault (Status × MpState × TcpOption)) = .ok (status, s', tcpOpt')) : P tcpOpt' := by
  cases h; exact hr

/-! ## Each handler -/

section
variable (s : MpState) (packetToModify livePacket : Packet) (tcpOpt : TcpOption)

theorem mptcpSetMpCapSynKey_layout : (mptcpSetMpCapSynKey s tcpOpt).2.2.layout = tcpOpt.layout := by
  simp only [mptcpSetMpCapSynKey, TcpOption.layout]
  split <;> rfl

theorem mptcpSetMpCapKeys_layout : (mptcpSetMpCapKeys s tcpOpt).2.2.layout = tcpOpt.layout := by
  simp only [mptcpSetMpCapKeys, TcpOption.layout]
  split
  · rfl
  · split <;> rfl

theorem mptcpSubtypeMpCapable_layout (direction : Direction) :
    (mptcpSubtypeMpCapable s packetToModify livePacket tcpOpt direction).2.2.layout = tcpOpt.layout := by
  dsimp only [mptcpSubtypeMpCapable]
  split_ifs
  · exact mptcpSetMpCapSynKey_layout _ tcpOpt
  · exact mptcpSetMpCapSynKey_layout _ tcpOpt
  · exact mptcpSetMpCapKeys_layout _ tcpOpt
  · exact mptcpSetMpCapSynKey_layout _ tcpOpt
  · rfl

theorem mpJoinSynInbound_layout : (mpJoinSynInbound s packetToModify tcpOpt).2.2.layout = tcpOpt.layout := by
  unfold mpJoinSynInbound TcpOption.layout; split <;> rfl

theorem mpJoinSynAckOutbound_layout : (mpJoinSynAckOutbound s livePacket tcpOpt).2.2.layout = tcpOpt.layout := by
  unfold mpJoinSynAckOutbound TcpOption.layout; split <;> rfl

theorem mpJoinAckInbound_layout : (mpJoinAckInbound s packetToModify tcpOpt).2.2.layout = tcpOpt.layout := by
  unfold mpJoinAckInbound; split
  exacts [rfl, TcpOption.layout_mpJoin tcpOpt _]

theorem mpJoinSynAckInbound_layout : (mpJoinSynAckInbound s packetToModify tcpOpt).2.2.layout = tcpOpt.layout := by
  unfold mpJoinSynAckInbound TcpOption.layout; split <;> rfl

theorem mpJoinAckOutbound_layout : (mpJoinAckOutbound s packetToModify tcpOpt).2.2.layout = tcpOpt.layout := by
  unfold mpJoinAckOutbound; split
  exacts [rfl, TcpOption.layout_mpJoin tcpOpt _]

theorem dssDack_layout : (dssDack s tcpOpt).layout = tcpOpt.layout := by
  unfold dssDack TcpOption.layout; split <;> rfl

end

section
variable {s s' : MpState} {packetToModify livePacket : Packet} {i : ℕ} {tcpOpt tcpOpt' : TcpOption}
  {direction : Direction} {status : Status}

theorem mpJoinSynOutbound_layout (h : mpJoinSynOutbound s livePacket tcpOpt = .ok (status, s', tcpOpt')) :
    tcpOpt'.layout = tcpOpt.layout := by
  unfold mpJoinSynOutbound at h
  split at h
  · cases h
  · cases h; unfold TcpOption.layout; rfl

theorem mptcpSubtypeMpJoin_layout
    (h : mptcpSubtypeMpJoin s packetToModify livePacket tcpOpt direction = .ok (status, s', tcpOpt')) :
    tcpOpt'.layout = tcpOpt.layout := by
  rcases mptcpSubtypeMpJoin_cases s packetToModify livePacket tcpOpt direction with
    ⟨hc, -⟩ | ⟨hc, -⟩ | ⟨hc, -⟩ | ⟨hc, -⟩ | ⟨hc, -⟩ | ⟨hc, -⟩ | ⟨hc, -⟩ <;> rw [hc] at h
  · exact option_of_ok (P := (·.layout = tcpOpt.layout)) (mpJoinSynInbound_layout ..) h
  · exact option_of_ok (P := (·.layout = tcpOpt.layout)) (mpJoinSynAckOutbound_layout ..) h
  · exact option_of_ok (P := (·.layout = tcpOpt.layout)) (mpJoinAckInbound_layout ..) h
  · exact mpJoinSynOutbound_layout h
  · exact option_of_ok (P := (·.layout = tcpOpt.layout)) (mpJoinSynAckInbound_layout ..) h
  · exact option_of_ok (P := (·.layout = tcpOpt.layout)) (mpJoinAckOutbound_layout ..) h
  · cases h; rfl

theorem dssDsn_layout (h : dssDsn s packetToModify i tcpOpt = .ok (s', tcpOpt')) : tcpOpt'.layout = tcpOpt.layout := by
  unfold dssDsn at h
  split_ifs at h
  · obtain ⟨_, _, -, -, -, rfl⟩ := dssDsn8_ok h; unfold TcpOption.layout; rfl
  · obtain ⟨_, _, -, -, -, rfl⟩ := dssDsn8Wocs_ok h; unfold TcpOption.layout; rfl
  · cases h; rfl

theorem mptcpSubtypeDss_layout (h : mptcpSubtypeDss s packetToModify i tcpOpt direction = .ok (status, s', tcpOpt')) :
    tcpOpt'.layout = tcpOpt.layout := by
  cases direction with
  | outbound => cases h; rfl
  | inbound =>
    obtain ⟨-, tcpOpt1, hdsn, rfl⟩ := mptcpSubtypeDss_inbound h
    rw [dssDack_layout]
    exact dssDsn_layout hdsn

/-- Every option call returns an option of the layout it was handed. -/
theorem mptcpOption_layout
    (h : mptcpOption s packetToModify livePacket i tcpOpt direction = .ok (status, s', tcpOpt')) :
    tcpOpt'.layout = tcpOpt.layout := by
  rcases mptcpOption_cases h with ⟨-, hcap⟩ | ⟨-, hjoin⟩ | ⟨-, hdss⟩ | ⟨-, -, -, -, -, rfl⟩
  · have hlayout := mptcpSubtypeMpCapable_layout s packetToModify livePacket tcpOpt direction
    rwa [hcap] at hlayout
  · exact mptcpSubtypeMpJoin_layout hjoin
  · exact mptcpSubtypeDss_layout hdss
  · rfl

end

/-! ## The loop -/

/-- What the engine may leave in place of an option: one of the same layout,
and the option itself if it is not MPTCP. -/
def OptionRewrite (tcpOpt tcpOpt' : TcpOption) : Prop :=
  tcpOpt'.layout = tcpOpt.layout ∧ (tcpOpt.kind ≠ tcpoptMptcp → tcpOpt' = tcpOpt)

theorem OptionRewrite.refl (tcpOpt : TcpOption) : OptionRewrite tcpOpt tcpOpt := ⟨rfl, fun _ => rfl⟩

theorem List.set_length_append {α : Type} (pre rest : List α) (a b : α) :
    (pre ++ a :: rest).set pre.length b = pre ++ b :: rest := by
  rw [List.set_append_right _ _ le_rfl, Nat.sub_self, List.set_cons_zero]

/-- The loop from option number `pre.length` on, with `pre` the options
before it: it leaves `pre` and every other field of the packet alone, and
rewrites each later option in place. -/
theorem optionsLoop_rewrite (livePacket : Packet) (direction : Direction) :
    ∀ (rest pre : List TcpOption) (s s' : MpState) (packet packet' : Packet) (status : Status),
      packet.tcpOptions = pre ++ rest →
      optionsLoop livePacket direction pre.length rest s packet = .ok (status, s', packet') →
      ∃ rest', packet' = { packet with tcpOptions := pre ++ rest' } ∧ List.Forall₂ OptionRewrite rest rest' := by
  intro rest
  induction rest with
  | nil =>
    intro pre s s' packet packet' status hopts h
    cases h
    exact ⟨[], by rw [← hopts], .nil⟩
  | cons tcpOpt rest ih =>
    intro pre s s' packet packet' status hopts h
    have hrest : List.Forall₂ OptionRewrite rest rest := List.forall₂_same.mpr fun o _ => .refl o
    have hnext : ∀ o, (pre ++ [o]).length = pre.length + 1 := fun o => by simp
    unfold optionsLoop at h
    split at h
    · rename_i hkind
      split at h
      · cases h
      · rename_i s₁ tcpOpt' hopt
        cases h
        refine ⟨tcpOpt' :: rest, ?_, .cons ⟨mptcpOption_layout hopt, fun hne => absurd hkind hne⟩ hrest⟩
        simp only [Packet.setOption, hopts, List.set_length_append]
      · rename_i s₁ tcpOpt' hopt
        rw [← hnext tcpOpt'] at h
        obtain ⟨rest', rfl, hrest'⟩ := ih (pre ++ [tcpOpt']) s₁ s' _ packet' status
          (by simp only [Packet.setOption, hopts, List.set_length_append, List.append_assoc, List.singleton_append]) h
        refine ⟨tcpOpt' :: rest', ?_, .cons ⟨mptcpOption_layout hopt, fun hne => absurd hkind hne⟩ hrest'⟩
        simp only [Packet.setOption, List.append_assoc, List.singleton_append]
    · rw [← hnext tcpOpt] at h
      obtain ⟨rest', rfl, hrest'⟩ := ih (pre ++ [tcpOpt]) s s' packet packet' status
        (by rw [hopts, List.append_assoc, List.singleton_append]) h
      exact ⟨tcpOpt :: rest', by simp only [List.append_assoc, List.singleton_append], .cons (.refl tcpOpt) hrest'⟩

/-- Whatever the engine returns for a packet, `STATUS_ERR` included, the
packet differs from the one it was handed only in its options: it has as
many, each of the layout of the one it replaces, and every option that is
not MPTCP is unchanged. -/
theorem packet_rewrite_keeps_layout {s s' : MpState} {packetToModify livePacket packet' : Packet}
    {direction : Direction} {status : Status}
    (h : mptcpInsertAndExtractOptFields s packetToModify livePacket direction = .ok (status, s', packet')) :
    packet' = { packetToModify with tcpOptions := packet'.tcpOptions } ∧
      List.Forall₂ OptionRewrite packetToModify.tcpOptions packet'.tcpOptions := by
  obtain ⟨rest', rfl, hrest'⟩ :=
    optionsLoop_rewrite livePacket direction packetToModify.tcpOptions [] s s' packetToModify packet' status rfl h
  exact ⟨rfl, hrest'⟩

/-- The tool's MP_CAPABLE SYN from port 10000, with a window-scale option
before its MPTCP option. -/
def scaledCapableSyn : Packet :=
  tcpPacket 0x1027 0x5000 true false
    [{ mptcpOptionOf 0 3 with kind := 3, data.raw := [7] }, mptcpOptionOf mpCapableSubtype tcpolenMpCapableSyn]

/-- What the engine returns for it, the front name bound to 2. -/
def scaledCapableSynAnswer : Status × MpState × Packet :=
  match mptcpInsertAndExtractOptFields boundFrontState scaledCapableSyn scaledCapableSyn .inbound with
  | .ok r => r
  | .error _ => (.err, boundFrontState, scaledCapableSyn)

/-- The engine fills the key of the MP_CAPABLE option and passes the
window-scale option through. -/
theorem scaledCapableSyn_keeps_layout :
    mptcpInsertAndExtractOptFields boundFrontState scaledCapableSyn scaledCapableSyn .inbound =
      .ok (scaledCapableSynAnswer.1, scaledCapableSynAnswer.2.1, scaledCapableSynAnswer.2.2) ∧
    scaledCapableSynAnswer.2.2 = { scaledCapableSyn with tcpOptions := scaledCapableSynAnswer.2.2.tcpOptions } ∧
      List.Forall₂ OptionRewrite scaledCapableSyn.tcpOptions scaledCapableSynAnswer.2.2.tcpOptions := by
  have h : mptcpInsertAndExtractOptFields boundFrontState scaledCapableSyn scaledCapableSyn .inbound =
      .ok (scaledCapableSynAnswer.1, scaledCapableSynAnswer.2.1, scaledCapableSynAnswer.2.2) := rfl
  exact ⟨h, packet_rewrite_keeps_layout h⟩

end PacketdrillMptcp
