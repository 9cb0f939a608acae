import PacketdrillMptcp.JoinFields

/-!
# Connection-level sequence numbers

The MP_CAPABLE third ACK sets `mp_state.initial_dsn` to
`sha1_least_64bits(packetdrill_key)` (`mptcp.c`, line 451); nothing else
writes it, and nothing writes `initial_dack` after `init_mp_state`. An inbound
DSS option adds `initial_dsn` to the script's DSN in the two DSN cases and
`initial_dack` to its data ACK (lines 681–763), with no test that a handshake
took place.

Results:
* `mpStep_initialDsn`, `mpStep_initialDack`: what one call does to the two
  initial numbers; `Reachable.initialDack`: the initial DACK stays 0.
* `mpTrace_initialDsn`: at every call of a run the initial DSN is derived from
  the tool's key at the latest third ACK before it (`idsnAfter`).
* `dss_numbers_offset_from_latest_third_ack`: the DSN and DACK every accepted
  inbound DSS option gets. The data ACK is not offset: `initial_dack` is
  never assigned (the TODO of lines 758–761), so it is written byte-swapped
  as the script gave it, after a handshake too (`handshake_dack_not_offset`).
* `dss_accepted_before_handshake`: an inbound DSS option accepted in a run
  with no third ACK.
-/

namespace PacketdrillMptcp

/-- A call that handles an MP_CAPABLE option as a third ACK. -/
def MpInput.IsThirdAck : MpInput → Prop
  | .option packetToModify _ _ tcpOpt _ =>
    tcpOpt.data.subtype = mpCapableSubtype ∧ PacketdrillMptcp.IsThirdAck packetToModify tcpOpt
  | _ => False

instance : DecidablePred MpInput.IsThirdAck
  | .option packetToModify _ _ tcpOpt _ =>
    inferInstanceAs (Decidable (_ ∧ PacketdrillMptcp.IsThirdAck packetToModify tcpOpt))
  | .enqueueVar _ _ => inferInstanceAs (Decidable False)
  | .addMpVarScriptDefined _ _ => inferInstanceAs (Decidable False)

/-! ## One call -/

/-- Every call keeps the initial DSN, but a third ACK, which derives it from
the tool's key. -/
theorem mpStep_initialDsn {s s' : MpState} {x : MpInput} {status : Status} {out : Option TcpOption}
    (h : mpStep s x = .ok (status, s', out)) :
    s'.initialDsn = if x.IsThirdAck then sha1Least64bits s.packetdrillKey else s.initialDsn := by
  cases x with
  | enqueueVar name heap =>
    obtain ⟨_, rfl, -⟩ := mpStep_enqueueVar h
    exact (if_neg id).symm
  | addMpVarScriptDefined name value => cases h; exact (if_neg id).symm
  | option packetToModify livePacket i tcpOpt direction =>
    obtain ⟨tcpOpt', hopt, -⟩ := mpStep_option.mp h
    rcases mptcpOption_cases hopt with ⟨hsub, hcap⟩ | ⟨hsub, hjoin⟩ | ⟨hsub, hdss⟩ | ⟨hsub, -, -, -, rfl, -⟩
    · have hdsn := mptcpSubtypeMpCapable_initialDsn s packetToModify livePacket tcpOpt direction
      rw [hcap] at hdsn
      simpa [MpInput.IsThirdAck, hsub] using hdsn
    · rw [(mptcpSubtypeMpJoin_frame hjoin).initialDsn]
      simp [MpInput.IsThirdAck, hsub, mpJoinSubtype, mpCapableSubtype]
    · rw [(mptcpSubtypeDss_frame hdss).initialDsn]
      simp [MpInput.IsThirdAck, hsub, dssSubtype, mpCapableSubtype]
    · simp [MpInput.IsThirdAck, hsub]

/-- No call writes the initial DACK. -/
theorem mpStep_initialDack {s s' : MpState} {x : MpInput} {status : Status} {out : Option TcpOption}
    (h : mpStep s x = .ok (status, s', out)) : s'.initialDack = s.initialDack := by
  cases x with
  | enqueueVar name heap =>
    obtain ⟨_, rfl, -⟩ := mpStep_enqueueVar h
    rfl
  | addMpVarScriptDefined name value => cases h; rfl
  | option packetToModify livePacket i tcpOpt direction =>
    obtain ⟨tcpOpt', hopt, -⟩ := mpStep_option.mp h
    rcases mptcpOption_cases hopt with ⟨-, hcap⟩ | ⟨-, hjoin⟩ | ⟨-, hdss⟩ | ⟨-, -, -, -, rfl, -⟩
    · have hdack := mptcpSubtypeMpCapable_initialDack s packetToModify livePacket tcpOpt direction
      rwa [hcap] at hdack
    · exact (mptcpSubtypeMpJoin_frame hjoin).initialDack
    · exact (mptcpSubtypeDss_frame hdss).initialDack
    · rfl

theorem Reachable.initialDack {s : MpState} (h : Reachable s) : s.initialDack = 0 := by
  induction h with
  | init => rfl
  | step _ hstep ih => rw [mpStep_initialDack hstep, ih]

/-! ## Runs -/

/-- The initial DSN after the calls `rs`, from `idsn` on: each third ACK sets
it from the tool's key it finds. -/
def idsnAfter (idsn : UInt64) (rs : List MpStepRecord) : UInt64 :=
  rs.foldl (fun idsn r => if r.input.IsThirdAck then sha1Least64bits r.pre.packetdrillKey else idsn) idsn

theorem mpTrace_initialDsn {s : MpState} {xs : List MpInput} {before after : List MpStepRecord}
    {r : MpStepRecord} (h : mpTrace s xs = before ++ r :: after) :
    r.pre.initialDsn = idsnAfter s.initialDsn before :=
  mpTrace_pre_fold MpState.initialDsn _ (fun _ hr => mpStep_initialDsn hr) h

/-- Every inbound DSS option a run accepts, whether or not a third ACK came
before it, gets the DSN of the script offset by the initial DSN of the latest
third ACK (0 if there was none), and its raw data ACK byte-swapped: the
initial DACK it adds is never assigned. -/
theorem dss_numbers_offset_from_latest_third_ack (varsQueueCapacity : ℕ) (random : ℕ → UInt64)
    (xs : List MpInput) (k : ℕ) (hk : k < (mpTrace (initMpState varsQueueCapacity random) xs).length)
    {packetToModify livePacket : Packet} {i : ℕ} {tcpOpt : TcpOption}
    (hinput : (mpTrace (initMpState varsQueueCapacity random) xs)[k].input =
      .option packetToModify livePacket i tcpOpt .inbound)
    (hdss : tcpOpt.data.subtype = dssSubtype) :
    ∃ tcpOpt', (mpTrace (initMpState varsQueueCapacity random) xs)[k].out = some tcpOpt' ∧
      tcpOpt'.data.dss.dsnDataSeqNbr8oct =
        (if tcpOpt.data.dss.flagDsn ∧ tcpOpt.length = tcpolenDssDsn8 then
          htobe64 (idsnAfter 0 ((mpTrace (initMpState varsQueueCapacity random) xs).take k) +
            tcpOpt.data.dss.dsnDataSeqNbr8oct)
        else if tcpOpt.data.dss.flagDsn ∧ tcpOpt.length = tcpolenDssDsn8Wocs then
          htobe64 (idsnAfter 0 ((mpTrace (initMpState varsQueueCapacity random) xs).take k) +
            tcpOpt.data.dss.dsnDataSeqNbr8oct + 1)
        else tcpOpt.data.dss.dsnDataSeqNbr8oct) ∧
      tcpOpt'.data.dss.dackDataAck8oct =
        (if tcpOpt.data.dss.flagDack then htobe64 tcpOpt.data.dss.dackDataAck8oct
        else tcpOpt.data.dss.dackDataAck8oct) := by
  have htrace := (List.take_append_drop k (mpTrace (initMpState varsQueueCapacity random) xs)).symm
  rw [List.drop_eq_getElem_cons hk] at htrace
  have hreach := (mem_mpTrace (.init _ _) (List.getElem_mem hk)).1
  have hstep := mpTrace_step htrace
  rw [hinput] at hstep
  obtain ⟨tcpOpt', hopt, hout⟩ := mpStep_option.mp hstep
  rw [mptcpOption_of_dss hdss] at hopt
  have hnumbers := mptcpSubtypeDss_inbound_numbers hopt
  rw [mpTrace_initialDsn htrace, hreach.initialDack, zero_add] at hnumbers
  exact ⟨tcpOpt', hout, hnumbers⟩

/-- An inbound DSS option that carries a data ACK of 5 and no DSN. -/
def dackOnlyOption : TcpOption :=
  { mptcpOptionOf dssSubtype 12 with data.dss.flagDack := true, data.dss.dackDataAck8oct := 5 }

/-- `dackOnlyOption` in an inbound ACK from port 10000 to port 80. -/
def dackOnlyIn : MpInput :=
  let packet := tcpPacket 0x1027 0x5000 false true [dackOnlyOption]
  .option packet packet 0 dackOnlyOption .inbound

/-- The handshake of `handshakeRun`, the kernel's key 2, then `dackOnlyIn`. -/
def dackAfterHandshakeRun : List MpInput := handshakeRun ++ [dackOnlyIn]

set_option maxRecDepth 4000 in
/-- After a handshake whose third ACK carried the kernel's key 2, the data
ACK 5 is written as `htobe64(5)`, not offset by `sha1_least_64bits(2)`. -/
theorem handshake_dack_not_offset :
    (mpTrace (initMpState 4 fun _ => 0) dackAfterHandshakeRun)[8].input.IsThirdAck ∧
    (mpTrace (initMpState 4 fun _ => 0) dackAfterHandshakeRun)[8].out.map (·.data.mpCapable.noSynReceiverKey) =
      some 2 ∧
    (∃ tcpOpt', (mpTrace (initMpState 4 fun _ => 0) dackAfterHandshakeRun)[9].out = some tcpOpt' ∧
      tcpOpt'.data.dss.dsnDataSeqNbr8oct =
        (if dackOnlyOption.data.dss.flagDsn ∧ dackOnlyOption.length = tcpolenDssDsn8 then
          htobe64 (idsnAfter 0 ((mpTrace (initMpState 4 fun _ => 0) dackAfterHandshakeRun).take 9) +
            dackOnlyOption.data.dss.dsnDataSeqNbr8oct)
        else if dackOnlyOption.data.dss.flagDsn ∧ dackOnlyOption.length = tcpolenDssDsn8Wocs then
          htobe64 (idsnAfter 0 ((mpTrace (initMpState 4 fun _ => 0) dackAfterHandshakeRun).take 9) +
            dackOnlyOption.data.dss.dsnDataSeqNbr8oct + 1)
        else dackOnlyOption.data.dss.dsnDataSeqNbr8oct) ∧
      tcpOpt'.data.dss.dackDataAck8oct =
        (if dackOnlyOption.data.dss.flagDack then htobe64 dackOnlyOption.data.dss.dackDataAck8oct
        else dackOnlyOption.data.dss.dackDataAck8oct)) ∧
    htobe64 dackOnlyOption.data.dss.dackDataAck8oct ≠ htobe64 (sha1Least64bits 2 + 5) :=
  have hinput : (mpTrace (initMpState 4 fun _ => 0) dackAfterHandshakeRun)[9].input = dackOnlyIn := by decide
  ⟨by decide, by decide, dss_numbers_offset_from_latest_third_ack 4 _ dackAfterHandshakeRun 9 _ hinput rfl,
    by decide⟩

/-- The call of `dackOnlyIn` on a fresh state. -/
def dackOnlyRecord : MpStepRecord :=
  ⟨initMpState 0 fun _ => 0, dackOnlyIn, initMpState 0 fun _ => 0,
    some (dssDack (initMpState 0 fun _ => 0) dackOnlyOption)⟩

/-- A DSS option is accepted on a fresh state: no third ACK came before it. -/
theorem dss_accepted_before_handshake :
    mpTrace (initMpState 0 fun _ => 0) [dackOnlyIn] = [dackOnlyRecord] ∧ ¬dackOnlyIn.IsThirdAck :=
  ⟨rfl, by decide⟩

end PacketdrillMptcp
