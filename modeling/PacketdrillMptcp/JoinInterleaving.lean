import PacketdrillMptcp.JoinHandshake

/-!
# Interleaved join handshakes

A test opens subflows with MP_JOIN handshakes started by the tool or by the
kernel (`mptcp_subtype_mp_join`, `mptcp.c`, lines 479–672), and the calls of
different handshakes reach `mp_state` in whatever order the script puts their
packets. A handshake's calls create, write and read only the record of its
own port pair (`Join.touchedPairs_calls`): its SYN creates that record with
the initiator's nonce, its SYN/ACK writes the responder's nonce into it, and
its ACK reads it back. A call keeps the record that a search finds for every
pair it does not name (`mpStep_subflowOf`), so no handshake loses or
overwrites what another has done. The handshakes do share the generator,
which the tool's SYN and SYN/ACK draw from, so which nonce the tool gets
depends on the interleaving; the results hold whichever it is.

`Interleave ls zs` says that `zs` runs the calls of the lists `ls` in an
order that keeps each list's own order. No scheduler is fixed.

Results:
* `Join.step`: the next call of a handshake is accepted once its earlier
  calls have run, whatever ran between them, and moves its record one stage on.
* `JoinsProgress.run`: a run of any interleaving is accepted and leaves every
  record complete.
* `JoinsProgress.pending`: in that run, each SYN/ACK and ACK carries the HMAC
  over the nonces its own pair's record ends with.
* `interleaved_joins_accepted`: for handshakes on distinct pairs, started by
  either side, every interleaving of their calls is accepted from any state.
  Each pair's record ends with a tool nonce and with the nonce and address ID
  its kernel sent, and the HMACs of that pair's SYN/ACK and ACK are over those
  two nonces, in the order of the side that sends them.
* `connection_joins_authenticated`: on a connection the tool opens, the joins
  that follow its MP_CAPABLE handshake, in any interleaving, are all keyed by
  the two keys of that handshake's third ACK.
-/

namespace PacketdrillMptcp

/-! ## Handshakes as calls -/

/-- A join handshake the tool starts, as the script's three calls: the SYN
and the ACK inbound, and the kernel's SYN/ACK outbound against its live
packet. -/
structure ToolJoin where
  syn : Packet
  synAck : Packet
  live : Packet
  ack : Packet
  synLive : Packet
  ackLive : Packet
  synIndex : ℕ
  synAckIndex : ℕ
  ackIndex : ℕ
  synOpt : TcpOption
  synAckOpt : TcpOption
  ackOpt : TcpOption
  liveMpJoin : TcpOption
  wellFormed : ToolJoinHandshake syn synAck live ack synOpt synAckOpt ackOpt liveMpJoin

/-- A join handshake the kernel starts, as the script's three calls: the SYN
outbound against its live packet, the tool's SYN/ACK inbound, and the ACK
outbound. -/
structure KernelJoin where
  syn : Packet
  live : Packet
  synAck : Packet
  ack : Packet
  synAckLive : Packet
  ackLive : Packet
  synIndex : ℕ
  synAckIndex : ℕ
  ackIndex : ℕ
  synOpt : TcpOption
  synAckOpt : TcpOption
  ackOpt : TcpOption
  liveMpJoin : TcpOption
  wellFormed : KernelJoinHandshake syn live synAck ack synOpt synAckOpt ackOpt liveMpJoin

/-- A join handshake started by either side. -/
inductive Join
  | tool (j : ToolJoin)
  | kernel (j : KernelJoin)

/-- The handshake's SYN. -/
def Join.synCall : Join → MpInput
  | .tool j => .option j.syn j.synLive j.synIndex j.synOpt .inbound
  | .kernel j => .option j.syn j.live j.synIndex j.synOpt .outbound

/-- The handshake's SYN/ACK. -/
def Join.synAckCall : Join → MpInput
  | .tool j => .option j.synAck j.live j.synAckIndex j.synAckOpt .outbound
  | .kernel j => .option j.synAck j.synAckLive j.synAckIndex j.synAckOpt .inbound

/-- The handshake's ACK. -/
def Join.ackCall : Join → MpInput
  | .tool j => .option j.ack j.ackLive j.ackIndex j.ackOpt .inbound
  | .kernel j => .option j.ack j.ackLive j.ackIndex j.ackOpt .outbound

/-- The handshake's calls, in its own order. -/
def Join.calls (j : Join) : List MpInput := [j.synCall, j.synAckCall, j.ackCall]

/-- The tool-perspective port pair of the handshake's subflow. -/
def Join.pair : Join → UInt16 × UInt16
  | .tool j => j.syn.inboundPorts
  | .kernel j => j.live.outboundPorts

/-- The kernel's nonce, from its live SYN/ACK or SYN. -/
def Join.kernelNonce : Join → UInt32
  | .tool j => j.liveMpJoin.data.mpJoin.synAckSenderRandomNumber
  | .kernel j => j.liveMpJoin.data.mpJoin.synNoAckSenderRandomNumber

/-- The kernel's address ID, from its live SYN/ACK or SYN. -/
def Join.kernelAddrId : Join → UInt8
  | .tool j => j.liveMpJoin.data.mpJoin.synAddressId
  | .kernel j => j.liveMpJoin.data.mpJoin.synAddressId

/-- The truncated HMAC of the SYN/ACK: keyed by the responder's key then the
initiator's, over the responder's nonce then the initiator's. The tool
writes its own in network byte order. -/
def Join.synAckHmac : Join → (packetdrillKey kernelKey : UInt64) → (toolNonce kernelNonce : UInt32) → UInt64
  | .tool _, packetdrillKey, kernelKey, toolNonce, kernelNonce =>
    hmacSha1Truncat64 (hmacKey kernelKey packetdrillKey) (hmacMsg kernelNonce toolNonce)
  | .kernel _, packetdrillKey, kernelKey, toolNonce, kernelNonce =>
    htobe64 (hmacSha1Truncat64 (hmacKey packetdrillKey kernelKey) (hmacMsg toolNonce kernelNonce))

/-- The HMAC of the ACK: keyed by the initiator's key then the responder's,
over the initiator's nonce then the responder's. -/
def Join.ackHmac : Join → (packetdrillKey kernelKey : UInt64) → (toolNonce kernelNonce : UInt32) → List UInt8
  | .tool _, packetdrillKey, kernelKey, toolNonce, kernelNonce =>
    hmacSha1 (hmacKey packetdrillKey kernelKey) (hmacMsg toolNonce kernelNonce)
  | .kernel _, packetdrillKey, kernelKey, toolNonce, kernelNonce =>
    hmacSha1 (hmacKey kernelKey packetdrillKey) (hmacMsg kernelNonce toolNonce)

/-- The initiator's half of a record, which the SYN writes: the tool's nonce,
or the kernel's nonce and address ID. -/
def Join.Initiated : Join → MpSubflow → Prop
  | .tool _, subflow => subflow.packetdrillRandNbr ≠ none
  | j@(.kernel _), subflow => subflow.kernelRandNbr = some j.kernelNonce ∧ subflow.kernelAddrId = some j.kernelAddrId

/-- A record with both nonces and the kernel's address ID. -/
def Join.Complete (j : Join) (subflow : MpSubflow) : Prop :=
  subflow.packetdrillRandNbr ≠ none ∧ subflow.kernelRandNbr = some j.kernelNonce ∧
    subflow.kernelAddrId = some j.kernelAddrId

/-- What the first `m` calls of the handshake leave in the record of its pair:
nothing before the SYN, the initiator's half after it, and both halves after
the SYN/ACK, which the ACK keeps. -/
def Join.Stage (j : Join) (record : Option MpSubflow) : ℕ → Prop
  | 0 => True
  | 1 => ∃ subflow, record = some subflow ∧ j.Initiated subflow
  | _ + 2 => ∃ subflow, record = some subflow ∧ j.Complete subflow

/-- Only the number of calls left tells where a handshake is. -/
theorem Join.drop_calls_inj (j : Join) {m m' : ℕ} (h : j.calls.drop m = j.calls.drop m') (hm : m < 3) :
    m = m' := by
  have := congrArg List.length h
  simp only [Join.calls, List.length_drop, List.length_cons, List.length_nil] at this
  omega

/-! ## One call -/

/-- An MP_JOIN call changes nothing but subflows, the address-ID counter and
the generator. -/
theorem mpStep_mpJoin_frame {s s' : MpState} {packetToModify livePacket : Packet} {i : ℕ} {tcpOpt : TcpOption}
    {direction : Direction} {status : Status} {out : Option TcpOption} (hsub : tcpOpt.data.subtype = mpJoinSubtype)
    (h : mpStep s (.option packetToModify livePacket i tcpOpt direction) = .ok (status, s', out)) :
    SubflowFrame s s' := by
  obtain ⟨_, hopt, -⟩ := mpStep_option.mp h
  rw [mptcpOption_of_mpJoin hsub] at hopt
  exact mptcpSubtypeMpJoin_frame hopt

/-- So do the calls of a handshake. -/
theorem Join.calls_frame (j : Join) {s s' : MpState} {x : MpInput} (hx : x ∈ j.calls) {status : Status}
    {out : Option TcpOption} (h : mpStep s x = .ok (status, s', out)) : SubflowFrame s s' := by
  simp only [Join.calls, List.mem_cons, List.mem_singleton, List.not_mem_nil, or_false] at hx
  rcases j with j | j <;> have hw := j.wellFormed <;> rcases hx with rfl | rfl | rfl
  exacts [mpStep_mpJoin_frame hw.isSyn.1 h, mpStep_mpJoin_frame hw.isSynAck.1 h, mpStep_mpJoin_frame hw.isAck.1 h,
    mpStep_mpJoin_frame hw.isSyn.1 h, mpStep_mpJoin_frame hw.isSynAck.1 h, mpStep_mpJoin_frame hw.isAck.1 h]

/-- The ACK creates and writes no record. -/
theorem Join.ackCall_touchedPairs (j : Join) : j.ackCall.touchedPairs = [] := by
  rcases j with j | j <;> have h := j.wellFormed <;> have hdss : j.ackOpt.data.subtype ≠ dssSubtype := by
    rw [h.isAck.1]; decide
  all_goals simp [Join.ackCall, MpInput.touchedPairs, createdPorts_of_mpJoin h.isAck.1, h.isAck.2.not_isJoinSyn,
    MpInput.joinSynAckPorts, h.isAck.2.not_isJoinSynAck, dsnDssPorts_of_ne hdss]

/-- The calls of a handshake create or write no record but that of its pair. -/
theorem Join.touchedPairs_calls (j : Join) {x : MpInput} (hx : x ∈ j.calls) {pair : UInt16 × UInt16}
    (hpair : pair ∈ x.touchedPairs) : pair = j.pair := by
  simp only [Join.calls, List.mem_cons, List.mem_singleton, List.not_mem_nil, or_false] at hx
  rcases hx with rfl | rfl | rfl
  · rcases j with j | j <;> have h := j.wellFormed <;> have hdss : j.synOpt.data.subtype ≠ dssSubtype := by
      rw [h.isSyn.1]; decide
    all_goals
      have hsynAck : ¬IsJoinSynAck j.syn j.synOpt := fun hsa => hsa.not_isJoinSyn h.isSyn.2
      simp [Join.synCall, MpInput.touchedPairs, createdPorts_of_mpJoin h.isSyn.1, h.isSyn.2, creationPorts,
        h.liveOption, MpInput.joinSynAckPorts, hsynAck, dsnDssPorts_of_ne hdss] at hpair
      exact hpair.2.symm
  · rcases j with j | j <;> have h := j.wellFormed <;> have hdss : j.synAckOpt.data.subtype ≠ dssSubtype := by
      rw [h.isSynAck.1]; decide
    all_goals simp [Join.synAckCall, MpInput.touchedPairs, createdPorts_of_mpJoin h.isSynAck.1,
      h.isSynAck.2.not_isJoinSyn, MpInput.joinSynAckPorts, h.isSynAck.1, h.isSynAck.2, dsnDssPorts_of_ne hdss] at hpair
    · rw [hpair, h.livePorts]; rfl
    · rw [hpair, h.synAckPorts]; rfl
  · simp [j.ackCall_touchedPairs] at hpair

/-- The SYN creates a record of its pair with the initiator's half, from any
state. -/
theorem Join.synCall_step (j : Join) (s : MpState) :
    ∃ s₁ out subflow, mpStep s j.synCall = .ok (.ok, s₁, out) ∧ s₁.subflowOf j.pair = some subflow ∧
      j.Initiated subflow := by
  rcases j with j | j
  · have h := j.wellFormed
    obtain ⟨subflow, hnew⟩ := newSubflowInbound_isSome s h.hasIp
    obtain ⟨hnonce, hfind⟩ := newSubflowInbound_some hnew
    obtain ⟨_, hstep, -⟩ := mpStep_joinSynIn j.synLive j.synIndex h.isSyn.1 h.isSyn.2 hnew
    rw [findSubflowMatchingInboundPacket_eq_subflowOf] at hfind
    exact ⟨_, _, subflow, hstep, hfind, by simp [Join.Initiated, hnonce]⟩
  · have h := j.wellFormed
    obtain ⟨subflow, hnew, haddr⟩ := newSubflowOutbound_isSome s h.liveOption h.hasIp
    obtain ⟨liveMpJoin, hlive, hnonce, hfind⟩ := newSubflowOutbound_some hnew
    obtain rfl : liveMpJoin = j.liveMpJoin := Option.some.inj (hlive.symm.trans h.liveOption)
    obtain ⟨_, hstep, -⟩ := mpStep_joinSynOut j.synIndex h.isSyn.1 h.isSyn.2 hnew
    rw [findSubflowMatchingOutboundPacket_eq_subflowOf] at hfind
    exact ⟨_, _, subflow, hstep, hfind, hnonce, haddr⟩

/-- Once its pair has a record with the initiator's half, the SYN/ACK writes
the responder's half into it, and its truncated HMAC is over the nonces of
the record it leaves. -/
theorem Join.synAckCall_step (j : Join) {s : MpState} {pre : MpSubflow} (hpre : s.subflowOf j.pair = some pre)
    (hinit : j.Initiated pre) :
    ∃ s₁ opt post, mpStep s j.synAckCall = .ok (.ok, s₁, some opt) ∧ s₁.subflowOf j.pair = some post ∧
      j.Complete post ∧ opt.data.mpJoin.synAckSenderHmac =
        j.synAckHmac s.packetdrillKey s.kernelKey (post.packetdrillRandNbr.getD 0) (post.kernelRandNbr.getD 0) := by
  rcases j with j | j
  · have h := j.wellFormed
    rw [Join.pair, ← h.livePorts] at hpre ⊢
    obtain ⟨opt, hstep, -, hhmac⟩ := mpStep_joinSynAckOut j.synAckIndex h.isSynAck.1 h.isSynAck.2 hpre h.liveOption
    set update := MpSubflow.setKernelJoin j.liveMpJoin.data.mpJoin.synAddressId
      j.liveMpJoin.data.mpJoin.synAckSenderRandomNumber
    exact ⟨_, opt, update pre, hstep, (subflowOf_updateMatchingSubflow_outbound _ _ update fun _ => rfl).trans
      (congrArg (Option.map update) hpre), ⟨hinit, rfl, rfl⟩, hhmac⟩
  · have h := j.wellFormed
    rw [Join.pair, ← h.synAckPorts] at hpre ⊢
    obtain ⟨opt, hstep, -, hhmac⟩ := mpStep_joinSynAckIn j.synAckLive j.synAckIndex h.isSynAck.1 h.isSynAck.2 hpre
    set update := MpSubflow.setPacketdrillRandNbr s.generate32.1
    exact ⟨_, opt, update pre, hstep, (subflowOf_updateMatchingSubflow_inbound _ j.synAck update fun _ => rfl).trans
      (congrArg (Option.map update) hpre), ⟨by simp [update], hinit.1, hinit.2⟩, hhmac⟩

/-- Once its pair has a record, the ACK keeps the state, and its HMAC is over
the record's nonces. -/
theorem Join.ackCall_step (j : Join) {s : MpState} {pre : MpSubflow} (hpre : s.subflowOf j.pair = some pre) :
    ∃ opt, mpStep s j.ackCall = .ok (.ok, s, some opt) ∧ opt.data.mpJoin.noSynSenderHmac =
      j.ackHmac s.packetdrillKey s.kernelKey (pre.packetdrillRandNbr.getD 0) (pre.kernelRandNbr.getD 0) := by
  rcases j with j | j <;> have h := j.wellFormed <;> rw [Join.pair, ← h.ackPorts] at hpre
  exacts [mpStep_joinAckIn j.ackLive j.ackIndex h.isAck.1 h.isAck.2 hpre,
    mpStep_joinAckOut j.ackLive j.ackIndex h.isAck.1 h.isAck.2 hpre]

/-- The next call of a handshake is accepted once its earlier calls have run,
whatever calls on other pairs ran between them, and it moves the record of
its pair one stage on. -/
theorem Join.step (j : Join) (s : MpState) {m : ℕ} {x : MpInput} {rest : List MpInput}
    (hcalls : j.calls.drop m = x :: rest) (hstage : j.Stage (s.subflowOf j.pair) m) :
    ∃ s' out, mpStep s x = .ok (.ok, s', out) ∧ rest = j.calls.drop (m + 1) ∧
      j.Stage (s'.subflowOf j.pair) (m + 1) := by
  match m, hcalls, hstage with
  | 0, hcalls, _ =>
    cases hcalls
    obtain ⟨_, _, subflow, hstep, hfind, hinit⟩ := j.synCall_step s
    exact ⟨_, _, hstep, rfl, subflow, hfind, hinit⟩
  | 1, hcalls, ⟨pre, hpre, hinit⟩ =>
    cases hcalls
    obtain ⟨_, _, post, hstep, hfind, hcomplete, -⟩ := j.synAckCall_step hpre hinit
    exact ⟨_, _, hstep, rfl, post, hfind, hcomplete⟩
  | 2, hcalls, hstage =>
    cases hcalls
    obtain ⟨pre, hpre, -⟩ := id hstage
    obtain ⟨_, hstep, -⟩ := j.ackCall_step hpre
    exact ⟨_, _, hstep, rfl, hstage⟩
  | _ + 3, hcalls, _ => simp [Join.calls] at hcalls

/-! ## Interleavings -/

/-- `Interleave ls zs`: `zs` runs the calls of the lists `ls`, taking at each
point the next call of any list that has one left, so that each list keeps
its own order. -/
inductive Interleave {α : Type} : List (List α) → List α → Prop
  | done {ls : List (List α)} (h : ∀ l ∈ ls, l = []) : Interleave ls []
  | step {ls : List (List α)} {k : ℕ} {x : α} {rest out : List α} (hk : ls[k]? = some (x :: rest))
      (h : Interleave (ls.set k rest) out) : Interleave ls (x :: out)

/-- Every element of an interleaving comes from one of its lists. -/
theorem Interleave.mem {α : Type} {ls : List (List α)} {zs : List α} (hi : Interleave ls zs) :
    ∀ z ∈ zs, ∃ (k : ℕ) (l : List α), ls[k]? = some l ∧ z ∈ l := by
  induction hi with
  | done => simp
  | @step ls k x rest out hk _ ih =>
    intro z hz
    rcases List.mem_cons.mp hz with rfl | hz
    · exact ⟨k, _, hk, List.mem_cons_self z rest⟩
    · obtain ⟨k', l, hl, hzl⟩ := ih z hz
      rw [List.getElem?_set] at hl
      by_cases hkk : k = k'
      · subst hkk
        rw [if_pos rfl] at hl
        split at hl
        · cases hl; exact ⟨k, _, hk, List.mem_cons_of_mem x hzl⟩
        · cases hl
      · rw [if_neg hkk] at hl
        exact ⟨k', l, hl, hzl⟩

/-- The handshakes `js` part way through a run: `ls` holds the calls each has
left, and the record of each pair shows the calls its handshake has run. -/
def JoinsProgress (js : List Join) (s : MpState) (ls : List (List MpInput)) : Prop :=
  ls.length = js.length ∧ ∀ (k : ℕ) (j : Join) (l : List MpInput), js[k]? = some j → ls[k]? = some l →
    ∃ m, l = j.calls.drop m ∧ j.Stage (s.subflowOf j.pair) m

theorem JoinsProgress.start (js : List Join) (s : MpState) : JoinsProgress js s (js.map Join.calls) := by
  refine ⟨List.length_map _ _, fun k j l hj hl => ⟨0, ?_, trivial⟩⟩
  rw [List.getElem?_map, hj] at hl
  exact (Option.some.inj hl).symm

section
variable {js : List Join} {s : MpState} {ls : List (List MpInput)}

/-- Handshakes at different places of `js` are on different pairs. -/
theorem pair_ne_of_getElem? (hjs : (js.map Join.pair).Nodup) {k k' : ℕ} {j j' : Join}
    (hj : js[k]? = some j) (hj' : js[k']? = some j') (hkk : k ≠ k') : j.pair ≠ j'.pair := fun heq =>
  hkk (List.getElem?_inj (by simpa using (List.getElem?_eq_some_iff.mp hj).1) hjs
    (by simp [List.getElem?_map, hj, hj', heq]))

/-- One call of an interleaving is accepted and keeps every handshake's
progress: its own handshake moves on, and the others' records are not
touched, as their pairs differ. -/
theorem JoinsProgress.step (hjs : (js.map Join.pair).Nodup) (hp : JoinsProgress js s ls) {k : ℕ}
    {x : MpInput} {rest : List MpInput} (hk : ls[k]? = some (x :: rest)) :
    ∃ s' out, mpStep s x = .ok (.ok, s', out) ∧ SubflowFrame s s' ∧ JoinsProgress js s' (ls.set k rest) := by
  obtain ⟨hlen, hstages⟩ := hp
  have hkl : k < js.length := hlen ▸ (List.getElem?_eq_some_iff.mp hk).1
  have hj := List.getElem?_eq_getElem hkl
  obtain ⟨m, hcalls, hstage⟩ := hstages k _ _ hj hk
  obtain ⟨s', out, hstep, hrest, hstage'⟩ := js[k].step s hcalls.symm hstage
  have hx : x ∈ js[k].calls := List.mem_of_mem_drop (hcalls ▸ List.mem_cons_self x rest)
  refine ⟨s', out, hstep, js[k].calls_frame hx hstep, (List.length_set ..).trans hlen, fun k' j' l' hj' hl' => ?_⟩
  by_cases hkk : k = k'
  · subst hkk
    obtain rfl : js[k] = j' := Option.some.inj (hj.symm.trans hj')
    rw [List.getElem?_set_self (hlen ▸ hkl)] at hl'
    exact ⟨m + 1, (Option.some.inj hl').symm.trans hrest, hstage'⟩
  · rw [List.getElem?_set_ne hkk] at hl'
    obtain ⟨m', hl'', hstage''⟩ := hstages k' j' l' hj' hl'
    refine ⟨m', hl'', ?_⟩
    rwa [mpStep_subflowOf hstep fun hin => pair_ne_of_getElem? hjs hj' hj (Ne.symm hkk) (js[k].touchedPairs_calls hx hin)]

/-- When every handshake has no call left, each record is at its last stage. -/
theorem JoinsProgress.finish (hp : JoinsProgress js s ls) (hdone : ∀ l ∈ ls, l = []) :
    ∀ j ∈ js, j.Stage (s.subflowOf j.pair) 2 := by
  intro j hj
  obtain ⟨k, hk, rfl⟩ := List.getElem_of_mem hj
  have hkl : k < ls.length := hp.1 ▸ hk
  obtain ⟨m, hl, hstage⟩ := hp.2 k _ _ (List.getElem?_eq_getElem hk) (List.getElem?_eq_getElem hkl)
  rw [hdone _ (List.getElem_mem hkl)] at hl
  have hm : 3 ≤ m := by simpa [Join.calls] using List.drop_eq_nil_iff.mp hl.symm
  obtain ⟨m, rfl⟩ : ∃ m', m = m' + 2 := ⟨m - 2, by omega⟩
  exact hstage

/-- A run of an interleaving of the calls the handshakes have left is
accepted, and leaves every record at its last stage. -/
theorem JoinsProgress.run (hjs : (js.map Join.pair).Nodup) {zs : List MpInput} (hi : Interleave ls zs)
    (hp : JoinsProgress js s ls) : ∃ s', runInputs s zs = some s' ∧ ∀ j ∈ js, j.Stage (s'.subflowOf j.pair) 2 := by
  induction hi generalizing s with
  | done hdone => exact ⟨s, rfl, hp.finish hdone⟩
  | step hk _ ih =>
    obtain ⟨s', _, hstep, -, hp'⟩ := hp.step hjs hk
    obtain ⟨s'', hrun, hfinal⟩ := ih hp'
    exact ⟨s'', by simp only [runInputs, hstep, hrun], hfinal⟩

/-- A handshake with at most its ACK left keeps its record over the rest of
the run: the ACK writes nothing, and the other handshakes' calls are on other
pairs. -/
theorem JoinsProgress.frozen (hjs : (js.map Join.pair).Nodup) {zs : List MpInput} (hi : Interleave ls zs)
    (hp : JoinsProgress js s ls) {s' : MpState} (hrun : runInputs s zs = some s') {k : ℕ} {j : Join}
    {l : List MpInput} (hj : js[k]? = some j) (hl : ls[k]? = some l) (hlen : l.length ≤ 1) :
    s'.subflowOf j.pair = s.subflowOf j.pair := by
  refine subflow_isolated_in_runs hrun fun z hz => ?_
  obtain ⟨k', l', hl', hzl⟩ := hi.mem z hz
  have hkl : k' < js.length := hp.1 ▸ (List.getElem?_eq_some_iff.mp hl').1
  obtain ⟨m, rfl, -⟩ := hp.2 k' _ _ (List.getElem?_eq_getElem hkl) hl'
  by_cases hkk : k = k'
  · subst hkk
    obtain rfl : j = js[k] := Option.some.inj (hj.symm.trans (List.getElem?_eq_getElem hkl))
    obtain rfl := Option.some.inj (hl.symm.trans hl')
    simp only [Join.calls, List.length_drop, List.length_cons, List.length_nil] at hlen
    obtain ⟨m, rfl⟩ : ∃ m', m = m' + 2 := ⟨m - 2, by omega⟩
    have hz : z ∈ [js[k].ackCall] := List.mem_of_mem_drop (by simpa [Join.calls] using hzl)
    rw [List.mem_singleton.mp hz, js[k].ackCall_touchedPairs]
    exact List.not_mem_nil _
  · exact fun hin => pair_ne_of_getElem? hjs hj (List.getElem?_eq_getElem hkl) hkk
      (js[k'].touchedPairs_calls (List.mem_of_mem_drop hzl) hin)

end

/-! ## Authentication -/

/-- The SYN/ACK and the ACK of a handshake, each if it is among the calls the
handshake has left once `m` have run, are in `trace`, and carry the HMACs
over the nonces of `subflow`, keyed by the two keys. -/
def Join.Authenticated (j : Join) (packetdrillKey kernelKey : UInt64) (trace : List MpStepRecord)
    (subflow : MpSubflow) (m : ℕ) : Prop :=
  (m ≤ 1 → ∃ r ∈ trace, r.input = j.synAckCall ∧ r.out.map (·.data.mpJoin.synAckSenderHmac) =
    some (j.synAckHmac packetdrillKey kernelKey (subflow.packetdrillRandNbr.getD 0) (subflow.kernelRandNbr.getD 0))) ∧
  (m ≤ 2 → ∃ r ∈ trace, r.input = j.ackCall ∧ r.out.map (·.data.mpJoin.noSynSenderHmac) =
    some (j.ackHmac packetdrillKey kernelKey (subflow.packetdrillRandNbr.getD 0) (subflow.kernelRandNbr.getD 0)))

theorem Join.Authenticated.cons {j : Join} {packetdrillKey kernelKey : UInt64} {trace : List MpStepRecord}
    {subflow : MpSubflow} {m : ℕ} (h : j.Authenticated packetdrillKey kernelKey trace subflow m)
    (r : MpStepRecord) : j.Authenticated packetdrillKey kernelKey (r :: trace) subflow m :=
  ⟨fun hm => (h.1 hm).imp fun _ ⟨hr, hx⟩ => ⟨List.mem_cons_of_mem r hr, hx⟩,
    fun hm => (h.2 hm).imp fun _ ⟨hr, hx⟩ => ⟨List.mem_cons_of_mem r hr, hx⟩⟩

section
variable {js : List Join} {s : MpState} {ls : List (List MpInput)}

/-- In a run of an interleaving, every SYN/ACK and ACK a handshake has left
is accepted and carries the HMAC over the nonces its pair's record ends with,
keyed by the keys the run starts with. -/
theorem JoinsProgress.pending (hjs : (js.map Join.pair).Nodup) {zs : List MpInput} (hi : Interleave ls zs)
    (hp : JoinsProgress js s ls) {s' : MpState} (hrun : runInputs s zs = some s') {k m : ℕ} {j : Join}
    (hj : js[k]? = some j) (hl : ls[k]? = some (j.calls.drop m)) {subflow : MpSubflow}
    (hfinal : s'.subflowOf j.pair = some subflow) :
    j.Authenticated s.packetdrillKey s.kernelKey (mpTrace s zs) subflow m := by
  induction hi generalizing s m with
  | done hdone =>
    have hm : 3 ≤ m := by simpa [Join.calls] using List.drop_eq_nil_iff.mp (hdone _ (List.getElem?_mem hl))
    exact ⟨fun h => absurd h (by omega), fun h => absurd h (by omega)⟩
  | @step ls k' x rest out hk hi' ih =>
    obtain ⟨s₁, out₁, hstep, hframe, hp₁⟩ := hp.step hjs hk
    simp only [runInputs, hstep] at hrun
    rw [mpTrace_cons _ hstep]
    have ih' (m' : ℕ) (hl' : (ls.set k' rest)[k]? = some (j.calls.drop m')) :
        j.Authenticated s.packetdrillKey s.kernelKey (⟨s, x, s₁, out₁⟩ :: mpTrace s₁ out) subflow m' := by
      have := ih hp₁ hrun hl'
      rw [hframe.packetdrillKey, hframe.kernelKey] at this
      exact this.cons _
    by_cases hkk : k' = k
    · subst hkk
      have hkl : k' < ls.length := (List.getElem?_eq_some_iff.mp hk).1
      have hcalls : j.calls.drop m = x :: rest := Option.some.inj (hl.symm.trans hk)
      obtain ⟨m', hm', hstage⟩ := hp.2 k' j _ hj hl
      match m, hcalls, hm' with
      | 0, hcalls, _ =>
        cases hcalls
        have h₁ := ih' 1 (List.getElem?_set_self hkl)
        exact ⟨fun _ => h₁.1 le_rfl, fun _ => h₁.2 (by omega)⟩
      | 1, hcalls, hm' =>
        cases hcalls
        obtain rfl := j.drop_calls_inj hm' (by omega)
        obtain ⟨pre, hpre, hinit⟩ := hstage
        obtain ⟨s₂, opt, post, hstep', hrecord, -, hhmac⟩ := j.synAckCall_step hpre hinit
        obtain ⟨-, rfl, rfl⟩ := Prod.mk.inj_iff.mp (Except.ok.inj (hstep.symm.trans hstep'))
        have hfrozen := hp₁.frozen hjs hi' hrun hj (List.getElem?_set_self hkl) (by simp)
        obtain rfl := Option.some.inj (hfinal.symm.trans (hfrozen.trans hrecord))
        exact ⟨fun _ => ⟨_, List.mem_cons_self _ _, rfl, congrArg some hhmac⟩,
          fun _ => (ih' 2 (List.getElem?_set_self hkl)).2 le_rfl⟩
      | 2, hcalls, hm' =>
        cases hcalls
        obtain rfl := j.drop_calls_inj hm' (by omega)
        obtain ⟨pre, hpre, -⟩ := hstage
        obtain ⟨opt, hstep', hhmac⟩ := j.ackCall_step hpre
        obtain ⟨-, rfl, rfl⟩ := Prod.mk.inj_iff.mp (Except.ok.inj (hstep.symm.trans hstep'))
        have hfrozen := hp₁.frozen hjs hi' hrun hj (List.getElem?_set_self hkl) (by simp)
        obtain rfl := Option.some.inj (hfinal.symm.trans (hfrozen.trans hpre))
        exact ⟨fun h => absurd h (by omega), fun _ => ⟨_, List.mem_cons_self _ _, rfl, congrArg some hhmac⟩⟩
      | _ + 3, hcalls, _ => simp [Join.calls] at hcalls
    · exact ih' m (by rw [List.getElem?_set_ne hkk, hl])


/-- At the end of a run of an interleaving of whole handshakes, each record
is complete, and each handshake's SYN/ACK and ACK carry the HMACs over that
record's two nonces, keyed by the keys the run starts with. -/
theorem JoinsProgress.authenticated (hjs : (js.map Join.pair).Nodup) {zs : List MpInput}
    (hi : Interleave (js.map Join.calls) zs) {s' : MpState} (hrun : runInputs s zs = some s')
    (hstages : ∀ j ∈ js, j.Stage (s'.subflowOf j.pair) 2) {j : Join} (hj : j ∈ js) :
    ∃ subflow toolNonce, s'.subflowOf j.pair = some subflow ∧
      subflow.packetdrillRandNbr = some toolNonce ∧ subflow.kernelRandNbr = some j.kernelNonce ∧
      subflow.kernelAddrId = some j.kernelAddrId ∧
      (∃ r ∈ mpTrace s zs, r.input = j.synAckCall ∧ r.out.map (·.data.mpJoin.synAckSenderHmac) =
        some (j.synAckHmac s.packetdrillKey s.kernelKey toolNonce j.kernelNonce)) ∧
      ∃ r ∈ mpTrace s zs, r.input = j.ackCall ∧ r.out.map (·.data.mpJoin.noSynSenderHmac) =
        some (j.ackHmac s.packetdrillKey s.kernelKey toolNonce j.kernelNonce) := by
  obtain ⟨subflow, hfinal, hnonce, hkernel, haddr⟩ := hstages j hj
  obtain ⟨toolNonce, hnonce⟩ := Option.ne_none_iff_exists'.mp hnonce
  obtain ⟨k, hk, rfl⟩ := List.getElem_of_mem hj
  have hl : (js.map Join.calls)[k]? = some (js[k].calls.drop 0) := by simp [hk]
  obtain ⟨hsynAck, hack⟩ :=
    JoinsProgress.pending hjs hi (JoinsProgress.start js s) hrun (List.getElem?_eq_getElem hk) hl hfinal
  simp only [hnonce, hkernel, Option.getD_some] at hsynAck hack
  exact ⟨subflow, toolNonce, hfinal, hnonce, hkernel, haddr, hsynAck (by omega), hack (by omega)⟩
end

/-! ## Any interleaving -/

/-- Join handshakes on distinct pairs, each started by the tool or by the
kernel, are accepted from any state, whatever order the script interleaves
their calls in. Each pair's record then holds a tool nonce and the nonce and
address ID its own kernel sent. The HMACs of that pair's SYN/ACK and ACK are
over exactly those two nonces, keyed by the keys the run starts with: no
handshake loses what it wrote, and none authenticates with another subflow's
nonces. -/
theorem interleaved_joins_accepted (s : MpState) {js : List Join} (hjs : (js.map Join.pair).Nodup)
    {zs : List MpInput} (hi : Interleave (js.map Join.calls) zs) :
    ∃ s', runInputs s zs = some s' ∧ ∀ j ∈ js, ∃ subflow toolNonce, s'.subflowOf j.pair = some subflow ∧
      subflow.packetdrillRandNbr = some toolNonce ∧ subflow.kernelRandNbr = some j.kernelNonce ∧
      subflow.kernelAddrId = some j.kernelAddrId ∧
      (∃ r ∈ mpTrace s zs, r.input = j.synAckCall ∧ r.out.map (·.data.mpJoin.synAckSenderHmac) =
        some (j.synAckHmac s.packetdrillKey s.kernelKey toolNonce j.kernelNonce)) ∧
      ∃ r ∈ mpTrace s zs, r.input = j.ackCall ∧ r.out.map (·.data.mpJoin.noSynSenderHmac) =
        some (j.ackHmac s.packetdrillKey s.kernelKey toolNonce j.kernelNonce) := by
  obtain ⟨s', hrun, hstages⟩ := JoinsProgress.run hjs hi (JoinsProgress.start js s)
  exact ⟨s', hrun, fun j hj => JoinsProgress.authenticated hjs hi hrun hstages hj⟩

/-- The tool's join on (10000, 80). -/
def firstToolJoin : ToolJoin :=
  ⟨joinSynPacket, kernelJoinSynAckPacket, kernelJoinSynAckPacket, joinAckPacket, joinSynPacket, joinAckPacket, 0, 0,
    0, joinSynOption, joinSynAckOption, joinAckOption, joinSynAckOption,
    ⟨by decide, by decide, by decide, rfl, by decide, by decide, by decide⟩⟩

/-- The kernel's JOIN SYN from port 80 to port 10001. -/
def secondKernelJoinSynPacket : Packet := tcpPacket 0x5000 0x1127 true false [joinSynOption]

/-- The tool's JOIN SYN/ACK from port 10001 to port 80. -/
def secondToolJoinSynAckPacket : Packet := tcpPacket 0x1127 0x5000 true true [joinSynAckOption]

/-- The kernel's JOIN ACK from port 80 to port 10001. -/
def secondKernelJoinAckPacket : Packet := tcpPacket 0x5000 0x1127 false true [joinAckOption]

/-- The kernel's join on (10001, 80). -/
def secondKernelJoin : KernelJoin :=
  ⟨secondKernelJoinSynPacket, secondKernelJoinSynPacket, secondToolJoinSynAckPacket, secondKernelJoinAckPacket,
    secondToolJoinSynAckPacket, secondKernelJoinAckPacket, 0, 0, 0, joinSynOption, joinSynAckOption, joinAckOption,
    joinSynOption, ⟨by decide, rfl, by decide, by decide, by decide, by decide, by decide⟩⟩

/-- A join the tool starts and one the kernel starts: both SYNs first, the
kernel's join's SYN/ACK before the tool's join's, then the ACKs in the
order of the SYN/ACKs. -/
def crossedJoinCalls : List MpInput :=
  [(Join.tool firstToolJoin).synCall, (Join.kernel secondKernelJoin).synCall,
    (Join.kernel secondKernelJoin).synAckCall, (Join.tool firstToolJoin).synAckCall,
    (Join.kernel secondKernelJoin).ackCall, (Join.tool firstToolJoin).ackCall]

/-- The crossed calls interleave the calls of the two joins. -/
theorem crossedJoinCalls_interleave :
    Interleave ([Join.tool firstToolJoin, Join.kernel secondKernelJoin].map Join.calls) crossedJoinCalls :=
  .step (k := 0) rfl <| .step (k := 1) rfl <| .step (k := 1) rfl <| .step (k := 0) rfl <| .step (k := 1) rfl <|
    .step (k := 0) rfl <| .done (by simp)

/-- After the MP_CAPABLE handshake, a join of each side with crossed calls
is accepted. -/
theorem crossed_joins_accepted :
    ([Join.tool firstToolJoin, Join.kernel secondKernelJoin].map Join.pair).Nodup ∧
      Interleave ([Join.tool firstToolJoin, Join.kernel secondKernelJoin].map Join.calls) crossedJoinCalls ∧
      ∃ s', runInputs handshakeState crossedJoinCalls = some s' :=
  have hjs : ([Join.tool firstToolJoin, Join.kernel secondKernelJoin].map Join.pair).Nodup := by decide
  have ⟨s', hrun, _⟩ := interleaved_joins_accepted handshakeState hjs crossedJoinCalls_interleave
  ⟨hjs, crossedJoinCalls_interleave, s', hrun⟩

/-! ## A connection -/

section
variable {capSyn capSynAck capAck capLive livePacket₁ livePacket₃ : Packet} {i₁ i₂ i₃ : ℕ}
  {capOpt₁ capOpt₂ capOpt₃ liveMpCapable : TcpOption} {toolName kernelName : String}

/-- On a connection the tool opens from a state with fresh names, whose
queued copies read alike (`CapableNamesFresh`), and no keys, join handshakes on distinct pairs, started by either side and
interleaved in any order, are all accepted after the MP_CAPABLE handshake.
Every join's SYN/ACK and ACK HMACs are keyed by the two keys the MP_CAPABLE
third ACK carried, and are over one tool nonce and that join's own kernel
nonce. -/
theorem connection_joins_authenticated {s : MpState} (hs : CapableNamesFresh s toolName kernelName)
    (hc : CapableHandshake capSyn capSynAck capAck capLive capOpt₁ capOpt₂ capOpt₃ liveMpCapable)
    {js : List Join} (hjs : (js.map Join.pair).Nodup) {zs : List MpInput} (hi : Interleave (js.map Join.calls) zs) :
    (∃ s', runInputs s (.option capSyn livePacket₁ i₁ capOpt₁ .inbound ::
      .option capSynAck capLive i₂ capOpt₂ .outbound :: .option capAck livePacket₃ i₃ capOpt₃ .inbound :: zs) =
        some s') ∧
    ∃ r₁ r₂ r₃ rs, mpTrace s (.option capSyn livePacket₁ i₁ capOpt₁ .inbound ::
        .option capSynAck capLive i₂ capOpt₂ .outbound :: .option capAck livePacket₃ i₃ capOpt₃ .inbound :: zs) =
        r₁ :: r₂ :: r₃ :: rs ∧
      ∃ toolKey kernelKey,
        r₃.out.map (fun o => (o.data.mpCapable.noSynSenderKey, o.data.mpCapable.noSynReceiverKey)) =
          some (toolKey, kernelKey) ∧
        ∀ j ∈ js, ∃ toolNonce,
          (∃ r ∈ rs, r.input = j.synAckCall ∧ r.out.map (·.data.mpJoin.synAckSenderHmac) =
            some (j.synAckHmac toolKey kernelKey toolNonce j.kernelNonce)) ∧
          ∃ r ∈ rs, r.input = j.ackCall ∧ r.out.map (·.data.mpJoin.noSynSenderHmac) =
            some (j.ackHmac toolKey kernelKey toolNonce j.kernelNonce) := by
  obtain ⟨s₁, s₂, s₃, h₁, h₂, h₃, htool, hkernel, -, -⟩ := hc.toolRun hs livePacket₁ livePacket₃ i₁ i₂ i₃
  obtain ⟨s', hrun, hstages⟩ := JoinsProgress.run hjs hi (JoinsProgress.start js s₃)
  rw [mpTrace_cons _ h₁, mpTrace_cons _ h₂, mpTrace_cons _ h₃]
  refine ⟨⟨s', by simp only [runInputs, h₁, h₂, h₃, hrun]⟩, _, _, _, _, rfl, _, _, rfl, fun j hj => ?_⟩
  obtain ⟨-, toolNonce, -, -, -, -, hsynAck, hack⟩ := JoinsProgress.authenticated hjs hi hrun hstages hj
  rw [htool, hkernel] at hsynAck hack
  exact ⟨toolNonce, hsynAck, hack⟩

/-- After the parser's calls, the tool opens the connection on port 10000,
and then a join of each side runs with crossed calls. -/
theorem crossed_joins_on_capable_connection :
    CapableNamesFresh capableParsed "a" "b" ∧
      CapableHandshake capableSynPacket capableSynAckPacket thirdAckPacket capableSynAckPacket capableSynOption
        capableSynOption thirdAckOption capableSynOption ∧
      ([Join.tool firstToolJoin, Join.kernel secondKernelJoin].map Join.pair).Nodup ∧
      Interleave ([Join.tool firstToolJoin, Join.kernel secondKernelJoin].map Join.calls) crossedJoinCalls ∧
      ∃ s', runInputs capableParsed (.option capableSynPacket capableSynPacket 0 capableSynOption .inbound ::
        .option capableSynAckPacket capableSynAckPacket 0 capableSynOption .outbound ::
        .option thirdAckPacket thirdAckPacket 0 thirdAckOption .inbound :: crossedJoinCalls) = some s' :=
  have hs : CapableNamesFresh capableParsed "a" "b" := ⟨⟨[], rfl⟩, by decide, rfl, rfl, rfl, rfl⟩
  have hc : CapableHandshake capableSynPacket capableSynAckPacket thirdAckPacket capableSynAckPacket capableSynOption
      capableSynOption thirdAckOption capableSynOption := ⟨by decide, by decide, by decide, rfl⟩
  have hjs : ([Join.tool firstToolJoin, Join.kernel secondKernelJoin].map Join.pair).Nodup := by decide
  ⟨hs, hc, hjs, crossedJoinCalls_interleave,
    (connection_joins_authenticated hs hc hjs crossedJoinCalls_interleave).1⟩

end

end PacketdrillMptcp
