import PacketdrillMptcp.Statuses
import PacketdrillMptcp.Failures

/-!
# The MP_CAPABLE handshake

A connection is opened by a three-way MP_CAPABLE handshake
(`mptcp_subtype_mp_capable`, `mptcp.c`, lines 426–472), started by either
side. The SYN and the SYN/ACK each name a key, and the third ACK names both
again, so the parser queues the two names twice. The key call of the SYN
binds the first name to the key of the side that sends it: `mptcp_gen_key`
draws the tool's key from the generator, and `extract_and_set_kernel_key`
reads the kernel's from the live option. The SYN/ACK's key call binds the
second name the same way, and the third ACK reads both names back
(`mptcp_set_mp_cap_keys`). The names are read from buffers without a 0
(`NameBuffers`), so the third ACK finds the bindings only when its copies of
the names read as the first ones (`CapableNamesFresh`).

Results:
* `tool_capable_handshake`: from a state with fresh names and no keys, a
  handshake the tool starts is accepted. The third ACK carries the two keys
  the SYN and the SYN/ACK carried, the tool's as sender's, and the initial
  data sequence number derives from the tool's key.
* `kernel_capable_handshake`: the same for a handshake the kernel starts.
-/

namespace PacketdrillMptcp

/-- The trace of three accepted calls. -/
theorem mpTrace_three {s s₁ s₂ s₃ : MpState} {x₁ x₂ x₃ : MpInput} {out₁ out₂ out₃ : Option TcpOption}
    (h₁ : mpStep s x₁ = .ok (.ok, s₁, out₁)) (h₂ : mpStep s₁ x₂ = .ok (.ok, s₂, out₂))
    (h₃ : mpStep s₂ x₃ = .ok (.ok, s₃, out₃)) :
    mpTrace s [x₁, x₂, x₃] = [⟨s, x₁, s₁, out₁⟩, ⟨s₁, x₂, s₂, out₂⟩, ⟨s₂, x₃, s₃, out₃⟩] := by
  rw [mpTrace_cons _ h₁, mpTrace_cons _ h₂, mpTrace_cons _ h₃]
  rfl

/-! ## Well-formed handshakes -/

/-- The state before an MP_CAPABLE handshake whose SYN names the key `first`
and whose SYN/ACK names the key `second`: no key is set yet, both names are
unbound, and the parser queued them in the order the SYN, the SYN/ACK and the
third ACK read them. The queue holds the names as their buffers read
(`enqueueVar`), so the third ACK's copies must read as the SYN's and the
SYN/ACK's: the memory after the two buffers of a name must hold the same
string. -/
structure CapableNamesFresh (s : MpState) (first second : String) : Prop where
  queue : ∃ rest, s.varsQueue = first :: second :: first :: second :: rest
  distinct : first ≠ second
  firstUnbound : findMpVar s first = none
  secondUnbound : findMpVar s second = none
  toolKeyUnset : s.packetdrillKeySet = false
  kernelKeyUnset : s.kernelKeySet = false

/-- The three calls of an MP_CAPABLE handshake are well formed: a SYN, a
SYN/ACK and a third ACK by their flags and lengths, and the live packet the
kernel's key is read from carries an MPTCP option (the SYN/ACK's when the tool
starts the handshake, the SYN's when the kernel does). -/
structure CapableHandshake (syn synAck ack live : Packet) (tcpOpt₁ tcpOpt₂ tcpOpt₃ liveMpCapable : TcpOption) :
    Prop where
  isSyn : tcpOpt₁.data.subtype = mpCapableSubtype ∧ IsCapableSyn syn tcpOpt₁
  isSynAck : tcpOpt₂.data.subtype = mpCapableSubtype ∧ IsCapableSyn synAck tcpOpt₂
  isAck : tcpOpt₃.data.subtype = mpCapableSubtype ∧ IsThirdAck ack tcpOpt₃
  liveOption : getTcpOption live tcpoptMptcp = some liveMpCapable

/-! ## The key calls -/

@[simp] theorem MpVarValue.read_dequeueVar (s : MpState) (value : MpVarValue) :
    value.read (dequeueVar s).2 = value.read s := by
  rcases value with _ | _ | _ <;> rfl

/-- A binding put in front of another name's. -/
theorem findMpVar_addMpVarKey_of_ne (s : MpState) {name name' : String} (h : name ≠ name') (slot : KeySlot) :
    findMpVar (addMpVarKey s name slot) name' = findMpVar s name' := by
  rw [findMpVar_of_vars_cons (s := s) rfl, if_neg h]

/-- `mptcp_gen_key` on a fresh front name while the tool's key is unset: a
draw from the generator becomes the key, and the name is bound to it. -/
theorem mptcpGenKey_fresh {s : MpState} {name : String} (hfront : queueFront s = some name)
    (hfresh : findMpVar s name = none) (hunset : s.packetdrillKeySet = false) :
    mptcpGenKey s = (.ok, addMpVarKey (setPacketdrillKey s.rand64.2 s.rand64.1) name .packetdrillKey) := by
  simp only [mptcpGenKey, hfront, setKeyFromScript, hfresh, hunset]
  rfl

/-- `extract_and_set_kernel_key` on a fresh front name while the kernel's key
is unset: the live option's key becomes the key, and the name is bound to
it. -/
theorem extractAndSetKernelKey_fresh {s : MpState} {livePacket : Packet} {liveMpCapable : TcpOption}
    (hlive : getTcpOption livePacket tcpoptMptcp = some liveMpCapable) {name : String}
    (hfront : queueFront s = some name) (hfresh : findMpVar s name = none) (hunset : s.kernelKeySet = false) :
    extractAndSetKernelKey s livePacket =
      (.ok, addMpVarKey (setKernelKey s liveMpCapable.data.mpCapable.synKey) name .kernelKey) := by
  simp only [extractAndSetKernelKey, hlive, adoptFrontScriptKey, hfront, setKeyFromScript, hfresh, hunset,
    Bool.false_eq_true, if_false, setKernelKey, queueFront_setKey]

/-- `mptcp_set_mp_cap_syn_key` on a bound front name. -/
theorem mptcpSetMpCapSynKey_bound {s : MpState} {name : String} {value : MpVarValue}
    (hfront : queueFront s = some name) (hbound : (findMpVar s name).map (·.value) = some value) (tcpOpt : TcpOption) :
    mptcpSetMpCapSynKey s tcpOpt = (.ok, (dequeueVar s).2, { tcpOpt with data.mpCapable.synKey := value.read s }) := by
  simp only [mptcpSetMpCapSynKey, findNextKey_eq, hfront, Option.some_bind, hbound, MpVarValue.read_dequeueVar]

/-- A key call that bound the front name, then the SYN key write: the name is
dequeued and its key written. -/
theorem mptcpSetMpCapSynKey_addMpVarKey {s : MpState} {name : String} {rest : List String}
    (hq : s.varsQueue = name :: rest) (slot : KeySlot) (tcpOpt : TcpOption) :
    mptcpSetMpCapSynKey (addMpVarKey s name slot) tcpOpt =
      (.ok, { addMpVarKey s name slot with varsQueue := rest },
        { tcpOpt with data.mpCapable.synKey := s.key slot }) := by
  have hq' : (addMpVarKey s name slot).varsQueue = name :: rest := hq
  rw [mptcpSetMpCapSynKey_bound (by rw [queueFront, hq']; rfl) (by rw [findMpVar_addMpVarKey_self]; rfl)]
  simp only [dequeueVar, hq', List.tail_cons]
  cases slot <;> rfl

/-- `mptcp_set_mp_cap_keys` on two bound front names. -/
theorem mptcpSetMpCapKeys_bound {s : MpState} {sender receiver : String} {rest : List String}
    (hq : s.varsQueue = sender :: receiver :: rest) {senderValue receiverValue : MpVarValue}
    (hsender : (findMpVar s sender).map (·.value) = some senderValue)
    (hreceiver : (findMpVar s receiver).map (·.value) = some receiverValue) (tcpOpt : TcpOption) :
    mptcpSetMpCapKeys s tcpOpt = (.ok, { s with varsQueue := rest }, { tcpOpt with
      data.mpCapable.noSynSenderKey := senderValue.read s,
      data.mpCapable.noSynReceiverKey := receiverValue.read s }) := by
  simp only [mptcpSetMpCapKeys, findNextKey_eq, queueFront, hq, List.head?_cons, Option.some_bind, hsender,
    findMpVar_dequeueVar, dequeueVar_varsQueue, List.tail_cons, hreceiver, MpVarValue.read_dequeueVar]
  simp only [dequeueVar, hq, List.tail_cons]

/-! ## The three steps -/

section
variable {s : MpState} {packetToModify : Packet} {tcpOpt : TcpOption} {name : String} {rest : List String}

theorem mpStep_capableSynIn (livePacket : Packet) (i : ℕ) (hsub : tcpOpt.data.subtype = mpCapableSubtype)
    (hsyn : IsCapableSyn packetToModify tcpOpt) (hq : s.varsQueue = name :: rest) (hfresh : findMpVar s name = none)
    (hunset : s.packetdrillKeySet = false) :
    mpStep s (.option packetToModify livePacket i tcpOpt .inbound) =
      .ok (.ok, { addMpVarKey (setPacketdrillKey s.rand64.2 (s.random 0)) name .packetdrillKey with varsQueue := rest },
        some { tcpOpt with data.mpCapable.synKey := s.random 0 }) := by
  simp only [mpStep, mptcpOption_of_mpCapable hsub, mptcpSubtypeMpCapable_synInbound hsyn, mpCapableGenAndSetKey_eq,
    mptcpGenKey_fresh (by rw [queueFront, hq]; rfl) hfresh hunset,
    mptcpSetMpCapSynKey_addMpVarKey (s := setPacketdrillKey s.rand64.2 s.rand64.1) hq]
  rfl

theorem mpStep_capableSynOut {livePacket : Packet} (i : ℕ) (hsub : tcpOpt.data.subtype = mpCapableSubtype)
    (hsyn : IsCapableSyn packetToModify tcpOpt) {liveMpCapable : TcpOption}
    (hlive : getTcpOption livePacket tcpoptMptcp = some liveMpCapable) (hq : s.varsQueue = name :: rest)
    (hfresh : findMpVar s name = none) (hunset : s.kernelKeySet = false) :
    mpStep s (.option packetToModify livePacket i tcpOpt .outbound) =
      .ok (.ok, { addMpVarKey (setKernelKey s liveMpCapable.data.mpCapable.synKey) name .kernelKey with
          varsQueue := rest },
        some { tcpOpt with data.mpCapable.synKey := liveMpCapable.data.mpCapable.synKey }) := by
  simp only [mpStep, mptcpOption_of_mpCapable hsub, mptcpSubtypeMpCapable_synOutbound hsyn, mpCapableExtractAndSetKey,
    extractAndSetKernelKey_fresh hlive (by rw [queueFront, hq]; rfl) hfresh hunset,
    mptcpSetMpCapSynKey_addMpVarKey (s := setKernelKey s _) hq]
  rfl

theorem mpStep_capableThirdAck (livePacket : Packet) (i : ℕ) (direction : Direction)
    (hsub : tcpOpt.data.subtype = mpCapableSubtype) (hack : IsThirdAck packetToModify tcpOpt) {sender receiver : String}
    (hq : s.varsQueue = sender :: receiver :: rest) {senderValue receiverValue : MpVarValue}
    (hsender : (findMpVar s sender).map (·.value) = some senderValue)
    (hreceiver : (findMpVar s receiver).map (·.value) = some receiverValue) :
    mpStep s (.option packetToModify livePacket i tcpOpt direction) =
      .ok (.ok, (newSubflow { s with varsQueue := rest, initialDsn := sha1Least64bits s.packetdrillKey }
          packetToModify direction).2,
        some { tcpOpt with
          data.mpCapable.noSynSenderKey := senderValue.read s,
          data.mpCapable.noSynReceiverKey := receiverValue.read s }) := by
  simp only [mpStep, mptcpOption_of_mpCapable hsub, mptcpSubtypeMpCapable_thirdAck hack, mpCapableThirdAck_eq,
    mptcpSetMpCapKeys_bound hq hsender hreceiver]
  rfl

end

/-! ## The handshakes -/

section
variable {syn synAck live ack livePacket₁ livePacket₂ livePacket₃ : Packet} {i₁ i₂ i₃ : ℕ}
  {tcpOpt₁ tcpOpt₂ tcpOpt₃ liveMpCapable : TcpOption} {toolName kernelName : String}

/-- The three steps of a handshake the tool starts, with the options they
write and the keys, initial data sequence number and queue they leave. -/
theorem CapableHandshake.toolRun (h : CapableHandshake syn synAck ack live tcpOpt₁ tcpOpt₂ tcpOpt₃ liveMpCapable)
    {s : MpState} (hs : CapableNamesFresh s toolName kernelName) (livePacket₁ livePacket₃ : Packet) (i₁ i₂ i₃ : ℕ) :
    ∃ s₁ s₂ s₃, mpStep s (.option syn livePacket₁ i₁ tcpOpt₁ .inbound) =
        .ok (.ok, s₁, some { tcpOpt₁ with data.mpCapable.synKey := s.random 0 }) ∧
      mpStep s₁ (.option synAck live i₂ tcpOpt₂ .outbound) =
        .ok (.ok, s₂, some { tcpOpt₂ with data.mpCapable.synKey := liveMpCapable.data.mpCapable.synKey }) ∧
      mpStep s₂ (.option ack livePacket₃ i₃ tcpOpt₃ .inbound) = .ok (.ok, s₃, some { tcpOpt₃ with
        data.mpCapable.noSynSenderKey := s.random 0,
        data.mpCapable.noSynReceiverKey := liveMpCapable.data.mpCapable.synKey }) ∧
      s₃.packetdrillKey = s.random 0 ∧ s₃.kernelKey = liveMpCapable.data.mpCapable.synKey ∧
      s₃.initialDsn = sha1Least64bits (s.random 0) ∧ s₃.varsQueue = s.varsQueue.drop 4 := by
  obtain ⟨rest, hq⟩ := hs.queue
  have h₁ := mpStep_capableSynIn livePacket₁ i₁ h.isSyn.1 h.isSyn.2 hq hs.firstUnbound hs.toolKeyUnset
  set s₀ := setPacketdrillKey s.rand64.2 (s.random 0)
  have h₂ := mpStep_capableSynOut
    (s := { addMpVarKey s₀ toolName .packetdrillKey with varsQueue := kernelName :: toolName :: kernelName :: rest }) i₂
    h.isSynAck.1 h.isSynAck.2 h.liveOption rfl
    ((findMpVar_addMpVarKey_of_ne s₀ hs.distinct _).trans hs.secondUnbound) hs.kernelKeyUnset
  set s₁ := setKernelKey { addMpVarKey s₀ toolName .packetdrillKey with varsQueue := kernelName :: toolName ::
    kernelName :: rest } liveMpCapable.data.mpCapable.synKey
  have h₃ := mpStep_capableThirdAck
    (s := { addMpVarKey s₁ kernelName .kernelKey with varsQueue := toolName :: kernelName :: rest }) livePacket₃ i₃
    .inbound h.isAck.1 h.isAck.2 rfl
    (congrArg _ ((findMpVar_addMpVarKey_of_ne s₁ hs.distinct.symm _).trans (findMpVar_addMpVarKey_self s₀ _ _)))
    (congrArg _ (findMpVar_addMpVarKey_self s₁ _ _))
  have hframe := newSubflow_frame { addMpVarKey s₁ kernelName .kernelKey with
    varsQueue := rest, initialDsn := sha1Least64bits (s.random 0) } ack .inbound
  refine ⟨_, _, _, h₁, h₂, h₃, hframe.packetdrillKey, hframe.kernelKey, hframe.initialDsn, hframe.varsQueue.trans ?_⟩
  rw [hq]
  rfl

/-- The three steps of a handshake the kernel starts, with the options they
write and the keys, initial data sequence number and queue they leave. -/
theorem CapableHandshake.kernelRun (h : CapableHandshake syn synAck ack live tcpOpt₁ tcpOpt₂ tcpOpt₃ liveMpCapable)
    {s : MpState} (hs : CapableNamesFresh s kernelName toolName) (livePacket₂ livePacket₃ : Packet) (i₁ i₂ i₃ : ℕ) :
    ∃ s₁ s₂ s₃, mpStep s (.option syn live i₁ tcpOpt₁ .outbound) =
        .ok (.ok, s₁, some { tcpOpt₁ with data.mpCapable.synKey := liveMpCapable.data.mpCapable.synKey }) ∧
      mpStep s₁ (.option synAck livePacket₂ i₂ tcpOpt₂ .inbound) =
        .ok (.ok, s₂, some { tcpOpt₂ with data.mpCapable.synKey := s.random 0 }) ∧
      mpStep s₂ (.option ack livePacket₃ i₃ tcpOpt₃ .outbound) = .ok (.ok, s₃, some { tcpOpt₃ with
        data.mpCapable.noSynSenderKey := liveMpCapable.data.mpCapable.synKey,
        data.mpCapable.noSynReceiverKey := s.random 0 }) ∧
      s₃.packetdrillKey = s.random 0 ∧ s₃.kernelKey = liveMpCapable.data.mpCapable.synKey ∧
      s₃.initialDsn = sha1Least64bits (s.random 0) ∧ s₃.varsQueue = s.varsQueue.drop 4 := by
  obtain ⟨rest, hq⟩ := hs.queue
  have h₁ := mpStep_capableSynOut i₁ h.isSyn.1 h.isSyn.2 h.liveOption hq hs.firstUnbound hs.kernelKeyUnset
  set s₀ := setKernelKey s liveMpCapable.data.mpCapable.synKey
  set s₁ : MpState :=
    { addMpVarKey s₀ kernelName .kernelKey with varsQueue := toolName :: kernelName :: toolName :: rest }
  have h₂ := mpStep_capableSynIn (s := s₁) livePacket₂ i₂ h.isSynAck.1 h.isSynAck.2 rfl
    ((findMpVar_addMpVarKey_of_ne s₀ hs.distinct _).trans hs.secondUnbound) hs.toolKeyUnset
  set s₂ := setPacketdrillKey s₁.rand64.2 (s₁.random 0)
  have h₃ := mpStep_capableThirdAck
    (s := { addMpVarKey s₂ toolName .packetdrillKey with varsQueue := kernelName :: toolName :: rest }) livePacket₃ i₃
    .outbound h.isAck.1 h.isAck.2 rfl
    (congrArg _ ((findMpVar_addMpVarKey_of_ne s₂ hs.distinct.symm _).trans (findMpVar_addMpVarKey_self s₀ _ _)))
    (congrArg _ (findMpVar_addMpVarKey_self s₂ _ _))
  have hframe := newSubflow_frame { addMpVarKey s₂ toolName .packetdrillKey with
    varsQueue := rest, initialDsn := sha1Least64bits (s.random 0) } ack .outbound
  refine ⟨_, _, _, h₁, h₂, h₃, hframe.packetdrillKey, hframe.kernelKey, hframe.initialDsn, hframe.varsQueue.trans ?_⟩
  rw [hq]
  rfl

/-- An MP_CAPABLE handshake the tool starts, from a state with fresh names
and no keys, is accepted. The SYN carries a key drawn from the generator and
the SYN/ACK the key of the live SYN/ACK's option; the third ACK carries these
two keys, the tool's as sender's; the initial data sequence number derives
from the tool's key, and the four names are dequeued. -/
theorem tool_capable_handshake {s : MpState} (hs : CapableNamesFresh s toolName kernelName)
    (h : CapableHandshake syn synAck ack live tcpOpt₁ tcpOpt₂ tcpOpt₃ liveMpCapable) :
    ∃ r₁ r₂ r₃, mpTrace s [.option syn livePacket₁ i₁ tcpOpt₁ .inbound, .option synAck live i₂ tcpOpt₂ .outbound,
        .option ack livePacket₃ i₃ tcpOpt₃ .inbound] = [r₁, r₂, r₃] ∧
      r₁.out.map (·.data.mpCapable.synKey) = some (s.random 0) ∧
      r₂.out.map (·.data.mpCapable.synKey) = some liveMpCapable.data.mpCapable.synKey ∧
      r₃.out.map (·.data.mpCapable.noSynSenderKey) = some (s.random 0) ∧
      r₃.out.map (·.data.mpCapable.noSynReceiverKey) = some liveMpCapable.data.mpCapable.synKey ∧
      r₃.post.initialDsn = sha1Least64bits (s.random 0) ∧ r₃.post.varsQueue = s.varsQueue.drop 4 := by
  obtain ⟨_, _, _, h₁, h₂, h₃, -, -, hdsn, hq⟩ := h.toolRun hs livePacket₁ livePacket₃ i₁ i₂ i₃
  exact ⟨_, _, _, mpTrace_three h₁ h₂ h₃, rfl, rfl, rfl, rfl, hdsn, hq⟩

/-- An MP_CAPABLE third-ACK option as the script writes it. -/
def thirdAckOption : TcpOption := mptcpOptionOf mpCapableSubtype tcpolenMpCapable

/-- The tool's MP_CAPABLE SYN from port 10000 to port 80. -/
def capableSynPacket : Packet := tcpPacket 0x1027 0x5000 true false [capableSynOption]

/-- The tool's MP_CAPABLE third ACK from port 10000 to port 80. -/
def thirdAckPacket : Packet := tcpPacket 0x1027 0x5000 false true [thirdAckOption]

/-- The parser's calls for an MP_CAPABLE handshake whose SYN names `a` and
whose SYN/ACK names `b`, each buffer followed by a 0. -/
def capableParse : List MpInput := [.enqueueVar "a" "", .enqueueVar "b" "", .enqueueVar "a" "", .enqueueVar "b" ""]

/-- The state after `capableParse`, with a generator that draws 1, 2, … -/
def capableParsed : MpState :=
  (runInputs (initMpState 8 fun n => UInt64.ofNat (n + 1)) capableParse).getD (initMpState 8 fun _ => 0)

/-- After the parser's calls, the tool's MP_CAPABLE handshake from port
10000 to port 80 is accepted. -/
theorem tool_capable_after_parse :
    CapableNamesFresh capableParsed "a" "b" ∧
      CapableHandshake capableSynPacket capableSynAckPacket thirdAckPacket capableSynAckPacket capableSynOption
        capableSynOption thirdAckOption capableSynOption ∧
      ∃ r₁ r₂ r₃, mpTrace capableParsed [.option capableSynPacket capableSynPacket 0 capableSynOption .inbound,
        .option capableSynAckPacket capableSynAckPacket 0 capableSynOption .outbound,
        .option thirdAckPacket thirdAckPacket 0 thirdAckOption .inbound] = [r₁, r₂, r₃] :=
  have hs : CapableNamesFresh capableParsed "a" "b" := ⟨⟨[], rfl⟩, by decide, rfl, rfl, rfl, rfl⟩
  have h : CapableHandshake capableSynPacket capableSynAckPacket thirdAckPacket capableSynAckPacket capableSynOption
      capableSynOption thirdAckOption capableSynOption :=
    ⟨by decide, by decide, by decide, rfl⟩
  have ⟨r₁, r₂, r₃, htrace, _⟩ := tool_capable_handshake hs h
  ⟨hs, h, r₁, r₂, r₃, htrace⟩

/-- An MP_CAPABLE handshake the kernel starts, from a state with fresh names
and no keys, is accepted. The SYN carries the key of the live SYN's option
and the SYN/ACK a key drawn from the generator; the third ACK carries these
two keys, the kernel's as sender's; the initial data sequence number derives
from the tool's key, and the four names are dequeued. -/
theorem kernel_capable_handshake {s : MpState} (hs : CapableNamesFresh s kernelName toolName)
    (h : CapableHandshake syn synAck ack live tcpOpt₁ tcpOpt₂ tcpOpt₃ liveMpCapable) :
    ∃ r₁ r₂ r₃, mpTrace s [.option syn live i₁ tcpOpt₁ .outbound, .option synAck livePacket₂ i₂ tcpOpt₂ .inbound,
        .option ack livePacket₃ i₃ tcpOpt₃ .outbound] = [r₁, r₂, r₃] ∧
      r₁.out.map (·.data.mpCapable.synKey) = some liveMpCapable.data.mpCapable.synKey ∧
      r₂.out.map (·.data.mpCapable.synKey) = some (s.random 0) ∧
      r₃.out.map (·.data.mpCapable.noSynSenderKey) = some liveMpCapable.data.mpCapable.synKey ∧
      r₃.out.map (·.data.mpCapable.noSynReceiverKey) = some (s.random 0) ∧
      r₃.post.initialDsn = sha1Least64bits (s.random 0) ∧ r₃.post.varsQueue = s.varsQueue.drop 4 := by
  obtain ⟨_, _, _, h₁, h₂, h₃, -, -, hdsn, hq⟩ := h.kernelRun hs livePacket₂ livePacket₃ i₁ i₂ i₃
  exact ⟨_, _, _, mpTrace_three h₁ h₂ h₃, rfl, rfl, rfl, rfl, hdsn, hq⟩

/-- The kernel's MP_CAPABLE SYN from port 80 to port 10000. -/
def kernelCapableSynPacket : Packet := tcpPacket 0x5000 0x1027 true false [capableSynOption]

/-- The tool's MP_CAPABLE SYN/ACK from port 10000 to port 80. -/
def toolCapableSynAckPacket : Packet := tcpPacket 0x1027 0x5000 true true [capableSynOption]

/-- The kernel's MP_CAPABLE third ACK from port 80 to port 10000. -/
def kernelThirdAckPacket : Packet := tcpPacket 0x5000 0x1027 false true [thirdAckOption]

/-- After the parser's calls, the kernel's MP_CAPABLE handshake from port 80
to port 10000 is accepted. -/
theorem kernel_capable_after_parse :
    CapableNamesFresh capableParsed "a" "b" ∧
      CapableHandshake kernelCapableSynPacket toolCapableSynAckPacket kernelThirdAckPacket kernelCapableSynPacket
        capableSynOption capableSynOption thirdAckOption capableSynOption ∧
      ∃ r₁ r₂ r₃, mpTrace capableParsed
        [.option kernelCapableSynPacket kernelCapableSynPacket 0 capableSynOption .outbound,
          .option toolCapableSynAckPacket toolCapableSynAckPacket 0 capableSynOption .inbound,
          .option kernelThirdAckPacket kernelThirdAckPacket 0 thirdAckOption .outbound] = [r₁, r₂, r₃] :=
  have hs : CapableNamesFresh capableParsed "a" "b" := ⟨⟨[], rfl⟩, by decide, rfl, rfl, rfl, rfl⟩
  have h : CapableHandshake kernelCapableSynPacket toolCapableSynAckPacket kernelThirdAckPacket kernelCapableSynPacket
      capableSynOption capableSynOption thirdAckOption capableSynOption :=
    ⟨by decide, by decide, by decide, rfl⟩
  have ⟨r₁, r₂, r₃, htrace, _⟩ := kernel_capable_handshake hs h
  ⟨hs, h, r₁, r₂, r₃, htrace⟩

end

end PacketdrillMptcp
