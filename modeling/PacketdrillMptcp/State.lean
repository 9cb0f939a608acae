import PacketdrillMptcp.Packet

/-!
# The MPTCP state of packetdrill

`mp_state` (`mptcp.c`, lines 7–305): the two connection keys, the queue of
variable names the script parser filled, the variable hashmap, the
address-ID counter, the subflow list and the initial data sequence numbers,
with the functions that read and update them.

* The hashmap `mp_state.vars` (uthash) is a list searched front to back.
  `HASH_ADD_KEYPTR` puts a new entry at the head of its bucket and
  `HASH_FIND_STR` returns the first entry of the bucket with that name, so
  the newest binding of a name is found first.
* Every binding is created with `mptcp_subtype = MP_CAPABLE_SUBTYPE`, so the
  subtype tests of `find_next_key`, `mptcp_gen_key` and
  `extract_and_set_kernel_key` always pass; the field is left out.
* `mp_state` is a global, so the fields `init_mp_state` does not set start
  at zero. The random generator is process-wide; the state carries the
  values its future draws return.
* `malloc` leaves the fields of a new subflow that its creator does not set
  indeterminate: they are `none` here, and a read of one gives `0`.
* `queue.c`, which holds `vars_queue`, is not part of the source: the number
  of names its queue holds is a parameter of the initial state.
* A queued name is a buffer without a terminating 0 (`NameBuffers`), read on
  into the memory after it: the queue holds the names its readers see.
-/

namespace PacketdrillMptcp

/-! ## Variables -/

/-- The two key fields of `mp_state` a binding can point into. -/
inductive KeySlot
  | packetdrillKey
  | kernelKey
  deriving DecidableEq, Repr

/-- `mp_var->value` with `mp_capable_info.script_defined`: a pointer to a key
of `mp_state` (`add_mp_var_key`, `script_defined = false`) or a copy of a value
from the script (`add_mp_var_script_defined`, `script_defined = true`). -/
inductive MpVarValue
  | key (slot : KeySlot)
  | scriptDefined (value : UInt64)
  deriving DecidableEq, Repr

/-- `struct mp_var`. -/
structure MpVar where
  name : String
  value : MpVarValue
  deriving DecidableEq, Repr

/-- `var->mp_capable_info.script_defined`. -/
def MpVar.scriptDefined (var : MpVar) : Bool :=
  match var.value with
  | .scriptDefined _ => true
  | .key _ => false

/-! ## Subflows -/

/-- `struct mp_subflow`. Ports are in host order. -/
structure MpSubflow where
  srcIp : IpAddress
  dstIp : IpAddress
  srcPort : UInt16
  dstPort : UInt16
  packetdrillRandNbr : Option UInt32
  packetdrillAddrId : Option UInt8
  kernelRandNbr : Option UInt32
  kernelAddrId : Option UInt8
  subflowSequenceNumber : UInt32
  deriving DecidableEq, Repr

/-- The tool-perspective port pair of a subflow. -/
def MpSubflow.ports (subflow : MpSubflow) : UInt16 × UInt16 := (subflow.srcPort, subflow.dstPort)

/-- The test all subflow searches make: `subflow->dst_port == dstPort &&
subflow->src_port == srcPort`. -/
def MpSubflow.hasPorts (subflow : MpSubflow) (srcPort dstPort : UInt16) : Bool :=
  subflow.dstPort == dstPort && subflow.srcPort == srcPort

/-! ## The state -/

/-- `mp_state`, with the process-wide random generator. -/
structure MpState where
  packetdrillKey : UInt64
  packetdrillKeySet : Bool
  kernelKey : UInt64
  kernelKeySet : Bool
  /-- the names `vars_queue` holds, as `strlen` reads their buffers -/
  varsQueue : List String
  /-- the number of names `vars_queue` can hold -/
  varsQueueCapacity : ℕ
  vars : List MpVar
  lastPacketdrillAddrId : UInt8
  subflows : List MpSubflow
  initialDsn : UInt64
  initialDack : UInt64
  /-- the values `rand_64` returns from now on -/
  random : ℕ → UInt64

/-- `init_mp_state()` (lines 7–14) on the zeroed global, with a queue of
`varsQueueCapacity` names. -/
def initMpState (varsQueueCapacity : ℕ) (random : ℕ → UInt64) : MpState where
  packetdrillKey := 0
  packetdrillKeySet := false
  kernelKey := 0
  kernelKeySet := false
  varsQueue := []
  varsQueueCapacity := varsQueueCapacity
  vars := []
  lastPacketdrillAddrId := 0
  subflows := []
  initialDsn := 0
  initialDack := 0
  random := random

/-- The key a slot holds. -/
def MpState.key (s : MpState) : KeySlot → UInt64
  | .packetdrillKey => s.packetdrillKey
  | .kernelKey => s.kernelKey

/-- Whether a slot has been set. -/
def MpState.keySet (s : MpState) : KeySlot → Bool
  | .packetdrillKey => s.packetdrillKeySet
  | .kernelKey => s.kernelKeySet

/-- Store a key in a slot and mark it set. -/
def MpState.setKey (s : MpState) : KeySlot → UInt64 → MpState
  | .packetdrillKey, k => { s with packetdrillKey := k, packetdrillKeySet := true }
  | .kernelKey, k => { s with kernelKey := k, kernelKeySet := true }

/-- `set_packetdrill_key(sender_key)` (lines 26–30). -/
def setPacketdrillKey (s : MpState) (senderKey : UInt64) : MpState :=
  s.setKey .packetdrillKey senderKey

/-- `set_kernel_key(receiver_key)` (lines 36–40). -/
def setKernelKey (s : MpState) (receiverKey : UInt64) : MpState :=
  s.setKey .kernelKey receiverKey

/-- `*(u64*)var->value`: the `u64` a binding points at. -/
def MpVarValue.read (s : MpState) : MpVarValue → UInt64
  | .key slot => s.key slot
  | .scriptDefined value => value

/-- Modelled from the spec: `rand_64()` after `seed_generator()`, the next
value of the process-wide generator. -/
def MpState.rand64 (s : MpState) : UInt64 × MpState :=
  (s.random 0, { s with random := fun n => s.random (n + 1) })

/-- Modelled from the spec: `generate_32()`, a 32-bit draw from the same
generator. -/
def MpState.generate32 (s : MpState) : UInt32 × MpState :=
  ((s.random 0).toUInt32, { s with random := fun n => s.random (n + 1) })

/-! ## The queue of variable names -/

/-- `enqueue_var(name)` (lines 49–56): copy `name` into a new buffer and
queue it, or return the error of `queue_enqueue` when the queue is full,
which leaves the queue as it was. The copy holds the bytes of `name` without
their 0, so every read of it through `strlen` goes on into the memory after
the buffer, up to the first 0 there (`NameBuffers`). `heap` is the string in
that memory, taken to stay the same while the name is queued, and the queue
holds the name as it is read: `name ++ heap`. -/
def enqueueVar (s : MpState) (name heap : String) : Status × MpState :=
  if s.varsQueue.length < s.varsQueueCapacity then (.ok, { s with varsQueue := s.varsQueue ++ [name ++ heap] })
  else (.err, s)

theorem enqueueVar_of_lt {s : MpState} (h : s.varsQueue.length < s.varsQueueCapacity) (name heap : String) :
    enqueueVar s name heap = (.ok, { s with varsQueue := s.varsQueue ++ [name ++ heap] }) :=
  if_pos h

/-- A full queue takes no name, and nothing changes. -/
theorem enqueueVar_of_full {s : MpState} (h : s.varsQueueCapacity ≤ s.varsQueue.length) (name heap : String) :
    enqueueVar s name heap = (.err, s) :=
  if_neg (Nat.not_lt.mpr h)

/-- `queue_front(&mp_state.vars_queue, …)`: the front name, not removed. -/
def queueFront (s : MpState) : Option String := s.varsQueue.head?

/-- `dequeue_var(&name)` (lines 59–62): the front name, removed. -/
def dequeueVar (s : MpState) : Option String × MpState :=
  (s.varsQueue.head?, { s with varsQueue := s.varsQueue.tail })

/-! ## The variable hashmap -/

/-- `add_mp_var(var)` (lines 117–120). -/
def addMpVar (s : MpState) (var : MpVar) : MpState := { s with vars := var :: s.vars }

/-- `add_mp_var_key(name, key)` (lines 87–95): bind `name` to a key slot. -/
def addMpVarKey (s : MpState) (name : String) (slot : KeySlot) : MpState :=
  addMpVar s ⟨name, .key slot⟩

/-- `add_mp_var_script_defined(name, value, 8)` (lines 103–112). -/
def addMpVarScriptDefined (s : MpState) (name : String) (value : UInt64) : MpState :=
  addMpVar s ⟨name, .scriptDefined value⟩

/-- `find_mp_var(name)` (lines 127–132). -/
def findMpVar (s : MpState) (name : String) : Option MpVar :=
  s.vars.find? (·.name == name)

/-- `find_next_key()` (lines 138–151): dequeue a name and return what its
binding points at. -/
def findNextKey (s : MpState) : Option MpVarValue × MpState :=
  let (varName, s) := dequeueVar s
  (varName.bind fun varName => (findMpVar s varName).map (·.value), s)

/-! ## The subflow list -/

/-- Write through the pointer a search returned: `f` applied to the first
element `p` accepts. -/
def updateFirst {α : Type} (p : α → Bool) (f : α → α) : List α → List α
  | [] => []
  | a :: as => if p a then f a :: as else a :: updateFirst p f as

theorem map_updateFirst {α β : Type} (p : α → Bool) (f : α → α) (g : α → β) (hf : ∀ a, g (f a) = g a) :
    ∀ l : List α, (updateFirst p f l).map g = l.map g
  | [] => rfl
  | a :: l => by
    unfold updateFirst
    split <;> simp [hf, map_updateFirst p f g hf l]

/-- Searching by a key after rewriting, by a key-preserving `f`, the first
element with key `k'`: the element found is rewritten exactly when `k = k'`. -/
theorem find?_updateFirst {α β : Type} [DecidableEq β] (key : α → β) (f : α → α)
    (hf : ∀ a, key (f a) = key a) (k k' : β) :
    ∀ l : List α, (updateFirst (fun a => decide (key a = k')) f l).find? (fun a => decide (key a = k)) =
      if k = k' then (l.find? (fun a => decide (key a = k))).map f else l.find? (fun a => decide (key a = k))
  | [] => by simp [updateFirst]
  | a :: l => by
    have ih := find?_updateFirst key f hf k k' l
    unfold updateFirst
    by_cases ha : key a = k' <;> by_cases hk : k = k' <;> simp_all [List.find?_cons, @eq_comm _ k']

/-- `new_subflow_inbound(inbound_packet)` (lines 186–215). -/
def newSubflowInbound (s : MpState) (inboundPacket : Packet) : Option MpSubflow × MpState :=
  match inboundPacket.ipAddresses with
  | none => (none, s)
  | some (srcIp, dstIp) =>
    let (randNbr, s) := s.generate32
    let subflow : MpSubflow :=
      { srcIp, dstIp, srcPort := ntohs inboundPacket.tcp.srcPort,
        dstPort := ntohs inboundPacket.tcp.dstPort, packetdrillRandNbr := some randNbr,
        packetdrillAddrId := some s.lastPacketdrillAddrId, kernelRandNbr := none,
        kernelAddrId := none, subflowSequenceNumber := 0 }
    (some subflow,
      { s with lastPacketdrillAddrId := s.lastPacketdrillAddrId + 1,
               subflows := subflow :: s.subflows })

/-- `new_subflow_outbound(outbound_packet)` (lines 217–252): the endpoints are
swapped to the tool's perspective, and the kernel's nonce and address ID are
read from the packet's first MPTCP option as an MP_JOIN SYN. -/
def newSubflowOutbound (s : MpState) (outboundPacket : Packet) : Option MpSubflow × MpState :=
  match getTcpOption outboundPacket tcpoptMptcp, outboundPacket.ipAddresses with
  | some mpJoinSyn, some (srcIp, dstIp) =>
    let subflow : MpSubflow :=
      { srcIp := dstIp, dstIp := srcIp, srcPort := ntohs outboundPacket.tcp.dstPort,
        dstPort := ntohs outboundPacket.tcp.srcPort, packetdrillRandNbr := none,
        packetdrillAddrId := none,
        kernelRandNbr := some mpJoinSyn.data.mpJoin.synNoAckSenderRandomNumber,
        kernelAddrId := some mpJoinSyn.data.mpJoin.synAddressId, subflowSequenceNumber := 0 }
    (some subflow, { s with subflows := subflow :: s.subflows })
  | _, _ => (none, s)

/-- `find_matching_subflow(packet, match)` (lines 258–269). -/
def findMatchingSubflow (s : MpState) (packet : Packet)
    (match_ : MpSubflow → Packet → Bool) : Option MpSubflow :=
  s.subflows.find? (match_ · packet)

/-- `does_subflow_match_outbound_packet` (lines 271–275): the packet comes from
the kernel, so its ports are swapped. -/
def doesSubflowMatchOutboundPacket (subflow : MpSubflow) (outboundPacket : Packet) : Bool :=
  subflow.hasPorts (ntohs outboundPacket.tcp.dstPort) (ntohs outboundPacket.tcp.srcPort)

/-- `does_subflow_match_inbound_packet` (lines 283–287). -/
def doesSubflowMatchInboundPacket (subflow : MpSubflow) (inboundPacket : Packet) : Bool :=
  subflow.hasPorts (ntohs inboundPacket.tcp.srcPort) (ntohs inboundPacket.tcp.dstPort)

/-- The tool-perspective port pair of a packet the tool sends. -/
def Packet.inboundPorts (packet : Packet) : UInt16 × UInt16 :=
  (ntohs packet.tcp.srcPort, ntohs packet.tcp.dstPort)

/-- The tool-perspective port pair of a packet the kernel sends: its ports
swapped. -/
def Packet.outboundPorts (packet : Packet) : UInt16 × UInt16 :=
  (ntohs packet.tcp.dstPort, ntohs packet.tcp.srcPort)

theorem doesSubflowMatchInboundPacket_eq (subflow : MpSubflow) (packet : Packet) :
    doesSubflowMatchInboundPacket subflow packet = decide (subflow.ports = packet.inboundPorts) := by
  rw [Bool.eq_iff_iff]
  simp [doesSubflowMatchInboundPacket, MpSubflow.hasPorts, MpSubflow.ports, Packet.inboundPorts, and_comm]

theorem doesSubflowMatchOutboundPacket_eq (subflow : MpSubflow) (packet : Packet) :
    doesSubflowMatchOutboundPacket subflow packet = decide (subflow.ports = packet.outboundPorts) := by
  rw [Bool.eq_iff_iff]
  simp [doesSubflowMatchOutboundPacket, MpSubflow.hasPorts, MpSubflow.ports, Packet.outboundPorts, and_comm]

/-- `find_subflow_matching_outbound_packet` (lines 277–281). -/
def findSubflowMatchingOutboundPacket (s : MpState) (outboundPacket : Packet) : Option MpSubflow :=
  findMatchingSubflow s outboundPacket doesSubflowMatchOutboundPacket

/-- `find_subflow_matching_inbound_packet` (lines 289–293). -/
def findSubflowMatchingInboundPacket (s : MpState) (inboundPacket : Packet) : Option MpSubflow :=
  findMatchingSubflow s inboundPacket doesSubflowMatchInboundPacket

/-- `find_subflow_matching_socket(socket)` (lines 295–305), on the socket's
`live.local.port` and `live.remote.port`. -/
def findSubflowMatchingSocket (s : MpState) (localPort remotePort : UInt16) : Option MpSubflow :=
  s.subflows.find? (·.hasPorts localPort remotePort)

/-- Update, through the pointer `find_matching_subflow(packet, match)`
returned, the subflow it found. -/
def MpState.updateMatchingSubflow (s : MpState) (packet : Packet)
    (match_ : MpSubflow → Packet → Bool) (f : MpSubflow → MpSubflow) : MpState :=
  { s with subflows := updateFirst (match_ · packet) f s.subflows }

/-! ## Frames -/

/-- `s'` agrees with `s` everywhere but in the subflow list, the address-ID
counter and the generator. -/
structure SubflowFrame (s s' : MpState) : Prop where
  packetdrillKey : s'.packetdrillKey = s.packetdrillKey
  packetdrillKeySet : s'.packetdrillKeySet = s.packetdrillKeySet
  kernelKey : s'.kernelKey = s.kernelKey
  kernelKeySet : s'.kernelKeySet = s.kernelKeySet
  varsQueue : s'.varsQueue = s.varsQueue
  vars : s'.vars = s.vars
  initialDsn : s'.initialDsn = s.initialDsn
  initialDack : s'.initialDack = s.initialDack

theorem SubflowFrame.refl (s : MpState) : SubflowFrame s s := ⟨rfl, rfl, rfl, rfl, rfl, rfl, rfl, rfl⟩

theorem SubflowFrame.trans {s s' s'' : MpState} (h : SubflowFrame s s') (h' : SubflowFrame s' s'') :
    SubflowFrame s s'' :=
  ⟨h'.1.trans h.1, h'.2.trans h.2, h'.3.trans h.3, h'.4.trans h.4, h'.5.trans h.5, h'.6.trans h.6,
    h'.7.trans h.7, h'.8.trans h.8⟩

theorem SubflowFrame.key {s s' : MpState} (h : SubflowFrame s s') (slot : KeySlot) :
    s'.key slot = s.key slot ∧ s'.keySet slot = s.keySet slot := by
  cases slot
  exacts [⟨h.packetdrillKey, h.packetdrillKeySet⟩, ⟨h.kernelKey, h.kernelKeySet⟩]

/-- A property of the state in a handler's result holds of the state a call
returning that result leaves. -/
theorem state_of_ok {P : MpState → Prop} {r : Status × MpState × TcpOption} {status : Status}
    {s' : MpState} {tcpOpt' : TcpOption} (hr : P r.2.1)
    (h : (Except.ok r : Except Fault (Status × MpState × TcpOption)) = .ok (status, s', tcpOpt')) : P s' := by
  cases h; exact hr

theorem state_eq_of_ok {r : Status × MpState × TcpOption} {status : Status} {s' : MpState}
    {tcpOpt' : TcpOption}
    (h : (Except.ok r : Except Fault (Status × MpState × TcpOption)) = .ok (status, s', tcpOpt')) :
    r.2.1 = s' := by
  cases h; rfl

theorem newSubflowInbound_frame (s : MpState) (inboundPacket : Packet) :
    SubflowFrame s (newSubflowInbound s inboundPacket).2 := by
  unfold newSubflowInbound; split <;> constructor <;> rfl

theorem newSubflowOutbound_frame (s : MpState) (outboundPacket : Packet) :
    SubflowFrame s (newSubflowOutbound s outboundPacket).2 := by
  unfold newSubflowOutbound; split <;> constructor <;> rfl

end PacketdrillMptcp
