import PacketdrillMptcp.Engine

/-!
# The connection keys

`set_packetdrill_key` and `set_kernel_key` (`mptcp.c`, lines 26–40) store a
key and raise its flag, whatever the flag was. `mptcp_gen_key` and
`extract_and_set_kernel_key` call them with the script-defined value of the
front queued name before they test the flag, so a key that is already set is
replaced whenever an MP_CAPABLE SYN or SYN/ACK of its side finds a
script-defined name at the front of the queue.

Results:
* `key_changes_only_to_script_value`: once a key is set it stays set, and a
  call changes it only at an MP_CAPABLE SYN or SYN/ACK of the key's side
  whose front queued name is script-defined, to that name's value.
* `packetdrillKey_rewritten`: a reachable state with the tool's key set, and a
  later state with another tool key.
-/

namespace PacketdrillMptcp

/-- The direction of the MP_CAPABLE SYN or SYN/ACK that sets a slot:
inbound packets carry the tool's key, outbound ones the kernel's. -/
def KeySlot.direction : KeySlot → Direction
  | .packetdrillKey => .inbound
  | .kernelKey => .outbound

/-- The front queued name is bound to the script-defined value `k`. -/
def ScriptAtFront (s : MpState) (k : UInt64) : Prop :=
  ∃ name, queueFront s = some name ∧ (findMpVar s name).map MpVar.value = some (.scriptDefined k)

/-! ## Calls that keep both keys -/

/-- `s'` has the keys and flags of `s`. -/
def KeysFixed (s s' : MpState) : Prop :=
  ∀ slot, s'.key slot = s.key slot ∧ s'.keySet slot = s.keySet slot

theorem KeysFixed.of_fields {s s' : MpState} (h1 : s'.packetdrillKey = s.packetdrillKey)
    (h2 : s'.packetdrillKeySet = s.packetdrillKeySet) (h3 : s'.kernelKey = s.kernelKey)
    (h4 : s'.kernelKeySet = s.kernelKeySet) : KeysFixed s s'
  | .packetdrillKey => ⟨h1, h2⟩
  | .kernelKey => ⟨h3, h4⟩

theorem KeysFixed.refl (s : MpState) : KeysFixed s s := .of_fields rfl rfl rfl rfl

theorem KeysFixed.trans {s s' s'' : MpState} (h : KeysFixed s s') (h' : KeysFixed s' s'') :
    KeysFixed s s'' := fun slot => ⟨(h' slot).1.trans (h slot).1, (h' slot).2.trans (h slot).2⟩

theorem SubflowFrame.keysFixed {s s' : MpState} (h : SubflowFrame s s') : KeysFixed s s' := h.key

theorem findNextKey_keysFixed (s : MpState) : KeysFixed s (findNextKey s).2 := .of_fields rfl rfl rfl rfl

theorem addMpVarKey_keysFixed (s : MpState) (name : String) (slot : KeySlot) :
    KeysFixed s (addMpVarKey s name slot) := .of_fields rfl rfl rfl rfl

theorem mptcpSetMpCapSynKey_keysFixed (s : MpState) (tcpOpt : TcpOption) :
    KeysFixed s (mptcpSetMpCapSynKey s tcpOpt).2.1 := by
  rw [mptcpSetMpCapSynKey_state]; exact .of_fields rfl rfl rfl rfl

theorem mptcpSetMpCapKeys_keysFixed (s : MpState) (tcpOpt : TcpOption) :
    KeysFixed s (mptcpSetMpCapKeys s tcpOpt).2.1 := by
  rw [mptcpSetMpCapKeys_state]; exact .of_fields rfl rfl rfl rfl

theorem mpCapableThirdAck_keysFixed (s : MpState) (packetToModify : Packet) (tcpOpt : TcpOption)
    (direction : Direction) : KeysFixed s (mpCapableThirdAck s packetToModify tcpOpt direction).2.1 := by
  rw [mpCapableThirdAck_state]
  have hdsn : KeysFixed (mptcpSetMpCapKeys s tcpOpt).2.1 { (mptcpSetMpCapKeys s tcpOpt).2.1 with
      initialDsn := sha1Least64bits (mptcpSetMpCapKeys s tcpOpt).2.1.packetdrillKey } := .of_fields rfl rfl rfl rfl
  exact (mptcpSetMpCapKeys_keysFixed s tcpOpt).trans
    (hdsn.trans (newSubflow_frame _ packetToModify direction).keysFixed)

/-! ## Calls that may replace a key -/

/-- What a call may do to a set key: keep it, or, in the slot `side` only,
replace it by the script-defined value of the front queued name. -/
def KeyKept (side : KeySlot) (s s' : MpState) (slot : KeySlot) : Prop :=
  s'.keySet slot = true ∧ (s'.key slot = s.key slot ∨ slot = side ∧ ScriptAtFront s (s'.key slot))

/-- A call that keeps the keys keeps a set key set and unchanged. -/
theorem KeysFixed.kept {s s' : MpState} (h : KeysFixed s s') {slot : KeySlot} (hset : s.keySet slot = true)
    {P : Prop} : s'.keySet slot = true ∧ (s'.key slot = s.key slot ∨ P) :=
  ⟨(h slot).2.trans hset, .inl (h slot).1⟩

theorem KeysFixed.keyKept {s s' : MpState} (h : KeysFixed s s') {side slot : KeySlot}
    (hset : s.keySet slot = true) : KeyKept side s s' slot :=
  ⟨(h slot).2.trans hset, .inl (h slot).1⟩

theorem KeyKept.slotFixed {side : KeySlot} {s s' s'' : MpState} {slot : KeySlot}
    (h : KeyKept side s s' slot) (h' : s''.key slot = s'.key slot ∧ s''.keySet slot = s'.keySet slot) :
    KeyKept side s s'' slot := by
  rw [KeyKept, h'.1, h'.2]; exact h

theorem setKeyFromScript_key (s : MpState) (side slot : KeySlot) (name : String) :
    ((setKeyFromScript s side name).key slot = s.key slot ∧
      (setKeyFromScript s side name).keySet slot = s.keySet slot) ∨
    (slot = side ∧ (setKeyFromScript s side name).keySet slot = true ∧
      (findMpVar s name).map MpVar.value = some (.scriptDefined ((setKeyFromScript s side name).key slot))) := by
  unfold setKeyFromScript
  split
  · rename_i value h
    cases side <;> cases slot <;> simp [h, MpState.setKey, MpState.key, MpState.keySet]
  · exact .inl ⟨rfl, rfl⟩

/-- The front queued name is looked up in a state with the queue and bindings
of `s`, so a script value found there is at the front in `s`. -/
theorem setKeyFromScript_keyKept {s : MpState} {name : String} (hfront : queueFront s = some name)
    (side : KeySlot) {slot : KeySlot} (hset : s.keySet slot = true) :
    KeyKept side s (setKeyFromScript s side name) slot := by
  rcases setKeyFromScript_key s side slot name with ⟨hkey, hset'⟩ | ⟨rfl, hset', hvar⟩
  · exact ⟨hset'.trans hset, .inl hkey⟩
  · exact ⟨hset', .inr ⟨rfl, name, hfront, hvar⟩⟩

theorem adoptFrontScriptKey_keyKept (s : MpState) (side : KeySlot) {slot : KeySlot}
    (hset : s.keySet slot = true) : KeyKept side s (adoptFrontScriptKey s side) slot := by
  unfold adoptFrontScriptKey
  split
  · rename_i name hfront; exact setKeyFromScript_keyKept hfront side hset
  · exact (KeysFixed.refl s).keyKept hset

theorem mptcpGenKey_keyKept (s : MpState) {slot : KeySlot} (hset : s.keySet slot = true) :
    KeyKept .packetdrillKey s (mptcpGenKey s).2 slot := by
  unfold mptcpGenKey
  split
  · exact (KeysFixed.refl s).keyKept hset
  · rename_i name hfront
    have hkept := setKeyFromScript_keyKept hfront .packetdrillKey hset
    dsimp only
    split
    · exact hkept
    · rename_i hunset
      cases slot
      · exact absurd hkept.1 (by simpa [MpState.keySet] using hunset)
      · exact hkept.slotFixed ⟨rfl, rfl⟩

theorem extractAndSetKernelKey_keyKept (s : MpState) (livePacket : Packet) {slot : KeySlot}
    (hset : s.keySet slot = true) : KeyKept .kernelKey s (extractAndSetKernelKey s livePacket).2 slot := by
  unfold extractAndSetKernelKey
  split
  · exact (KeysFixed.refl s).keyKept hset
  · have hkept := adoptFrontScriptKey_keyKept s .kernelKey hset
    dsimp only
    split
    · exact hkept
    · rename_i hunset
      cases slot
      · exact hkept.slotFixed (by split <;> exact ⟨rfl, rfl⟩)
      · exact absurd hkept.1 (by simpa [MpState.keySet] using hunset)

/-- A change of `side` made by an MP_CAPABLE SYN of `side`'s direction. -/
theorem KeyKept.capableSyn {side : KeySlot} {s s' : MpState} {slot : KeySlot} (h : KeyKept side s s' slot)
    {direction : Direction} {tcpOpt : TcpOption} {packetToModify : Packet} (hdir : direction = side.direction)
    (hlen : tcpOpt.length = tcpolenMpCapableSyn) (hsyn : packetToModify.tcp.syn = true) :
    s'.keySet slot = true ∧ (s'.key slot = s.key slot ∨ direction = slot.direction ∧
      tcpOpt.length = tcpolenMpCapableSyn ∧ packetToModify.tcp.syn = true ∧ ScriptAtFront s (s'.key slot)) := by
  obtain ⟨hset, hkey | ⟨rfl, hfront⟩⟩ := h
  exacts [⟨hset, .inl hkey⟩, ⟨hset, .inr ⟨hdir, hlen, hsyn, hfront⟩⟩]

/-- The SYN cases may replace the key of their side; the third ACK and the
failing case keep both keys. -/
theorem mptcpSubtypeMpCapable_keyKept (s : MpState) (packetToModify livePacket : Packet) (tcpOpt : TcpOption)
    (direction : Direction) {slot : KeySlot} (hset : s.keySet slot = true) :
    (mptcpSubtypeMpCapable s packetToModify livePacket tcpOpt direction).2.1.keySet slot = true ∧
    ((mptcpSubtypeMpCapable s packetToModify livePacket tcpOpt direction).2.1.key slot = s.key slot ∨
      direction = slot.direction ∧ tcpOpt.length = tcpolenMpCapableSyn ∧ packetToModify.tcp.syn = true ∧
      ScriptAtFront s ((mptcpSubtypeMpCapable s packetToModify livePacket tcpOpt direction).2.1.key slot)) := by
  rcases mptcpSubtypeMpCapable_cases s packetToModify livePacket tcpOpt direction with
    ⟨h, ⟨hlen, hsyn⟩, rfl⟩ | ⟨h, ⟨hlen, hsyn⟩, rfl⟩ | ⟨h, -⟩ | ⟨h, -⟩ <;> rw [h]
  · exact ((mptcpGenKey_keyKept s hset).slotFixed (mptcpSetMpCapSynKey_keysFixed _ tcpOpt slot)).capableSyn
      rfl hlen hsyn
  · exact ((extractAndSetKernelKey_keyKept s livePacket hset).slotFixed
      (mptcpSetMpCapSynKey_keysFixed _ tcpOpt slot)).capableSyn rfl hlen hsyn
  · exact (mpCapableThirdAck_keysFixed s packetToModify tcpOpt direction).kept hset
  · exact (KeysFixed.refl s).kept hset

/-- What a call does to a set key: it stays set, and it changes only at an
MP_CAPABLE SYN or SYN/ACK of its side whose front queued name is
script-defined, to that name's value. -/
theorem key_changes_only_to_script_value {s s' : MpState} {x : MpInput} {status : Status}
    {out : Option TcpOption} {slot : KeySlot} (h : mpStep s x = .ok (status, s', out))
    (hset : s.keySet slot = true) :
    s'.keySet slot = true ∧ (s'.key slot = s.key slot ∨
      ∃ packetToModify livePacket i tcpOpt, x = .option packetToModify livePacket i tcpOpt slot.direction ∧
        tcpOpt.data.subtype = mpCapableSubtype ∧ tcpOpt.length = tcpolenMpCapableSyn ∧
        packetToModify.tcp.syn = true ∧ ScriptAtFront s (s'.key slot)) := by
  cases x with
  | enqueueVar name heap =>
    obtain ⟨_, rfl, -⟩ := mpStep_enqueueVar h
    exact (KeysFixed.of_fields rfl rfl rfl rfl).kept hset
  | addMpVarScriptDefined name value => cases h; exact (KeysFixed.of_fields rfl rfl rfl rfl).kept hset
  | option packetToModify livePacket i tcpOpt direction =>
    obtain ⟨tcpOpt', hopt, -⟩ := mpStep_option.mp h
    rcases mptcpOption_cases hopt with ⟨hsub, hcap⟩ | ⟨-, hjoin⟩ | ⟨-, hdss⟩ | ⟨-, -, -, -, rfl, -⟩
    · have hkept := mptcpSubtypeMpCapable_keyKept s packetToModify livePacket tcpOpt direction hset
      rw [hcap] at hkept
      obtain ⟨hset', hkey | ⟨rfl, hlen, hsyn, hfront⟩⟩ := hkept
      exacts [⟨hset', .inl hkey⟩, ⟨hset', .inr ⟨_, _, _, _, rfl, hsub, hlen, hsyn, hfront⟩⟩]
    · exact (mptcpSubtypeMpJoin_frame hjoin).keysFixed.kept hset
    · exact (mptcpSubtypeDss_frame hdss).keysFixed.kept hset
    · exact (KeysFixed.refl _).kept hset

/-- An inbound MP_CAPABLE SYN from port 10000 to port 80. -/
def capableSynIn : MpInput :=
  let tcpOpt := mptcpOptionOf mpCapableSubtype tcpolenMpCapableSyn
  let packet := tcpPacket 0x1027 0x5000 true false [tcpOpt]
  .option packet packet 0 tcpOpt .inbound

/-- Two script-defined keys queued, and a first SYN that sets the tool's key
to the first. -/
def rekeyRun : List MpInput :=
  [.addMpVarScriptDefined "a" 1, .addMpVarScriptDefined "b" 2, .enqueueVar "a" "", .enqueueVar "b" "", capableSynIn]

/-- The state `rekeyRun` leaves, with room for two names. -/
def rekeyedState : MpState := (runInputs (initMpState 2 fun _ => 0) rekeyRun).getD (initMpState 2 fun _ => 0)

/-- A retransmitted SYN finds `b` at the front and rewrites the tool's key,
which is set to 1, to `b`'s value 2. -/
theorem retransmitted_syn_rewrites_key :
    mpStep rekeyedState capableSynIn = .ok (.ok, (stepAnswer rekeyedState capableSynIn).2.1,
      (stepAnswer rekeyedState capableSynIn).2.2) ∧
    rekeyedState.key .packetdrillKey = 1 ∧ (stepAnswer rekeyedState capableSynIn).2.1.key .packetdrillKey = 2 ∧
    rekeyedState.keySet .packetdrillKey = true ∧
    ((stepAnswer rekeyedState capableSynIn).2.1.keySet .packetdrillKey = true ∧
      ((stepAnswer rekeyedState capableSynIn).2.1.key .packetdrillKey = rekeyedState.key .packetdrillKey ∨
        ∃ packetToModify livePacket i tcpOpt,
          capableSynIn = .option packetToModify livePacket i tcpOpt KeySlot.packetdrillKey.direction ∧
          tcpOpt.data.subtype = mpCapableSubtype ∧ tcpOpt.length = tcpolenMpCapableSyn ∧
          packetToModify.tcp.syn = true ∧
          ScriptAtFront rekeyedState ((stepAnswer rekeyedState capableSynIn).2.1.key .packetdrillKey))) :=
  have h : mpStep rekeyedState capableSynIn = .ok (.ok, (stepAnswer rekeyedState capableSynIn).2.1,
      (stepAnswer rekeyedState capableSynIn).2.2) := rfl
  ⟨h, by decide, by decide, rfl, key_changes_only_to_script_value h rfl⟩

/-- A retransmitted SYN finds `b` at the front and sets the key to 2. -/
theorem packetdrillKey_rewritten :
    ∃ s s', Reachable s ∧ s.packetdrillKeySet = true ∧ Steps s s' ∧ s'.packetdrillKey ≠ s.packetdrillKey := by
  have h1 : (runInputs (initMpState 2 fun _ => 0) rekeyRun).map (fun s => (s.packetdrillKey, s.packetdrillKeySet)) =
      some (1, true) := by decide
  have h2 : ((runInputs (initMpState 2 fun _ => 0) rekeyRun).bind (runInputs · [capableSynIn])).map
      (·.packetdrillKey) = some 2 := by decide
  cases hs : runInputs (initMpState 2 fun _ => 0) rekeyRun with
  | none => simp [hs] at h1
  | some s =>
    cases hs' : runInputs s [capableSynIn] with
    | none => simp [hs, hs'] at h2
    | some s' =>
      simp only [hs, hs', Option.map_some', Option.some_bind, Option.some.injEq, Prod.mk.injEq] at h1 h2
      exact ⟨s, s', (runInputs_steps hs).reachable (.init _ _), h1.2, runInputs_steps hs', by rw [h1.1, h2]; decide⟩

end PacketdrillMptcp
