import PacketdrillMptcp.Names
import PacketdrillMptcp.AddrIds

/-!
# The bindings the engine adds

`mptcp_gen_key` and `extract_and_set_kernel_key` (`mptcp.c`, lines 325–351
and 389–421) bind the front queued name to the key they have just set, with
`add_mp_var_key` (lines 87–95). `add_mp_var` (lines 117–120) puts the binding
in the hashmap with `HASH_ADD_KEYPTR` and does not look for one of the same
name, and `find_mp_var` (lines 127–132) finds the newest binding of a name.

Each call binds only while its key is unset, and only a name with no
script-defined binding. Nothing keeps the name from being bound to the other
key already. A script that names both keys alike therefore leaves two
bindings of that name, and the name reads the key bound last.

The same guards make both calls idempotent. After one call its key is set and
holds the script value of the front name, if there is one, so a second call
changes nothing.

Results:
* `mpStep_vars`: a call leaves the bindings alone, adds the parser's binding,
  or binds a name with no script-defined binding to a key that was unset.
* `Reachable.keyRefsSet`: in every reachable state, each binding to a key
  points at a key that is set.
* `lookup_changes_only_by_new_binding`: from every reachable state, a call
  changes what `find_mp_var` returns for a name only by binding the name anew.
  The engine never hides a script-defined binding, and it hides a binding
  only when that binding is to the other key.
* `key_setup_idempotent`: running `mptcp_gen_key` twice, or
  `extract_and_set_kernel_key` twice with the same live packet, leaves the
  state that one run leaves.
-/

namespace PacketdrillMptcp

/-! ## Lookups -/

theorem findMpVar_name {s : MpState} {name : String} {var : MpVar} (h : findMpVar s name = some var) :
    var.name = name := by
  simpa using List.find?_some h

theorem findMpVar_of_vars {s s' : MpState} (h : s'.vars = s.vars) (name : String) :
    findMpVar s' name = findMpVar s name := by
  rw [findMpVar, findMpVar, h]

/-- A binding put in front hides the other bindings of its name, and of no
other name. -/
theorem findMpVar_of_vars_cons {s s' : MpState} {var : MpVar} (h : s'.vars = var :: s.vars) (name : String) :
    findMpVar s' name = if var.name = name then some var else findMpVar s name := by
  by_cases hn : var.name = name <;> simp [findMpVar, h, List.find?_cons, hn]

/-! ## One call -/

/-- What `mptcp_gen_key` or `extract_and_set_kernel_key` does to the
bindings: nothing, or bind a name with no script-defined binding to `slot`,
which was unset before and is set after. -/
def KeyBindingStep (slot : KeySlot) (s s' : MpState) : Prop :=
  s'.vars = s.vars ∨ ∃ name, (∀ var ∈ findMpVar s name, var.scriptDefined = false) ∧
    s.keySet slot = false ∧ s'.keySet slot = true ∧ s'.vars = ⟨name, .key slot⟩ :: s.vars

section
variable {s s' : MpState}

/-- Calls after it that keep the keys and the bindings keep it. -/
theorem KeyBindingStep.trail {slot : KeySlot} {s1 : MpState} (h : KeyBindingStep slot s s1)
    (hkeys : KeysFixed s1 s') (hvars : s'.vars = s1.vars) : KeyBindingStep slot s s' := by
  rcases h with h | ⟨name, hnot, hunset, hset, h⟩
  · exact .inl (hvars.trans h)
  · exact .inr ⟨name, hnot, hunset, (hkeys slot).2.trans hset, hvars.trans h⟩

theorem mptcpGenKey_keyBindingStep (s : MpState) : KeyBindingStep .packetdrillKey s (mptcpGenKey s).2 := by
  have hv := setKeyFromScript_queue s .packetdrillKey
  unfold mptcpGenKey
  split
  · exact .inl rfl
  · rename_i name hfront
    dsimp only
    split
    · exact .inl (hv name).2
    · rename_i hunset
      have hunset' : (setKeyFromScript s .packetdrillKey name).keySet .packetdrillKey = false := by
        simpa [MpState.keySet] using hunset
      refine .inr ⟨name, setKeyFromScript_unset s _ name hunset', ?_, rfl,
        by simp only [addMpVarKey, addMpVar, setPacketdrillKey, MpState.setKey, MpState.rand64, (hv name).2]⟩
      exact Bool.eq_false_iff.mpr fun hset => by
        rw [(setKeyFromScript_keyKept hfront _ hset).1] at hunset'; cases hunset'

theorem extractAndSetKernelKey_keyBindingStep (s : MpState) (livePacket : Packet) :
    KeyBindingStep .kernelKey s (extractAndSetKernelKey s livePacket).2 := by
  obtain ⟨hq, hv⟩ := adoptFrontScriptKey_queue s .kernelKey
  unfold extractAndSetKernelKey
  split
  · exact .inl rfl
  · dsimp only
    split
    · exact .inl hv
    · rename_i hunset
      have hunset' : (adoptFrontScriptKey s .kernelKey).keySet .kernelKey = false := by
        simpa [MpState.keySet] using hunset
      split
      · exact .inl hv
      · rename_i name hname
        have hfront : queueFront s = some name := by rw [← hname, queueFront, queueFront, ← hq]; rfl
        have hnot : ∀ var ∈ findMpVar s name, var.scriptDefined = false := by
          unfold adoptFrontScriptKey at hunset'
          rw [hfront] at hunset'
          exact setKeyFromScript_unset s .kernelKey name hunset'
        refine .inr ⟨name, hnot, ?_, rfl, by simp only [addMpVarKey, addMpVar, setKernelKey, MpState.setKey, hv]⟩
        exact Bool.eq_false_iff.mpr fun hset => by
          rw [(adoptFrontScriptKey_keyKept s _ hset).1] at hunset'; cases hunset'

theorem mpCapableThirdAck_vars (s : MpState) (packetToModify : Packet) (tcpOpt : TcpOption)
    (direction : Direction) : (mpCapableThirdAck s packetToModify tcpOpt direction).2.1.vars = s.vars := by
  rw [mpCapableThirdAck_state, (newSubflow_frame _ _ _).vars, mptcpSetMpCapKeys_state]

/-- Of the MP_CAPABLE cases, only the two SYN cases bind, through the key
call they start with. -/
theorem mptcpSubtypeMpCapable_keyBindingStep (s : MpState) (packetToModify livePacket : Packet)
    (tcpOpt : TcpOption) (direction : Direction) :
    ∃ slot, KeyBindingStep slot s (mptcpSubtypeMpCapable s packetToModify livePacket tcpOpt direction).2.1 := by
  rcases mptcpSubtypeMpCapable_cases s packetToModify livePacket tcpOpt direction with
    ⟨h, -⟩ | ⟨h, -⟩ | ⟨h, -⟩ | ⟨h, -⟩ <;> rw [h]
  · exact ⟨_, (mptcpGenKey_keyBindingStep s).trail (mptcpSetMpCapSynKey_keysFixed _ tcpOpt)
      (by rw [mpCapableGenAndSetKey_state, mptcpSetMpCapSynKey_state])⟩
  · exact ⟨_, (extractAndSetKernelKey_keyBindingStep s livePacket).trail (mptcpSetMpCapSynKey_keysFixed _ tcpOpt)
      (by rw [mpCapableExtractAndSetKey_state, mptcpSetMpCapSynKey_state])⟩
  · exact ⟨.packetdrillKey, .inl (mpCapableThirdAck_vars s packetToModify tcpOpt direction)⟩
  · exact ⟨.packetdrillKey, .inl rfl⟩

variable {x : MpInput} {status : Status} {out : Option TcpOption}

/-- What one call does to the bindings: the parser's call adds its binding,
and any other call binds at most one name to a key, as `KeyBindingStep` says. -/
theorem mpStep_vars (h : mpStep s x = .ok (status, s', out)) :
    (∃ slot, KeyBindingStep slot s s') ∨
      ∃ name value, x = .addMpVarScriptDefined name value ∧ s'.vars = ⟨name, .scriptDefined value⟩ :: s.vars := by
  cases x with
  | enqueueVar name heap =>
    obtain ⟨_, rfl, -⟩ := mpStep_enqueueVar h
    exact .inl ⟨.packetdrillKey, .inl rfl⟩
  | addMpVarScriptDefined name value => cases h; exact .inr ⟨name, value, rfl, rfl⟩
  | option packetToModify livePacket i tcpOpt direction =>
    obtain ⟨tcpOpt', hopt, -⟩ := mpStep_option.mp h
    refine .inl ?_
    rcases mptcpOption_cases hopt with ⟨-, hcap⟩ | ⟨-, hjoin⟩ | ⟨-, hdss⟩ | ⟨-, -, -, -, rfl, -⟩
    · have := mptcpSubtypeMpCapable_keyBindingStep s packetToModify livePacket tcpOpt direction
      rwa [hcap] at this
    · exact ⟨.packetdrillKey, .inl (mptcpSubtypeMpJoin_frame hjoin).vars⟩
    · exact ⟨.packetdrillKey, .inl (mptcpSubtypeDss_frame hdss).vars⟩
    · exact ⟨.packetdrillKey, .inl rfl⟩

/-- A call keeps a set key set. -/
theorem mpStep_keySet {slot : KeySlot} (h : mpStep s x = .ok (status, s', out)) (hset : s.keySet slot = true) :
    s'.keySet slot = true := by
  cases x with
  | enqueueVar name heap =>
    obtain ⟨_, rfl, -⟩ := mpStep_enqueueVar h
    exact hset
  | addMpVarScriptDefined name value => cases h; exact hset
  | option packetToModify livePacket i tcpOpt direction =>
    obtain ⟨tcpOpt', hopt, -⟩ := mpStep_option.mp h
    rcases mptcpOption_cases hopt with ⟨-, hcap⟩ | ⟨-, hjoin⟩ | ⟨-, hdss⟩ | ⟨-, -, -, -, rfl, -⟩
    · have := (mptcpSubtypeMpCapable_keyKept s packetToModify livePacket tcpOpt direction hset).1
      rwa [hcap] at this
    · exact ((mptcpSubtypeMpJoin_frame hjoin).key slot).2.trans hset
    · exact ((mptcpSubtypeDss_frame hdss).key slot).2.trans hset
    · exact hset

/-! ## Runs -/

/-- Every binding to a key points at a key that is set. -/
def KeyRefsSet (s : MpState) : Prop :=
  ∀ var ∈ s.vars, ∀ slot, var.value = .key slot → s.keySet slot = true

theorem mpStep_keyRefsSet (h : mpStep s x = .ok (status, s', out)) (hrefs : KeyRefsSet s) : KeyRefsSet s' := by
  have hold : ∀ var ∈ s.vars, ∀ slot, var.value = .key slot → s'.keySet slot = true :=
    fun var hvar slot hslot => mpStep_keySet h (hrefs var hvar slot hslot)
  rcases mpStep_vars h with ⟨_, hv | ⟨name, -, -, hset, hv⟩⟩ | ⟨name, value, -, hv⟩ <;> rw [KeyRefsSet, hv]
  · exact hold
  · rintro var (_ | ⟨_, hvar⟩) slot hslot
    · cases hslot; exact hset
    · exact hold var hvar slot hslot
  · rintro var (_ | ⟨_, hvar⟩) slot hslot
    · cases hslot
    · exact hold var hvar slot hslot

theorem Reachable.keyRefsSet (h : Reachable s) : KeyRefsSet s := by
  induction h with
  | init random => intro var hvar; cases hvar
  | step _ hstep ih => exact mpStep_keyRefsSet hstep ih

/-- A binding the engine adds changes the lookup of its own name only, and
only where that name was unbound or bound to the other key. -/
theorem KeyBindingStep.lookup {slot : KeySlot} (h : KeyBindingStep slot s s') (hrefs : KeyRefsSet s)
    (name : String) :
    findMpVar s' name = findMpVar s name ∨
    s.keySet slot = false ∧ findMpVar s' name = some ⟨name, .key slot⟩ ∧
      (findMpVar s name = none ∨ ∃ old, old ≠ slot ∧ findMpVar s name = some ⟨name, .key old⟩) := by
  rcases h with hv | ⟨n, hnot, hunset, -, hv⟩
  · exact .inl (findMpVar_of_vars hv name)
  rw [findMpVar_of_vars_cons hv]
  by_cases hn : n = name
  · subst hn
    refine .inr ⟨hunset, if_pos rfl, ?_⟩
    cases hfind : findMpVar s n with
    | none => exact .inl rfl
    | some var =>
      obtain ⟨m, old | value⟩ := var
      · obtain rfl : m = n := findMpVar_name hfind
        refine .inr ⟨old, fun hold => ?_, rfl⟩
        have hset := hrefs _ (List.mem_of_find?_eq_some hfind) old rfl
        rw [hold, hunset] at hset
        cases hset
      · cases hnot _ hfind
  · exact .inl (if_neg hn)

/-- From every reachable state, a call changes what `find_mp_var` returns for
a name in one of two ways. Either the parser binds the name to a script
value, or the engine binds it to a key that was unset, where the name was
unbound or bound to the other key. In the last case the name is then bound
twice. -/
theorem lookup_changes_only_by_new_binding (hs : Reachable s) (h : mpStep s x = .ok (status, s', out))
    (name : String) :
    findMpVar s' name = findMpVar s name ∨
    (∃ value, x = .addMpVarScriptDefined name value ∧ findMpVar s' name = some ⟨name, .scriptDefined value⟩) ∨
    ∃ slot, s.keySet slot = false ∧ findMpVar s' name = some ⟨name, .key slot⟩ ∧
      (findMpVar s name = none ∨ ∃ old, old ≠ slot ∧ findMpVar s name = some ⟨name, .key old⟩) := by
  rcases mpStep_vars h with ⟨slot, hstep⟩ | ⟨n, value, rfl, hv⟩
  · exact (hstep.lookup hs.keyRefsSet name).imp_right fun hnew => .inr ⟨slot, hnew⟩
  · rw [findMpVar_of_vars_cons hv]
    by_cases hn : n = name
    · subst hn; exact .inr (.inl ⟨value, rfl, if_pos rfl⟩)
    · exact .inl (if_neg hn)

end

/-- Both keys named `a`, after the kernel's MP_CAPABLE SYN. -/
def sharedNameState : MpState :=
  (stepAnswer (enqueueVar (enqueueVar (initMpState 8 fun _ => 0) "a" "").2 "a" "").2 capableSynOut).2.1

/-- The same, after the tool's MP_CAPABLE SYN/ACK. -/
def sharedNameRebound : MpState := (stepAnswer sharedNameState capableSynAckIn).2.1

/-- The SYN/ACK binds `a`, bound to the kernel's key, to the tool's key as
well. -/
theorem shared_name_bound_twice :
    (∃ slot, sharedNameState.keySet slot = false ∧ findMpVar sharedNameRebound "a" = some ⟨"a", .key slot⟩ ∧
      (findMpVar sharedNameState "a" = none ∨
        ∃ old, old ≠ slot ∧ findMpVar sharedNameState "a" = some ⟨"a", .key old⟩)) ∧
    findMpVar sharedNameState "a" = some ⟨"a", .key .kernelKey⟩ ∧
    sharedNameRebound.vars = [⟨"a", .key .packetdrillKey⟩, ⟨"a", .key .kernelKey⟩] := by
  have hsyn : mpStep (enqueueVar (enqueueVar (initMpState 8 fun _ => 0) "a" "").2 "a" "").2 capableSynOut =
      .ok (.ok, sharedNameState, (stepAnswer (enqueueVar (enqueueVar (initMpState 8 fun _ => 0) "a" "").2 "a" "").2
        capableSynOut).2.2) := rfl
  have hreach : Reachable sharedNameState :=
    .step (.step (x := .enqueueVar "a" "") (.step (x := .enqueueVar "a" "") (.init 8 fun _ => 0) rfl) rfl) hsyn
  have hstep : mpStep sharedNameState capableSynAckIn =
      .ok ((stepAnswer sharedNameState capableSynAckIn).1, sharedNameRebound,
        (stepAnswer sharedNameState capableSynAckIn).2.2) := rfl
  refine ⟨?_, by decide, by decide⟩
  rcases lookup_changes_only_by_new_binding hreach hstep "a" with hsame | ⟨_, hparser, -⟩ | hnew
  · exact absurd hsame (by decide)
  · cases hparser
  · exact hnew

/-! ## Idempotence -/

theorem MpState.setKey_setKey (s : MpState) (slot : KeySlot) (k : UInt64) :
    (s.setKey slot k).setKey slot k = s.setKey slot k := by
  cases slot <;> rfl

theorem findMpVar_setKey (s : MpState) (slot : KeySlot) (k : UInt64) (name : String) :
    findMpVar (s.setKey slot k) name = findMpVar s name := by
  cases slot <;> rfl

theorem setKeyFromScript_setKeyFromScript (s : MpState) (slot : KeySlot) (name : String) :
    setKeyFromScript (setKeyFromScript s slot name) slot name = setKeyFromScript s slot name := by
  rcases hfind : findMpVar s name with _ | ⟨n, _ | value⟩ <;>
    simp only [setKeyFromScript, hfind, findMpVar_setKey, MpState.setKey_setKey]

/-- A name just bound to a key has no script value to adopt. -/
theorem setKeyFromScript_addMpVarKey (s : MpState) (name : String) (slot slot' : KeySlot) :
    setKeyFromScript (addMpVarKey s name slot) slot' name = addMpVarKey s name slot := by
  simp [setKeyFromScript, findMpVar, addMpVarKey, addMpVar]

theorem adoptFrontScriptKey_front {s : MpState} {name : String} (h : queueFront s = some name) (slot : KeySlot) :
    adoptFrontScriptKey s slot = setKeyFromScript s slot name := by
  rw [adoptFrontScriptKey, h]

theorem adoptFrontScriptKey_adoptFrontScriptKey (s : MpState) (slot : KeySlot) :
    adoptFrontScriptKey (adoptFrontScriptKey s slot) slot = adoptFrontScriptKey s slot := by
  cases hfront : queueFront s with
  | none => simp only [adoptFrontScriptKey, hfront]
  | some name =>
    have hq := (setKeyFromScript_queue s slot name).1
    rw [adoptFrontScriptKey_front hfront, adoptFrontScriptKey_front (by rw [queueFront, hq]; exact hfront),
      setKeyFromScript_setKeyFromScript]

theorem adoptFrontScriptKey_addMpVarKey {s : MpState} {name : String} (h : queueFront s = some name)
    (slot slot' : KeySlot) : adoptFrontScriptKey (addMpVarKey s name slot) slot' = addMpVarKey s name slot := by
  rw [adoptFrontScriptKey_front (show queueFront (addMpVarKey s name slot) = some name from h),
    setKeyFromScript_addMpVarKey]

/-- The key of `slot` is set, and adopting the script value of the front
queued name, if it has one, changes nothing: `mptcp_gen_key` or
`extract_and_set_kernel_key` has nothing left to do. -/
def KeyAdopted (slot : KeySlot) (s : MpState) : Prop :=
  s.keySet slot = true ∧ adoptFrontScriptKey s slot = s

theorem mptcpGenKey_of_keyAdopted {s : MpState} (h : KeyAdopted .packetdrillKey s) : (mptcpGenKey s).2 = s := by
  unfold mptcpGenKey
  split
  · rfl
  · rename_i name hfront
    dsimp only
    rw [← adoptFrontScriptKey_front hfront, h.2, if_pos (show s.packetdrillKeySet = true from h.1)]

theorem mptcpGenKey_keyAdopted {s : MpState} {name : String} (hfront : queueFront s = some name) :
    KeyAdopted .packetdrillKey (mptcpGenKey s).2 := by
  have hfront' : queueFront (setKeyFromScript s .packetdrillKey name) = some name := by
    rw [queueFront, (setKeyFromScript_queue s _ name).1]; exact hfront
  unfold mptcpGenKey
  rw [hfront]
  dsimp only
  split
  · exact ⟨‹_›, by rw [adoptFrontScriptKey_front hfront', setKeyFromScript_setKeyFromScript]⟩
  · exact ⟨rfl, adoptFrontScriptKey_addMpVarKey (by exact hfront') _ _⟩

theorem extractAndSetKernelKey_of_keyAdopted {s : MpState} (h : KeyAdopted .kernelKey s) (livePacket : Packet) :
    (extractAndSetKernelKey s livePacket).2 = s := by
  unfold extractAndSetKernelKey
  split
  · rfl
  · dsimp only
    rw [h.2, if_pos (show s.kernelKeySet = true from h.1)]

theorem extractAndSetKernelKey_keyAdopted (s : MpState) {livePacket : Packet} {mpcapOpt : TcpOption}
    (hopt : getTcpOption livePacket tcpoptMptcp = some mpcapOpt) :
    KeyAdopted .kernelKey (extractAndSetKernelKey s livePacket).2 := by
  unfold extractAndSetKernelKey
  rw [hopt]
  dsimp only
  split
  · exact ⟨‹_›, adoptFrontScriptKey_adoptFrontScriptKey s _⟩
  · split
    · rename_i hnone
      exact ⟨rfl, by rw [adoptFrontScriptKey, hnone]⟩
    · rename_i name hname
      exact ⟨rfl, adoptFrontScriptKey_addMpVarKey hname _ _⟩

/-- For every state, and every live packet, a second `mptcp_gen_key` or
`extract_and_set_kernel_key` leaves the state the first one left: no second
key, draw from the generator or binding. -/
theorem key_setup_idempotent (s : MpState) (livePacket : Packet) :
    (mptcpGenKey (mptcpGenKey s).2).2 = (mptcpGenKey s).2 ∧
    (extractAndSetKernelKey (extractAndSetKernelKey s livePacket).2 livePacket).2 =
      (extractAndSetKernelKey s livePacket).2 := by
  constructor
  · cases hfront : queueFront s with
    | none => simp only [mptcpGenKey, hfront]
    | some name => exact mptcpGenKey_of_keyAdopted (mptcpGenKey_keyAdopted hfront)
  · cases hopt : getTcpOption livePacket tcpoptMptcp with
    | none => simp only [extractAndSetKernelKey, hopt]
    | some mpcapOpt => exact extractAndSetKernelKey_of_keyAdopted (extractAndSetKernelKey_keyAdopted s hopt) _

end PacketdrillMptcp
