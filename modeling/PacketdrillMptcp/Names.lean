import PacketdrillMptcp.JoinFields

/-!
# Names resolve in FIFO order

The parser queues the variable names of a script's MPTCP options in the
order the options will be processed (`enqueue_var`, lines 49–56) and binds the
names the script gives values to (`add_mp_var_script_defined`, lines 103–112).
While the packets are processed, an MP_CAPABLE SYN or SYN/ACK takes one name
from the front of the queue and a third ACK two (`find_next_key`, lines
138–151); `mptcp_gen_key` and `extract_and_set_kernel_key` only look at the
front (`queue_front`). A name the script does not define is bound, by the SYN
or SYN/ACK that carries it, to the key of the host that sends that packet.

A run here is the parser's calls from `init_mp_state`, then the option calls,
each with the names the script attached to it (`Carries`); `side` says whose
key an undefined name stands for. The queued names are the strings their
buffers read as (`MpInput.queuedName`): the name, followed by the string in
the memory after its buffer (`NameBuffers`).

Results:
* `runInputs_parse`: the parser's calls queue their names in order and bind
  script-defined values only.
* `KeyBindingsOnSide.read`: the invariant under which every binding reads as
  its name's resolution (`resolveName`).
* `mpStep_names`: one call takes exactly its names from the front of the queue
  and writes their resolutions.
* `capable_names_resolve_in_fifo_order`: the same for every call of a run. A
  script-defined name whose buffer is followed by other bytes than a 0 reads
  as another name, and its value is lost (`queued_b_resolves_to_kernel_key`).
-/

namespace PacketdrillMptcp

/-! ## Runs of a parsed script -/

/-- A call of the parser: `enqueue_var` or `add_mp_var_script_defined`. -/
def MpInput.IsParserCall : MpInput → Prop
  | .option .. => False
  | _ => True

instance : DecidablePred MpInput.IsParserCall
  | .enqueueVar _ _ => isTrue trivial
  | .addMpVarScriptDefined _ _ => isTrue trivial
  | .option .. => isFalse id

/-- The name a call queues: for `enqueue_var`, the name as its buffer is read,
`name ++ heap`. -/
def MpInput.queuedName : MpInput → Option String
  | .enqueueVar name heap => some (name ++ heap)
  | _ => none

/-- Every binding holds a script-defined value, as after parsing. -/
def ScriptDefinedOnly (s : MpState) : Prop := ∀ var ∈ s.vars, var.scriptDefined = true

/-- An accepted parser call queues its name, if any, behind the others, and
adds only script-defined bindings. -/
theorem mpStep_parse {s s' : MpState} {x : MpInput} {out : Option TcpOption} (hx : x.IsParserCall)
    (h : mpStep s x = .ok (.ok, s', out)) :
    s'.varsQueue = s.varsQueue ++ x.queuedName.toList ∧ (ScriptDefinedOnly s → ScriptDefinedOnly s') := by
  cases x with
  | enqueueVar name heap =>
    obtain ⟨-, rfl, -⟩ := mpStep_enqueueVar_ok.mp h
    exact ⟨rfl, id⟩
  | addMpVarScriptDefined name value =>
    cases h
    refine ⟨(List.append_nil _).symm, fun hs => ?_⟩
    rintro var (_ | ⟨_, hvar⟩)
    exacts [rfl, hs var hvar]
  | option => exact hx.elim

/-- A run of parser calls queues the names of its `enqueue_var` calls in
order, and adds only script-defined bindings. -/
theorem runInputs_parse : ∀ (parse : List MpInput) {s s' : MpState}, (∀ x ∈ parse, x.IsParserCall) →
    runInputs s parse = some s' →
      s'.varsQueue = s.varsQueue ++ parse.filterMap MpInput.queuedName ∧ (ScriptDefinedOnly s → ScriptDefinedOnly s')
  | [], _, _, _, h => by cases h; exact ⟨(List.append_nil _).symm, id⟩
  | x :: parse, s, _, hparse, h => by
    unfold runInputs at h
    split at h
    · rename_i s₁ _ hstep
      obtain ⟨hq, hd⟩ := mpStep_parse (hparse x (.head _)) hstep
      obtain ⟨hq', hd'⟩ := runInputs_parse parse (fun y hy => hparse y (.tail _ hy)) h
      refine ⟨?_, hd' ∘ hd⟩
      rw [hq', hq, List.filterMap_cons, List.append_assoc]
      cases x.queuedName <;> rfl
    · cases h

/-- The names the script attaches to option call `x`: one for an MP_CAPABLE
SYN or SYN/ACK, which stands for the key of the host sending it unless the
script defines it; two for a third ACK; none for any other option. -/
def Carries (side : String → KeySlot) (s0 : MpState) : MpInput → List String → Prop
  | .option packetToModify _ _ tcpOpt direction, names =>
    if tcpOpt.data.subtype = mpCapableSubtype ∧ IsCapableSyn packetToModify tcpOpt then
      names.length = 1 ∧ ∀ name ∈ names, findMpVar s0 name = none → (side name).direction = direction
    else if tcpOpt.data.subtype = mpCapableSubtype ∧ IsThirdAck packetToModify tcpOpt then names.length = 2
    else names = []
  | _, _ => False

instance (side : String → KeySlot) (s0 : MpState) : ∀ x names, Decidable (Carries side s0 x names)
  | .option .., _ => inferInstanceAs (Decidable (ite _ _ _))
  | .enqueueVar _ _, _ => isFalse id
  | .addMpVarScriptDefined _ _, _ => isFalse id

/-- The keys a call wrote, in the order of the names it carries: the key of
an MP_CAPABLE SYN or SYN/ACK, the sender's and the receiver's key of a third
ACK, none for any other call. -/
def MpStepRecord.writtenKeys (r : MpStepRecord) : List UInt64 :=
  match r.input, r.out with
  | .option packetToModify _ _ tcpOpt _, some tcpOpt' =>
    if tcpOpt.data.subtype = mpCapableSubtype ∧ IsCapableSyn packetToModify tcpOpt then
      [tcpOpt'.data.mpCapable.synKey]
    else if tcpOpt.data.subtype = mpCapableSubtype ∧ IsThirdAck packetToModify tcpOpt then
      [tcpOpt'.data.mpCapable.noSynSenderKey, tcpOpt'.data.mpCapable.noSynReceiverKey]
    else []
  | _, _ => []

/-- The resolution of `name` at `s`, for the parsed state `s0`: the value the
script defined for it, otherwise the key of its side. -/
def resolveName (side : String → KeySlot) (s0 s : MpState) (name : String) : UInt64 :=
  match findMpVar s0 name with
  | some ⟨_, .scriptDefined value⟩ => value
  | _ => s.key (side name)

theorem resolveName_of_keysFixed {side : String → KeySlot} {s0 s s' : MpState} (h : KeysFixed s s')
    (name : String) : resolveName side s0 s' name = resolveName side s0 s name := by
  unfold resolveName; split <;> simp only [(h _).1]

/-! ## The bindings -/

/-- The bindings of `s` are those of the parsed state `s0` behind bindings
added since, each binding a name `s0` does not bind to the key of its side. -/
def KeyBindingsOnSide (side : String → KeySlot) (s0 s : MpState) : Prop :=
  ∃ added : List MpVar, s.vars = added ++ s0.vars ∧
    ∀ var ∈ added, findMpVar s0 var.name = none ∧ var.value = .key (side var.name)

section
variable {side : String → KeySlot} {s0 s s' : MpState}

theorem KeyBindingsOnSide.of_vars (h : KeyBindingsOnSide side s0 s) (hvars : s'.vars = s.vars) :
    KeyBindingsOnSide side s0 s' := by
  rwa [KeyBindingsOnSide, hvars]

/-- A binding found in `s` reads as its name's resolution. -/
theorem KeyBindingsOnSide.read (h : KeyBindingsOnSide side s0 s) (h0 : ScriptDefinedOnly s0) {name : String}
    {var : MpVar} (hfind : findMpVar s name = some var) : var.value.read s = resolveName side s0 s name := by
  obtain ⟨added, hvars, hadded⟩ := h
  unfold findMpVar at hfind
  rw [hvars, List.find?_append] at hfind
  cases ha : added.find? (·.name == name) with
  | some a =>
    rw [ha] at hfind
    obtain rfl : a = var := Option.some.inj hfind
    obtain ⟨hnone, hval⟩ := hadded a (List.mem_of_find?_eq_some ha)
    rw [show a.name = name by simpa using List.find?_some ha] at hnone hval
    simp only [resolveName, hnone, hval, MpVarValue.read]
  | none =>
    simp only [ha, Option.none_or] at hfind
    have hscript := h0 var (List.mem_of_find?_eq_some hfind)
    obtain ⟨_, _ | value⟩ := var
    · cases hscript
    · simp only [resolveName, findMpVar, hfind, MpVarValue.read]

/-- A name with no script-defined binding in `s` is not bound in `s0`. -/
theorem KeyBindingsOnSide.unbound (h : KeyBindingsOnSide side s0 s) (h0 : ScriptDefinedOnly s0) {name : String}
    (hnot : ∀ var ∈ findMpVar s name, var.scriptDefined = false) : findMpVar s0 name = none := by
  obtain ⟨added, hvars, hadded⟩ := h
  cases ha : added.find? (·.name == name) with
  | some a =>
    have hnone := (hadded a (List.mem_of_find?_eq_some ha)).1
    rwa [show a.name = name by simpa using List.find?_some ha] at hnone
  | none =>
    cases h0f : findMpVar s0 name with
    | none => rfl
    | some var =>
      have hfind : findMpVar s name = some var := by
        rw [findMpVar, hvars, List.find?_append, ha, Option.none_or]; exact h0f
      have := hnot var hfind
      rw [h0 var (List.mem_of_find?_eq_some h0f)] at this
      cases this

/-- What `mptcp_gen_key` and `extract_and_set_kernel_key` do to the queue and
the bindings: keep the queue, and keep the bindings or add one of the front
name, which has no script-defined binding, to `slot`. -/
def FrontBound (slot : KeySlot) (s s' : MpState) : Prop :=
  s'.varsQueue = s.varsQueue ∧ (s'.vars = s.vars ∨ ∃ name, queueFront s = some name ∧
    (∀ var ∈ findMpVar s name, var.scriptDefined = false) ∧ s'.vars = ⟨name, .key slot⟩ :: s.vars)

theorem KeyBindingsOnSide.frontBound (h : KeyBindingsOnSide side s0 s) (h0 : ScriptDefinedOnly s0)
    {slot : KeySlot} (hb : FrontBound slot s s')
    (hside : ∀ name, queueFront s = some name → findMpVar s0 name = none → side name = slot) :
    KeyBindingsOnSide side s0 s' := by
  rcases hb.2 with hvars | ⟨name, hfront, hnot, hvars⟩
  · exact h.of_vars hvars
  · have hnone := h.unbound h0 hnot
    obtain ⟨added, hv, hadded⟩ := h
    refine ⟨⟨name, .key slot⟩ :: added, by rw [hvars, hv]; rfl, ?_⟩
    rintro var (_ | ⟨_, hvar⟩)
    · exact ⟨hnone, by rw [hside name hfront hnone]⟩
    · exact hadded var hvar

end

/-! ## Peeking at the front name -/

theorem setKeyFromScript_queue (s : MpState) (slot : KeySlot) (name : String) :
    (setKeyFromScript s slot name).varsQueue = s.varsQueue ∧ (setKeyFromScript s slot name).vars = s.vars := by
  unfold setKeyFromScript; split
  · cases slot <;> exact ⟨rfl, rfl⟩
  · exact ⟨rfl, rfl⟩

/-- If the slot is still unset after `setKeyFromScript`, the name had no
script-defined binding. -/
theorem setKeyFromScript_unset (s : MpState) (slot : KeySlot) (name : String)
    (h : (setKeyFromScript s slot name).keySet slot = false) : ∀ var ∈ findMpVar s name, var.scriptDefined = false := by
  intro var hvar
  unfold setKeyFromScript at h
  rw [Option.mem_def.mp hvar] at h
  obtain ⟨_, _ | value⟩ := var
  · rfl
  · cases slot <;> cases h

theorem mptcpGenKey_frontBound (s : MpState) : FrontBound .packetdrillKey s (mptcpGenKey s).2 := by
  unfold mptcpGenKey
  split
  · exact ⟨rfl, .inl rfl⟩
  · rename_i name hfront
    obtain ⟨hq, hv⟩ := setKeyFromScript_queue s .packetdrillKey name
    dsimp only
    split
    · exact ⟨hq, .inl hv⟩
    · rename_i hunset
      exact ⟨hq, .inr ⟨name, hfront,
        setKeyFromScript_unset s .packetdrillKey name (by simpa [MpState.keySet] using hunset),
        by simp only [addMpVarKey, addMpVar, setPacketdrillKey, MpState.setKey, MpState.rand64, hv]⟩⟩

theorem adoptFrontScriptKey_queue (s : MpState) (slot : KeySlot) :
    (adoptFrontScriptKey s slot).varsQueue = s.varsQueue ∧ (adoptFrontScriptKey s slot).vars = s.vars := by
  unfold adoptFrontScriptKey; split
  exacts [setKeyFromScript_queue s slot _, ⟨rfl, rfl⟩]

theorem extractAndSetKernelKey_frontBound (s : MpState) (livePacket : Packet) :
    FrontBound .kernelKey s (extractAndSetKernelKey s livePacket).2 := by
  obtain ⟨hq, hv⟩ := adoptFrontScriptKey_queue s .kernelKey
  unfold extractAndSetKernelKey
  split
  · exact ⟨rfl, .inl rfl⟩
  · dsimp only
    split
    · exact ⟨hq, .inl hv⟩
    · rename_i hunset
      split
      · exact ⟨hq, .inl hv⟩
      · rename_i name hname
        have hfront : queueFront s = some name := by rw [← hname, queueFront, queueFront, ← hq]; rfl
        have hnot : ∀ var ∈ findMpVar s name, var.scriptDefined = false := by
          unfold adoptFrontScriptKey at hunset
          rw [hfront] at hunset
          exact setKeyFromScript_unset s .kernelKey name (by simpa [MpState.keySet] using hunset)
        exact ⟨hq, .inr ⟨name, hfront, hnot,
          by simp only [addMpVarKey, addMpVar, setKernelKey, MpState.setKey, hv]⟩⟩

/-! ## Popping names -/

theorem mptcpSetMpCapSynKey_ok {s s' : MpState} {tcpOpt tcpOpt' : TcpOption} {name : String}
    {rest : List String} (hq : s.varsQueue = name :: rest)
    (h : mptcpSetMpCapSynKey s tcpOpt = (.ok, s', tcpOpt')) :
    s' = { s with varsQueue := rest } ∧ ∃ var, findMpVar s name = some var ∧
      tcpOpt' = { tcpOpt with data.mpCapable.synKey := var.value.read s } := by
  unfold mptcpSetMpCapSynKey findNextKey dequeueVar at h
  simp only [hq, List.head?_cons, List.tail_cons, Option.some_bind] at h
  split at h
  · cases h
  · rename_i value hvalue
    obtain ⟨var, hfind, rfl⟩ := Option.map_eq_some'.mp hvalue
    cases h
    exact ⟨rfl, var, hfind, rfl⟩

theorem mptcpSetMpCapKeys_ok {s s' : MpState} {tcpOpt tcpOpt' : TcpOption} {sender receiver : String}
    {rest : List String} (hq : s.varsQueue = sender :: receiver :: rest)
    (h : mptcpSetMpCapKeys s tcpOpt = (.ok, s', tcpOpt')) :
    s' = { s with varsQueue := rest } ∧ ∃ senderVar receiverVar, findMpVar s sender = some senderVar ∧
      findMpVar s receiver = some receiverVar ∧
      tcpOpt' = { tcpOpt with
        data.mpCapable.noSynSenderKey := senderVar.value.read s,
        data.mpCapable.noSynReceiverKey := receiverVar.value.read s } := by
  unfold mptcpSetMpCapKeys findNextKey dequeueVar at h
  simp only [hq, List.head?_cons, List.tail_cons, Option.some_bind] at h
  split at h
  · cases h
  · rename_i senderValue hsender
    obtain ⟨senderVar, hfind, rfl⟩ := Option.map_eq_some'.mp hsender
    split at h
    · cases h
    · rename_i receiverValue hreceiver
      obtain ⟨receiverVar, hfind', rfl⟩ := Option.map_eq_some'.mp hreceiver
      cases h
      exact ⟨rfl, senderVar, receiverVar, hfind, hfind', rfl⟩

/-! ## One call -/

theorem KeySlot.direction_injective {a b : KeySlot} (h : a.direction = b.direction) : a = b := by
  cases a <;> cases b <;> first | rfl | cases h

theorem Status.or_eq_ok {a b : Status} (h : a.or b = .ok) : a = .ok ∧ b = .ok := by
  cases a <;> cases b <;> first | exact ⟨rfl, rfl⟩ | cases h

section
variable {side : String → KeySlot} {s0 s s' : MpState}

/-- A SYN or SYN/ACK, once `mptcp_gen_key` or `extract_and_set_kernel_key` has
run: `mptcp_set_mp_cap_syn_key` pops the front name and writes its
resolution. -/
theorem mptcpSetMpCapSynKey_names (h0 : ScriptDefinedOnly s0) (hinv : KeyBindingsOnSide side s0 s)
    {slot : KeySlot} {s1 : MpState} (hb : FrontBound slot s s1) {name : String} {rest : List String}
    (hq : s.varsQueue = name :: rest) (hside : findMpVar s0 name = none → side name = slot)
    {tcpOpt tcpOpt' : TcpOption} (h : mptcpSetMpCapSynKey s1 tcpOpt = (.ok, s', tcpOpt')) :
    s'.varsQueue = rest ∧ KeyBindingsOnSide side s0 s' ∧
      [name].map (resolveName side s0 s') = [tcpOpt'.data.mpCapable.synKey] := by
  have hinv1 := hinv.frontBound h0 hb fun n hn hnone => by
    rw [queueFront, hq, List.head?_cons, Option.some.injEq] at hn
    subst hn
    exact hside hnone
  obtain ⟨rfl, var, hfind, rfl⟩ := mptcpSetMpCapSynKey_ok (hb.1.trans hq) h
  refine ⟨rfl, hinv1.of_vars rfl, ?_⟩
  rw [List.map_singleton, hinv1.read h0 hfind]
  exact congrArg (fun key => [key]) (resolveName_of_keysFixed (s := s1) (.of_fields rfl rfl rfl rfl) name)

/-- A third ACK pops the two front names and writes their resolutions. -/
theorem mpCapableThirdAck_names (h0 : ScriptDefinedOnly s0) (hinv : KeyBindingsOnSide side s0 s)
    {sender receiver : String} {rest : List String} (hq : s.varsQueue = sender :: receiver :: rest)
    {packetToModify : Packet} {tcpOpt tcpOpt' : TcpOption} {direction : Direction}
    (h : mpCapableThirdAck s packetToModify tcpOpt direction = (.ok, s', tcpOpt')) :
    s'.varsQueue = rest ∧ KeyBindingsOnSide side s0 s' ∧
      [sender, receiver].map (resolveName side s0 s') =
        [tcpOpt'.data.mpCapable.noSynSenderKey, tcpOpt'.data.mpCapable.noSynReceiverKey] := by
  have hfixed := mpCapableThirdAck_keysFixed s packetToModify tcpOpt direction
  rw [h] at hfixed
  rw [mpCapableThirdAck_eq, Prod.mk.injEq, Prod.mk.injEq] at h
  obtain ⟨hst, hpost, hopt⟩ := h
  have hkeys : mptcpSetMpCapKeys s tcpOpt = (.ok, (mptcpSetMpCapKeys s tcpOpt).2.1, tcpOpt') := by
    rw [← hst, ← hopt]
  have hframe := newSubflow_frame { (mptcpSetMpCapKeys s tcpOpt).2.1 with
      initialDsn := sha1Least64bits (mptcpSetMpCapKeys s tcpOpt).2.1.packetdrillKey } packetToModify direction
  rw [hpost] at hframe
  obtain ⟨hs2, senderVar, receiverVar, hsender, hreceiver, hopt'⟩ := mptcpSetMpCapKeys_ok hq hkeys
  rw [hs2] at hframe
  subst hopt'
  refine ⟨hframe.varsQueue, hinv.of_vars hframe.vars, ?_⟩
  simp only [List.map_cons, List.map_nil, resolveName_of_keysFixed hfixed, ← hinv.read h0 hsender,
    ← hinv.read h0 hreceiver]

theorem carries_of_ne {packetToModify livePacket : Packet} {i : ℕ} {tcpOpt : TcpOption} {direction : Direction}
    {names : List String} (hsub : tcpOpt.data.subtype ≠ mpCapableSubtype)
    (h : Carries side s0 (.option packetToModify livePacket i tcpOpt direction) names) : names = [] := by
  simpa [Carries, hsub] using h

theorem writtenKeys_of_ne {packetToModify livePacket : Packet} {i : ℕ} {tcpOpt : TcpOption} {direction : Direction}
    {out : Option TcpOption} (hsub : tcpOpt.data.subtype ≠ mpCapableSubtype) :
    MpStepRecord.writtenKeys ⟨s, .option packetToModify livePacket i tcpOpt direction, s', out⟩ = [] := by
  cases out with
  | none => rfl
  | some tcpOpt' => simp [MpStepRecord.writtenKeys, hsub]

/-- One accepted call, from a state whose queue starts with the names it
carries: it pops exactly those names, keeps the bindings' invariant, and
writes the names' resolutions. -/
theorem mpStep_names {x : MpInput} {out : Option TcpOption} {names rest : List String}
    (h0 : ScriptDefinedOnly s0) (hinv : KeyBindingsOnSide side s0 s) (hcarry : Carries side s0 x names)
    (hq : s.varsQueue = names ++ rest) (h : mpStep s x = .ok (.ok, s', out)) :
    s'.varsQueue = rest ∧ KeyBindingsOnSide side s0 s' ∧
      names.map (resolveName side s0 s') = MpStepRecord.writtenKeys ⟨s, x, s', out⟩ := by
  cases x with
  | enqueueVar _ _ => exact hcarry.elim
  | addMpVarScriptDefined _ _ => exact hcarry.elim
  | option packetToModify livePacket i tcpOpt direction =>
    obtain ⟨tcpOpt', hopt, rfl⟩ := mpStep_option.mp h
    rcases mptcpOption_cases hopt with ⟨hsub, hcap⟩ | ⟨hsub, hjoin⟩ | ⟨hsub, hdss⟩ | ⟨-, -, -, hst, -⟩
    · simp only [Carries] at hcarry
      simp only [MpStepRecord.writtenKeys]
      rcases mptcpSubtypeMpCapable_cases s packetToModify livePacket tcpOpt direction with
        ⟨hc, hsyn, rfl⟩ | ⟨hc, hsyn, rfl⟩ | ⟨hc, hack⟩ | ⟨hc, -, -⟩ <;> rw [hc] at hcap
      · rw [if_pos ⟨hsub, hsyn⟩] at hcarry ⊢
        obtain ⟨name, rfl⟩ := List.length_eq_one.mp hcarry.1
        rw [mpCapableGenAndSetKey_eq, Prod.mk.injEq] at hcap
        have hset : mptcpSetMpCapSynKey (mptcpGenKey s).2 tcpOpt = (.ok, s', tcpOpt') := by
          rw [← hcap.2, ← (Status.or_eq_ok hcap.1).1]
        exact mptcpSetMpCapSynKey_names h0 hinv (mptcpGenKey_frontBound s) hq
          (fun hnone => KeySlot.direction_injective (hcarry.2 name (.head _) hnone)) hset
      · rw [if_pos ⟨hsub, hsyn⟩] at hcarry ⊢
        obtain ⟨name, rfl⟩ := List.length_eq_one.mp hcarry.1
        exact mptcpSetMpCapSynKey_names h0 hinv (extractAndSetKernelKey_frontBound s livePacket) hq
          (fun hnone => KeySlot.direction_injective (hcarry.2 name (.head _) hnone)) hcap
      · have hnsyn : ¬(tcpOpt.data.subtype = mpCapableSubtype ∧ IsCapableSyn packetToModify tcpOpt) :=
          fun hsyn => hsyn.2.not_isThirdAck hack
        rw [if_neg hnsyn, if_pos ⟨hsub, hack⟩] at hcarry ⊢
        obtain ⟨sender, receiver, rfl⟩ := List.length_eq_two.mp hcarry
        exact mpCapableThirdAck_names h0 hinv hq hcap
      · cases hcap
    · have hframe := mptcpSubtypeMpJoin_frame hjoin
      have hne : tcpOpt.data.subtype ≠ mpCapableSubtype := by rw [hsub]; decide
      obtain rfl := carries_of_ne hne hcarry
      exact ⟨hframe.varsQueue.trans hq, hinv.of_vars hframe.vars, (writtenKeys_of_ne hne).symm⟩
    · have hframe := mptcpSubtypeDss_frame hdss
      have hne : tcpOpt.data.subtype ≠ mpCapableSubtype := by rw [hsub]; decide
      obtain rfl := carries_of_ne hne hcarry
      exact ⟨hframe.varsQueue.trans hq, hinv.of_vars hframe.vars, (writtenKeys_of_ne hne).symm⟩
    · cases hst

/-! ## Runs -/

/-- Every call of a run from `s`, whose queue holds the names of `calls` in
order and then `rest`, pops exactly its own names and writes their
resolutions. -/
theorem mpTrace_names (h0 : ScriptDefinedOnly s0) :
    ∀ (calls : List (MpInput × List String)) {s : MpState} {rest : List String},
      KeyBindingsOnSide side s0 s → (∀ c ∈ calls, Carries side s0 c.1 c.2) →
      s.varsQueue = (calls.map Prod.snd).flatten ++ rest →
      ∀ rn ∈ (mpTrace s (calls.map Prod.fst)).zip (calls.map Prod.snd),
        rn.1.pre.varsQueue = rn.2 ++ rn.1.post.varsQueue ∧
        rn.2.map (resolveName side s0 rn.1.post) = rn.1.writtenKeys
  | [], _, _, _, _, _, _, hrn => by simp [mpTrace] at hrn
  | (x, names) :: calls, s, rest, hinv, hcarry, hq, rn, hrn => by
    rw [List.map_cons, List.map_cons] at hrn
    unfold mpTrace at hrn
    split at hrn
    · rename_i s' out hstep
      have hq' : s.varsQueue = names ++ ((calls.map Prod.snd).flatten ++ rest) := by
        rw [hq, List.map_cons, List.flatten_cons, List.append_assoc]
      obtain ⟨hpost, hinv', hkeys⟩ := mpStep_names h0 hinv (hcarry _ (.head _)) hq' hstep
      rw [List.zip_cons_cons] at hrn
      rcases List.mem_cons.mp hrn with rfl | hrn
      · exact ⟨by rw [hq', hpost], hkeys⟩
      · exact mpTrace_names h0 calls hinv' (fun c hc => hcarry c (.tail _ hc)) hpost rn hrn
    · simp at hrn

end

/-- For every script whose parser calls queue the names of the options in
processing order, as the queue reads them, every option call the engine
accepts pops exactly its own names from the front of the queue (one for an
MP_CAPABLE SYN or SYN/ACK, two for a third ACK, none for any other option),
and the keys it writes are those names' resolutions: the script-defined value
of a name the script defines, otherwise the key of the host that sends the
SYN or SYN/ACK carrying the name. A name queued with the string `heap` in the
memory after its buffer is read, and resolved, as `name ++ heap`. -/
theorem capable_names_resolve_in_fifo_order (varsQueueCapacity : ℕ) (random : ℕ → UInt64)
    (parse : List MpInput) {s0 : MpState} (hparse : ∀ x ∈ parse, x.IsParserCall)
    (hs0 : runInputs (initMpState varsQueueCapacity random) parse = some s0)
    (side : String → KeySlot) (calls : List (MpInput × List String))
    (hcarry : ∀ c ∈ calls, Carries side s0 c.1 c.2)
    (hqueue : parse.filterMap MpInput.queuedName = (calls.map Prod.snd).flatten) :
    ∀ rn ∈ (mpTrace s0 (calls.map Prod.fst)).zip (calls.map Prod.snd),
      rn.1.pre.varsQueue = rn.2 ++ rn.1.post.varsQueue ∧
      rn.2.map (resolveName side s0 rn.1.post) = rn.1.writtenKeys :=
  have hrun := runInputs_parse parse hparse hs0
  mpTrace_names (hrun.2 fun _ h => nomatch h) calls ⟨[], rfl, fun _ h => nomatch h⟩ hcarry
    (by rw [hrun.1, hqueue]; exact (List.append_nil _).symm)

/-- The script defines `b` as 2 and queues `a`, `b`, `a`, `b`; the memory
after each buffer of `b` holds `x` and a 0. -/
def fifoParse : List MpInput :=
  [.addMpVarScriptDefined "b" 2, .enqueueVar "a" "", .enqueueVar "b" "x", .enqueueVar "a" "", .enqueueVar "b" "x"]

/-- The state after `fifoParse`, with a generator that always draws 7. -/
def fifoParsed : MpState := (runInputs (initMpState 8 fun _ => 7) fifoParse).getD (initMpState 8 fun _ => 7)

/-- The handshake, `a` on the tool's SYN and `b`, read as `bx`, on the
kernel's SYN/ACK. -/
def fifoCalls : List (MpInput × List String) :=
  [(capableSynIn, ["a"]), (capableSynAckOut, ["bx"]), (thirdAckIn, ["a", "bx"])]

/-- `a` stands for the tool's key and `bx` for the kernel's. -/
def fifoSide (name : String) : KeySlot := if name = "bx" then .kernelKey else .packetdrillKey

/-- `b` is bound to 2, but its queued copies read as `bx`, which the script
does not define: the SYN/ACK and the third ACK write the kernel's key 0 for
it, not 2. -/
theorem queued_b_resolves_to_kernel_key :
    (findMpVar fifoParsed "b").map (·.value) = some (.scriptDefined 2) ∧
    (mpTrace fifoParsed (fifoCalls.map Prod.fst)).map MpStepRecord.writtenKeys = [[7], [0], [7, 0]] ∧
    ∀ rn ∈ (mpTrace fifoParsed (fifoCalls.map Prod.fst)).zip (fifoCalls.map Prod.snd),
      rn.1.pre.varsQueue = rn.2 ++ rn.1.post.varsQueue ∧
      rn.2.map (resolveName fifoSide fifoParsed rn.1.post) = rn.1.writtenKeys :=
  ⟨by decide, by decide,
    capable_names_resolve_in_fifo_order 8 (fun _ => 7) fifoParse (by decide) rfl fifoSide fifoCalls (by decide) (by decide)⟩

end PacketdrillMptcp
