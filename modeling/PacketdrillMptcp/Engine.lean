import PacketdrillMptcp.MpCapable
import PacketdrillMptcp.MpJoin
import PacketdrillMptcp.Dss

/-!
# The engine and its runs

`mptcp_insert_and_extract_opt_fields` (`mptcp.c`, lines 784–833) visits the
options of a packet in order and hands each MPTCP option to the handler of
its subtype; the first handler that fails ends the packet with `STATUS_ERR`,
and what earlier options changed stays changed.

A run of the engine is a sequence of calls: the script parser's
`enqueue_var` and `add_mp_var_script_defined`, and the handling of one MPTCP
option (`MpInput`). Every packet is a run of option calls (`optionsLoop_steps`),
so a property of every option call from a reachable state is a property of
every packet of every run. A failed call ends the test, so runs continue
only through calls that return `STATUS_OK`.
-/

namespace PacketdrillMptcp

/-- The `switch` on the subtype of an MPTCP option (lines 798–823). -/
def mptcpOption (s : MpState) (packetToModify livePacket : Packet) (i : ℕ)
    (tcpOptToModify : TcpOption) (direction : Direction) :
    Except Fault (Status × MpState × TcpOption) :=
  let subtype := tcpOptToModify.data.subtype
  if subtype = mpCapableSubtype then
    .ok (mptcpSubtypeMpCapable s packetToModify livePacket tcpOptToModify direction)
  else if subtype = mpJoinSubtype then
    mptcpSubtypeMpJoin s packetToModify livePacket tcpOptToModify direction
  else if subtype = dssSubtype then
    mptcpSubtypeDss s packetToModify i tcpOptToModify direction
  else .ok (.err, s, tcpOptToModify)

/-- What one option call can do: run the handler of its subtype, or fail on
an unknown subtype and change nothing. -/
theorem mptcpOption_cases {s s' : MpState} {packetToModify livePacket : Packet} {i : ℕ}
    {tcpOpt tcpOpt' : TcpOption} {direction : Direction} {status : Status}
    (h : mptcpOption s packetToModify livePacket i tcpOpt direction = .ok (status, s', tcpOpt')) :
    (tcpOpt.data.subtype = mpCapableSubtype ∧
      mptcpSubtypeMpCapable s packetToModify livePacket tcpOpt direction = (status, s', tcpOpt')) ∨
    (tcpOpt.data.subtype = mpJoinSubtype ∧
      mptcpSubtypeMpJoin s packetToModify livePacket tcpOpt direction = .ok (status, s', tcpOpt')) ∨
    (tcpOpt.data.subtype = dssSubtype ∧
      mptcpSubtypeDss s packetToModify i tcpOpt direction = .ok (status, s', tcpOpt')) ∨
    (tcpOpt.data.subtype ≠ mpCapableSubtype ∧ tcpOpt.data.subtype ≠ mpJoinSubtype ∧
      tcpOpt.data.subtype ≠ dssSubtype ∧ status = .err ∧ s' = s ∧ tcpOpt' = tcpOpt) := by
  dsimp only [mptcpOption] at h
  split_ifs at h with h1 h2 h3
  · exact .inl ⟨h1, Except.ok.inj h⟩
  · exact .inr (.inl ⟨h2, h⟩)
  · exact .inr (.inr (.inl ⟨h3, h⟩))
  · cases h; exact .inr (.inr (.inr ⟨h1, h2, h3, rfl, rfl, rfl⟩))

theorem mptcpOption_of_mpCapable {s : MpState} {packetToModify livePacket : Packet} {i : ℕ}
    {tcpOpt : TcpOption} {direction : Direction} (h : tcpOpt.data.subtype = mpCapableSubtype) :
    mptcpOption s packetToModify livePacket i tcpOpt direction =
      .ok (mptcpSubtypeMpCapable s packetToModify livePacket tcpOpt direction) := by
  simp [mptcpOption, h]

theorem mptcpOption_of_mpJoin {s : MpState} {packetToModify livePacket : Packet} {i : ℕ}
    {tcpOpt : TcpOption} {direction : Direction} (h : tcpOpt.data.subtype = mpJoinSubtype) :
    mptcpOption s packetToModify livePacket i tcpOpt direction =
      mptcpSubtypeMpJoin s packetToModify livePacket tcpOpt direction := by
  simp [mptcpOption, h, mpJoinSubtype, mpCapableSubtype]

theorem mptcpOption_of_dss {s : MpState} {packetToModify livePacket : Packet} {i : ℕ}
    {tcpOpt : TcpOption} {direction : Direction} (h : tcpOpt.data.subtype = dssSubtype) :
    mptcpOption s packetToModify livePacket i tcpOpt direction =
      mptcpSubtypeDss s packetToModify i tcpOpt direction := by
  simp [mptcpOption, h, dssSubtype, mpJoinSubtype, mpCapableSubtype]

/-- The `while` loop of `mptcp_insert_and_extract_opt_fields` (lines 794–830)
from option number `i` on; `rest` are the options not visited yet. -/
def optionsLoop (livePacket : Packet) (direction : Direction) :
    ℕ → List TcpOption → MpState → Packet → Except Fault (Status × MpState × Packet)
  | _, [], s, packet => .ok (.ok, s, packet)
  | i, tcpOpt :: rest, s, packet =>
    if tcpOpt.kind = tcpoptMptcp then
      match mptcpOption s packet livePacket i tcpOpt direction with
      | .error fault => .error fault
      | .ok (.err, s, tcpOpt) => .ok (.err, s, packet.setOption i tcpOpt)
      | .ok (.ok, s, tcpOpt) => optionsLoop livePacket direction (i + 1) rest s (packet.setOption i tcpOpt)
    else optionsLoop livePacket direction (i + 1) rest s packet

/-- `mptcp_insert_and_extract_opt_fields(packet_to_modify, live_packet,
direction)` (lines 784–833). -/
def mptcpInsertAndExtractOptFields (s : MpState) (packetToModify livePacket : Packet)
    (direction : Direction) : Except Fault (Status × MpState × Packet) :=
  optionsLoop livePacket direction 0 packetToModify.tcpOptions s packetToModify

/-! ## Runs -/

/-- One call into `mp_state`: a parser call, or the handling of the MPTCP
option `tcpOpt`, number `i` of `packetToModify`. -/
inductive MpInput
  | enqueueVar (name heap : String)
  | addMpVarScriptDefined (name : String) (value : UInt64)
  | option (packetToModify livePacket : Packet) (i : ℕ) (tcpOpt : TcpOption) (direction : Direction)
  deriving DecidableEq

/-- The effect of one call, and the option it rewrote. -/
def mpStep (s : MpState) : MpInput → Except Fault (Status × MpState × Option TcpOption)
  | .enqueueVar name heap =>
    let (status, s) := enqueueVar s name heap
    .ok (status, s, none)
  | .addMpVarScriptDefined name value => .ok (.ok, addMpVarScriptDefined s name value, none)
  | .option packetToModify livePacket i tcpOpt direction =>
    (mptcpOption s packetToModify livePacket i tcpOpt direction).map
      fun (status, s, tcpOpt) => (status, s, some tcpOpt)

/-- A parser `enqueue_var` call changes the queue only. -/
theorem mpStep_enqueueVar {s s' : MpState} {name heap : String} {status : Status} {out : Option TcpOption}
    (h : mpStep s (.enqueueVar name heap) = .ok (status, s', out)) :
    ∃ varsQueue, s' = { s with varsQueue := varsQueue } ∧ out = none := by
  unfold mpStep enqueueVar at h
  split_ifs at h <;> cases h
  exacts [⟨_, rfl, rfl⟩, ⟨s.varsQueue, rfl, rfl⟩]

/-- A parser `enqueue_var` call returns `STATUS_OK` exactly when the queue has
room, and then it queues the name as it is read. -/
theorem mpStep_enqueueVar_ok {s s' : MpState} {name heap : String} {out : Option TcpOption} :
    mpStep s (.enqueueVar name heap) = .ok (.ok, s', out) ↔
      s.varsQueue.length < s.varsQueueCapacity ∧ s' = { s with varsQueue := s.varsQueue ++ [name ++ heap] } ∧
        out = none := by
  by_cases h : s.varsQueue.length < s.varsQueueCapacity
  · simp [mpStep, enqueueVar_of_lt h, eq_comm, h]
  · simp [mpStep, enqueueVar_of_full (Nat.not_lt.mp h), h]

theorem mpStep_option {s s' : MpState} {packetToModify livePacket : Packet} {i : ℕ} {tcpOpt : TcpOption}
    {direction : Direction} {status : Status} {out : Option TcpOption} :
    mpStep s (.option packetToModify livePacket i tcpOpt direction) = .ok (status, s', out) ↔
      ∃ tcpOpt', mptcpOption s packetToModify livePacket i tcpOpt direction = .ok (status, s', tcpOpt') ∧
        out = some tcpOpt' := by
  simp only [mpStep]
  rcases mptcpOption s packetToModify livePacket i tcpOpt direction with _ | ⟨_, _, _⟩ <;>
    simp [Except.map, eq_comm, and_assoc]

/-- What a call returns. -/
def stepAnswer (s : MpState) (x : MpInput) : Status × MpState × Option TcpOption :=
  match mpStep s x with
  | .ok r => r
  | .error _ => (.err, s, none)

/-- The states a run reaches from `init_mp_state`. -/
inductive Reachable : MpState → Prop
  | init (varsQueueCapacity : ℕ) (random : ℕ → UInt64) : Reachable (initMpState varsQueueCapacity random)
  | step {s s' : MpState} {x : MpInput} {out : Option TcpOption} :
      Reachable s → mpStep s x = .ok (.ok, s', out) → Reachable s'

/-- Runs of calls that return `STATUS_OK`. -/
inductive Steps : MpState → MpState → Prop
  | refl (s : MpState) : Steps s s
  | step {s s' s'' : MpState} {x : MpInput} {out : Option TcpOption} :
      mpStep s x = .ok (.ok, s', out) → Steps s' s'' → Steps s s''

theorem Steps.reachable {s s' : MpState} (h : Steps s s') (hs : Reachable s) : Reachable s' := by
  induction h with
  | refl => exact hs
  | step hstep _ ih => exact ih (.step hs hstep)

/-- The state after a run of calls, if every call returns `STATUS_OK`. -/
def runInputs : MpState → List MpInput → Option MpState
  | s, [] => some s
  | s, x :: xs =>
    match mpStep s x with
    | .ok (.ok, s', _) => runInputs s' xs
    | _ => none

theorem runInputs_steps {s s' : MpState} {xs : List MpInput} (h : runInputs s xs = some s') :
    Steps s s' := by
  induction xs generalizing s with
  | nil => cases h; exact .refl _
  | cons x xs ih =>
    unfold runInputs at h
    split at h
    · rename_i hstep; exact .step hstep (ih h)
    · cases h

/-- One call of a run, with the states before and after it. -/
structure MpStepRecord where
  pre : MpState
  input : MpInput
  post : MpState
  out : Option TcpOption

/-- The calls of a run that return `STATUS_OK`, up to the first that does
not. -/
def mpTrace : MpState → List MpInput → List MpStepRecord
  | _, [] => []
  | s, x :: xs =>
    match mpStep s x with
    | .ok (.ok, s', out) => ⟨s, x, s', out⟩ :: mpTrace s' xs
    | _ => []

theorem mpTrace_cons {s s' : MpState} {x : MpInput} {out : Option TcpOption} (xs : List MpInput)
    (h : mpStep s x = .ok (.ok, s', out)) : mpTrace s (x :: xs) = ⟨s, x, s', out⟩ :: mpTrace s' xs := by
  simp [mpTrace, h]

/-- Every call of a run from a reachable state starts in a reachable state
and returns `STATUS_OK`. -/
theorem mem_mpTrace {s : MpState} {xs : List MpInput} {r : MpStepRecord} (hs : Reachable s)
    (hr : r ∈ mpTrace s xs) : Reachable r.pre ∧ mpStep r.pre r.input = .ok (.ok, r.post, r.out) := by
  induction xs generalizing s with
  | nil => simp [mpTrace] at hr
  | cons x xs ih =>
    unfold mpTrace at hr
    split at hr
    · rename_i s' out hstep
      rcases List.mem_cons.mp hr with rfl | hr
      · exact ⟨hs, hstep⟩
      · exact ih (.step hs hstep) hr
    · simp at hr

/-- Every call of a run returns `STATUS_OK`. -/
theorem mpTrace_step {s : MpState} {xs : List MpInput} {before after : List MpStepRecord} {r : MpStepRecord}
    (h : mpTrace s xs = before ++ r :: after) : mpStep r.pre r.input = .ok (.ok, r.post, r.out) := by
  induction xs generalizing s before with
  | nil => simp [mpTrace] at h
  | cons x xs ih =>
    unfold mpTrace at h
    split at h
    · rename_i s' out hstep
      cases before with
      | nil => cases h; exact hstep
      | cons b before => exact ih (List.cons.inj h).2
    · simp at h

/-- A quantity that each call updates from its own record is, at every call of
a run, the fold of the run's earlier calls over its starting value. -/
theorem mpTrace_pre_fold {α : Type} (f : MpState → α) (update : α → MpStepRecord → α)
    (hstep : ∀ r : MpStepRecord, mpStep r.pre r.input = .ok (.ok, r.post, r.out) → f r.post = update (f r.pre) r)
    {s : MpState} {xs : List MpInput} {before after : List MpStepRecord} {r : MpStepRecord}
    (h : mpTrace s xs = before ++ r :: after) : f r.pre = before.foldl update (f s) := by
  induction xs generalizing s before with
  | nil => simp [mpTrace] at h
  | cons x xs ih =>
    unfold mpTrace at h
    split at h
    · rename_i s' out hs
      cases before with
      | nil => cases h; rfl
      | cons b before =>
        obtain ⟨rfl, htail⟩ := List.cons.inj h
        rw [List.foldl_cons, ← hstep ⟨s, x, s', out⟩ hs]
        exact ih htail
    · simp at h

/-- The same quantity after a run whose calls all succeed: the fold of the
whole run. -/
theorem runInputs_fold {α : Type} (f : MpState → α) (update : α → MpStepRecord → α)
    (hstep : ∀ r : MpStepRecord, mpStep r.pre r.input = .ok (.ok, r.post, r.out) → f r.post = update (f r.pre) r)
    {s s' : MpState} {xs : List MpInput} (h : runInputs s xs = some s') :
    f s' = (mpTrace s xs).foldl update (f s) := by
  induction xs generalizing s with
  | nil => cases h; rfl
  | cons x xs ih =>
    unfold runInputs at h
    split at h
    · rename_i s1 out hs
      rw [mpTrace_cons xs hs, List.foldl_cons, ← hstep ⟨s, x, s1, out⟩ hs]
      exact ih h
    · cases h

/-! ## Packets are runs of option calls -/

/-- An MPTCP option handled inside `mptcp_insert_and_extract_opt_fields`. -/
theorem optionsLoop_steps (livePacket : Packet) (direction : Direction) :
    ∀ (i : ℕ) (rest : List TcpOption) (s s' : MpState) (packet packet' : Packet),
      optionsLoop livePacket direction i rest s packet = .ok (.ok, s', packet') → Steps s s' := by
  intro i rest
  induction rest generalizing i with
  | nil =>
    intro s s' packet packet' h
    simp only [optionsLoop, Except.ok.injEq, Prod.mk.injEq] at h
    exact h.2.1 ▸ .refl s
  | cons tcpOpt rest ih =>
    intro s s' packet packet' h
    unfold optionsLoop at h
    split at h
    · split at h
      · cases h
      · cases h
      · rename_i s1 tcpOpt' hopt
        exact .step (mpStep_option.mpr ⟨tcpOpt', hopt, rfl⟩) (ih (i + 1) s1 s' _ packet' h)
    · exact ih (i + 1) s s' packet packet' h

/-- A packet whose only option is an MPTCP option is one option call. -/
theorem mptcpInsertAndExtractOptFields_single (s : MpState) (packetToModify livePacket : Packet)
    (tcpOpt : TcpOption) (direction : Direction) (hopts : packetToModify.tcpOptions = [tcpOpt])
    (hkind : tcpOpt.kind = tcpoptMptcp) :
    mptcpInsertAndExtractOptFields s packetToModify livePacket direction =
      (mptcpOption s packetToModify livePacket 0 tcpOpt direction).map
        fun (status, s, tcpOpt) => (status, s, packetToModify.setOption 0 tcpOpt) := by
  simp only [mptcpInsertAndExtractOptFields, hopts, optionsLoop, hkind, if_true]
  rcases mptcpOption s packetToModify livePacket 0 tcpOpt direction with _ | ⟨_ | _, s', tcpOpt'⟩ <;> rfl

end PacketdrillMptcp
