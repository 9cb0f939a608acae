import PacketdrillMptcp.State

/-!
# The buffers of queued names

In `mptcp.c`, `mp_state.vars_queue` holds pointers to the buffers
`enqueue_var` (lines 49–56) allocates with `malloc(strlen(name))` and fills
with `memcpy(new_el, name, strlen(name))`: the terminating 0 is not copied.
The queued name is then read as a C string, through `strlen`, by
`find_mp_var` (`HASH_FIND_STR`, lines 127–132) and by `save_mp_var_name`
(lines 72–77), which copies `strlen(name) + 1` bytes, the 0 included. Those
reads go on past the buffer, into whatever memory follows it, up to the first
0. The run model queues the string these reads give (`enqueueVar`): the name
followed by the string `heap` in the memory after the buffer.

Memory is modelled as the list of bytes from a pointer on, and a buffer as the
list of the bytes it holds; a string of the script as its UTF-8 bytes
(`cBytes`).

Results:
* `readCString_saveMpVarName`: the copy `save_mp_var_name` makes reads as the
  string it copied.
* `queued_name_unterminated`: for every NUL-free name, the buffer `enqueue_var`
  stores is the name without its 0, so it holds no C string of its own. Read
  through `strlen`, it is the name followed by the string in the memory after
  it. The buffer `save_mp_var_name` stores for the same name reads back as
  the name.
* `enqueueVar_queues_buffer_read`: the string the run model queues for
  `enqueue_var(name)` is the one these reads give, the name followed by the
  string in the memory after the buffer.
-/

namespace PacketdrillMptcp

/-- `strlen(s)`: the number of bytes before the first 0. -/
def strlen (mem : List UInt8) : ℕ := (mem.takeWhile (· != 0)).length

/-- The buffer `enqueue_var(name)` (lines 49–56) stores: the `strlen(name)`
bytes of a `malloc(strlen(name))` block, filled by
`memcpy(new_el, name, strlen(name))`. -/
def enqueueVarBuffer (name : List UInt8) : List UInt8 := name.take (strlen name)

/-- The buffer `save_mp_var_name(name, var)` (lines 72–77) stores in
`var->name`: `strlen(name) + 1` bytes, the terminating 0 included. -/
def saveMpVarName (name : List UInt8) : List UInt8 := name.take (strlen name + 1)

/-- Modelled from the spec: a buffer read as a NUL-terminated string without
leaving it; there is a string only if the buffer holds a 0. -/
def readCString (buf : List UInt8) : Option (List UInt8) :=
  if 0 ∈ buf then some (buf.takeWhile (· != 0)) else none

section
variable {b : UInt8} {l m : List UInt8}

@[simp] theorem strlen_nil : strlen [] = 0 := rfl

@[simp] theorem strlen_cons_zero : strlen (0 :: l) = 0 := rfl

theorem strlen_cons (hb : b ≠ 0) : strlen (b :: l) = strlen l + 1 := by
  simp [strlen, List.takeWhile_cons, hb]

@[simp] theorem readCString_nil : readCString [] = none := rfl

@[simp] theorem readCString_cons_zero : readCString (0 :: l) = some [] := by
  simp [readCString]

theorem readCString_cons (hb : b ≠ 0) : readCString (b :: l) = (readCString l).map (b :: ·) := by
  by_cases h : 0 ∈ l <;> simp [readCString, List.takeWhile_cons, hb, h, Ne.symm hb]

theorem saveMpVarName_cons (hb : b ≠ 0) : saveMpVarName (b :: l) = b :: saveMpVarName l := by
  simp [saveMpVarName, strlen_cons hb]

/-- `strlen` counts a NUL-free prefix in full and goes on. -/
theorem strlen_append (h : 0 ∉ l) : strlen (l ++ m) = l.length + strlen m := by
  induction l with
  | nil => simp
  | cons b l ih =>
    rw [List.mem_cons, not_or] at h
    rw [List.cons_append, strlen_cons (Ne.symm h.1), ih h.2, List.length_cons]
    omega

/-- A NUL-free prefix is read in full, and the string goes on into what
follows it. -/
theorem readCString_append (h : 0 ∉ l) : readCString (l ++ m) = (readCString m).map (l ++ ·) := by
  induction l with
  | nil => simp
  | cons b l ih =>
    rw [List.mem_cons, not_or] at h
    rw [List.cons_append, readCString_cons (Ne.symm h.1), ih h.2, Option.map_map]
    rfl

end

/-- `save_mp_var_name` copies a string with its 0, so the copy reads as the
string at `mem`. -/
theorem readCString_saveMpVarName : ∀ mem : List UInt8, readCString (saveMpVarName mem) = readCString mem
  | [] => rfl
  | b :: mem => by
    by_cases hb : b = 0
    · subst hb
      simp [saveMpVarName]
    · rw [saveMpVarName_cons hb, readCString_cons hb, readCString_cons hb, readCString_saveMpVarName mem]

/-- For every NUL-free name, passed in memory as `name ++ 0 :: rest`: the
buffer `enqueue_var` stores is `name` without its 0, so it holds no C string
of its own. Read through `strlen`, by `find_mp_var` or by the
`save_mp_var_name` that `add_mp_var_key` calls on a queued name, it runs on
into the memory `heap` after it: the name read is `name` followed by the
string at `heap`. The buffer `save_mp_var_name` stores for the same name reads
back as `name`. -/
theorem queued_name_unterminated (name rest heap : List UInt8) (hname : 0 ∉ name) :
    enqueueVarBuffer (name ++ 0 :: rest) = name ∧
    readCString (enqueueVarBuffer (name ++ 0 :: rest)) = none ∧
    strlen (enqueueVarBuffer (name ++ 0 :: rest) ++ heap) = name.length + strlen heap ∧
    readCString (saveMpVarName (enqueueVarBuffer (name ++ 0 :: rest) ++ heap)) =
      (readCString heap).map (name ++ ·) ∧
    readCString (saveMpVarName (name ++ 0 :: rest)) = some name := by
  have hbuf : enqueueVarBuffer (name ++ 0 :: rest) = name := by
    rw [enqueueVarBuffer, strlen_append hname, strlen_cons_zero, Nat.add_zero, List.take_left]
  refine ⟨hbuf, ?_, ?_, ?_, ?_⟩
  · simpa [hbuf] using readCString_append (m := []) hname
  · rw [hbuf, strlen_append hname]
  · rw [hbuf, readCString_saveMpVarName, readCString_append hname]
  · simp [readCString_saveMpVarName, readCString_append hname]

/-- The name `a`, queued, with `b` and a 0 after its one-byte buffer, is
saved as `ab`. -/
theorem queued_a_saved_as_ab :
    (0 : UInt8) ∉ [97] ∧
    (enqueueVarBuffer ([97] ++ [0]) = [97] ∧ readCString (enqueueVarBuffer ([97] ++ [0])) = none ∧
      strlen (enqueueVarBuffer ([97] ++ [0]) ++ [98, 0]) = [97].length + strlen [98, 0] ∧
      readCString (saveMpVarName (enqueueVarBuffer ([97] ++ [0]) ++ [98, 0])) =
        (readCString [98, 0]).map ([97] ++ ·) ∧
      readCString (saveMpVarName ([97] ++ [0])) = some [97]) ∧
    readCString (saveMpVarName (enqueueVarBuffer ([97] ++ [0]) ++ [98, 0])) = some [97, 98] :=
  ⟨by decide, queued_name_unterminated [97] [] [98, 0] (by decide), by decide⟩

/-! ## The names of the run model -/

/-- The bytes of a string of the script: its UTF-8 encoding. -/
def cBytes (s : String) : List UInt8 := s.toUTF8.data.toList

theorem cBytes_append (a b : String) : cBytes (a ++ b) = cBytes a ++ cBytes b := by
  simp only [cBytes, String.toUTF8, String.data_append, List.flatMap_append]

/-- For every NUL-free name, passed in memory as `name ++ 0 :: rest`, and every
NUL-free string `heap` in the memory after the buffer `enqueue_var` stores,
up to a 0: when the queue has room, the run model queues `name ++ heap`,
which is the string read through `strlen` from the buffer and the string
the copy `save_mp_var_name` makes of it holds. -/
theorem enqueueVar_queues_buffer_read (s : MpState) (name heap : String) (rest more : List UInt8)
    (hname : 0 ∉ cBytes name) (hheap : 0 ∉ cBytes heap) (hroom : s.varsQueue.length < s.varsQueueCapacity) :
    (enqueueVar s name heap).2.varsQueue = s.varsQueue ++ [name ++ heap] ∧
    readCString (enqueueVarBuffer (cBytes name ++ 0 :: rest) ++ cBytes heap ++ 0 :: more) =
      some (cBytes (name ++ heap)) ∧
    readCString (saveMpVarName (enqueueVarBuffer (cBytes name ++ 0 :: rest) ++ cBytes heap ++ 0 :: more)) =
      some (cBytes (name ++ heap)) := by
  have hread : readCString (enqueueVarBuffer (cBytes name ++ 0 :: rest) ++ cBytes heap ++ 0 :: more) =
      some (cBytes (name ++ heap)) := by
    rw [(queued_name_unterminated _ rest [] hname).1, List.append_assoc, readCString_append hname,
      readCString_append hheap, readCString_cons_zero, cBytes_append]
    simp only [Option.map_some', List.append_nil]
  exact ⟨by rw [enqueueVar_of_lt hroom], hread, by rw [readCString_saveMpVarName, hread]⟩

end PacketdrillMptcp
