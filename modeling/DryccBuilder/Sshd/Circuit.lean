import DryccBuilder.Transition

/-!
# The circuit

`Circuit` (`pkg/sshd/circuit.go`) tells whether the SSH server is up: a `uint32` that is
`OpenState` (`0`) until the server listens and `ClosedState` (`1`) after. `State` loads it,
and `Close` and `Open` swap it with `atomic.CompareAndSwapUint32`.

## The model

Each method is one atomic operation on the bit, so each is a function from a circuit to its
result and the circuit after. The health check reads the state once (`circuitState` in
`DryccBuilder.Healthsrv.Handlers`), at a moment of its own.

Any number of goroutines share a circuit, each making its own list of calls. A run interleaves
their calls one atomic step at a time (`Transition.Interleave`). The proof keeps, beside the
circuit, the log of the calls in the order they took effect (`CircuitLog`): a history variable,
which the program does not have.

## What is proved

`circuit_interleaving`: in every state an interleaving reaches from `NewCircuit`, the bit is
`OpenState` or `ClosedState`; every `Close` that returned `true` moved the bit from open to
closed and every other left it, and likewise for `Open`; and the `Close` calls that returned
`true` outnumber the `Open` calls that did by one when the circuit is closed, and by none when
it is open.
-/

namespace DryccBuilder.Sshd

/-- `CircuitState`, a `uint32`. -/
abbrev CircuitState := UInt32

/-- `OpenState`: the server is not functional. -/
def openState : CircuitState := 0

/-- `ClosedState`: the server is functional. -/
def closedState : CircuitState := 1

/-- `Circuit`: its bit. -/
structure Circuit where
  /-- `bit`. -/
  bit : UInt32
  deriving DecidableEq, Repr

/-- `NewCircuit()`: an open circuit. -/
def newCircuit : Circuit := ⟨openState⟩

namespace Circuit

/-- `c.State()`: `CircuitState(atomic.LoadUint32(&c.bit))`. -/
def state (c : Circuit) : CircuitState := c.bit

/-- `c.Close()`: `atomic.CompareAndSwapUint32(&c.bit, OpenState, ClosedState)`, with whether it
swapped. -/
def close (c : Circuit) : Bool × Circuit :=
  if c.bit = openState then (true, ⟨closedState⟩) else (false, c)

/-- `c.Open()`: `atomic.CompareAndSwapUint32(&c.bit, ClosedState, OpenState)`, with whether it
swapped. -/
def «open» (c : Circuit) : Bool × Circuit :=
  if c.bit = closedState then (true, ⟨openState⟩) else (false, c)

end Circuit

/-! ### Calls from any number of goroutines -/

/-- A method call on the circuit. -/
inductive CircuitCall where
  /-- `State()`. -/
  | state
  /-- `Close()`. -/
  | close
  /-- `Open()`. -/
  | «open»
  deriving DecidableEq, Repr

/-- What a call returns: the state `State` loaded, or whether `Close` or `Open` swapped. -/
inductive CircuitReply where
  /-- The result of `State()`. -/
  | state (s : CircuitState)
  /-- The result of `Close()` or `Open()`. -/
  | swapped (b : Bool)
  deriving DecidableEq, Repr

/-- A call as one atomic operation: what it returns, and the circuit after. -/
def Circuit.apply (c : Circuit) : CircuitCall → CircuitReply × Circuit
  | .state => (.state c.state, c)
  | .close => (.swapped c.close.1, c.close.2)
  | .open => (.swapped c.open.1, c.open.2)

/-- A call that took effect: the call, its reply, and the circuit before and after it. -/
structure CircuitEvent where
  /-- The call. -/
  call : CircuitCall
  /-- What it returned. -/
  reply : CircuitReply
  /-- The circuit before. -/
  before : Circuit
  /-- The circuit after. -/
  after : Circuit

/-- The shared circuit, with the log of the calls that took effect on it. -/
structure CircuitLog where
  /-- The circuit. -/
  circuit : Circuit
  /-- The calls, in the order they took effect. -/
  log : List CircuitEvent

/-- A call taking effect on the shared circuit. -/
def CircuitLog.perform (g : CircuitLog) (call : CircuitCall) : CircuitLog :=
  ⟨(g.circuit.apply call).2, g.log ++ [⟨call, (g.circuit.apply call).1, g.circuit,
    (g.circuit.apply call).2⟩]⟩

/-- A goroutine's step: it makes the next of the calls it has left. -/
def callerStep : CircuitLog × List CircuitCall → CircuitLog × List CircuitCall → Prop
  | (g, calls), (g', calls') => ∃ call, calls = call :: calls' ∧ g' = g.perform call

/-- The calls of one kind in a log that returned `true`. -/
def swaps (call : CircuitCall) (log : List CircuitEvent) : ℕ :=
  log.countP fun e => e.call = call ∧ e.reply = .swapped true

/-- The reply says what the call did: `Close` returned `true` exactly when it moved the bit
from open to closed, and `Open` exactly when it moved it from closed to open. -/
def CircuitEvent.Faithful (e : CircuitEvent) : Prop :=
  (e.call = .close →
    (e.reply = .swapped true ↔ e.before.bit = openState ∧ e.after.bit = closedState)) ∧
  (e.call = .open →
    (e.reply = .swapped true ↔ e.before.bit = closedState ∧ e.after.bit = openState))

/-- The invariant of the shared circuit. -/
def CircuitLog.Inv (g : CircuitLog) : Prop :=
  (g.circuit.bit = openState ∨ g.circuit.bit = closedState) ∧ (∀ e ∈ g.log, e.Faithful) ∧
    (swaps .close g.log : ℤ) - swaps .open g.log = if g.circuit.bit = closedState then 1 else 0

/-- Every call's reply says what it did, whatever the bit held: a compare-and-swap. -/
theorem apply_faithful (c : Circuit) (call : CircuitCall) :
    CircuitEvent.Faithful ⟨call, (c.apply call).1, c, (c.apply call).2⟩ := by
  have hne : openState ≠ closedState := by decide
  cases call <;> by_cases ho : c.bit = openState <;> by_cases hc : c.bit = closedState <;>
    simp_all [CircuitEvent.Faithful, Circuit.apply, Circuit.close, Circuit.open]

/-- A call leaves the bit `OpenState` or `ClosedState`: a swap writes one of the two. -/
theorem apply_bit {c : Circuit} (hc : c.bit = openState ∨ c.bit = closedState)
    (call : CircuitCall) :
    (c.apply call).2.bit = openState ∨ (c.apply call).2.bit = closedState := by
  cases call with
  | state => exact hc
  | close =>
    simp only [Circuit.apply, Circuit.close]
    split_ifs
    · exact Or.inr rfl
    · exact hc
  | «open» =>
    simp only [Circuit.apply, Circuit.open]
    split_ifs
    · exact Or.inl rfl
    · exact hc

theorem swaps_append_singleton (call : CircuitCall) (log : List CircuitEvent) (e : CircuitEvent) :
    swaps call (log ++ [e]) =
      swaps call log + if e.call = call ∧ e.reply = .swapped true then 1 else 0 := by
  simp [swaps, List.countP_append]

/-- What one call does to the counts: a successful `Close` closes an open circuit and a
successful `Open` opens a closed one, so the successful `Close`s less the successful `Open`s
move with the bit; every other call leaves both. -/
theorem apply_counts {c : Circuit} (hc : c.bit = openState ∨ c.bit = closedState)
    (call : CircuitCall) (a b : ℕ) :
    ((a + if call = .close ∧ (c.apply call).1 = .swapped true then 1 else 0 : ℕ) : ℤ) -
        ((b + if call = .open ∧ (c.apply call).1 = .swapped true then 1 else 0 : ℕ) : ℤ) =
      (a : ℤ) - b + ((if (c.apply call).2.bit = closedState then 1 else 0) -
        if c.bit = closedState then 1 else 0) := by
  have hne : openState ≠ closedState := by decide
  rcases hc with hb | hb <;> cases call <;>
    simp [Circuit.apply, Circuit.close, Circuit.open, hb, hne, hne.symm] <;> ring

/-- One call keeps the invariant: a successful `Close` adds one to its count and closes the
circuit, a successful `Open` adds one to its own and opens it, and any other call changes
nothing. -/
theorem CircuitLog.inv_perform {g : CircuitLog} (h : g.Inv) (call : CircuitCall) :
    (g.perform call).Inv := by
  obtain ⟨hbit, hlog, hcount⟩ := h
  refine ⟨apply_bit hbit call, ?_, ?_⟩
  · intro e he
    rcases List.mem_append.mp he with he | he
    · exact hlog e he
    · rw [List.mem_singleton.mp he]
      exact apply_faithful g.circuit call
  · simp only [CircuitLog.perform, swaps_append_singleton]
    rw [apply_counts hbit, hcount]
    exact add_sub_cancel _ _

theorem CircuitLog.inv_init : CircuitLog.Inv ⟨newCircuit, []⟩ := by
  refine ⟨Or.inl rfl, by simp, ?_⟩
  simp [swaps, newCircuit, openState, closedState]

/-- The circuit's state matches its successful transitions, over every interleaving of any
number of goroutines' `Open`, `Close` and `State` calls from `NewCircuit`. -/
theorem circuit_interleaving {ι : Type} [DecidableEq ι] (calls : ι → List CircuitCall)
    {s : CircuitLog × (ι → List CircuitCall)}
    (hs : Transition.Reachable (· = (⟨newCircuit, []⟩, calls))
      (Transition.Interleave fun _ => callerStep) s) :
    (s.1.circuit.bit = openState ∨ s.1.circuit.bit = closedState) ∧
      (∀ e ∈ s.1.log, e.Faithful) ∧
      (swaps .close s.1.log : ℤ) - swaps .open s.1.log =
        if s.1.circuit.bit = closedState then 1 else 0 := by
  refine Transition.Reachable.inv (fun s => s.1.Inv) (fun s h₀ => h₀ ▸ CircuitLog.inv_init)
    (fun s t hinv hst => ?_) hs
  obtain ⟨i, g', l', hstep, rfl⟩ := Transition.Interleave.iff.mp hst
  obtain ⟨call, -, rfl⟩ := hstep
  exact CircuitLog.inv_perform hinv call

/-- Two goroutines: one closes the circuit; the other tries to close it too, and then opens it. -/
def twoCallers : Bool → List CircuitCall
  | true => [.close]
  | false => [.close, .open]

/-- The run where the first goroutine's `Close` swaps, the second's finds the circuit closed, and
its `Open` swaps: one successful `Close` and one successful `Open`, and the circuit open. -/
theorem circuit_interleaving_two_callers :
    ∃ s, Transition.Reachable (· = (⟨newCircuit, []⟩, twoCallers))
        (Transition.Interleave fun _ => callerStep) s ∧
      swaps .close s.1.log = 1 ∧ swaps .open s.1.log = 1 ∧ s.1.log.length = 3 ∧
      ((s.1.circuit.bit = openState ∨ s.1.circuit.bit = closedState) ∧
        (∀ e ∈ s.1.log, e.Faithful) ∧
        (swaps .close s.1.log : ℤ) - swaps .open s.1.log =
          if s.1.circuit.bit = closedState then 1 else 0) := by
  have hrun : Transition.Reachable (· = (⟨newCircuit, []⟩, twoCallers))
      (Transition.Interleave fun _ => callerStep) _ :=
    .step (.step (.step (.init rfl) (.step true ⟨.close, rfl, rfl⟩))
      (.step false ⟨.close, rfl, rfl⟩)) (.step false ⟨.open, rfl, rfl⟩)
  exact ⟨_, hrun, by decide, by decide, rfl, circuit_interleaving twoCallers hrun⟩

end DryccBuilder.Sshd
