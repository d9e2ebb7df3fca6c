import DryccBuilder.Transition

/-!
# The probe handlers as a message-passing protocol

`healthZHandler` and `readinessHandler` (`pkg/healthsrv`) share one body. Each makes a
`stopCh`, starts one goroutine per check, each with its own unbuffered success and error
channels, starts a timer of `waitTimeout`, defers `close(stopCh)`, and then selects
`numChecks` times: on a success it counts one more, on an error or on the timer it writes
`503` and returns; after `numChecks` successes it writes `200`. The check goroutines
(`circuitState`, `listBuckets`, `listNamespaces`, `controllerState`) share one body too: make
a call, then select between sending its outcome (on the success or the error channel, as the
outcome says) and `stopCh`.

## The model

* `Probe` is the state of one request: where the handler is (`HandlerPc`), where each check
  is (`CheckPc`), whether `stopCh` is closed, the codes written, and the messages the handler
  has received, in order (`log`).
* `Step judge` has one constructor per atomic action. A check's call may give any outcome
  (`eval`); `judge i x` says whether check `i` sends outcome `x` on its success channel. An
  unbuffered send is a rendezvous, so a send and the handler's receipt are one step (`recv`,
  `recvErr`). The timer may fire at any time and nothing else reads it, so taking the timer
  branch is a step of the handler enabled whenever it selects (`timeout`). Writing a code is
  merged into the step that decides it; `close(stopCh)` runs when the handler returns
  (`closeStop`); a check blocked in its select may then take `stopCh` (`stop`).
* `numChecks` is `Fintype.card ι`: both handlers start one goroutine per check.

## What is proved

`probe_spec`: in every state reached by any interleaving, at most one code is written, and
exactly one once the handler has returned; the handler can always move until it returns; each
check sends at most one message; `200` is written only after a success message from every
check and no timeout; and after the handler returns `stopCh` is closed, so every check blocked
in its select can leave it.
-/

namespace DryccBuilder.Healthsrv

open Transition

/-- Where a check goroutine is. -/
inductive CheckPc (O : Type) where
  /-- Making its call. -/
  | running
  /-- In its select, with the outcome of the call. -/
  | offering (x : O)
  /-- It has sent the outcome to the handler and returned. -/
  | sent (x : O)
  /-- It has taken `stopCh` and returned. -/
  | stopped (x : O)
  deriving DecidableEq, Repr

/-- Whether the check has sent its message. -/
def CheckPc.isSent {O : Type} : CheckPc O → Bool
  | .sent _ => true
  | _ => false

/-- Where the handler is. -/
inductive HandlerPc where
  /-- In the loop, after `received` successes. -/
  | selecting (received : ℕ)
  /-- It has written its code; the deferred `close(stopCh)` is pending. -/
  | deferring
  /-- It has returned. -/
  | returned
  deriving DecidableEq, Repr

/-- `http.StatusOK`. -/
def statusOK : ℕ := 200

/-- `http.StatusServiceUnavailable`. -/
def statusServiceUnavailable : ℕ := 503

/-- What the handler's select receives. -/
inductive Event (ι : Type) (O : ι → Type) where
  /-- The message of check `i`, carrying its outcome. -/
  | received (i : ι) (x : O i)
  /-- The timer's tick. -/
  | timeout

/-- The check a message comes from. -/
def Event.source {ι : Type} {O : ι → Type} : Event ι O → Option ι
  | .received i _ => some i
  | .timeout => none

/-- The state of one request to a probe handler. -/
structure Probe (ι : Type) (O : ι → Type) where
  /-- The handler. -/
  handler : HandlerPc
  /-- The check goroutines. -/
  checks : (i : ι) → CheckPc (O i)
  /-- Whether `stopCh` is closed. -/
  stopClosed : Bool
  /-- The codes `w.WriteHeader` wrote, in order. -/
  written : List ℕ
  /-- The messages the handler received, in order. -/
  log : List (Event ι O)

variable {ι : Type} [Fintype ι] [DecidableEq ι] {O : ι → Type}

/-- The state when the handler enters its loop: every check is making its call. With no
check the loop is empty and the handler writes `200` at once. -/
def Probe.init : Probe ι O where
  handler := if 0 < Fintype.card ι then .selecting 0 else .deferring
  checks := fun _ => .running
  stopClosed := false
  written := if 0 < Fintype.card ι then [] else [statusOK]
  log := []

variable (judge : (i : ι) → O i → Bool)

/-- One atomic action of the handler or of a check. -/
inductive Step : Probe ι O → Probe ι O → Prop
  /-- Check `i`'s call returns `x`; the check enters its select. -/
  | eval {s : Probe ι O} (i : ι) (x : O i) (h : s.checks i = .running) :
      Step s { s with checks := Function.update s.checks i (.offering x) }
  /-- The handler receives check `i`'s success; after the last one it writes `200`. -/
  | recv {s : Probe ι O} (i : ι) (x : O i) (n : ℕ) (hh : s.handler = .selecting n)
      (hc : s.checks i = .offering x) (hok : judge i x = true) :
      Step s
        { s with
          checks := Function.update s.checks i (.sent x)
          log := s.log ++ [.received i x]
          handler := if n + 1 < Fintype.card ι then .selecting (n + 1) else .deferring
          written := if n + 1 < Fintype.card ι then s.written else s.written ++ [statusOK] }
  /-- The handler receives check `i`'s error, writes `503` and returns. -/
  | recvErr {s : Probe ι O} (i : ι) (x : O i) (n : ℕ) (hh : s.handler = .selecting n)
      (hc : s.checks i = .offering x) (herr : judge i x = false) :
      Step s
        { s with
          checks := Function.update s.checks i (.sent x)
          log := s.log ++ [.received i x]
          handler := .deferring
          written := s.written ++ [statusServiceUnavailable] }
  /-- The handler takes the timer's tick, writes `503` and returns. -/
  | timeout {s : Probe ι O} (n : ℕ) (hh : s.handler = .selecting n) :
      Step s
        { s with
          log := s.log ++ [.timeout]
          handler := .deferring
          written := s.written ++ [statusServiceUnavailable] }
  /-- The deferred `close(stopCh)`. -/
  | closeStop {s : Probe ι O} (hh : s.handler = .deferring) :
      Step s { s with stopClosed := true, handler := .returned }
  /-- Check `i` takes the closed `stopCh` and returns. -/
  | stop {s : Probe ι O} (i : ι) (x : O i) (hc : s.checks i = .offering x)
      (hs : s.stopClosed = true) :
      Step s { s with checks := Function.update s.checks i (.stopped x) }

/-- The states some interleaving reaches. -/
def Reached (s : Probe ι O) : Prop := Reachable (· = Probe.init) (Step judge) s

/-! ### The invariant -/

/-- A success message. -/
def Event.IsSuccess : Event ι O → Prop
  | .received i x => judge i x = true
  | .timeout => False

/-- What holds of every reached state. -/
structure Inv (s : Probe ι O) : Prop where
  /-- In the loop, nothing is written yet, and the handler has received one success per turn. -/
  selecting : ∀ n, s.handler = .selecting n →
    s.written = [] ∧ n < Fintype.card ι ∧ s.log.length = n ∧ ∀ e ∈ s.log, e.IsSuccess judge
  /-- Out of the loop, one code is written. -/
  done : (∀ n, s.handler ≠ .selecting n) → s.written.length = 1
  /-- `stopCh` is closed exactly when the handler has returned. -/
  closed : s.stopClosed = true ↔ s.handler = .returned
  /-- A check has one message in the log once it has sent, and none before. -/
  sends : ∀ i, (s.log.filterMap Event.source).count i = if (s.checks i).isSent then 1 else 0
  /-- `200` is written only after a success of every check and no timeout. -/
  ok : statusOK ∈ s.written →
    Event.timeout ∉ s.log ∧ ∀ i, ∃ x, Event.received i x ∈ s.log ∧ judge i x = true

/-- Sources that are pairwise distinct and as many as the checks are every check. -/
theorem mem_of_nodup_card {l : List ι} (hnd : l.Nodup) (hlen : l.length = Fintype.card ι)
    (i : ι) : i ∈ l := by
  have huniv : l.toFinset = Finset.univ :=
    Finset.eq_univ_of_card _ (by rw [List.toFinset_card_of_nodup hnd, hlen])
  rw [← List.mem_toFinset, huniv]
  exact Finset.mem_univ i

omit [Fintype ι] in
/-- Replacing a check by one that has sent as much keeps the log's count of its messages. -/
theorem sends_update {checks : (i : ι) → CheckPc (O i)} {log : List (Event ι O)}
    (h : ∀ j, (log.filterMap Event.source).count j = if (checks j).isSent then 1 else 0)
    (i : ι) (v : CheckPc (O i)) (hv : v.isSent = (checks i).isSent) (j : ι) :
    (log.filterMap Event.source).count j =
      if (Function.update checks i v j).isSent then 1 else 0 := by
  by_cases hj : j = i
  · subst hj
    rw [Function.update_self, hv, h]
  · rw [Function.update_of_ne hj, h]

namespace Inv

variable {judge} {s : Probe ι O}

theorem init : Inv judge (Probe.init : Probe ι O) := by
  by_cases hcard : 0 < Fintype.card ι
  · refine ⟨?_, ?_, ?_, ?_, ?_⟩ <;> simp [Probe.init, hcard, CheckPc.isSent, statusOK]
  · have hempty : IsEmpty ι := Fintype.card_eq_zero_iff.mp (by omega)
    refine ⟨?_, ?_, ?_, ?_, ?_⟩
    · simp [Probe.init]
    · simp [Probe.init]
    · simp [Probe.init]
    · intro i
      exact isEmptyElim i
    · intro _
      exact ⟨by simp [Probe.init], fun i => isEmptyElim i⟩

theorem eval (hs : Inv judge s) (i : ι) (x : O i) (h : s.checks i = .running) :
    Inv judge { s with checks := Function.update s.checks i (.offering x) } :=
  ⟨hs.selecting, hs.done, hs.closed,
    sends_update hs.sends i _ (by rw [h]; rfl), hs.ok⟩

theorem stop (hs : Inv judge s) (i : ι) (x : O i) (h : s.checks i = .offering x) :
    Inv judge { s with checks := Function.update s.checks i (.stopped x) } :=
  ⟨hs.selecting, hs.done, hs.closed,
    sends_update hs.sends i _ (by rw [h]; rfl), hs.ok⟩

theorem closeStop (hs : Inv judge s) (hh : s.handler = .deferring) :
    Inv judge { s with stopClosed := true, handler := .returned } where
  selecting n h := by cases h
  done _ := hs.done fun n h => by rw [hh] at h; cases h
  closed := by simp
  sends := hs.sends
  ok := hs.ok

/-- The counts of messages after check `i`, offering, has sent. -/
theorem sends_send (hs : Inv judge s) {i : ι} {x : O i} (hc : s.checks i = .offering x) (j : ι) :
    ((s.log ++ [Event.received i x]).filterMap Event.source).count j =
      if (Function.update s.checks i (.sent x) j).isSent then 1 else 0 := by
  rw [List.filterMap_append, List.count_append, hs.sends j]
  by_cases hj : j = i
  · subst hj
    simp [hc, CheckPc.isSent, Event.source]
  · simp [Function.update_of_ne hj, Event.source, Ne.symm hj]

/-- The handler's state while it selects, with the timer's tick or an error received: the code
is `503`. -/
theorem unavailable (hs : Inv judge s) {n : ℕ} (hh : s.handler = .selecting n)
    (checks : (i : ι) → CheckPc (O i)) (e : Event ι O)
    (hsends : ∀ j, ((s.log ++ [e]).filterMap Event.source).count j =
      if (checks j).isSent then 1 else 0) :
    Inv judge
      { s with
        checks := checks
        log := s.log ++ [e]
        handler := .deferring
        written := s.written ++ [statusServiceUnavailable] } := by
  obtain ⟨hw, -, -, -⟩ := hs.selecting n hh
  refine ⟨fun m h => ?_, fun _ => by simp [hw], ?_, hsends, ?_⟩
  · cases h
  · have : s.stopClosed = false := by
      cases hc : s.stopClosed
      · rfl
      · have := hs.closed.mp hc
        rw [hh] at this
        cases this
    simp [this]
  · simp [hw, statusOK, statusServiceUnavailable]

theorem recvErr (hs : Inv judge s) {i : ι} {x : O i} {n : ℕ} (hh : s.handler = .selecting n)
    (hc : s.checks i = .offering x) :
    Inv judge
      { s with
        checks := Function.update s.checks i (.sent x)
        log := s.log ++ [.received i x]
        handler := .deferring
        written := s.written ++ [statusServiceUnavailable] } :=
  hs.unavailable hh _ _ (hs.sends_send hc)

theorem timeout (hs : Inv judge s) {n : ℕ} (hh : s.handler = .selecting n) :
    Inv judge
      { s with
        log := s.log ++ [.timeout]
        handler := .deferring
        written := s.written ++ [statusServiceUnavailable] } := by
  refine hs.unavailable hh s.checks _ fun j => ?_
  have htick : ([Event.timeout] : List (Event ι O)).filterMap Event.source = [] := rfl
  rw [List.filterMap_append, List.count_append, hs.sends j, htick, List.count_nil, Nat.add_zero]

/-- While the handler selects, `stopCh` is open. -/
theorem stopOpen (hs : Inv judge s) {n : ℕ} (hh : s.handler = .selecting n) :
    s.stopClosed = false := by
  cases hc : s.stopClosed
  · rfl
  · have := hs.closed.mp hc
    rw [hh] at this
    cases this

/-- Messages that are all successes, one per check at most, and as many as the checks: one
success from every check. -/
theorem success_of_all {log : List (Event ι O)} (hsucc : ∀ e ∈ log, e.IsSuccess judge)
    (hcount : ∀ j, (log.filterMap Event.source).count j ≤ 1)
    (hlen : log.length = Fintype.card ι) (j : ι) :
    ∃ y, Event.received j y ∈ log ∧ judge j y = true := by
  have hsome : ∀ e ∈ log, (Event.source e).isSome := by
    intro e he
    cases e with
    | received k y => rfl
    | timeout => exact (hsucc _ he).elim
  have hsrc : (log.filterMap Event.source).length = Fintype.card ι := by
    rw [List.filterMap_length_eq_length.mpr hsome, hlen]
  have hnd : (log.filterMap Event.source).Nodup := List.nodup_iff_count_le_one.mpr hcount
  obtain ⟨e, he, hej⟩ := List.mem_filterMap.mp (mem_of_nodup_card hnd hsrc j)
  cases e with
  | received k y =>
    cases hej
    exact ⟨y, he, hsucc _ he⟩
  | timeout => cases hej

theorem recv (hs : Inv judge s) {i : ι} {x : O i} {n : ℕ} (hh : s.handler = .selecting n)
    (hc : s.checks i = .offering x) (hok : judge i x = true) :
    Inv judge
      { s with
        checks := Function.update s.checks i (.sent x)
        log := s.log ++ [.received i x]
        handler := if n + 1 < Fintype.card ι then .selecting (n + 1) else .deferring
        written := if n + 1 < Fintype.card ι then s.written else s.written ++ [statusOK] } := by
  obtain ⟨hw, hn, hlen, hsucc⟩ := hs.selecting n hh
  have hsends := hs.sends_send hc
  have hsucc' : ∀ e ∈ s.log ++ [Event.received i x], e.IsSuccess judge := by
    intro e he
    rcases List.mem_append.mp he with he | he
    · exact hsucc e he
    · rw [List.mem_singleton] at he
      subst he
      exact hok
  have hopen := hs.stopOpen hh
  by_cases hlast : n + 1 < Fintype.card ι
  -- case: another turn of the loop
  · simp only [if_pos hlast]
    refine ⟨?_, fun hne => absurd rfl (hne (n + 1)), by simp [hopen], hsends, ?_⟩
    · intro m hm
      cases hm
      exact ⟨hw, hlast, by simp [hlen], hsucc'⟩
    · intro h200
      simp [hw] at h200
  -- case: the last success, and `200`
  · simp only [if_neg hlast]
    refine ⟨fun m hm => ?_, fun _ => by simp [hw], by simp [hopen], hsends, ?_⟩
    · cases hm
    intro _
    refine ⟨fun ht => hsucc' _ ht, success_of_all hsucc' ?_ ?_⟩
    · intro j
      rw [hsends j]
      split <;> omega
    · simp only [List.length_append, hlen, List.length_singleton]
      omega

/-- **The step lemma.** -/
theorem step (hs : Inv judge s) {t : Probe ι O} (h : Step judge s t) : Inv judge t := by
  cases h with
  | eval i x hc => exact hs.eval i x hc
  | recv i x n hh hc hok => exact hs.recv hh hc hok
  | recvErr i x n hh hc _ => exact hs.recvErr hh hc
  | timeout n hh => exact hs.timeout hh
  | closeStop hh => exact hs.closeStop hh
  | stop i x hc _ => exact hs.stop i x hc

end Inv

/-- Every reached state satisfies the invariant. -/
theorem Reached.inv {s : Probe ι O} (h : Reached judge s) : Inv judge s :=
  Reachable.inv (Inv judge) (fun _ h₀ => by rw [h₀]; exact Inv.init)
    (fun _ _ hs hst => hs.step hst) h

/-- Where `200` was written, every check sent a success: what its call returned passed it. -/
theorem Reached.succeeded {s : Probe ι O} (h : Reached judge s) (h200 : statusOK ∈ s.written)
    (i : ι) : ∃ x, Event.received i x ∈ s.log ∧ judge i x = true :=
  (h.inv.ok h200).2 i

/-! ### The protocol's properties -/

/-- What the probe protocol guarantees of a state:
* at most one code is written, and exactly one once the handler has returned;
* until it returns, the handler can move;
* each check has sent at most one message on its two channels together;
* `200` is written only after a success message from every check, and no timeout;
* once the handler has returned, `stopCh` is closed and every check blocked in its select can
  take it. -/
def Spec (s : Probe ι O) : Prop :=
  s.written.length ≤ 1 ∧
  (s.handler = .returned → s.written.length = 1) ∧
  (s.handler ≠ .returned → ∃ t, Step judge s t) ∧
  (∀ i, (s.log.filterMap Event.source).count i ≤ 1) ∧
  (statusOK ∈ s.written →
    Event.timeout ∉ s.log ∧ ∀ i, ∃ x, Event.received i x ∈ s.log ∧ judge i x = true) ∧
  (s.handler = .returned → s.stopClosed = true ∧
    ∀ i x, s.checks i = .offering x →
      Step judge s { s with checks := Function.update s.checks i (.stopped x) })

/-- **The probe protocol.** Every state that some interleaving of the handler, the checks and
the timer reaches, whatever the outcomes of the checks' calls, has the properties of `Spec`. -/
theorem probe_spec {s : Probe ι O} (h : Reached judge s) : Spec judge s := by
  have hs := h.inv
  have hdone : s.handler = .returned → s.written.length = 1 := fun hr =>
    hs.done fun n hn => by rw [hr] at hn; cases hn
  refine ⟨?_, hdone, ?_, ?_, hs.ok, ?_⟩
  · cases hh : s.handler with
    | selecting n => simp [(hs.selecting n hh).1]
    | deferring => exact (hs.done fun n hn => by rw [hh] at hn; cases hn).le
    | returned => exact (hdone hh).le
  · intro hr
    cases hh : s.handler with
    | selecting n => exact ⟨_, .timeout n hh⟩
    | deferring => exact ⟨_, .closeStop hh⟩
    | returned => exact absurd hh hr
  · intro i
    rw [hs.sends i]
    split <;> omega
  · intro hr
    have hclosed := hs.closed.mpr hr
    exact ⟨hclosed, fun i x hc => .stop i x hc hclosed⟩


end DryccBuilder.Healthsrv
