import DryccBuilder.Healthsrv.Probe
import DryccBuilder.Sshd.Circuit
import DryccBuilder.Sshd.Server

/-!
# `healthZHandler` and `readinessHandler`

The two handlers of the health server (`pkg/healthsrv/server.go`), each an instance of the
probe protocol of `DryccBuilder.Healthsrv.Probe` with its own checks:

* `/healthz` runs `circuitState`, which succeeds when `circ.State()` is `ClosedState`, and
  `listBuckets`, which succeeds when `bl.List(ctx, "/")` returns no error;
* `/readiness` runs `listNamespaces`, which succeeds when `nl.List(...)` returns no error, and
  `controllerState`, which succeeds when `controller.CheckAPICompat(client,
  client.Healthcheck())` is `nil`: an API mismatch counts as healthy.

## The model

A check is given by what its call returns (its `Outcome`: the circuit's state, or a result and
an error) and by the channel its select sends on, which is the check's own definition below. An
error is its message. Logging and the ten seconds of `waitTimeout` are not modelled: the timer
may fire at any time.
-/

namespace DryccBuilder.Healthsrv

open Go Transition Sshd Controller

/-! ### The checks -/

/-- `circuitState(circ, succCh, errCh, stopCh)`: whether it sends on `succCh`, given what
`circ.State()` returned. -/
def circuitState (state : CircuitState) : Bool := if state ≠ closedState then false else true

/-- `listBuckets(bl, succCh, errCh, stopCh)`: whether it sends on `succCh`, given the
`lbOut, err` of `bl.List(ctx, "/")`. -/
def listBuckets (out : List GoString × Option GoString) : Bool :=
  if out.2 ≠ none then false else true

/-- `listNamespaces(nl, succCh, errCh, stopCh)`: whether it sends on `succCh`, given the
`nsList, err` of `nl.List(...)` (the namespaces by name). -/
def listNamespaces (out : List GoString × Option GoString) : Bool :=
  if out.2 ≠ none then false else true

/-- `controllerState(client, succCh, errCh, stopCh)`: whether it sends on `succCh`, given the
`err` of `client.Healthcheck()`. -/
def controllerState (err : Option ControllerError) : Bool :=
  if checkAPICompat err ≠ none then false else true

theorem circuitState_eq_true {state : CircuitState} :
    circuitState state = true ↔ state = closedState := by
  unfold circuitState
  split <;> simp_all

theorem listBuckets_eq_true {out : List GoString × Option GoString} :
    listBuckets out = true ↔ out.2 = none := by
  unfold listBuckets
  split <;> simp_all

theorem listNamespaces_eq_true {out : List GoString × Option GoString} :
    listNamespaces out = true ↔ out.2 = none := by
  unfold listNamespaces
  split <;> simp_all

theorem controllerState_eq_true {err : Option ControllerError} :
    controllerState err = true ↔ checkAPICompat err = none := by
  unfold controllerState
  split <;> simp_all

/-! ### `/healthz` -/

/-- The checks `healthZHandler` starts. -/
inductive HealthZCheck where
  | circuitState
  | listBuckets
  deriving DecidableEq, Repr

instance : Fintype HealthZCheck :=
  ⟨{.circuitState, .listBuckets}, fun i => by cases i <;> simp⟩

/-- What the call of each check returns. -/
def HealthZCheck.Outcome : HealthZCheck → Type
  | .circuitState => CircuitState
  | .listBuckets => List GoString × Option GoString

/-- The channel each check of `/healthz` sends on. -/
def healthZChecks : (i : HealthZCheck) → i.Outcome → Bool
  | .circuitState => circuitState
  | .listBuckets => listBuckets

/-- `healthZHandler(bLister, serverCircuit)`: the steps of one request. -/
def healthZHandler : Probe HealthZCheck HealthZCheck.Outcome → Probe HealthZCheck
    HealthZCheck.Outcome → Prop :=
  Step healthZChecks

/-! ### `/readiness` -/

/-- The checks `readinessHandler` starts. -/
inductive ReadinessCheck where
  | listNamespaces
  | controllerState
  deriving DecidableEq, Repr

instance : Fintype ReadinessCheck :=
  ⟨{.listNamespaces, .controllerState}, fun i => by cases i <;> simp⟩

/-- What the call of each check returns. -/
def ReadinessCheck.Outcome : ReadinessCheck → Type
  | .listNamespaces => List GoString × Option GoString
  | .controllerState => Option ControllerError

/-- The channel each check of `/readiness` sends on. -/
def readinessChecks : (i : ReadinessCheck) → i.Outcome → Bool
  | .listNamespaces => listNamespaces
  | .controllerState => controllerState

/-- `readinessHandler(client, nsLister)`: the steps of one request. -/
def readinessHandler : Probe ReadinessCheck ReadinessCheck.Outcome → Probe ReadinessCheck
    ReadinessCheck.Outcome → Prop :=
  Step readinessChecks

/-! ### The two probes -/

/-- **The health and readiness probes.** In every state that an interleaving of a request's
handler, its checks and its timer reaches, both handlers have the properties of the probe
protocol (`Spec`). Moreover `healthZHandler` writes `200` only after `circuitState` saw the
circuit closed and `listBuckets` got no error, and `readinessHandler` only after
`listNamespaces` got no error and the controller's health check passed `CheckAPICompat`; in
both cases without a timeout. -/
theorem healthz_readiness_probes :
    (∀ s, Reachable (· = Probe.init) healthZHandler s → Spec healthZChecks s ∧
      (statusOK ∈ s.written →
        (∃ state, Event.received HealthZCheck.circuitState state ∈ s.log ∧
          state = closedState) ∧
        ∃ lbOut, Event.received HealthZCheck.listBuckets (lbOut, none) ∈ s.log)) ∧
    (∀ s, Reachable (· = Probe.init) readinessHandler s → Spec readinessChecks s ∧
      (statusOK ∈ s.written →
        (∃ nsList, Event.received ReadinessCheck.listNamespaces (nsList, none) ∈ s.log) ∧
        ∃ err, Event.received ReadinessCheck.controllerState err ∈ s.log ∧
          checkAPICompat err = none)) := by
  constructor
  · intro s h
    refine ⟨probe_spec healthZChecks h, fun h200 => ?_⟩
    obtain ⟨state, hmem, hok⟩ := Reached.succeeded healthZChecks h h200 .circuitState
    obtain ⟨out, hmem', hok'⟩ := Reached.succeeded healthZChecks h h200 .listBuckets
    have hnone : out.2 = none := listBuckets_eq_true.mp hok'
    refine ⟨⟨state, hmem, circuitState_eq_true.mp hok⟩, out.1, ?_⟩
    rw [← hnone]
    exact hmem'
  · intro s h
    refine ⟨probe_spec readinessChecks h, fun h200 => ?_⟩
    obtain ⟨out, hmem, hok⟩ := Reached.succeeded readinessChecks h h200 .listNamespaces
    obtain ⟨err, hmem', hok'⟩ := Reached.succeeded readinessChecks h h200 .controllerState
    have hnone : out.2 = none := listNamespaces_eq_true.mp hok
    refine ⟨⟨out.1, ?_⟩, err, hmem', controllerState_eq_true.mp hok'⟩
    rw [← hnone]
    exact hmem

/-- A `/healthz` request whose checks both succeed before the timer: the handler writes `200`;
and a `/readiness` request at its start. -/
theorem healthz_ok_run :
    (∃ s, Reachable (· = Probe.init) healthZHandler s ∧ s.written = [statusOK] ∧
      Spec healthZChecks s) ∧
    Spec readinessChecks (Probe.init : Probe ReadinessCheck ReadinessCheck.Outcome) := by
  have hrun : Reachable (· = Probe.init) healthZHandler _ :=
    .step (.step (.step (.step (.init rfl)
      (Step.eval HealthZCheck.circuitState closedState rfl))
      (Step.eval HealthZCheck.listBuckets (([] : List GoString), (none : Option GoString)) rfl))
      (Step.recv HealthZCheck.circuitState closedState 0 rfl rfl rfl))
      (Step.recv HealthZCheck.listBuckets (([] : List GoString), (none : Option GoString)) 1 rfl
        rfl rfl)
  exact ⟨⟨_, hrun, rfl, (healthz_readiness_probes.1 _ hrun).1⟩,
    (healthz_readiness_probes.2 _ (.init rfl)).1⟩

end DryccBuilder.Healthsrv
