import DryccBuilder.Healthsrv.Handlers

/-!
# The `server` command

`builder server` (`boot.go`) reads its `sshd.Config`, makes the circuit (`sshd.NewCircuit`) and
starts three goroutines: the health server (`healthsrv.Start`), the deleted-app cleaner
(`cleaner.Run`) and the SSH server (`pkg.RunBuilder`). It then waits in a `select` for the first
of them to report and returns an error that says which one stopped; `log.Fatal` ends the
process.

`RunBuilder` (`pkg/builder.go`) configures the SSH server (`sshd.Configure` reads the host keys)
and calls `sshd.Serve` on `SSHHostIP:SSHHostPort`. It returns `StatusLocalError` when either
fails and `StatusOk` when `Serve` returns `nil`. `Serve` (`pkg/sshd/server.go`) binds the
listener, closes the circuit, and accepts connections until `Accept` fails; it drops that
error and returns `nil`. The circuit is how `/healthz` learns that the SSH server is up: its
`circuitState` check reads it (`DryccBuilder.Healthsrv.Handlers`).

## The model

* A state of the process (`ServerProcess`) holds the circuit, where the `RunBuilder` goroutine
  is (`BuilderPc`), where the health server is (`HealthPc`), the `/healthz` requests that have
  come in, each a state of the probe protocol, and what `main` returned, if it has.
* `Action` has one constructor per atomic action. What `Configure`, `net.Listen` and
  `controller.New` return is a field of `ServerWorld`; `Accept` and `http.ListenAndServe` may
  fail at any moment. A request steps as the probe protocol lets it, except that its
  `circuitState` call returns the state the circuit has at that step (`ReadsCircuit`).
* Once `main` has returned, nothing moves (`ServerStep`): `log.Fatal` exits the process.
* Left out: the setup before the goroutines start (`envconfig.Process`, the storage driver, the
  Kubernetes client), whose failures end the process before any of them runs; `/readiness`,
  whose checks do not read the circuit; the connections `listen` hands to `handleConn`
  (`DryccBuilder.Sshd.Server`), which do not touch it either; and `cleaner.Run`, whose loop has
  no `return`, so that its branch of `main`'s select is never taken.

## What is proved

* `circuit_tracks_serve`: in every state some interleaving reaches, the circuit is closed
  exactly when `Serve` has bound its listener. It stays closed after `listen` has stopped on an
  `Accept` error, until `main` exits.
* `healthz_ok_only_after_listen`: a `/healthz` request answers `200` only once `Serve` holds
  the listener.
* `ssh_start_failure_never_healthy`: when the process exits because `RunBuilder` returned
  `StatusLocalError`, `Configure` or `net.Listen` on `SSHHostIP:SSHHostPort` failed, and no
  `/healthz` request of the run answered `200`.
-/

namespace DryccBuilder

open Go Transition Sshd Healthsrv

/-! ### What a check of a probe has seen -/

namespace Healthsrv

section Saw

variable {α : Type} {ι : Type} {O : ι → Type}

/-- The outcome a check holds, once its call has returned. -/
def CheckPc.outcome? : CheckPc α → Option α
  | .running => none
  | .offering x => some x
  | .sent x => some x
  | .stopped x => some x

/-- Check `i` has got the outcome `x` from its call: it still holds it, or the handler has
received it. -/
def Saw (s : Probe ι O) (i : ι) (x : O i) : Prop :=
  (s.checks i).outcome? = some x ∨ Event.received i x ∈ s.log

theorem not_saw_init [Fintype ι] (i : ι) (x : O i) : ¬ Saw (Probe.init : Probe ι O) i x := by
  simp [Saw, Probe.init, CheckPc.outcome?]

/-- Moving one check to a state with the same outcome keeps the outcome of every check. -/
theorem outcome?_update_of_eq [DecidableEq ι] {checks : (i : ι) → CheckPc (O i)} {j : ι}
    {p : CheckPc (O j)} (hp : p.outcome? = (checks j).outcome?) (i : ι) :
    (Function.update checks j p i).outcome? = (checks i).outcome? := by
  by_cases hij : i = j
  · subst hij
    simp [hp]
  · simp [Function.update_of_ne hij]

/-- A hand-off of check `j`'s outcome `y`: the check moves from its select to a state with the
same outcome, and the handler's log gains at most `received j y`. It gives no check an outcome
it did not have. -/
theorem saw_of_handoff [DecidableEq ι] {s : Probe ι O} {j : ι} {y : O j}
    (hc : s.checks j = .offering y) {p : CheckPc (O j)} (hp : p.outcome? = some y) {i : ι}
    {x : O i} (h : (Function.update s.checks j p i).outcome? = some x ∨
      Event.received i x ∈ s.log ++ [Event.received j y]) : Saw s i x := by
  rcases h with h | h
  · rw [outcome?_update_of_eq (by rw [hp, hc]; rfl)] at h
    exact .inl h
  rcases List.mem_append.mp h with h | h
  · exact .inr h
  · obtain ⟨rfl, hxy⟩ : i = j ∧ x ≍ y := by simpa using h
    cases hxy
    exact .inl (by simp [hc, CheckPc.outcome?])

variable [Fintype ι] [DecidableEq ι] {judge : (i : ι) → O i → Bool}

/-- A step gives check `i` an outcome it did not have only as its call returns it (`eval`):
the other steps move an outcome between the check and the handler's log. -/
theorem Step.saw {s t : Probe ι O} (h : Step judge s t) {i : ι} {x : O i} (ht : Saw t i x) :
    Saw s i x ∨ (s.checks i = .running ∧ t.checks i = .offering x) := by
  cases h with
  | eval j y hj =>
    dsimp only [Saw] at ht ⊢
    by_cases hij : i = j
    · subst hij
      rcases ht with ht | ht
      · obtain rfl : y = x := by simpa [CheckPc.outcome?] using ht
        exact .inr ⟨hj, by simp⟩
      · exact .inl (.inr ht)
    · simpa [Function.update_of_ne hij] using Or.inl ht
  | recv j y n hh hc hok => exact .inl (saw_of_handoff hc rfl ht)
  | recvErr j y n hh hc herr => exact .inl (saw_of_handoff hc rfl ht)
  | timeout n hh =>
    dsimp only [Saw] at ht
    rcases ht with ht | ht
    · exact .inl (.inl ht)
    · exact .inl (.inr (by simpa using ht))
  | closeStop hh => exact .inl ht
  | stop j y hc hs => exact .inl (saw_of_handoff hc rfl (ht.imp_right (List.mem_append_left _)))

end Saw

end Healthsrv

/-! ### The process -/

namespace Sshd

/-- The fields of `sshd.Config` (`pkg/sshd/config.go`) that the SSH server's goroutine reads. -/
structure Config where
  /-- `SSHHostIP` (`SSH_HOST_IP`). -/
  sshHostIP : GoString
  /-- `SSHHostPort` (`SSH_HOST_PORT`). -/
  sshHostPort : Int

end Sshd

/-- `StatusOk`. -/
def statusOk : ℕ := 0

/-- `StatusLocalError`. -/
def statusLocalError : ℕ := 1

/-- `address` in `RunBuilder`: `fmt.Sprintf("%s:%d", cnf.SSHHostIP, cnf.SSHHostPort)`. -/
def address (cnf : Sshd.Config) : GoString :=
  cnf.sshHostIP ++ lit ":" ++ lit (toString cnf.sshHostPort)

/-- The branch of `main`'s select that returned. -/
inductive ServerExit where
  /-- `i := <-sshCh`: `RunBuilder` returned `code`. -/
  | sshStop (code : ℕ)
  /-- `err := <-healthSrvCh`: `healthsrv.Start` returned `err`. -/
  | healthSrv (err : GoString)
  deriving DecidableEq, Repr

/-- The error `main` returns in each branch. -/
def ServerExit.error : ServerExit → GoString
  | .sshStop code => lit "unexpected SSH server stop with code " ++ lit (toString code)
  | .healthSrv err => lit "error running health server (" ++ err ++ lit ")"

/-- Where the goroutine running `RunBuilder` is. -/
inductive BuilderPc where
  /-- At `sshd.Configure(cnf)`. -/
  | configure
  /-- In `Serve`, at `net.Listen("tcp", addr)`. -/
  | listen
  /-- `Serve` holds the listener and is at `serverCircuit.Close()`. -/
  | close
  /-- In the loop of `srv.listen`, accepting connections. -/
  | accepting
  /-- `RunBuilder` has returned `code`; the goroutine sends it on `sshCh`. -/
  | returned (code : ℕ)
  deriving DecidableEq, Repr

/-- `Serve` has bound its listener and closed the circuit. -/
def BuilderPc.served : BuilderPc → Bool
  | .accepting => true
  | .returned code => code == statusOk
  | _ => false

/-- Where the goroutine running `healthsrv.Start` is. -/
inductive HealthPc where
  /-- At `controller.New(cnf.ControllerURL)`. -/
  | start
  /-- In `http.ListenAndServe(hostStr, mux)`, serving requests. -/
  | serving
  /-- `Start` has returned `err`; the goroutine sends it on `healthSrvCh`. -/
  | failed (err : GoString)
  deriving DecidableEq, Repr

/-- The state of one `/healthz` request. -/
abbrev HealthZRequest := Probe HealthZCheck HealthZCheck.Outcome

/-- A request's step `r → t` makes the `circuitState` call as `circ.State()` on the shared
circuit `c`: where the step moves the check from its call into its select, the outcome is the
state of `c`. -/
def ReadsCircuit (c : Circuit) (r t : HealthZRequest) : Prop :=
  r.checks .circuitState = .running → ∀ x, t.checks .circuitState = .offering x → x = c.state

/-- The state of the `server` command once its goroutines are started. -/
structure ServerProcess where
  /-- The circuit `circ` that `RunBuilder` and the health server share. -/
  circ : Circuit
  /-- The SSH server's goroutine. -/
  builder : BuilderPc
  /-- The health server's goroutine. -/
  health : HealthPc
  /-- The `/healthz` requests, in the order they came in. -/
  requests : List HealthZRequest
  /-- What `main` has returned. -/
  exited : Option ServerExit

/-- The goroutines have just started. -/
def ServerProcess.init : ServerProcess where
  circ := newCircuit
  builder := .configure
  health := .start
  requests := []
  exited := none

/-- What the calls of the process outside the code return. -/
structure ServerWorld where
  /-- `sshd.Configure(cnf)`'s error: a host key that cannot be read or parsed. -/
  configure : Option GoString
  /-- `net.Listen("tcp", addr)`'s error, by the address. -/
  listen : GoString → Option GoString
  /-- `controller.New(cnf.ControllerURL)`'s error, in `healthsrv.Start`. -/
  controllerNew : Option GoString

section Steps

variable (w : ServerWorld) (cnf : Sshd.Config)

/-- One atomic action of a goroutine of the process. -/
inductive Action : ServerProcess → ServerProcess → Prop
  /-- `sshd.Configure(cnf)` fails: `RunBuilder` returns `StatusLocalError`. -/
  | configureFail {s : ServerProcess} {err : GoString} (hb : s.builder = .configure)
      (he : w.configure = some err) :
      Action s { s with builder := .returned statusLocalError }
  /-- `sshd.Configure(cnf)` succeeds; `RunBuilder` calls `Serve`. -/
  | configureOk {s : ServerProcess} (hb : s.builder = .configure) (he : w.configure = none) :
      Action s { s with builder := .listen }
  /-- `net.Listen` fails: `Serve` returns its error and `RunBuilder` `StatusLocalError`. -/
  | listenFail {s : ServerProcess} {err : GoString} (hb : s.builder = .listen)
      (he : w.listen (address cnf) = some err) :
      Action s { s with builder := .returned statusLocalError }
  /-- `net.Listen` returns the listener. -/
  | listenOk {s : ServerProcess} (hb : s.builder = .listen) (he : w.listen (address cnf) = none) :
      Action s { s with builder := .close }
  /-- `serverCircuit.Close()`; `Serve` then calls `srv.listen`. -/
  | close {s : ServerProcess} (hb : s.builder = .close) :
      Action s { s with circ := s.circ.close.2, builder := .accepting }
  /-- `l.Accept()` fails: `listen` returns its error, `Serve` drops it and returns `nil`, and
  `RunBuilder` returns `StatusOk`. -/
  | acceptFail {s : ServerProcess} (hb : s.builder = .accepting) :
      Action s { s with builder := .returned statusOk }
  /-- `controller.New` fails: `Start` returns its error. -/
  | controllerFail {s : ServerProcess} {err : GoString} (hh : s.health = .start)
      (he : w.controllerNew = some err) :
      Action s { s with health := .failed err }
  /-- `controller.New` succeeds; `Start` registers the handlers and serves. -/
  | listenAndServe {s : ServerProcess} (hh : s.health = .start) (he : w.controllerNew = none) :
      Action s { s with health := .serving }
  /-- `http.ListenAndServe` returns `err`, and `Start` with it. -/
  | serveFail {s : ServerProcess} (err : GoString) (hh : s.health = .serving) :
      Action s { s with health := .failed err }
  /-- A request to `/healthz` comes in: `healthZHandler` starts its checks. -/
  | request {s : ServerProcess} (hh : s.health = .serving) :
      Action s { s with requests := s.requests ++ [Probe.init] }
  /-- A step of the `k`th request, its `circuitState` call reading the circuit. -/
  | probe {s : ServerProcess} {k : ℕ} {r t : HealthZRequest} (hr : s.requests[k]? = some r)
      (hs : healthZHandler r t) (hread : ReadsCircuit s.circ r t) :
      Action s { s with requests := s.requests.set k t }
  /-- `main` receives `RunBuilder`'s code from `sshCh`. -/
  | sshStop {s : ServerProcess} {code : ℕ} (hb : s.builder = .returned code) :
      Action s { s with exited := some (.sshStop code) }
  /-- `main` receives `Start`'s error from `healthSrvCh`. -/
  | healthStop {s : ServerProcess} {err : GoString} (hh : s.health = .failed err) :
      Action s { s with exited := some (.healthSrv err) }

/-- A step of the process: while `main` has not returned, one goroutine acts. -/
def ServerStep (s t : ServerProcess) : Prop := s.exited = none ∧ Action w cnf s t

/-- The states some interleaving of the process reaches. -/
def ServerReached (s : ServerProcess) : Prop :=
  Reachable (· = ServerProcess.init) (ServerStep w cnf) s

end Steps

/-- A step of a request whose `circuitState` call has returned reads nothing. -/
theorem readsCircuit_of_returned {c : Circuit} {r t : HealthZRequest}
    (h : r.checks .circuitState ≠ .running) : ReadsCircuit c r t :=
  fun hrun => absurd hrun h

/-- The `circuitState` call returning the circuit's state reads it. -/
theorem readsCircuit_eval (c : Circuit) (r : HealthZRequest) :
    ReadsCircuit c r
      { r with checks := Function.update r.checks .circuitState (.offering c.state) } := by
  intro _ x hx
  simp only [Function.update_self] at hx
  cases hx
  rfl

/-! ### The invariant -/

/-- What `Configure` and `net.Listen` returned for the SSH goroutine to be at `pc`. -/
def BuilderPc.Explained (w : ServerWorld) (cnf : Sshd.Config) : BuilderPc → Prop
  | .configure => True
  | .listen => w.configure = none
  | .close | .accepting => w.configure = none ∧ w.listen (address cnf) = none
  | .returned code =>
    code = statusLocalError ∧ (w.configure.isSome ∨ (w.listen (address cnf)).isSome) ∨
      code = statusOk ∧ w.configure = none ∧ w.listen (address cnf) = none

/-- A request whose `circuitState` check has seen the circuit closed saw it after `Serve`
closed it. -/
def RequestInv (served : Bool) (r : HealthZRequest) : Prop :=
  Reached healthZChecks r ∧ ∀ x, Saw r .circuitState x → x = closedState → served = true

/-- What holds of every reached state. -/
structure ServerInv (w : ServerWorld) (cnf : Sshd.Config) (s : ServerProcess) : Prop where
  /-- The circuit is closed exactly when `Serve` has closed it. -/
  circ : s.circ = if s.builder.served then ⟨closedState⟩ else newCircuit
  /-- The SSH goroutine got where it is by what `Configure` and `Listen` returned. -/
  explained : s.builder.Explained w cnf
  /-- Every request is a run of the probe protocol that saw the circuit closed only after
  `Serve` closed it. -/
  requests : ∀ r ∈ s.requests, RequestInv s.builder.served r
  /-- `main` returned the SSH server's code only after `RunBuilder` returned it. -/
  exited : ∀ code, s.exited = some (.sshStop code) → s.builder = .returned code

variable {w : ServerWorld} {cnf : Sshd.Config}

theorem serverInv_init : ServerInv w cnf ServerProcess.init where
  circ := rfl
  explained := trivial
  requests := fun _ h => by cases h
  exited := fun _ h => by cases h

/-- Once `Serve` has listened, `Configure` and `net.Listen` succeeded. -/
theorem BuilderPc.Explained.listened {b : BuilderPc} (h : b.Explained w cnf)
    (hserved : b.served = true) : w.configure = none ∧ w.listen (address cnf) = none := by
  cases b with
  | accepting => exact h
  | returned code =>
    rcases h with ⟨rfl, -⟩ | ⟨-, hok⟩
    · cases hserved
    · exact hok
  | _ => cases hserved

/-- A request is kept by a step that leaves `Serve` closed when it was. -/
theorem RequestInv.mono {served served' : Bool} {r : HealthZRequest} (h : RequestInv served r)
    (hmono : served = true → served' = true) : RequestInv served' r :=
  ⟨h.1, fun x hx hc => hmono (h.2 x hx hc)⟩

/-- A fresh request has seen nothing. -/
theorem requestInv_init (served : Bool) : RequestInv served Probe.init :=
  ⟨.init rfl, fun x hx => absurd hx (not_saw_init _ x)⟩

/-- A step of a request keeps it: the probe protocol moves the outcomes it has, and a new
outcome of `circuitState` is the circuit's state, closed only when `Serve` closed it. -/
theorem RequestInv.step {s : ServerProcess}
    (hcirc : s.circ = if s.builder.served then ⟨closedState⟩ else newCircuit)
    {r t : HealthZRequest} (h : RequestInv s.builder.served r) (hs : healthZHandler r t)
    (hread : ReadsCircuit s.circ r t) : RequestInv s.builder.served t := by
  refine ⟨.step h.1 hs, fun x hx hclosed => ?_⟩
  rcases Step.saw hs hx with hr | ⟨hrun, hoff⟩
  · exact h.2 x hr hclosed
  · have hstate : s.circ.state = closedState := hclosed ▸ (hread hrun x hoff).symm
    cases hserved : s.builder.served
    · rw [hserved] at hcirc
      rw [hcirc] at hstate
      exact absurd hstate (by decide)
    · rfl

/-- The steps of the SSH goroutine other than `close` leave the circuit and `served`. -/
theorem serverInv_builder {s : ServerProcess} (hs : ServerInv w cnf s) {b : BuilderPc}
    (hserved : b.served = s.builder.served) (hb : b.Explained w cnf) (hx : s.exited = none) :
    ServerInv w cnf { s with builder := b } where
  circ := by rw [hserved]; exact hs.circ
  explained := hb
  requests := fun r hr => hserved ▸ hs.requests r hr
  exited := fun code h => by rw [hx] at h; cases h

/-- The steps of the health server leave every clause. -/
theorem serverInv_health {s : ServerProcess} (hs : ServerInv w cnf s) (hp : HealthPc) :
    ServerInv w cnf { s with health := hp } :=
  ⟨hs.circ, hs.explained, hs.requests, hs.exited⟩

/-- Every step keeps the invariant. -/
theorem serverInv_step {s t : ServerProcess} (hs : ServerInv w cnf s)
    (h : ServerStep w cnf s t) : ServerInv w cnf t := by
  obtain ⟨hx, ha⟩ := h
  have hexp := hs.explained
  cases ha with
  | configureFail hb he =>
    refine serverInv_builder hs (by simp [hb, BuilderPc.served]; decide) ?_ hx
    exact .inl ⟨rfl, .inl (by simp [he])⟩
  | configureOk hb he => exact serverInv_builder hs (by simp [hb, BuilderPc.served]) he hx
  | listenFail hb he =>
    refine serverInv_builder hs (by simp [hb, BuilderPc.served]; decide) ?_ hx
    exact .inl ⟨rfl, .inr (by simp [he])⟩
  | listenOk hb he =>
    rw [hb] at hexp
    exact serverInv_builder hs (by simp [hb, BuilderPc.served]) ⟨hexp, he⟩ hx
  | close hb =>
    rw [hb] at hexp
    have hopen : s.circ = newCircuit := by simpa [hb, BuilderPc.served] using hs.circ
    refine ⟨?_, hexp, ?_, (fun _ h => by rw [hx] at h; cases h)⟩
    · simp [hopen, Circuit.close, newCircuit, BuilderPc.served]
    · exact fun r hr => (hs.requests r hr).mono fun _ => rfl
  | acceptFail hb =>
    rw [hb] at hexp
    exact serverInv_builder hs (by simp [hb, BuilderPc.served]) (.inr ⟨rfl, hexp⟩) hx
  | controllerFail hh he => exact serverInv_health hs _
  | listenAndServe hh he => exact serverInv_health hs _
  | serveFail err hh => exact serverInv_health hs _
  | request hh =>
    refine ⟨hs.circ, hexp, fun r hr => ?_, hs.exited⟩
    rcases List.mem_append.mp hr with hr | hr
    · exact hs.requests r hr
    · rw [List.mem_singleton.mp hr]
      exact requestInv_init _
  | probe hr hstep hread =>
    refine ⟨hs.circ, hexp, fun r' hr' => ?_, hs.exited⟩
    rcases List.mem_or_eq_of_mem_set hr' with hr' | rfl
    · exact hs.requests r' hr'
    · exact (hs.requests _ (List.mem_of_getElem? hr)).step hs.circ hstep hread
  | sshStop hb =>
    refine ⟨hs.circ, hexp, hs.requests, ?_⟩
    rintro code ⟨⟩
    exact hb
  | healthStop hh =>
    refine ⟨hs.circ, hexp, hs.requests, ?_⟩
    rintro code ⟨⟩

theorem ServerReached.inv {s : ServerProcess} (h : ServerReached w cnf s) : ServerInv w cnf s :=
  Reachable.inv (ServerInv w cnf) (by rintro _ rfl; exact serverInv_init)
    (fun _ _ => serverInv_step) h

/-- A `/healthz` request that answered `200` was answered after `Serve` closed the circuit:
its `circuitState` check saw the circuit closed. -/
theorem ServerInv.served_of_ok {s : ServerProcess} (hs : ServerInv w cnf s)
    {r : HealthZRequest} (hr : r ∈ s.requests) (h200 : statusOK ∈ r.written) :
    s.builder.served = true := by
  have hreq := hs.requests r hr
  obtain ⟨state, hmem, hok⟩ := Reached.succeeded healthZChecks hreq.1 h200 .circuitState
  have hclosed : state = closedState := circuitState_eq_true.mp hok
  exact hreq.2 state (.inr hmem) hclosed

/-! ### What the process guarantees -/

section Runs

variable (w cnf)

/-- **The circuit tracks `Serve`.** In every state of the `server` command, the circuit is
closed exactly when `Serve` has bound its listener and closed it: while `RunBuilder` configures
or binds, and after it failed, the circuit is open; once `Serve` listens it is closed, and it
stays closed after `listen` has stopped on an `Accept` error and `RunBuilder` has returned
`StatusOk`, until `main` exits. -/
theorem circuit_tracks_serve {s : ServerProcess} (h : ServerReached w cnf s) :
    s.circ.state = closedState ↔ s.builder.served = true := by
  have hcirc := h.inv.circ
  cases hserved : s.builder.served
  · rw [hserved] at hcirc
    simp [hcirc, Circuit.state, newCircuit, openState, closedState]
  · rw [hserved] at hcirc
    simp [hcirc, Circuit.state]

/-- Host keys that load and a free address. -/
def upWorld : ServerWorld := ⟨none, fun _ => none, none⟩

/-- The defaults of `SSH_HOST_IP` and `SSH_HOST_PORT`. -/
def defaultSshdConfig : Sshd.Config := ⟨lit "0.0.0.0", 2223⟩

/-- After `Accept` failed and `RunBuilder` returned `StatusOk`, and before `main` has received
it, the circuit still says the SSH server is up. -/
theorem circuit_tracks_serve_after_accept_error :
    ∃ s, ServerReached upWorld defaultSshdConfig s ∧ s.builder = .returned statusOk ∧
      s.exited = none ∧ s.circ.state = closedState := by
  have hrun : ServerReached upWorld defaultSshdConfig _ :=
    .step (.step (.step (.step (.init rfl)
      ⟨rfl, .configureOk rfl rfl⟩) ⟨rfl, .listenOk rfl rfl⟩) ⟨rfl, .close rfl⟩)
      ⟨rfl, .acceptFail rfl⟩
  exact ⟨_, hrun, rfl, rfl, (circuit_tracks_serve _ _ hrun).mpr rfl⟩

/-- **`/healthz` waits for the SSH server.** In every state of the `server` command, a
`/healthz` request has answered `200` only if `Serve` has closed the circuit, after
`Configure` loaded the host keys and `net.Listen` bound `SSHHostIP:SSHHostPort`. -/
theorem healthz_ok_only_after_listen {s : ServerProcess} (h : ServerReached w cnf s)
    {r : HealthZRequest} (hr : r ∈ s.requests) (h200 : statusOK ∈ r.written) :
    s.builder.served = true ∧ w.configure = none ∧ w.listen (address cnf) = none := by
  have hs := h.inv
  have hserved := hs.served_of_ok hr h200
  exact ⟨hserved, hs.explained.listened hserved⟩

/-- A `/healthz` request that comes in once the SSH server listens and answers `200`. -/
theorem healthz_ok_only_after_listen_run :
    ∃ s r, ServerReached upWorld defaultSshdConfig s ∧ r ∈ s.requests ∧
      statusOK ∈ r.written ∧ s.builder.served = true ∧ upWorld.configure = none ∧
      upWorld.listen (address defaultSshdConfig) = none := by
  have hrun : ServerReached upWorld defaultSshdConfig _ :=
    .step (.step (.step (.step (.step (.step (.step (.step (.step (.init rfl)
      ⟨rfl, .configureOk rfl rfl⟩) ⟨rfl, .listenOk rfl rfl⟩) ⟨rfl, .close rfl⟩)
      ⟨rfl, .listenAndServe rfl rfl⟩) ⟨rfl, .request rfl⟩)
      ⟨rfl, .probe (k := 0) rfl (Step.eval HealthZCheck.circuitState closedState rfl)
        (readsCircuit_eval _ _)⟩)
      ⟨rfl, .probe (k := 0) rfl
        (Step.eval HealthZCheck.listBuckets (([] : List GoString), (none : Option GoString)) rfl)
        (readsCircuit_of_returned (by simp))⟩)
      ⟨rfl, .probe (k := 0) rfl (Step.recv HealthZCheck.circuitState closedState 0 rfl rfl rfl)
        (readsCircuit_of_returned (by simp))⟩)
      ⟨rfl, .probe (k := 0) rfl
        (Step.recv HealthZCheck.listBuckets (([] : List GoString), (none : Option GoString)) 1
          rfl rfl rfl)
        (readsCircuit_of_returned (by simp))⟩
  have hwritten : statusOK ∈ [statusOK] := List.mem_singleton_self _
  exact ⟨_, _, hrun, List.mem_singleton_self _, hwritten,
    healthz_ok_only_after_listen _ _ hrun (List.mem_singleton_self _) hwritten⟩

/-- **A failed SSH start is never reported healthy.** When the `server` command exits because
`RunBuilder` returned `StatusLocalError`, loading the host keys or binding
`SSHHostIP:SSHHostPort` failed, and no `/healthz` request of the run answered `200`. -/
theorem ssh_start_failure_never_healthy {s : ServerProcess} (h : ServerReached w cnf s)
    (hexit : s.exited = some (.sshStop statusLocalError)) :
    (w.configure.isSome ∨ (w.listen (address cnf)).isSome) ∧
      ∀ r ∈ s.requests, statusOK ∉ r.written := by
  have hs := h.inv
  have hb := hs.exited _ hexit
  have hexp := hs.explained
  rw [hb] at hexp
  refine ⟨?_, fun r hr h200 => ?_⟩
  · rcases hexp with ⟨-, hfail⟩ | ⟨hcode, -⟩
    · exact hfail
    · cases hcode
  · have hserved := hs.served_of_ok hr h200
    rw [hb] at hserved
    cases hserved

/-- A host key that is missing. -/
def keylessWorld : ServerWorld :=
  ⟨some (lit "open /var/run/secrets/drycc/builder/ssh/ssh-host-rsa-key: no such file"),
    fun _ => none, none⟩

/-- Without its host keys the SSH server never starts: the request that came in meanwhile was
answered `503`, and the process exits with `StatusLocalError`. -/
theorem ssh_start_failure_never_healthy_keyless :
    ∃ s, ServerReached keylessWorld defaultSshdConfig s ∧
      s.exited = some (.sshStop statusLocalError) ∧ s.requests.length = 1 ∧
      ((keylessWorld.configure.isSome ∨
          (keylessWorld.listen (address defaultSshdConfig)).isSome) ∧
        ∀ r ∈ s.requests, statusOK ∉ r.written) := by
  have hrun : ServerReached keylessWorld defaultSshdConfig _ :=
    .step (.step (.step (.step (.step (.step (.init rfl)
      ⟨rfl, .listenAndServe rfl rfl⟩) ⟨rfl, .request rfl⟩)
      ⟨rfl, .probe (k := 0) rfl (Step.eval HealthZCheck.circuitState openState rfl)
        (readsCircuit_eval _ _)⟩)
      ⟨rfl, .probe (k := 0) rfl (Step.recvErr HealthZCheck.circuitState openState 0 rfl rfl rfl)
        (readsCircuit_of_returned (by simp))⟩)
      ⟨rfl, .configureFail rfl rfl⟩) ⟨rfl, .sshStop rfl⟩
  exact ⟨_, hrun, rfl, rfl, ssh_start_failure_never_healthy _ _ hrun rfl⟩

end Runs

end DryccBuilder
