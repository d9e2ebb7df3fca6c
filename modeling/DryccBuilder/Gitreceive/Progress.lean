import DryccBuilder.Transition

/-!
# The progress goroutine

`progress(msg, interval)` (`pkg/gitreceive/k8s_util.go`) makes an unbuffered channel `quit` and
starts a goroutine that loops on a `select`: at each tick of its ticker it prints `msg`, and when
it receives on `quit` it closes `quit` and returns. Its two callers, `waitForPod` around
`waitForPodCondition` and `build` around `hooks.CreateBuild`, do their work and then stop it with
`quit <- true` followed by `<-quit`: the send meets the goroutine's receive, and the caller's
receive returns once the goroutine has closed the channel.

## The model

A run is a `Progress` state: where the caller is (`CallerPc`), where the goroutine is
(`LoopPc`), whether `quit` is closed, how many times `msg` was printed, and whether the process
panicked. `ProgressStep` has one constructor for each thing Go lets happen, the panics included:

* the goroutine's `select` takes a tick (`tick`) whenever it is in its loop, any number of
  times, or takes `<-quit` on a closed channel, which returns at once (`loopRecvClosed`);
* the caller finishes its work (`workDone`), at any time;
* the send `quit <- true` meets the goroutine's receive (`handoff`), or panics on a closed
  channel (`sendClosed`);
* the goroutine's `close(quit)` (`closed`), which panics on a closed channel (`closeClosed`);
* the caller's `<-quit` returns on the closed channel (`received`).

The ticker's interval is not modelled; `time.NewTicker` panics on one that is not positive,
which `Gitreceive.Config` covers.

## What is proved

* `progress_stops_before_return`: in every reachable state nothing has panicked, and once the
  caller has returned the goroutine has exited and no step is left: no `msg` is printed after
  `waitForPod` returns.
* `progress_handshake_completes`: no step makes the handshake's remaining steps more, and
  until the caller returns one step always makes them fewer: the ticks cannot block it.
-/

namespace DryccBuilder.Gitreceive

open Transition

/-- Where the caller of `progress` is. -/
inductive CallerPc where
  /-- Doing its work while the goroutine prints. -/
  | working
  /-- At `quit <- true`. -/
  | sending
  /-- At `<-quit`. -/
  | receiving
  /-- Past the handshake. -/
  | returned
  deriving DecidableEq, Repr

/-- Where the goroutine of `progress` is. -/
inductive LoopPc where
  /-- In the `select` on `<-quit` and `<-tick.C`. -/
  | selecting
  /-- Took `<-quit`; `close(quit)` runs next. -/
  | closing
  /-- Returned. -/
  | exited
  deriving DecidableEq, Repr

/-- A run of `progress` and its caller. -/
structure Progress where
  /-- The caller. -/
  caller : CallerPc
  /-- The goroutine. -/
  loop : LoopPc
  /-- `quit` is closed. -/
  quitClosed : Bool
  /-- How many times `msg` was printed. -/
  printed : ℕ
  /-- A channel operation panicked. -/
  panicked : Bool
  deriving DecidableEq, Repr

/-- Right after `progress` returned: the goroutine is in its loop and the caller at its work. -/
def progressInit : Progress := ⟨.working, .selecting, false, 0, false⟩

/-- **One step of `progress` and its caller.** -/
inductive ProgressStep : Progress → Progress → Prop where
  /-- `case <-tick.C: fmt.Println(msg)`. -/
  | tick {s : Progress} : s.loop = .selecting → ProgressStep s { s with printed := s.printed + 1 }
  /-- `case <-quit` on a closed channel, which a receive takes at once. -/
  | loopRecvClosed {s : Progress} :
      s.loop = .selecting → s.quitClosed = true → ProgressStep s { s with loop := .closing }
  /-- The caller's work returns. -/
  | workDone {s : Progress} : s.caller = .working → ProgressStep s { s with caller := .sending }
  /-- `quit <- true` meets the goroutine's `<-quit`. -/
  | handoff {s : Progress} :
      s.caller = .sending → s.loop = .selecting → s.quitClosed = false →
        ProgressStep s { s with caller := .receiving, loop := .closing }
  /-- `quit <- true` on a closed channel panics. -/
  | sendClosed {s : Progress} :
      s.caller = .sending → s.quitClosed = true → ProgressStep s { s with panicked := true }
  /-- `close(quit)`, and the goroutine returns. -/
  | closed {s : Progress} :
      s.loop = .closing → s.quitClosed = false →
        ProgressStep s { s with loop := .exited, quitClosed := true }
  /-- `close(quit)` on a closed channel panics. -/
  | closeClosed {s : Progress} :
      s.loop = .closing → s.quitClosed = true → ProgressStep s { s with panicked := true }
  /-- The caller's `<-quit` returns on the closed channel. -/
  | received {s : Progress} :
      s.caller = .receiving → s.quitClosed = true → ProgressStep s { s with caller := .returned }

/-- What holds of every reachable state. -/
structure ProgressInv (s : Progress) : Prop where
  /-- No channel operation panicked. -/
  not_panicked : s.panicked = false
  /-- `quit` is closed exactly when the goroutine has returned. -/
  closed_iff : s.quitClosed = true ↔ s.loop = .exited
  /-- Before the handoff the goroutine is in its loop. -/
  selecting : s.caller = .working ∨ s.caller = .sending → s.loop = .selecting
  /-- After the handoff it is not. -/
  left : s.caller = .receiving ∨ s.caller = .returned → s.loop ≠ .selecting
  /-- The caller returns after the goroutine. -/
  exited : s.caller = .returned → s.loop = .exited

theorem ProgressInv.init : ProgressInv progressInit :=
  ⟨rfl, by simp [progressInit], fun _ => rfl, by simp [progressInit], by simp [progressInit]⟩

/-- Every step keeps `ProgressInv`. -/
theorem ProgressStep.inv {s t : Progress} (h : ProgressStep s t) (hs : ProgressInv s) :
    ProgressInv t := by
  obtain ⟨hp, hcl, hsel, hleft, hex⟩ := hs
  cases h with
  | tick hl => exact ⟨hp, hcl, hsel, hleft, hex⟩
  | loopRecvClosed hl hq =>
    -- a closed channel means the goroutine has returned, not that it selects
    exact absurd (hcl.mp hq) (by simp [hl])
  | workDone hc =>
    exact ⟨hp, hcl, fun _ => hsel (.inl hc), by simp, by simp⟩
  | handoff hc hl hq =>
    refine ⟨hp, by simp [hq], by simp, by simp, by simp⟩
  | sendClosed hc hq =>
    exact absurd (hcl.mp hq) (by simp [hsel (.inr hc)])
  | closed hl hq =>
    refine ⟨hp, by simp, fun hw => ?_, by simp, by simp⟩
    exact absurd (hsel hw) (by simp [hl])
  | closeClosed hl hq =>
    exact absurd (hcl.mp hq) (by simp [hl])
  | received hc hq =>
    exact ⟨hp, hcl, by simp, fun _ => hleft (.inl hc), fun _ => hcl.mp hq⟩

theorem progressInv_of_reachable {s : Progress}
    (h : Reachable (· = progressInit) ProgressStep s) : ProgressInv s :=
  h.inv _ (fun _ h₀ => h₀ ▸ ProgressInv.init) fun _ _ hs hst => hst.inv hs

/-- **Nothing prints after the caller returns.** In every run of `progress` and its caller
nothing panics, and once the caller is past `<-quit` the goroutine has returned and no step is
left: no `msg` is printed after `waitForPod`, or the release step, has moved on. -/
theorem progress_stops_before_return {s : Progress}
    (h : Reachable (· = progressInit) ProgressStep s) :
    s.panicked = false ∧ (s.caller = .returned → s.loop = .exited ∧ ∀ t, ¬ ProgressStep s t) := by
  have hinv := progressInv_of_reachable h
  refine ⟨hinv.not_panicked, fun hc => ⟨hinv.exited hc, fun t hst => ?_⟩⟩
  have hl := hinv.exited hc
  cases hst <;> simp_all

/-- A run with two dots: the work, the handshake, and the caller's return. -/
theorem progress_stops_before_return_two_dots :
    (⟨.returned, .exited, true, 2, false⟩ : Progress).panicked = false ∧
      ((⟨.returned, .exited, true, 2, false⟩ : Progress).caller = .returned →
        (⟨.returned, .exited, true, 2, false⟩ : Progress).loop = .exited ∧
          ∀ t, ¬ ProgressStep ⟨.returned, .exited, true, 2, false⟩ t) := by
  have hrun : Reachable (· = progressInit) ProgressStep ⟨.returned, .exited, true, 2, false⟩ := by
    refine .step (s := ⟨.receiving, .exited, true, 2, false⟩) ?_ (.received rfl rfl)
    refine .step (s := ⟨.receiving, .closing, false, 2, false⟩) ?_ (.closed rfl rfl)
    refine .step (s := ⟨.sending, .selecting, false, 2, false⟩) ?_ (.handoff rfl rfl rfl)
    refine .step (s := ⟨.working, .selecting, false, 2, false⟩) ?_ (.workDone rfl)
    refine .step (s := ⟨.working, .selecting, false, 1, false⟩) ?_ (.tick rfl)
    exact .step (.init rfl) (.tick rfl)
  exact progress_stops_before_return hrun

/-! ### The handshake ends -/

/-- The steps of the handshake left: the caller's, and the goroutine's `close`. -/
def Progress.stepsLeft (s : Progress) : ℕ :=
  (match s.caller with
    | .working => 3
    | .sending => 2
    | .receiving => 1
    | .returned => 0) +
  (match s.loop with
    | .selecting | .closing => 1
    | .exited => 0)

/-- While the goroutine has not returned, `quit` is open. -/
theorem ProgressInv.quit_open {s : Progress} (hs : ProgressInv s) (hl : s.loop ≠ .exited) :
    s.quitClosed = false := by
  cases hq : s.quitClosed
  · rfl
  · exact absurd (hs.closed_iff.mp hq) hl

/-- A step of the handshake is always possible before the caller returns. -/
theorem ProgressInv.exists_step {s : Progress} (hs : ProgressInv s) (hc : s.caller ≠ .returned) :
    ∃ t, ProgressStep s t ∧ t.stepsLeft < s.stepsLeft := by
  rcases hcaller : s.caller with _ | _ | _ | _
  · exact ⟨_, .workDone hcaller, by simp [Progress.stepsLeft, hcaller]⟩
  · have hl := hs.selecting (.inr hcaller)
    have hq := hs.quit_open (by simp [hl])
    exact ⟨_, .handoff hcaller hl hq, by simp [Progress.stepsLeft, hcaller, hl]⟩
  · -- the goroutine closes `quit`, or has closed it and the receive returns
    rcases hloop : s.loop with _ | _ | _
    · exact absurd hloop (hs.left (.inl hcaller))
    · have hq := hs.quit_open (by simp [hloop])
      exact ⟨_, .closed hloop hq, by simp [Progress.stepsLeft, hcaller, hloop]⟩
    · exact ⟨_, .received hcaller (hs.closed_iff.mpr hloop),
        by simp [Progress.stepsLeft, hcaller, hloop]⟩
  · exact absurd hcaller hc

/-- No step adds to the steps left. -/
theorem ProgressStep.stepsLeft_le {s t : Progress} (h : ProgressStep s t) :
    t.stepsLeft ≤ s.stepsLeft := by
  cases h with
  | tick _ | sendClosed _ _ | closeClosed _ _ => exact le_rfl
  | loopRecvClosed hl _ | closed hl _ => simp [Progress.stepsLeft, hl]
  | workDone hc | received hc _ => simp [Progress.stepsLeft, hc]
  | handoff hc hl _ => simp [Progress.stepsLeft, hc, hl]

/-- **The handshake completes.** From every reachable state no step makes the handshake's
remaining steps more, and until the caller returns some step makes them fewer, whatever the
ticks do: the caller of `progress` is never left blocked on `quit`. -/
theorem progress_handshake_completes {s : Progress}
    (h : Reachable (· = progressInit) ProgressStep s) :
    (∀ t, ProgressStep s t → t.stepsLeft ≤ s.stepsLeft) ∧
      (s.caller ≠ .returned → ∃ t, ProgressStep s t ∧ t.stepsLeft < s.stepsLeft) :=
  ⟨fun _ hst => hst.stepsLeft_le, (progressInv_of_reachable h).exists_step⟩

/-- The handshake after one dot, at `quit <- true`: the send can go ahead. -/
theorem progress_handshake_completes_sending :
    (∀ t, ProgressStep ⟨.sending, .selecting, false, 1, false⟩ t →
        t.stepsLeft ≤ (⟨.sending, .selecting, false, 1, false⟩ : Progress).stepsLeft) ∧
      ((⟨.sending, .selecting, false, 1, false⟩ : Progress).caller ≠ .returned →
        ∃ t, ProgressStep ⟨.sending, .selecting, false, 1, false⟩ t ∧
          t.stepsLeft < (⟨.sending, .selecting, false, 1, false⟩ : Progress).stepsLeft) := by
  have hrun : Reachable (· = progressInit) ProgressStep ⟨.sending, .selecting, false, 1, false⟩ := by
    refine .step (s := ⟨.working, .selecting, false, 1, false⟩) ?_ (.workDone rfl)
    exact .step (.init rfl) (.tick rfl)
  exact progress_handshake_completes hrun

end DryccBuilder.Gitreceive
