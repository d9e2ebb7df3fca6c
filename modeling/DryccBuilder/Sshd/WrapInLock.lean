import DryccBuilder.Sshd.RepoLock
import DryccBuilder.Transition

/-!
# Pushes under the repository lock

`wrapInLock(lck, repoName, fn)` (`pkg/sshd/lock.go`) takes the lock on `repoName`, starts a
timer and a goroutine that runs `fn`, and waits in a `select` for the first of the timer and
`fn`'s result on the unbuffered `fnCh`. It returns `fn`'s result, or a timeout error after
closing `doneCh`; in both cases its deferred `Unlock` releases the name and its deferred
`timer.Stop()` stops the timer. On a timeout the goroutine is not stopped: it goes on running
`fn`, and when `fn` returns it leaves through `<-doneCh` instead of sending.

## The model

A call is a `Call`: where `wrapInLock` is (`WrapPc`), where its goroutine is (`FnPc`), and
whether `doneCh` is closed. `CallStep repoName` is one step of the call on the shared lock:

* `Lock`, as one atomic step (`lockFailed`, `locked`); after a successful one, the timer is
  created, the goroutine is started and the call blocks in the `select`, none of which
  touches anything another call sees;
* `fn` returning any error, at any time (`fnReturns`), and the timer firing at any time
  (`timerFired`): "any running time of `fn`" and "any firing time of the timer";
* the rendezvous on `fnCh` (`received`), the deferred `close(doneCh)` (`closeDone`), the
  goroutine leaving through `<-doneCh` (`fnReleased`), and the deferred `Unlock` with the
  `timer.Stop()` after it (`unlocked`).

`fn` is opaque: it runs and returns an error of type `E`. It does not use the lock, as the
only `fn` the server passes (`runReceive`) does not.

Any number of calls, indexed by `ι`, each with its own repository name, share one lock:
`pushStep` interleaves their steps (`Transition.Interleave`), from `pushInit`, where the lock
is `NewInMemoryRepositoryLock` and no call has started.

## What is proved

* `lockTable_holders`: in every reachable state the lock table holds exactly the names of
  the calls between their `Lock` and their `Unlock`, each with `true`, and no two calls on
  one name are there together.
* `fn_running_holds_or_timedOut`: a call whose `fn` is still running holds the lock or has
  timed out. Together: two `fn` bodies on one name run at once only when one of the two calls
  timed out (`wrapInLock_exclusion`); the run `overlap_reachable` shows that this happens.
* `solo_returns`: one call by itself, from any lock, returns `errAlreadyLocked` without
  starting `fn` when the name is taken, and otherwise leaves the lock as it found it,
  whichever of `fn` and the timer came first.
-/

namespace DryccBuilder.Sshd

open Go Transition

/-- What `wrapInLock` returns; `E` is the type of the errors `fn` returns. -/
inductive WrapResult (E : Type*) where
  /-- `errAlreadyLocked`: `lck.Lock` failed. -/
  | alreadyLocked
  /-- `fmt.Errorf("%s lock exceeded timeout", repoName)`: the `select` took the timer. -/
  | exceededTimeout
  /-- What `fn` returned, `none` for `nil`. -/
  | fnReturned (err : Option E)
  deriving DecidableEq, Repr

/-- Where a call of `wrapInLock` is. -/
inductive WrapPc (E : Type*) where
  /-- Not yet called. -/
  | idle
  /-- Holds the lock and waits in the `select` on `timer.C` and `fnCh`. -/
  | selecting
  /-- Took `<-timer.C`; the deferred `close(doneCh)` runs next. -/
  | closing
  /-- About to return `res`; the deferred `lck.Unlock(repoName)` runs next. -/
  | unlocking (res : WrapResult E)
  /-- Returned `res`. -/
  | returned (res : WrapResult E)
  deriving DecidableEq, Repr

/-- Where the goroutine that runs `fn` is. -/
inductive FnPc (E : Type*) where
  /-- Not started. -/
  | unstarted
  /-- Inside `fn()`. -/
  | running
  /-- `fn` returned `err`; waiting in the `select` on `fnCh <- err` and `<-doneCh`. -/
  | sending (err : Option E)
  /-- Left the `select`. -/
  | exited
  deriving DecidableEq, Repr

/-- One call of `wrapInLock`. -/
structure Call (E : Type*) where
  /-- The body of `wrapInLock`. -/
  wrap : WrapPc E
  /-- The goroutine that runs `fn`. -/
  fn : FnPc E
  /-- `doneCh` has been closed. -/
  doneClosed : Bool
  deriving DecidableEq, Repr

variable {E : Type*}

/-- A call not yet made. -/
def Call.init : Call E := ⟨.idle, .unstarted, false⟩

/-- The call holds the lock: from its `Lock` until its deferred `Unlock`. -/
def WrapPc.holds : WrapPc E → Bool
  | .selecting | .closing | .unlocking _ => true
  | _ => false

/-- The call's `select` took the timer. -/
def WrapPc.timedOut : WrapPc E → Bool
  | .closing | .unlocking .exceededTimeout | .returned .exceededTimeout => true
  | _ => false

/-- The goroutine running `fn` has not left. -/
def FnPc.alive : FnPc E → Bool
  | .running | .sending _ => true
  | _ => false

/-- **One step of a call of `wrapInLock(lck, repoName, fn)`** on the lock it shares. -/
inductive CallStep (repoName : GoString) :
    InMemoryRepoLock × Call E → InMemoryRepoLock × Call E → Prop where
  /-- `lck.Lock(repoName)` fails, and the call returns `errAlreadyLocked`. -/
  | lockFailed {rl : InMemoryRepoLock} {c : Call E} {e : LockError} :
      c.wrap = .idle → (rl.lock repoName).1 = .error e →
        CallStep repoName (rl, c) (rl, { c with wrap := .returned .alreadyLocked })
  /-- `lck.Lock(repoName)` succeeds; the timer and the goroutine running `fn` start, and the
  call waits in the `select`. -/
  | locked {rl : InMemoryRepoLock} {c : Call E} :
      c.wrap = .idle → (rl.lock repoName).1 = .ok () →
        CallStep repoName (rl, c) ((rl.lock repoName).2, { c with wrap := .selecting, fn := .running })
  /-- `fn` returns `err`. -/
  | fnReturns {rl : InMemoryRepoLock} {c : Call E} (err : Option E) :
      c.fn = .running → CallStep repoName (rl, c) (rl, { c with fn := .sending err })
  /-- The `select` receives `err` on `fnCh`. -/
  | received {rl : InMemoryRepoLock} {c : Call E} {err : Option E} :
      c.wrap = .selecting → c.fn = .sending err →
        CallStep repoName (rl, c) (rl, { c with wrap := .unlocking (.fnReturned err), fn := .exited })
  /-- The timer fires and the `select` takes `<-timer.C`. -/
  | timerFired {rl : InMemoryRepoLock} {c : Call E} :
      c.wrap = .selecting → CallStep repoName (rl, c) (rl, { c with wrap := .closing })
  /-- The deferred `close(doneCh)`. -/
  | closeDone {rl : InMemoryRepoLock} {c : Call E} :
      c.wrap = .closing →
        CallStep repoName (rl, c) (rl, { c with wrap := .unlocking .exceededTimeout, doneClosed := true })
  /-- The goroutine leaves its `select` through `<-doneCh`. -/
  | fnReleased {rl : InMemoryRepoLock} {c : Call E} {err : Option E} :
      c.fn = .sending err → c.doneClosed = true →
        CallStep repoName (rl, c) (rl, { c with fn := .exited })
  /-- The deferred `lck.Unlock(repoName)`, then `timer.Stop()`, and the call returns. -/
  | unlocked {rl : InMemoryRepoLock} {c : Call E} {res : WrapResult E} :
      c.wrap = .unlocking res →
        CallStep repoName (rl, c) ((rl.unlock repoName).2, { c with wrap := .returned res })

/-! ### What a step does to the lock -/

section Step

variable {r : GoString} {rl rl' : InMemoryRepoLock} {c c' : Call E}

/-- **A step and the lock**: the call keeps or leaves the lock as it was, or takes an absent
name, or gives back the name it holds. -/
theorem CallStep.lock_cases (h : CallStep r (rl, c) (rl', c')) :
    (rl' = rl ∧ c'.wrap.holds = c.wrap.holds) ∨
    (c.wrap.holds = false ∧ c'.wrap.holds = true ∧ rl.dataMap r = none ∧ rl' = (rl.lock r).2) ∨
    (c.wrap.holds = true ∧ c'.wrap.holds = false ∧ rl' = (rl.unlock r).2) := by
  cases h with
  | lockFailed hw _ => exact .inl ⟨rfl, by simp [hw, WrapPc.holds]⟩
  | locked hw hok =>
    exact .inr (.inl ⟨by simp [hw, WrapPc.holds], rfl, InMemoryRepoLock.lock_ok_iff.mp hok, rfl⟩)
  | fnReturns _ _ => exact .inl ⟨rfl, rfl⟩
  | received hw _ => exact .inl ⟨rfl, by simp [hw, WrapPc.holds]⟩
  | timerFired hw => exact .inl ⟨rfl, by simp [hw, WrapPc.holds]⟩
  | closeDone hw => exact .inl ⟨rfl, by simp [hw, WrapPc.holds]⟩
  | fnReleased _ _ => exact .inl ⟨rfl, rfl⟩
  | unlocked hw => exact .inr (.inr ⟨by simp [hw, WrapPc.holds], rfl, rfl⟩)

/-- What a call keeps by itself. -/
structure Call.Inv (c : Call E) : Prop where
  /-- While the goroutine running `fn` has not left, the call waits in its `select` or has
  timed out. -/
  alive : c.fn.alive = true → c.wrap = .selecting ∨ c.wrap.timedOut = true
  /-- Before `Lock`, and after a failed one, the goroutine has not started. -/
  unstarted : c.wrap = .idle ∨ c.wrap = .returned .alreadyLocked → c.fn = .unstarted
  /-- Only a call that took the lock unlocks it. -/
  unlocking : c.wrap ≠ .unlocking .alreadyLocked

theorem Call.Inv.init : (Call.init : Call E).Inv :=
  ⟨by simp [Call.init, FnPc.alive], fun _ => rfl, by simp [Call.init]⟩

/-- A step keeps what a call keeps by itself. -/
theorem CallStep.inv (h : CallStep r (rl, c) (rl', c')) (hc : c.Inv) : c'.Inv := by
  obtain ⟨halive, hun, hunl⟩ := hc
  cases h with
  | lockFailed hw _ =>
    exact ⟨fun ha => by simp_all [FnPc.alive], fun _ => hun (.inl hw), by simp⟩
  | locked hw _ => exact ⟨fun _ => .inl rfl, by simp, by simp⟩
  | fnReturns err hf =>
    refine ⟨fun _ => halive (by simp [hf, FnPc.alive]), fun hw => ?_, hunl⟩
    simp [hun hw] at hf
  | received hw _ => exact ⟨by simp [FnPc.alive], by simp, by simp⟩
  | timerFired hw => exact ⟨fun _ => .inr rfl, by simp, by simp⟩
  | closeDone hw => exact ⟨fun _ => .inr rfl, by simp, by simp⟩
  | fnReleased hf _ =>
    refine ⟨by simp [FnPc.alive], fun hw => ?_, hunl⟩
    simp [hun hw] at hf
  | @unlocked _ _ res hw =>
    refine ⟨fun ha => ?_, fun hw' => ?_, by simp⟩
    · rcases halive ha with h | h
      · simp [hw] at h
      · cases res <;> simp_all [WrapPc.timedOut]
    · rcases hw' with h | h
      · simp at h
      · simp only [WrapPc.returned.injEq] at h
        exact absurd (hw ▸ h ▸ rfl) hunl

end Step

/-! ### Any number of calls on one lock -/

section System

variable {ι : Type*} [DecidableEq ι] (repoName : ι → GoString)

/-- The calls' steps, interleaved over the lock they share. -/
def pushStep : InMemoryRepoLock × (ι → Call E) → InMemoryRepoLock × (ι → Call E) → Prop :=
  Interleave fun i => CallStep (repoName i)

/-- `NewInMemoryRepositoryLock`, and no call started. -/
def pushInit : InMemoryRepoLock × (ι → Call E) := (newInMemoryRepositoryLock, fun _ => Call.init)

/-- **The lock table is the set of holders**: each call that holds the lock has its name in
the table with `true`, each name in the table is held by a call, and no two calls on one
name hold it together. -/
structure LockInv (s : InMemoryRepoLock × (ι → Call E)) : Prop where
  held : ∀ i, (s.2 i).wrap.holds = true → s.1.dataMap (repoName i) = some true
  owned : ∀ n b, s.1.dataMap n = some b → ∃ i, (s.2 i).wrap.holds = true ∧ repoName i = n
  exclusive : ∀ i j, (s.2 i).wrap.holds = true → (s.2 j).wrap.holds = true →
    repoName i = repoName j → i = j

variable {repoName}

omit [DecidableEq ι] in
theorem LockInv.init : LockInv repoName (pushInit (E := E)) where
  held _ h := by simp [pushInit, Call.init, WrapPc.holds] at h
  owned _ _ h := by simp [pushInit, newInMemoryRepositoryLock] at h
  exclusive _ _ h := by simp [pushInit, Call.init, WrapPc.holds] at h

omit [DecidableEq ι] in
/-- A step that leaves the lock and who holds it as they were keeps `LockInv`. -/
theorem LockInv.of_same_holders {rl : InMemoryRepoLock} {ps ps' : ι → Call E}
    (hs : LockInv repoName (rl, ps)) (hh : ∀ j, (ps' j).wrap.holds = (ps j).wrap.holds) :
    LockInv repoName (rl, ps') where
  held j h := hs.held j (by rwa [← hh j])
  owned n b h := by
    obtain ⟨j, hj, rfl⟩ := hs.owned n b h
    exact ⟨j, by rwa [hh j], rfl⟩
  exclusive i j hi hj := hs.exclusive i j (by rwa [← hh i]) (by rwa [← hh j])

/-- A name other than call `i`'s that is in the table is held by a call other than `i`, which
an update of call `i` leaves as it was. -/
theorem LockInv.owned_update {rl : InMemoryRepoLock} {ps : ι → Call E} {i : ι} {c' : Call E}
    (hs : LockInv repoName (rl, ps)) {n : GoString} {b : Bool} (hni : n ≠ repoName i)
    (hn : rl.dataMap n = some b) :
    ∃ j, (Function.update ps i c' j).wrap.holds = true ∧ repoName j = n := by
  obtain ⟨j, hj, rfl⟩ := hs.owned n b hn
  have hji : j ≠ i := fun h => hni (h ▸ rfl)
  exact ⟨j, by rwa [Function.update_of_ne hji], rfl⟩

/-- Taking the lock on an absent name keeps `LockInv`. -/
theorem LockInv.acquire {rl : InMemoryRepoLock} {ps : ι → Call E} {i : ι} {c' : Call E}
    (hs : LockInv repoName (rl, ps)) (hfree : rl.dataMap (repoName i) = none)
    (hc' : c'.wrap.holds = true) :
    LockInv repoName ((rl.lock (repoName i)).2, Function.update ps i c') := by
  rw [InMemoryRepoLock.lock_of_none hfree]
  -- a call other than `i` that holds the lock holds another name
  have hother : ∀ j, (ps j).wrap.holds = true → repoName j ≠ repoName i := fun j hj he => by
    have h : rl.dataMap (repoName j) = some true := hs.held j hj
    rw [he, hfree] at h
    cases h
  refine ⟨fun j hj => ?_, fun n b hn => ?_, fun j k hj hk hjk => ?_⟩ <;> dsimp only at *
  · by_cases hji : j = i
    · subst hji; simp
    · rw [Function.update_of_ne hji] at hj
      rw [Function.update_of_ne (hother j hj)]
      exact hs.held j hj
  · by_cases hni : n = repoName i
    · exact ⟨i, by simp [hc'], hni.symm⟩
    · rw [Function.update_of_ne hni] at hn
      exact hs.owned_update hni hn
  · by_cases hji : j = i <;> by_cases hki : k = i
    · rw [hji, hki]
    · subst hji
      rw [Function.update_of_ne hki] at hk
      exact absurd hjk.symm (hother k hk)
    · subst hki
      rw [Function.update_of_ne hji] at hj
      exact absurd hjk (hother j hj)
    · rw [Function.update_of_ne hji] at hj
      rw [Function.update_of_ne hki] at hk
      exact hs.exclusive j k hj hk hjk

/-- Giving back the name a call holds keeps `LockInv`. -/
theorem LockInv.release {rl : InMemoryRepoLock} {ps : ι → Call E} {i : ι} {c' : Call E}
    (hs : LockInv repoName (rl, ps)) (hi : (ps i).wrap.holds = true)
    (hc' : c'.wrap.holds = false) :
    LockInv repoName ((rl.unlock (repoName i)).2, Function.update ps i c') := by
  rw [InMemoryRepoLock.unlock_of_true (hs.held i hi)]
  -- no call other than `i` holds the name `i` gives back
  have hother : ∀ j, j ≠ i → (ps j).wrap.holds = true → repoName j ≠ repoName i :=
    fun j hji hj he => hji (hs.exclusive j i hj hi he)
  refine ⟨fun j hj => ?_, fun n b hn => ?_, fun j k hj hk hjk => ?_⟩ <;> dsimp only at *
  · by_cases hji : j = i
    · subst hji; simp [hc'] at hj
    · rw [Function.update_of_ne hji] at hj
      rw [Function.update_of_ne (hother j hji hj)]
      exact hs.held j hj
  · by_cases hni : n = repoName i
    · subst hni; simp at hn
    · rw [Function.update_of_ne hni] at hn
      exact hs.owned_update hni hn
  · have hji : j ≠ i := fun h => by subst h; simp [hc'] at hj
    have hki : k ≠ i := fun h => by subst h; simp [hc'] at hk
    rw [Function.update_of_ne hji] at hj
    rw [Function.update_of_ne hki] at hk
    exact hs.exclusive j k hj hk hjk

/-- Every step keeps `LockInv`. -/
theorem LockInv.step {s t : InMemoryRepoLock × (ι → Call E)} (hs : LockInv repoName s)
    (h : pushStep repoName s t) : LockInv repoName t := by
  obtain ⟨i, rl', c', hstep, rfl⟩ := Interleave.iff.mp h
  rcases CallStep.lock_cases hstep with ⟨rfl, hh⟩ | ⟨-, hc', hfree, rfl⟩ | ⟨hi, hc', rfl⟩
  · refine hs.of_same_holders fun j => ?_
    by_cases hji : j = i
    · subst hji; simpa using hh
    · rw [Function.update_of_ne hji]
  · exact hs.acquire hfree hc'
  · exact hs.release hi hc'

/-- Every step keeps what each call keeps by itself. -/
theorem calls_inv_step {s t : InMemoryRepoLock × (ι → Call E)} (hs : ∀ j, (s.2 j).Inv)
    (h : pushStep repoName s t) : ∀ j, (t.2 j).Inv := by
  obtain ⟨i, rl', c', hstep, rfl⟩ := Interleave.iff.mp h
  intro j
  by_cases hji : j = i
  · subst hji; simpa using hstep.inv (hs j)
  · simpa [Function.update_of_ne hji] using hs j

/-- **The lock table is the set of holders**, in every reachable state. -/
theorem lockTable_holders {s : InMemoryRepoLock × (ι → Call E)}
    (hs : Reachable (· = pushInit) (pushStep repoName) s) : LockInv repoName s :=
  hs.inv _ (fun _ h => h ▸ LockInv.init) fun _ _ hi h => hi.step h

/-- **A call whose `fn` is running holds the lock or has timed out**, in every reachable
state. -/
theorem fn_running_holds_or_timedOut {s : InMemoryRepoLock × (ι → Call E)}
    (hs : Reachable (· = pushInit) (pushStep repoName) s) (i : ι) (hi : (s.2 i).fn = .running) :
    (s.2 i).wrap.holds = true ∨ (s.2 i).wrap.timedOut = true := by
  have hinv : ∀ j, (s.2 j).Inv :=
    hs.inv _ (fun _ h j => h ▸ Call.Inv.init) fun _ _ hi h => calls_inv_step hi h
  rcases (hinv i).alive (by simp [hi, FnPc.alive]) with h | h
  · exact .inl (by simp [h, WrapPc.holds])
  · exact .inr h

/-- **Exclusion, up to timeouts**: in every reachable state, no two calls on one name hold the
lock, and when two of them have their `fn` running, one of the two has timed out. -/
theorem wrapInLock_exclusion {s : InMemoryRepoLock × (ι → Call E)}
    (hs : Reachable (· = pushInit) (pushStep repoName) s) :
    (∀ i j, i ≠ j → repoName i = repoName j → (s.2 i).wrap.holds = true →
      (s.2 j).wrap.holds = false) ∧
    (∀ i j, i ≠ j → repoName i = repoName j → (s.2 i).fn = .running → (s.2 j).fn = .running →
      (s.2 i).wrap.timedOut = true ∨ (s.2 j).wrap.timedOut = true) := by
  have hlock := lockTable_holders hs
  have hone : ∀ i j, i ≠ j → repoName i = repoName j → (s.2 i).wrap.holds = true →
      (s.2 j).wrap.holds = false := fun i j hij hn hi => by
    by_contra hj
    exact hij (hlock.exclusive i j hi (by simpa using hj) hn)
  refine ⟨hone, fun i j hij hn hi hj => ?_⟩
  rcases fn_running_holds_or_timedOut hs i hi with hhi | hti
  · rcases fn_running_holds_or_timedOut hs j hj with hhj | htj
    · simp [hone i j hij hn hhi] at hhj
    · exact .inr htj
  · exact .inl hti

end System

/-! ### One call by itself -/

section Solo

variable {r : GoString} {rl₀ : InMemoryRepoLock}

/-- What one call keeps when it runs by itself from the lock `rl₀`: the lock is `rl₀` until
the call takes the name, `rl₀` with the name taken while it holds it, and `rl₀` again once it
has returned. -/
structure SoloInv (rl₀ : InMemoryRepoLock) (r : GoString) (s : InMemoryRepoLock × Call E) :
    Prop where
  call : s.2.Inv
  before : s.2.wrap = .idle → s.1 = rl₀
  rejected : s.2.wrap = .returned .alreadyLocked → s.1 = rl₀ ∧ rl₀.dataMap r ≠ none
  holding : s.2.wrap.holds = true → rl₀.dataMap r = none ∧ s.1 = (rl₀.lock r).2
  returned : ∀ res, s.2.wrap = .returned res → res ≠ .alreadyLocked →
    s.1 = rl₀ ∧ rl₀.dataMap r = none

/-- A step that moves neither the call's body nor the lock keeps `SoloInv`. -/
theorem SoloInv.of_same_wrap {rl : InMemoryRepoLock} {c c' : Call E}
    (hs : SoloInv rl₀ r (rl, c)) (hc' : c'.Inv) (hw : c'.wrap = c.wrap) :
    SoloInv rl₀ r (rl, c') :=
  ⟨hc', fun h => hs.before (hw ▸ h), fun h => hs.rejected (hw ▸ h),
    fun h => hs.holding (hw ▸ h), fun res h => hs.returned res (hw ▸ h)⟩

/-- A step from holding the lock to holding it, the lock unchanged, keeps `SoloInv`. -/
theorem SoloInv.of_holding {rl : InMemoryRepoLock} {c c' : Call E}
    (hs : SoloInv rl₀ r (rl, c)) (hc' : c'.Inv) (hh : c.wrap.holds = true)
    (hh' : c'.wrap.holds = true) : SoloInv rl₀ r (rl, c') := by
  refine ⟨hc', fun h => ?_, fun h => ?_, fun _ => hs.holding hh, fun res h _ => ?_⟩ <;>
    dsimp only at h <;> simp [h, WrapPc.holds] at hh'

theorem SoloInv.step {s t : InMemoryRepoLock × Call E} (hs : SoloInv rl₀ r s)
    (h : CallStep r s t) : SoloInv rl₀ r t := by
  obtain ⟨rl, c⟩ := s
  obtain ⟨rl', c'⟩ := t
  have hc' := h.inv hs.call
  cases h with
  | lockFailed hw herr =>
    have hfree : rl₀.dataMap r ≠ none := by
      rw [← hs.before hw, Ne, ← InMemoryRepoLock.lock_ok_iff, herr]
      simp
    exact ⟨hc', by simp, fun _ => ⟨hs.before hw, hfree⟩, by simp [WrapPc.holds],
      fun res h hne => by simp at h; exact absurd h.symm hne⟩
  | locked hw hok =>
    have hrl := hs.before hw
    subst hrl
    refine ⟨hc', by simp, by simp, fun _ => ⟨InMemoryRepoLock.lock_ok_iff.mp hok, rfl⟩, ?_⟩
    simp
  | fnReturns err _ => exact hs.of_same_wrap hc' rfl
  | fnReleased _ _ => exact hs.of_same_wrap hc' rfl
  | received hw _ => exact hs.of_holding hc' (by simp [hw, WrapPc.holds]) (by simp [WrapPc.holds])
  | timerFired hw => exact hs.of_holding hc' (by simp [hw, WrapPc.holds]) (by simp [WrapPc.holds])
  | closeDone hw => exact hs.of_holding hc' (by simp [hw, WrapPc.holds]) (by simp [WrapPc.holds])
  | @unlocked _ _ res hw =>
    obtain ⟨hfree, hrl⟩ := hs.holding (by simp [hw, WrapPc.holds])
    subst hrl
    -- the call gives back the name it took, and `rl₀` is what is left
    have hback := InMemoryRepoLock.unlock_lock_of_none hfree
    have hres : res ≠ .alreadyLocked := fun h => hs.call.unlocking (h ▸ hw)
    refine ⟨hc', by simp, fun h => ?_, by simp [WrapPc.holds], fun res' h _ => ⟨hback, hfree⟩⟩
    simp only [WrapPc.returned.injEq] at h
    exact absurd h hres

/-- **One call by itself**: run from any lock `rl₀`, a call that has returned `res` returned
`errAlreadyLocked` without starting `fn` if the name was taken, and otherwise returned
something else and left the lock exactly as `rl₀`, whether `fn` returned `nil`, an error, or
the timer fired first. -/
theorem solo_returns {s : InMemoryRepoLock × Call E}
    (hs : Reachable (· = (rl₀, Call.init)) (CallStep r) s) {res : WrapResult E}
    (hret : s.2.wrap = .returned res) :
    (rl₀.dataMap r ≠ none → res = .alreadyLocked ∧ s.1 = rl₀ ∧ s.2.fn = .unstarted) ∧
    (rl₀.dataMap r = none → res ≠ .alreadyLocked ∧ s.1 = rl₀) := by
  have hinv : SoloInv rl₀ r s := hs.inv _
    (fun _ h => h ▸ ⟨Call.Inv.init, fun _ => rfl, by simp [Call.init], by simp [Call.init, WrapPc.holds],
      by simp [Call.init]⟩)
    fun _ _ hi h => hi.step h
  constructor
  · intro htaken
    by_cases hres : res = .alreadyLocked
    · subst hres
      exact ⟨rfl, (hinv.rejected hret).1, hinv.call.unstarted (.inr hret)⟩
    · exact absurd (hinv.returned res hret hres).2 htaken
  · intro hfree
    have hres : res ≠ .alreadyLocked := fun h => (hinv.rejected (h ▸ hret)).2 hfree
    exact ⟨hres, (hinv.returned res hret hres).1⟩

/-! ### A call returns

The timer can fire whenever the call waits in its `select`, so a call goes on to return
whatever `fn` does: from the `select` through the timer, `close(doneCh)` and the deferred
`Unlock`. -/

theorem returns_of_unlocking (rl : InMemoryRepoLock) (c : Call E) {res : WrapResult E}
    (hw : c.wrap = .unlocking res) :
    ∃ t res', Reachable (· = (rl, c)) (CallStep r) t ∧ t.2.wrap = .returned res' :=
  ⟨_, res, .step (.init rfl) (.unlocked hw), rfl⟩

theorem returns_of_closing (rl : InMemoryRepoLock) (c : Call E) (hw : c.wrap = .closing) :
    ∃ t res, Reachable (· = (rl, c)) (CallStep r) t ∧ t.2.wrap = .returned res := by
  obtain ⟨t, res, ht, hret⟩ := returns_of_unlocking (r := r) rl
    { c with wrap := .unlocking .exceededTimeout, doneClosed := true } rfl
  exact ⟨t, res, .head (.closeDone hw) ht, hret⟩

theorem returns_of_selecting (rl : InMemoryRepoLock) (c : Call E) (hw : c.wrap = .selecting) :
    ∃ t res, Reachable (· = (rl, c)) (CallStep r) t ∧ t.2.wrap = .returned res := by
  obtain ⟨t, res, ht, hret⟩ := returns_of_closing (r := r) rl { c with wrap := .closing } rfl
  exact ⟨t, res, .head (.timerFired hw) ht, hret⟩

/-- **A call returns**: from every state, a call has a run to its return. -/
theorem CallStep.returns (s : InMemoryRepoLock × Call E) :
    ∃ t res, Reachable (· = s) (CallStep r) t ∧ t.2.wrap = .returned res := by
  obtain ⟨rl, c⟩ := s
  cases hw : c.wrap with
  | idle =>
    -- `Lock` fails and the call returns, or it succeeds and the call waits in its `select`
    cases hlock : (rl.lock r).1 with
    | error e => exact ⟨_, _, .step (.init rfl) (.lockFailed hw hlock), rfl⟩
    | ok u =>
      obtain ⟨t, res, ht, hret⟩ := returns_of_selecting (r := r) (rl.lock r).2
        { c with wrap := .selecting, fn := .running } rfl
      exact ⟨t, res, .head (.locked hw hlock) ht, hret⟩
  | selecting => exact returns_of_selecting rl c hw
  | closing => exact returns_of_closing rl c hw
  | unlocking res => exact returns_of_unlocking rl c hw
  | returned res => exact ⟨_, res, .init rfl, hw⟩

end Solo

/-- **The lock is a set, and `wrapInLock` gives back what it takes.** From
`NewInMemoryRepositoryLock`, every sequence of `Lock` and `Unlock` calls gives the results of
the same calls on a set of held names that starts empty, and leaves a map that holds exactly
the set's names, each with `true`. And a `wrapInLock` call run by itself from any lock returns
`errAlreadyLocked` without starting `fn` and with the lock unchanged when the name is taken;
otherwise it returns with the lock exactly as before, whatever `fn` and the timer did. Such a
call returns: from every point of its run it goes on to a return. -/
theorem repoLock_set_and_restore :
    (∀ ops, (newInMemoryRepositoryLock.run ops).1 = (setRun ∅ ops).1 ∧
      Abs (newInMemoryRepositoryLock.run ops).2 (setRun ∅ ops).2) ∧
    (∀ (rl₀ : InMemoryRepoLock) (r : GoString) (s : InMemoryRepoLock × Call E)
      (res : WrapResult E), Reachable (· = (rl₀, Call.init)) (CallStep r) s →
      s.2.wrap = .returned res →
        (rl₀.dataMap r ≠ none → res = .alreadyLocked ∧ s.1 = rl₀ ∧ s.2.fn = .unstarted) ∧
        (rl₀.dataMap r = none → res ≠ .alreadyLocked ∧ s.1 = rl₀)) ∧
    ∀ (rl₀ : InMemoryRepoLock) (r : GoString) (s : InMemoryRepoLock × Call E),
      Reachable (· = (rl₀, Call.init)) (CallStep r) s →
        ∃ t res, Reachable (· = s) (CallStep r) t ∧ t.2.wrap = .returned res :=
  ⟨fun ops => run_refines Abs.new ops, fun _ _ _ _ hs hret => solo_returns hs hret,
    fun _ _ s _ => CallStep.returns s⟩

/-- A push of `demo` from `NewInMemoryRepositoryLock` returns, with something other than
`errAlreadyLocked`, and leaves the lock as it found it. -/
theorem repoLock_set_and_restore_demo :
    ∃ (t : InMemoryRepoLock × Call Unit) (res : WrapResult Unit),
      Reachable (· = (newInMemoryRepositoryLock, Call.init)) (CallStep (lit "demo")) t ∧
      t.2.wrap = .returned res ∧ res ≠ .alreadyLocked ∧ t.1 = newInMemoryRepositoryLock := by
  have hstart : Reachable (· = (newInMemoryRepositoryLock, (Call.init : Call Unit)))
      (CallStep (lit "demo")) (newInMemoryRepositoryLock, Call.init) := .init rfl
  obtain ⟨t, res, hrun, hret⟩ := (repoLock_set_and_restore (E := Unit)).2.2 _ _ _ hstart
  have hreach := hstart.trans hrun
  obtain ⟨hres, hlock⟩ := ((repoLock_set_and_restore (E := Unit)).2.1 _ _ _ res hreach hret).2
    (by simp [newInMemoryRepositoryLock])
  exact ⟨t, res, hreach, hret, hres, hlock⟩

/-! ### A push overlaps one that timed out -/

/-- Two pushes of `demo`: the first takes the lock and starts its `fn`; its timer fires, it
closes `doneCh`, unlocks and returns; the second takes the lock and starts its `fn`, while
the first `fn` is still running. -/
theorem overlap_reachable :
    ∃ s, Reachable (· = pushInit) (pushStep fun _ : Fin 2 => lit "demo") s ∧
      (s.2 0).fn = (.running : FnPc Unit) ∧ (s.2 1).fn = .running ∧
      (s.2 0).wrap = .returned .exceededTimeout := by
  refine ⟨_, .step (.step (.step (.step (.step (.init rfl)
    (.step 0 (.locked rfl rfl))) (.step 0 (.timerFired rfl))) (.step 0 (.closeDone rfl)))
    (.step 0 (.unlocked rfl))) (.step 1 (.locked rfl ?_)), rfl, rfl, rfl⟩
  decide

/-- Two `fn` bodies on one name can run at once: in the run `overlap_reachable`,
the timed-out push's `fn` runs on while the next push's `fn` starts. -/
theorem wrapInLock_fn_overlap :
    ¬ ∀ s, Reachable (· = pushInit) (pushStep fun _ : Fin 2 => lit "demo") s →
      ∀ i j, i ≠ j → (s.2 i).fn = (.running : FnPc Unit) → (s.2 j).fn = .running → False := by
  intro h
  obtain ⟨s, hs, h0, h1, -⟩ := overlap_reachable
  exact h s hs 0 1 (by decide) h0 h1

/-- In the overlap of `overlap_reachable`, the running `fn` of the first push is that of a
call that timed out. -/
theorem overlap_timedOut :
    ∃ s, Reachable (· = pushInit) (pushStep fun _ : Fin 2 => lit "demo") s ∧
      (s.2 0).fn = (.running : FnPc Unit) ∧ (s.2 1).fn = .running ∧
      ((s.2 0).wrap.timedOut = true ∨ (s.2 1).wrap.timedOut = true) := by
  obtain ⟨s, hs, h0, h1, -⟩ := overlap_reachable
  exact ⟨s, hs, h0, h1, (wrapInLock_exclusion hs).2 0 1 (by decide) rfl h0 h1⟩

end DryccBuilder.Sshd
