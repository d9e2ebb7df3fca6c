import DryccBuilder.Go.Strings

/-!
# The repository lock

`inMemoryRepoLock` (`pkg/sshd/lock.go`) is the `RepositoryLock` the server uses to keep two
git operations off one repository: a `map[string]bool` guarded by a `sync.RWMutex`. `Lock`
adds the name with the value `true` if it is absent and fails otherwise; `Unlock` fails on
an absent name and deletes a present one whose value is `true`.

## The model

`InMemoryRepoLock` is the map, read as a function (an absent key reads `none`). Both methods
hold the mutex for their whole body, so each is one atomic step from a lock to a result and a
lock: `lock` and `unlock`. The `timeout` field is read only by `wrapInLock` to start its
timer, and the model of `wrapInLock` lets the timer fire at any time, so it is left out.

The abstract lock is a finite set of held names (`setLock`, `setUnlock`). `Abs rl S` says
that the map holds exactly the names of `S`, each with `true`. `run_refines` proves that
from `NewInMemoryRepositoryLock`, every sequence of calls gives the results the set gives,
and ends in a map that `Abs` relates to the set's final value: in particular every value the
map holds is `true`, which makes `Unlock`'s test of the value always pass.
-/

namespace DryccBuilder.Sshd

open Go

/-- An error of `Lock` or `Unlock`. -/
inductive LockError where
  /-- `fmt.Errorf("repository %q already locked", repoName)`. -/
  | alreadyLocked (repoName : GoString)
  /-- `fmt.Errorf("repository %q not found", repoName)`. -/
  | notFound (repoName : GoString)
  deriving DecidableEq, Repr

/-- `inMemoryRepoLock`: its `dataMap`. -/
@[ext]
structure InMemoryRepoLock where
  /-- `dataMap`, a key that is not in the map reading `none`. -/
  dataMap : GoString → Option Bool

/-- `NewInMemoryRepositoryLock(timeout)`: an empty map. -/
def newInMemoryRepositoryLock : InMemoryRepoLock := ⟨fun _ => none⟩

namespace InMemoryRepoLock

/-- `rl.Lock(repoName)`: add the name with `true` if it is absent, else fail. -/
def lock (rl : InMemoryRepoLock) (repoName : GoString) :
    Except LockError Unit × InMemoryRepoLock :=
  match rl.dataMap repoName with
  | none => (.ok (), ⟨Function.update rl.dataMap repoName (some true)⟩)
  | some _ => (.error (.alreadyLocked repoName), rl)

/-- `rl.Unlock(repoName)`: fail on an absent name; delete a present one if its value is
`true`. -/
def unlock (rl : InMemoryRepoLock) (repoName : GoString) :
    Except LockError Unit × InMemoryRepoLock :=
  match rl.dataMap repoName with
  | none => (.error (.notFound repoName), rl)
  | some locked =>
    (.ok (), if locked then ⟨Function.update rl.dataMap repoName none⟩ else rl)

theorem lock_of_none {rl : InMemoryRepoLock} {n : GoString} (h : rl.dataMap n = none) :
    rl.lock n = (.ok (), ⟨Function.update rl.dataMap n (some true)⟩) := by
  simp [lock, h]

theorem lock_of_some {rl : InMemoryRepoLock} {n : GoString} {b : Bool}
    (h : rl.dataMap n = some b) : rl.lock n = (.error (.alreadyLocked n), rl) := by
  simp [lock, h]

theorem unlock_of_none {rl : InMemoryRepoLock} {n : GoString} (h : rl.dataMap n = none) :
    rl.unlock n = (.error (.notFound n), rl) := by
  simp [unlock, h]

theorem unlock_of_true {rl : InMemoryRepoLock} {n : GoString} (h : rl.dataMap n = some true) :
    rl.unlock n = (.ok (), ⟨Function.update rl.dataMap n none⟩) := by
  simp [unlock, h]

/-- `Lock` succeeds exactly on an absent name. -/
theorem lock_ok_iff {rl : InMemoryRepoLock} {n : GoString} :
    (rl.lock n).1 = .ok () ↔ rl.dataMap n = none := by
  cases h : rl.dataMap n with
  | none => simp [lock_of_none h]
  | some b => simp [lock_of_some h]

/-- `Unlock` gives back what `Lock` took from an absent name. -/
theorem unlock_lock_of_none {rl : InMemoryRepoLock} {n : GoString} (h : rl.dataMap n = none) :
    ((rl.lock n).2.unlock n).2 = rl := by
  rw [lock_of_none h, unlock_of_true (by simp)]
  ext1
  rw [Function.update_idem, Function.update_eq_self_iff]
  exact h.symm

/-! ### A sequence of calls -/

/-- A call on the lock. -/
inductive LockOp where
  /-- `Lock(repoName)`. -/
  | lock (repoName : GoString)
  /-- `Unlock(repoName)`. -/
  | unlock (repoName : GoString)
  deriving DecidableEq, Repr

/-- One call. -/
def apply (rl : InMemoryRepoLock) : LockOp → Except LockError Unit × InMemoryRepoLock
  | .lock n => rl.lock n
  | .unlock n => rl.unlock n

/-- The calls one after the other, as the mutex orders them: their results and the last map. -/
def run (rl : InMemoryRepoLock) : List LockOp → List (Except LockError Unit) × InMemoryRepoLock
  | [] => ([], rl)
  | op :: ops =>
    let r := rl.apply op
    let rest := r.2.run ops
    (r.1 :: rest.1, rest.2)

end InMemoryRepoLock

/-! ### The abstract lock: a set of held names -/

section Abstract

variable {K : Type*} [DecidableEq K]

/-- `Lock` on a set of held names: add an absent name, fail on a held one. -/
def setLock (S : Finset K) (n : K) (err : LockError) : Except LockError Unit × Finset K :=
  if n ∈ S then (.error err, S) else (.ok (), insert n S)

/-- `Unlock` on a set of held names: remove a held name, fail on an absent one. -/
def setUnlock (S : Finset K) (n : K) (err : LockError) : Except LockError Unit × Finset K :=
  if n ∈ S then (.ok (), S.erase n) else (.error err, S)

end Abstract

/-- A call on the set of held names, failing with the error the source names. -/
def setApply (S : Finset GoString) : InMemoryRepoLock.LockOp → Except LockError Unit × Finset GoString
  | .lock n => setLock S n (.alreadyLocked n)
  | .unlock n => setUnlock S n (.notFound n)

/-- The calls one after the other on the set. -/
def setRun (S : Finset GoString) :
    List InMemoryRepoLock.LockOp → List (Except LockError Unit) × Finset GoString
  | [] => ([], S)
  | op :: ops =>
    let r := setApply S op
    let rest := setRun r.2 ops
    (r.1 :: rest.1, rest.2)

/-- The map holds exactly the names of `S`, each with the value `true`. -/
def Abs (rl : InMemoryRepoLock) (S : Finset GoString) : Prop :=
  ∀ n, rl.dataMap n = if n ∈ S then some true else none

namespace Abs

variable {rl : InMemoryRepoLock} {S : Finset GoString}

theorem new : Abs newInMemoryRepositoryLock ∅ := fun _ => by simp [newInMemoryRepositoryLock]

/-- `Lock` on the map is `Lock` on the set. -/
theorem lock (h : Abs rl S) (n : GoString) :
    (rl.lock n).1 = (setLock S n (.alreadyLocked n)).1 ∧
      Abs (rl.lock n).2 (setLock S n (.alreadyLocked n)).2 := by
  by_cases hn : n ∈ S
  · have hsome : rl.dataMap n = some true := by rw [h n, if_pos hn]
    simp only [InMemoryRepoLock.lock_of_some hsome, setLock, if_pos hn, true_and]
    exact h
  · have hnone : rl.dataMap n = none := by rw [h n, if_neg hn]
    simp only [InMemoryRepoLock.lock_of_none hnone, setLock, if_neg hn, true_and]
    intro m
    by_cases hm : m = n
    · subst hm; simp
    · simp [Finset.mem_insert, hm, h m]

/-- `Unlock` on the map is `Unlock` on the set: the value of a held name is `true`, so its
test passes and the name is deleted. -/
theorem unlock (h : Abs rl S) (n : GoString) :
    (rl.unlock n).1 = (setUnlock S n (.notFound n)).1 ∧
      Abs (rl.unlock n).2 (setUnlock S n (.notFound n)).2 := by
  by_cases hn : n ∈ S
  · have hsome : rl.dataMap n = some true := by rw [h n, if_pos hn]
    simp only [InMemoryRepoLock.unlock_of_true hsome, setUnlock, if_pos hn, true_and]
    intro m
    by_cases hm : m = n
    · subst hm; simp
    · simp [Finset.mem_erase, hm, h m]
  · have hnone : rl.dataMap n = none := by rw [h n, if_neg hn]
    simp only [InMemoryRepoLock.unlock_of_none hnone, setUnlock, if_neg hn, true_and]
    exact h

theorem apply (h : Abs rl S) (op : InMemoryRepoLock.LockOp) :
    (rl.apply op).1 = (setApply S op).1 ∧ Abs (rl.apply op).2 (setApply S op).2 := by
  cases op with
  | lock n => exact h.lock n
  | unlock n => exact h.unlock n

end Abs

/-- **The lock is a set**: from any map and set related by `Abs`, a sequence of calls gives on
the map the results it gives on the set, and ends in a map related to the set's final value. -/
theorem run_refines {rl : InMemoryRepoLock} {S : Finset GoString} (h : Abs rl S)
    (ops : List InMemoryRepoLock.LockOp) :
    (rl.run ops).1 = (setRun S ops).1 ∧ Abs (rl.run ops).2 (setRun S ops).2 := by
  induction ops generalizing rl S with
  | nil => exact ⟨rfl, h⟩
  | cons op ops ih =>
    obtain ⟨hr, habs⟩ := h.apply op
    obtain ⟨hrs, habs'⟩ := ih habs
    simp only [InMemoryRepoLock.run, setRun]
    exact ⟨by rw [hr, hrs], habs'⟩

example : (newInMemoryRepositoryLock.run
    [.lock (lit "demo"), .lock (lit "demo"), .unlock (lit "demo"), .unlock (lit "demo")]).1 =
    [.ok (), .error (.alreadyLocked (lit "demo")), .ok (), .error (.notFound (lit "demo"))] := by
  decide

end DryccBuilder.Sshd
