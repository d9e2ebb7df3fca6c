import DryccBuilder.Go.Strings

/-!
# The git-receive configuration

`Config` (`pkg/gitreceive/config.go`) is read from the environment by `envconfig` when the
`git-receive` command starts (`boot.go`), which then calls `CheckDurations`. Five of its fields
are durations in milliseconds, Go `int`s of 64 bits, each with a default in its struct tag.
`CheckDurations` clamps the two tick fields: a tick that is not below its wait, or is below its
default, becomes the default. A duration is `time.Duration(ms) * time.Millisecond`: nanoseconds
in an `int64`, the product wrapping modulo `2^64`.

`build` (`pkg/gitreceive/build.go`) passes two of the durations on as intervals.
`SessionIdleInterval` goes to `progress`, which gives it to `time.NewTicker`, in `waitForPod` and
around the release; `BuilderPodTickDuration` is the poll interval of `waitForPodCondition`, in
`waitForPod` and in `waitForPodEnd`. `time.NewTicker` panics on an interval that is not positive.

## The model

* Go's `int` and `time.Duration` are `Int64`, whose arithmetic wraps as Go's does.
* `Config` has the fields the modelled functions read: `Repository`, for `App`, and the five
  durations. The other fields are strings and flags that nothing here reads.
* `buildIntervals` is the list of intervals `build` passes, in the order of its calls, and
  `newTicker` the check with which `time.NewTicker` panics.

## What is proved

* `checkDurations_ticks`: after `CheckDurations` the builder tick is at least 100 ms and the
  storage tick at least 500 ms.
* `buildIntervals_pos`: every interval `build` passes is positive when the session interval is
  positive and the builder wait is such that no tick below it overflows.
* `checkDurations_unsafe_intervals`: not for every configuration. `CheckDurations` leaves the
  session interval as it is, so `SESSION_IDLE_INTERVAL=0` reaches `time.NewTicker` as `0`, and a
  builder tick over `maxMSec` below a larger wait wraps to a negative poll interval.
-/

namespace DryccBuilder.Gitreceive

open Go

/-- `time.Duration`: nanoseconds. -/
abbrev Duration := Int64

/-- `time.Millisecond`. -/
def millisecond : Duration := 1000000

/-- `time.Duration(time.Duration(ms) * time.Millisecond)`. -/
def msecDuration (ms : Int64) : Duration := ms * millisecond

/-- `builderPodTick`, the builder tick's default and least value. -/
def builderPodTick : Int64 := 100

/-- `objectStorageTick`, the storage tick's default and least value. -/
def objectStorageTick : Int64 := 500

/-- The fields of `Config` that the modelled functions read. -/
structure Config where
  /-- `Repository` (`REPOSITORY`). -/
  repository : GoString
  /-- `BuilderPodTickDurationMSec` (`BUILDER_POD_TICK_DURATION`, default `100`). -/
  builderPodTickDurationMSec : Int64
  /-- `BuilderPodWaitDurationMSec` (`BUILDER_POD_WAIT_DURATION`, default `900000`). -/
  builderPodWaitDurationMSec : Int64
  /-- `ObjectStorageTickDurationMSec` (`OBJECT_STORAGE_TICK_DURATION`, default `500`). -/
  objectStorageTickDurationMSec : Int64
  /-- `ObjectStorageWaitDurationMSec` (`OBJECT_STORAGE_WAIT_DURATION`, default `300000`). -/
  objectStorageWaitDurationMSec : Int64
  /-- `SessionIdleIntervalMsec` (`SESSION_IDLE_INTERVAL`, default `10000`). -/
  sessionIdleIntervalMsec : Int64
  deriving DecidableEq, Repr

namespace Config

/-- The configuration `envconfig` makes when only the required `REPOSITORY` is set among the
fields here: every duration at its default. -/
def withDefaults (repository : GoString) : Config where
  repository := repository
  builderPodTickDurationMSec := 100
  builderPodWaitDurationMSec := 900000
  objectStorageTickDurationMSec := 500
  objectStorageWaitDurationMSec := 300000
  sessionIdleIntervalMsec := 10000

/-- `App()`: the repository without its last `.` and what follows. -/
def app (c : Config) : GoString :=
  match lastIndex c.repository (lit ".") with
  | none => c.repository
  | some li => c.repository.take li

/-- `BuilderPodTickDuration()`. -/
def builderPodTickDuration (c : Config) : Duration := msecDuration c.builderPodTickDurationMSec

/-- `BuilderPodWaitDuration()`. -/
def builderPodWaitDuration (c : Config) : Duration := msecDuration c.builderPodWaitDurationMSec

/-- `ObjectStorageTickDuration()`. -/
def objectStorageTickDuration (c : Config) : Duration :=
  msecDuration c.objectStorageTickDurationMSec

/-- `ObjectStorageWaitDuration()`. -/
def objectStorageWaitDuration (c : Config) : Duration :=
  msecDuration c.objectStorageWaitDurationMSec

/-- `SessionIdleInterval()`. -/
def sessionIdleInterval (c : Config) : Duration := msecDuration c.sessionIdleIntervalMsec

end Config

/-- The clamp `CheckDurations` makes of a tick, given its wait and its default:
`if tick >= wait { tick = default }`, then `if tick < default { tick = default }`. -/
def clampTick (tick wait default : Int64) : Int64 :=
  let tick := if tick ≥ wait then default else tick
  if tick < default then default else tick

/-- `CheckDurations()`: the clamp of the builder tick, then that of the storage tick. -/
def Config.checkDurations (c : Config) : Config :=
  { c with
    builderPodTickDurationMSec :=
      clampTick c.builderPodTickDurationMSec c.builderPodWaitDurationMSec builderPodTick
    objectStorageTickDurationMSec :=
      clampTick c.objectStorageTickDurationMSec c.objectStorageWaitDurationMSec objectStorageTick }

example :
    Config.checkDurations
      { Config.withDefaults [] with
        builderPodTickDurationMSec := 300000
        builderPodWaitDurationMSec := 300000 } =
      { Config.withDefaults [] with builderPodWaitDurationMSec := 300000 } := by
  decide

/-- The intervals `build` passes, in the order of its calls: the ticker of `waitForPod`, the
poll intervals of `waitForPod` and of `waitForPodEnd`, and the ticker of the release. -/
def buildIntervals (conf : Config) : List Duration :=
  [conf.sessionIdleInterval, conf.builderPodTickDuration, conf.builderPodTickDuration,
    conf.sessionIdleInterval]

/-- `time.NewTicker(d)`: it panics unless `d` is positive. -/
def newTicker (d : Duration) : Except GoString Unit :=
  if d ≤ 0 then .error (lit "non-positive interval for NewTicker") else .ok ()

/-! ### The clamp -/

section Clamp

variable {tick wait default : Int64}

/-- A clamped tick is at least the default. -/
theorem le_clampTick : default ≤ clampTick tick wait default := by
  simp only [clampTick]
  -- whatever the first `if` gives, the second keeps it only when it is not below the default
  generalize (if tick ≥ wait then default else tick) = t
  split
  · exact Int64.le_refl _
  · exact Int64.not_lt.mp ‹_›

/-- A clamped tick is the default, or the tick itself when it was below its wait. -/
theorem clampTick_eq_or (tick wait default : Int64) : clampTick tick wait default = default ∨
    (clampTick tick wait default = tick ∧ tick < wait) := by
  unfold clampTick
  by_cases hw : tick ≥ wait
  · simp [hw]
  · by_cases hd : tick < default
    · simp [hw, hd]
    · exact Or.inr ⟨by simp [hw, hd], Int64.not_le.mp hw⟩

/-- A tick below its wait and not below the default is kept. -/
theorem clampTick_of_lt (hw : tick < wait) (hd : default ≤ tick) :
    clampTick tick wait default = tick := by
  simp [clampTick, Int64.not_le.mpr hw, Int64.not_lt.mpr hd]

end Clamp

/-! ### `CheckDurations` -/

/-- After `CheckDurations` the builder tick is at least `builderPodTick` and the storage tick at
least `objectStorageTick`. -/
theorem checkDurations_ticks (c : Config) :
    builderPodTick ≤ c.checkDurations.builderPodTickDurationMSec ∧
      objectStorageTick ≤ c.checkDurations.objectStorageTickDurationMSec :=
  ⟨le_clampTick, le_clampTick⟩

/-! ### Durations -/

/-- The largest millisecond count whose duration does not overflow. -/
def maxMSec : Int64 := 9223372036854

/-- A millisecond count within `maxMSec` of zero makes its duration without wrapping. -/
theorem toInt_msecDuration {ms : Int64} (h₀ : -maxMSec ≤ ms) (h : ms ≤ maxMSec) :
    (msecDuration ms).toInt = ms.toInt * 1000000 := by
  rw [Int64.le_iff_toInt_le] at h₀ h
  have hmax : maxMSec.toInt = 9223372036854 := by decide
  have hmin : (-maxMSec).toInt = -9223372036854 := by decide
  have hms : millisecond.toInt = 1000000 := by decide
  rw [msecDuration, Int64.toInt_mul, hms]
  exact Int.bmod_eq_of_le (by simp [hmin] at h₀ ⊢; omega) (by simp [hmax] at h ⊢; omega)

/-- A positive millisecond count up to `maxMSec` makes a positive duration. -/
theorem msecDuration_pos {ms : Int64} (h₀ : 0 < ms) (h : ms ≤ maxMSec) : 0 < msecDuration ms := by
  have hlow : -maxMSec ≤ ms := Int64.le_of_lt (Int64.lt_trans (by decide) h₀)
  have hint := toInt_msecDuration hlow h
  rw [Int64.lt_iff_toInt_lt] at h₀ ⊢
  simp only [Int64.toInt_zero] at h₀ ⊢
  omega

/-- A millisecond count from `-maxMSec` to zero makes a duration that is not positive. -/
theorem msecDuration_nonpos {ms : Int64} (h₀ : -maxMSec ≤ ms) (h : ms ≤ 0) :
    msecDuration ms ≤ 0 := by
  have hint := toInt_msecDuration h₀ (Int64.le_trans h (by decide))
  rw [Int64.le_iff_toInt_le] at h ⊢
  simp only [Int64.toInt_zero] at h ⊢
  omega

/-- Every interval `build` passes is positive when the session interval is a positive count up
to `maxMSec` and the builder wait is at most `maxMSec + 1`, so that a builder tick kept below it
does not overflow. -/
theorem buildIntervals_pos (c : Config) (hs₀ : 0 < c.sessionIdleIntervalMsec)
    (hs : c.sessionIdleIntervalMsec ≤ maxMSec) (hw : c.builderPodWaitDurationMSec ≤ maxMSec + 1) :
    ∀ d ∈ buildIntervals c.checkDurations, 0 < d := by
  have hsession : 0 < c.checkDurations.sessionIdleInterval := msecDuration_pos hs₀ hs
  -- the builder tick is `builderPodTick` or a tick below the wait
  have hlow : builderPodTick ≤ c.checkDurations.builderPodTickDurationMSec :=
    (checkDurations_ticks c).1
  have hhigh : c.checkDurations.builderPodTickDurationMSec ≤ maxMSec := by
    rcases clampTick_eq_or c.builderPodTickDurationMSec c.builderPodWaitDurationMSec
        builderPodTick with h | ⟨h, hlt⟩
    · show clampTick _ _ _ ≤ _
      rw [h]
      decide
    · show clampTick _ _ _ ≤ _
      rw [h]
      rw [Int64.le_iff_toInt_le] at hw ⊢
      rw [Int64.lt_iff_toInt_lt] at hlt
      have : (maxMSec + 1).toInt = maxMSec.toInt + 1 := by decide
      omega
  have htick : 0 < c.checkDurations.builderPodTickDuration :=
    msecDuration_pos (Int64.lt_of_lt_of_le (by decide) hlow) hhigh
  simp [buildIntervals, hsession, htick]

/-- Timing configuration can make a build panic or spin: `CheckDurations` leaves the session
interval as it is, so a session interval that is not positive reaches `time.NewTicker`, which
panics; and a builder tick just over `maxMSec`, below a larger wait, is kept and wraps to a
negative poll interval. -/
theorem checkDurations_unsafe_intervals :
    (∀ c : Config, -maxMSec ≤ c.sessionIdleIntervalMsec → c.sessionIdleIntervalMsec ≤ 0 →
      c.checkDurations.sessionIdleInterval ∈ buildIntervals c.checkDurations ∧
      newTicker c.checkDurations.sessionIdleInterval =
        .error (lit "non-positive interval for NewTicker")) ∧
    (∀ c : Config, c.builderPodTickDurationMSec = maxMSec + 1 →
      maxMSec + 1 < c.builderPodWaitDurationMSec →
      c.checkDurations.builderPodTickDuration ∈ buildIntervals c.checkDurations ∧
      c.checkDurations.builderPodTickDuration < 0) := by
  refine ⟨fun c hlow hs => ⟨by simp [buildIntervals], ?_⟩, fun c htick hwait => ?_⟩
  · have hnonpos : c.checkDurations.sessionIdleInterval ≤ 0 := msecDuration_nonpos hlow hs
    simp [newTicker, hnonpos]
  · have hkeep : c.checkDurations.builderPodTickDurationMSec = maxMSec + 1 := by
      show clampTick _ _ _ = _
      rw [htick, clampTick_of_lt (htick ▸ hwait) (by decide)]
    refine ⟨by simp [buildIntervals], ?_⟩
    show msecDuration c.checkDurations.builderPodTickDurationMSec < 0
    rw [hkeep]
    decide

/-- `SESSION_IDLE_INTERVAL=0` with the other durations at their defaults, and
`BUILDER_POD_TICK_DURATION=9223372036855` below `BUILDER_POD_WAIT_DURATION=9223372036856`. -/
theorem checkDurations_unsafe_demo :
    newTicker
        (Config.checkDurations
          { Config.withDefaults (lit "demo") with sessionIdleIntervalMsec := 0 }).sessionIdleInterval =
      .error (lit "non-positive interval for NewTicker") ∧
    (Config.checkDurations
        { Config.withDefaults (lit "demo") with
          builderPodTickDurationMSec := 9223372036855
          builderPodWaitDurationMSec := 9223372036856 }).builderPodTickDuration < 0 :=
  ⟨(checkDurations_unsafe_intervals.1 _ (by decide) (by decide)).2,
    (checkDurations_unsafe_intervals.2 _ (by decide) (by decide)).2⟩

end DryccBuilder.Gitreceive
