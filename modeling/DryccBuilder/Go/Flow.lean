import Mathlib.Data.List.Basic

/-!
# Go functions that return at the first error

Much of a Go program is a function body that calls one thing after another and, after each
call, returns at once when the call failed: `if err != nil { return fmt.Errorf(...) }`. Calls
with an effect outside the program are made on the way, calls deferred with `defer` run when the
body returns and when it panics, last deferred first, and an index out of range or a nil
dereference panics.

## The model

A run of such a body is a `Trace`: the effects it had, in order, with how it ended, `Exit`. The
body is written with one combinator for each shape of step: `emit` for a call with an effect,
`check` for a call that returns only an error, `expect` for one that returns a value or an error,
`need` for a step that panics on a missing value, and `defer` for a deferred call. Each has its
`@[simp]` lemmas for what is in the effects and for the exit, with which a proof about a whole
body peels it step by step, never unfolding it.
-/

namespace Go.Flow

/-- How a function body ends: it returns `nil` or an error, or it panics. -/
inductive Exit (E : Type) where
  /-- `return err`, `none` for `nil`. -/
  | returned (err : Option E)
  /-- A run-time panic. -/
  | panicked
  deriving DecidableEq, Repr

/-- A run of a function body: its effects, in order, and how it ended. -/
abbrev Trace (ε E : Type) := List ε × Exit E

variable {ε E E' α : Type}

/-- `return nil`. -/
def ret : Trace ε E := ([], .returned none)

/-- `return err`. -/
def fail (err : E) : Trace ε E := ([], .returned (some err))

/-- A run-time panic. -/
def crash : Trace ε E := ([], .panicked)

/-- A call with the effect `e`, and the rest of the body. -/
def emit (e : ε) (k : Trace ε E) : Trace ε E := (e :: k.1, k.2)

/-- `defer f()` before the rest of the body `k`: `f` runs at the end, whether the body returns
or panics. -/
def defer (k : Trace ε E) (e : ε) : Trace ε E := (k.1 ++ [e], k.2)

/-- `if err := f(); err != nil { return wrap(err) }`, and the rest of the body `k`. -/
def check (r : Option E') (wrap : E' → E) (k : Trace ε E) : Trace ε E :=
  match r with
  | some err => fail (wrap err)
  | none => k

/-- `x, err := f(); if err != nil { return wrap(err) }`, and the rest of the body `k x`. -/
def expect (r : Except E' α) (wrap : E' → E) (k : α → Trace ε E) : Trace ε E :=
  match r with
  | .error err => fail (wrap err)
  | .ok x => k x

/-- A step that panics where the value is missing (an index out of range, a nil pointer), and
the rest of the body `k x`. -/
def need (r : Option α) (k : α → Trace ε E) : Trace ε E :=
  match r with
  | none => crash
  | some x => k x

/-- `if err := f(); err != nil { return wrap(err) }` where a run of `f`'s body is `t`, and the
rest of the body `k`: `f`'s effects come first, and a panic in `f` is one of the caller. -/
def invoke (t : Trace ε E') (wrap : E' → E) (k : Trace ε E) : Trace ε E :=
  match t.2 with
  | .returned none => (t.1 ++ k.1, k.2)
  | .returned (some err) => (t.1, .returned (some (wrap err)))
  | .panicked => (t.1, .panicked)

/-- `x, err := f(); if err != nil { return wrap(err) }` where `f` has the effects `r.1` and
returns `r.2`, and the rest of the body `k x`. -/
def invokeExpect (r : List ε × Except E' α) (wrap : E' → E) (k : α → Trace ε E) :
    Trace ε E :=
  (r.1 ++ (expect r.2 wrap k).1, (expect r.2 wrap k).2)

/-! ### Steps that go on -/

section Steps

variable {k : Trace ε E}

@[simp] theorem check_none {wrap : E' → E} : check none wrap k = k := rfl

@[simp] theorem expect_ok {x : α} {wrap : E' → E} {k : α → Trace ε E} :
    expect (.ok x) wrap k = k x := rfl

@[simp] theorem need_some {x : α} {k : α → Trace ε E} : need (some x) k = k x := rfl

end Steps

/-! ### The effects of a run -/

section Effects

variable {e e' : ε} {k : Trace ε E}

@[simp] theorem not_mem_ret : e ∉ (ret : Trace ε E).1 := List.not_mem_nil

@[simp] theorem not_mem_fail (err : E) : e ∉ (fail err : Trace ε E).1 := List.not_mem_nil

@[simp] theorem not_mem_crash : e ∉ (crash : Trace ε E).1 := List.not_mem_nil

@[simp] theorem mem_emit : e ∈ (emit e' k).1 ↔ e = e' ∨ e ∈ k.1 := List.mem_cons

@[simp] theorem mem_defer : e ∈ (defer k e').1 ↔ e ∈ k.1 ∨ e = e' := by
  simp [defer]

@[simp] theorem mem_check {r : Option E'} {wrap : E' → E} :
    e ∈ (check r wrap k).1 ↔ r = none ∧ e ∈ k.1 := by
  cases r <;> simp [check]

@[simp] theorem mem_expect {r : Except E' α} {wrap : E' → E} {k : α → Trace ε E} :
    e ∈ (expect r wrap k).1 ↔ ∃ x, r = .ok x ∧ e ∈ (k x).1 := by
  cases r <;> simp [expect]

@[simp] theorem mem_need {r : Option α} {k : α → Trace ε E} :
    e ∈ (need r k).1 ↔ ∃ x, r = some x ∧ e ∈ (k x).1 := by
  cases r <;> simp [need]

@[simp] theorem mem_invoke {t : Trace ε E'} {wrap : E' → E} :
    e ∈ (invoke t wrap k).1 ↔ e ∈ t.1 ∨ t.2 = .returned none ∧ e ∈ k.1 := by
  unfold invoke
  rcases t with ⟨effects, (_ | err) | _⟩ <;> simp

@[simp] theorem mem_invokeExpect {r : List ε × Except E' α} {wrap : E' → E}
    {k : α → Trace ε E} :
    e ∈ (invokeExpect r wrap k).1 ↔ e ∈ r.1 ∨ ∃ x, r.2 = .ok x ∧ e ∈ (k x).1 := by
  simp [invokeExpect]

/-- The last effect of a body with a deferred call is that call. -/
@[simp] theorem getLast?_defer : (defer k e).1.getLast? = some e := by
  simp [defer]

@[simp] theorem getLast?_emit : (emit e k).1.getLast? = some (k.1.getLast?.getD e) :=
  List.getLast?_cons

end Effects

/-! ### How a run ends -/

section Exits

variable {k : Trace ε E}

@[simp] theorem exit_ret : (ret : Trace ε E).2 = .returned none := rfl

@[simp] theorem exit_fail (err : E) : (fail err : Trace ε E).2 = .returned (some err) := rfl

@[simp] theorem exit_crash : (crash : Trace ε E).2 = .panicked := rfl

@[simp] theorem exit_emit (e : ε) : (emit e k).2 = k.2 := rfl

@[simp] theorem exit_defer (e : ε) : (defer k e).2 = k.2 := rfl

/-- A body returns `nil` only where each of its checks passed. -/
@[simp] theorem check_returned_none {r : Option E'} {wrap : E' → E} :
    (check r wrap k).2 = .returned none ↔ r = none ∧ k.2 = .returned none := by
  cases r <;> simp [check]

@[simp] theorem expect_returned_none {r : Except E' α} {wrap : E' → E} {k : α → Trace ε E} :
    (expect r wrap k).2 = .returned none ↔ ∃ x, r = .ok x ∧ (k x).2 = .returned none := by
  cases r <;> simp [expect]

@[simp] theorem need_returned_none {r : Option α} {k : α → Trace ε E} :
    (need r k).2 = .returned none ↔ ∃ x, r = some x ∧ (k x).2 = .returned none := by
  cases r <;> simp [need]

@[simp] theorem invoke_returned_none {t : Trace ε E'} {wrap : E' → E} :
    (invoke t wrap k).2 = .returned none ↔ t.2 = .returned none ∧ k.2 = .returned none := by
  unfold invoke
  rcases t with ⟨effects, (_ | err) | _⟩ <;> simp

@[simp] theorem invokeExpect_returned_none {r : List ε × Except E' α} {wrap : E' → E}
    {k : α → Trace ε E} :
    (invokeExpect r wrap k).2 = .returned none ↔ ∃ x, r.2 = .ok x ∧ (k x).2 = .returned none := by
  simp [invokeExpect]

end Exits

end Go.Flow
