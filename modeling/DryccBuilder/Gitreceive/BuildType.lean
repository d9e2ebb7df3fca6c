import DryccBuilder.Go.Builtin
import DryccBuilder.Controller

/-!
# Stack selection

`getStack` (`pkg/gitreceive/build_type.go`) picks the stack a push is built with from the
stacks of `Stacks`, a list of `map[string]string` that `initStack` loads, when it is empty,
from `/etc/imagebuilder/images.json` or else from `defaultStacks`. The order of `Stacks` is
the priority: the stack the app's global `DRYCC_STACK` names, else `container` when the
source has a `Dockerfile`, else `buildpack` when it has a `Procfile` or a `project.toml`,
else the first stack.

## The model

* `Stacks` is an argument, and so is what `initStack` leaves in it: `json.Unmarshal` is
  outside the repository. `defaultStacks` is given by the stacks its text decodes to.
* `os.Stat(p)` returning no error is the argument `statOk p`.
* `getStack` returns `none` where it panics: when a global `DRYCC_STACK` is not a string
  (`v.Value.(string)`), and at `Stacks[0]` when `Stacks` is empty.
* Logging is not modelled.

## What is proved

`getStack_priority` says which stack `getStack` returns, as a statement about the first stack
of each name (`StackPriority`), and `StackPriority.unique` that this determines it. The name
looked up first is the last global `DRYCC_STACK`, and `""` when there is none: a stack without
a `"name"` then comes first (`getStack_unset_picks_nameless`).
-/

namespace DryccBuilder.Gitreceive

open Go Controller

/-- A stack of `Stacks`: a `map[string]string`, with a `"name"` and an `"image"`. -/
abbrev Stack := GoMap GoString GoString

/-- `stack["name"]`, `""` when the key is missing. -/
def Stack.name (stack : Stack) : GoString := stack.index (lit "name")

/-- `defaultStacks`, as the JSON text decodes: `buildpack`, then `container`. -/
def defaultStacks : List Stack :=
  [⟨[(lit "name", lit "buildpack"), (lit "image", lit "registry.drycc.cc/drycc/imagebuilder:canary")],
    by decide⟩,
   ⟨[(lit "name", lit "container"), (lit "image", lit "registry.drycc.cc/drycc/imagebuilder:canary")],
    by decide⟩]

/-- `initStack()`: what `Stacks` holds after it, given what `os.ReadFile` read from
`/etc/imagebuilder/images.json` (`none` for an error) and what `json.Unmarshal` makes of it. -/
def initStack (unmarshal : GoString → List Stack) (imagesJson : Option GoString) : List Stack :=
  match imagesJson with
  | some data => unmarshal data
  | none => defaultStacks

/-- `if len(Stacks) == 0 { initStack() }`: the stacks `getStack` searches. -/
def loadStacks (Stacks initStacks : List Stack) : List Stack :=
  if Stacks.length = 0 then initStacks else Stacks

/-- A config value that sets the stack: `v.Group == "global" && v.Name == "DRYCC_STACK"`. -/
def IsStackVar (v : ConfigValue) : Prop := v.group = lit "global" ∧ v.name = lit "DRYCC_STACK"

instance : DecidablePred IsStackVar := fun v =>
  inferInstanceAs (Decidable (v.group = lit "global" ∧ v.name = lit "DRYCC_STACK"))

/-- The loop over `config.Values` from `strStack`: the value of the last config value that
sets the stack; `none` where `v.Value.(string)` panics. -/
def strStackOf : GoString → List ConfigValue → Option GoString
  | strStack, [] => some strStack
  | strStack, v :: vs =>
    if IsStackVar v then
      match v.value with
      | .str s => strStackOf s vs
      | .other _ => none
    else strStackOf strStack vs

/-- `for _, stack := range Stacks { if stack["name"] == name { return stack } }`. -/
def findStack (Stacks : List Stack) (name : GoString) : Option Stack :=
  Stacks.find? fun stack => stack.name = name

/-- The searches of `getStack` after the config loop, for the name `strStack`: the stack of that
name, then `container` for a `Dockerfile`, `buildpack` for a `Procfile` or a `project.toml`,
and `Stacks[0]`. -/
def selectStack (Stacks : List Stack) (statOk : GoString → Bool) (dirName strStack : GoString) :
    Option Stack :=
  findStack Stacks strStack <|>
  (if statOk (dirName ++ lit "/Dockerfile") then findStack Stacks (lit "container") else none) <|>
  (if statOk (dirName ++ lit "/Procfile") then findStack Stacks (lit "buildpack")
   else if statOk (dirName ++ lit "/project.toml") then findStack Stacks (lit "buildpack")
   else none) <|>
  Stacks.head?

/-- `getStack(dirName, config)`; `none` where it panics. -/
def getStack (Stacks initStacks : List Stack) (statOk : GoString → Bool) (dirName : GoString)
    (config : Config) : Option Stack :=
  match strStackOf [] config.values with
  | none => none
  | some strStack => selectStack (loadStacks Stacks initStacks) statOk dirName strStack

/-! ### What the priority order means -/

/-- `stack` is the first of the stacks named `n`. -/
def IsFirstNamed (Stacks : List Stack) (n : GoString) (stack : Stack) : Prop :=
  ∃ pre post, Stacks = pre ++ stack :: post ∧ stack.name = n ∧ ∀ s ∈ pre, s.name ≠ n

/-- Some stack is named `n`. -/
def HasNamed (Stacks : List Stack) (n : GoString) : Prop := ∃ s ∈ Stacks, s.name = n

/-- The stack name `values` sets: the value of the last config value that sets the stack, or
`""` when none does. -/
def StackSetting (values : List ConfigValue) (s : GoString) : Prop :=
  (∃ pre v post, values = pre ++ v :: post ∧ IsStackVar v ∧ v.value = .str s ∧
    ∀ w ∈ post, ¬ IsStackVar w) ∨
  (s = [] ∧ ∀ v ∈ values, ¬ IsStackVar v)

open Classical in
/-- The stack chosen for the name `s` and the files `present` in `dirName`: the first named `s`;
otherwise, with a `Dockerfile`, the first `container`; otherwise, with a `Procfile` or a
`project.toml`, the first `buildpack`; otherwise the first stack. -/
def StackPriority (Stacks : List Stack) (present : GoString → Prop) (dirName s : GoString)
    (stack : Stack) : Prop :=
  if HasNamed Stacks s then IsFirstNamed Stacks s stack
  else if present (dirName ++ lit "/Dockerfile") ∧ HasNamed Stacks (lit "container") then
    IsFirstNamed Stacks (lit "container") stack
  else if (present (dirName ++ lit "/Procfile") ∨ present (dirName ++ lit "/project.toml")) ∧
      HasNamed Stacks (lit "buildpack") then
    IsFirstNamed Stacks (lit "buildpack") stack
  else Stacks.head? = some stack

theorem IsFirstNamed.hasNamed {Stacks : List Stack} {n : GoString} {stack : Stack}
    (h : IsFirstNamed Stacks n stack) : HasNamed Stacks n := by
  obtain ⟨pre, post, rfl, hn, -⟩ := h
  exact ⟨stack, by simp, hn⟩

/-- The first stack of a name is one stack. -/
theorem IsFirstNamed.unique {Stacks : List Stack} {n : GoString} {s₁ s₂ : Stack}
    (h₁ : IsFirstNamed Stacks n s₁) (h₂ : IsFirstNamed Stacks n s₂) : s₁ = s₂ := by
  obtain ⟨pre₁, post₁, rfl, hn₁, hpre₁⟩ := h₁
  obtain ⟨pre₂, post₂, heq, hn₂, hpre₂⟩ := h₂
  -- neither prefix can be the longer one: the stack after the shorter would lie in the longer
  rcases List.append_eq_append_iff.mp heq with ⟨rest, hpre, hpost⟩ | ⟨rest, hpre, hpost⟩
  · cases rest with
    | nil =>
      simp only [List.nil_append, List.cons.injEq] at hpost
      exact hpost.1
    | cons r rest =>
      simp only [List.cons_append, List.cons.injEq] at hpost
      rw [hpost.1] at hn₁
      exact absurd hn₁ (hpre₂ r (by simp [hpre]))
  · cases rest with
    | nil =>
      simp only [List.nil_append, List.cons.injEq] at hpost
      exact hpost.1.symm
    | cons r rest =>
      simp only [List.cons_append, List.cons.injEq] at hpost
      rw [hpost.1] at hn₂
      exact absurd hn₂ (hpre₁ r (by simp [hpre]))

/-- The priority order determines the stack. -/
theorem StackPriority.unique {Stacks : List Stack} {present : GoString → Prop}
    {dirName s : GoString} {st₁ st₂ : Stack}
    (h₁ : StackPriority Stacks present dirName s st₁)
    (h₂ : StackPriority Stacks present dirName s st₂) : st₁ = st₂ := by
  unfold StackPriority at h₁ h₂
  split_ifs at h₁ h₂
  · exact h₁.unique h₂
  · exact h₁.unique h₂
  · exact h₁.unique h₂
  · exact Option.some.inj (h₁.symm.trans h₂)

/-! ### The loops -/

theorem findStack_eq_some_iff {Stacks : List Stack} {n : GoString} {stack : Stack} :
    findStack Stacks n = some stack ↔ IsFirstNamed Stacks n stack := by
  simp only [findStack, List.find?_eq_some_iff_append, decide_eq_true_eq, Bool.not_eq_true',
    decide_eq_false_iff_not, IsFirstNamed]
  constructor
  · rintro ⟨hn, pre, post, rfl, hpre⟩
    exact ⟨pre, post, rfl, hn, hpre⟩
  · rintro ⟨pre, post, rfl, hn, hpre⟩
    exact ⟨hn, pre, post, rfl, hpre⟩

theorem findStack_eq_none_iff {Stacks : List Stack} {n : GoString} :
    findStack Stacks n = none ↔ ¬ HasNamed Stacks n := by
  simp [findStack, HasNamed, List.find?_eq_none]

/-- Over config values whose stack settings are strings, the loop ends with the last setting,
or with the value it started from when there is none. -/
theorem strStackOf_spec (values : List ConfigValue)
    (hstr : ∀ v ∈ values, IsStackVar v → ∃ s, v.value = .str s) (strStack : GoString) :
    ∃ s, strStackOf strStack values = some s ∧
      ((∃ pre v post, values = pre ++ v :: post ∧ IsStackVar v ∧ v.value = .str s ∧
        ∀ w ∈ post, ¬ IsStackVar w) ∨
      (s = strStack ∧ ∀ v ∈ values, ¬ IsStackVar v)) := by
  induction values generalizing strStack with
  | nil => exact ⟨strStack, rfl, .inr ⟨rfl, by simp⟩⟩
  | cons v vs ih =>
    have hstr' : ∀ w ∈ vs, IsStackVar w → ∃ s, w.value = .str s :=
      fun w hw => hstr w (List.mem_cons_of_mem v hw)
    by_cases hv : IsStackVar v
    · -- a setting: the loop goes on from its string
      obtain ⟨t, ht⟩ := hstr v (by simp) hv
      obtain ⟨s, hs, hlast⟩ := ih hstr' t
      refine ⟨s, by simp [strStackOf, hv, ht, hs], .inl ?_⟩
      rcases hlast with ⟨pre, w, post, rfl, hw, hws, hpost⟩ | ⟨rfl, hnone⟩
      · exact ⟨v :: pre, w, post, rfl, hw, hws, hpost⟩
      · exact ⟨[], v, vs, rfl, hv, ht, hnone⟩
    · obtain ⟨s, hs, hlast⟩ := ih hstr' strStack
      refine ⟨s, by simp [strStackOf, hv, hs], ?_⟩
      rcases hlast with ⟨pre, w, post, rfl, hw, hws, hpost⟩ | ⟨rfl, hnone⟩
      · exact .inl ⟨v :: pre, w, post, rfl, hw, hws, hpost⟩
      · exact .inr ⟨rfl, List.forall_mem_cons.mpr ⟨hv, hnone⟩⟩

/-- A search made under a condition finds the first stack of the name, when the condition
holds. -/
theorem guarded_findStack_eq_some {c : Prop} [Decidable c] {Stacks : List Stack} {n : GoString}
    {stack : Stack} :
    (if c then findStack Stacks n else none) = some stack ↔ c ∧ IsFirstNamed Stacks n stack := by
  split <;> simp [*, findStack_eq_some_iff]

theorem guarded_findStack_eq_none {c : Prop} [Decidable c] {Stacks : List Stack} {n : GoString} :
    (if c then findStack Stacks n else none) = none ↔ ¬ (c ∧ HasNamed Stacks n) := by
  split <;> simp [*, findStack_eq_none_iff]

/-- The `Procfile` and `project.toml` branches search for the same stack. -/
theorem buildpack_search (procfile toml : Bool) (Stacks : List Stack) :
    (if procfile then findStack Stacks (lit "buildpack")
     else if toml then findStack Stacks (lit "buildpack") else none) =
      if procfile = true ∨ toml = true then findStack Stacks (lit "buildpack") else none := by
  cases procfile <;> cases toml <;> simp

/-- Over a non-empty list of stacks, the searches return the stack of the priority order. -/
theorem selectStack_priority (Stacks : List Stack) (hne : Stacks ≠ []) (statOk : GoString → Bool)
    (dirName s : GoString) :
    ∃ stack, selectStack Stacks statOk dirName s = some stack ∧
      StackPriority Stacks (statOk · = true) dirName s stack := by
  unfold selectStack
  rw [buildpack_search]
  -- the tiers in order: each finds its stack, or fails for a reason the next one keeps
  cases h1 : findStack Stacks s with
  | some stack =>
    have hf := findStack_eq_some_iff.mp h1
    refine ⟨stack, rfl, ?_⟩
    rw [StackPriority, if_pos hf.hasNamed]
    exact hf
  | none =>
    have hs := findStack_eq_none_iff.mp h1
    cases h2 : (if statOk (dirName ++ lit "/Dockerfile") = true then
        findStack Stacks (lit "container") else none) with
    | some stack =>
      obtain ⟨hdock, hf⟩ := guarded_findStack_eq_some.mp h2
      refine ⟨stack, by simp, ?_⟩
      rw [StackPriority, if_neg hs, if_pos ⟨hdock, hf.hasNamed⟩]
      exact hf
    | none =>
      have hd := guarded_findStack_eq_none.mp h2
      cases h3 : (if statOk (dirName ++ lit "/Procfile") = true ∨
          statOk (dirName ++ lit "/project.toml") = true then
          findStack Stacks (lit "buildpack") else none) with
      | some stack =>
        obtain ⟨hfiles, hf⟩ := guarded_findStack_eq_some.mp h3
        refine ⟨stack, by simp, ?_⟩
        rw [StackPriority, if_neg hs, if_neg hd, if_pos ⟨hfiles, hf.hasNamed⟩]
        exact hf
      | none =>
        have hp := guarded_findStack_eq_none.mp h3
        obtain ⟨first, rest, rfl⟩ := List.exists_cons_of_ne_nil hne
        refine ⟨first, by simp, ?_⟩
        rw [StackPriority, if_neg hs, if_neg hd, if_neg hp]
        rfl

/-! ### Which stack `getStack` returns -/

/-- **Stack selection.** Over config values whose global `DRYCC_STACK` values are strings and a
non-empty `Stacks`, `getStack` returns the stack of the priority order, for the name the
config sets: the value of its last global `DRYCC_STACK`, or `""` when it has none. -/
theorem getStack_priority (Stacks initStacks : List Stack) (statOk : GoString → Bool)
    (dirName : GoString) (config : Config)
    (hstr : ∀ v ∈ config.values, IsStackVar v → ∃ s, v.value = .str s) (hne : Stacks ≠ []) :
    ∃ s, StackSetting config.values s ∧ ∃ stack,
      getStack Stacks initStacks statOk dirName config = some stack ∧
      StackPriority Stacks (statOk · = true) dirName s stack := by
  obtain ⟨s, hs, hset⟩ := strStackOf_spec config.values hstr []
  have hload : loadStacks Stacks initStacks = Stacks := by
    simp [loadStacks, List.length_eq_zero_iff, hne]
  obtain ⟨stack, hget, hprio⟩ := selectStack_priority Stacks hne statOk dirName s
  refine ⟨s, hset, stack, ?_, hprio⟩
  simp only [getStack, hs, hload]
  exact hget

/-- The default stacks, a config that sets `container`, and a source with a `Procfile`. -/
theorem getStack_priority_container :
    (∀ v ∈ [ConfigValue.mk (lit "global") (lit "DRYCC_STACK") (.str (lit "container"))],
      IsStackVar v → ∃ s, v.value = .str s) ∧ defaultStacks ≠ [] ∧
    ∃ s, StackSetting [⟨lit "global", lit "DRYCC_STACK", .str (lit "container")⟩] s ∧
      ∃ stack, getStack defaultStacks [] (fun p => p = lit "/tmp/Procfile") (lit "/tmp")
        ⟨[⟨lit "global", lit "DRYCC_STACK", .str (lit "container")⟩]⟩ = some stack ∧
      StackPriority defaultStacks (fun p => decide (p = lit "/tmp/Procfile") = true)
        (lit "/tmp") s stack := by
  have hstr : ∀ v ∈ [ConfigValue.mk (lit "global") (lit "DRYCC_STACK") (.str (lit "container"))],
      IsStackVar v → ∃ s, v.value = .str s := by
    simp
  have hne : defaultStacks ≠ [] := by simp [defaultStacks]
  exact ⟨hstr, hne, getStack_priority defaultStacks [] _ (lit "/tmp") ⟨_⟩ hstr hne⟩

/-- With no `DRYCC_STACK` and no files, a stack without a `"name"` is returned rather than
`Stacks[0]`: the name searched first is `""`. -/
theorem getStack_unset_picks_nameless :
    getStack [⟨[(lit "name", lit "buildpack"), (lit "image", lit "i")], by decide⟩,
        ⟨[(lit "image", lit "x")], by decide⟩] [] (fun _ => false) (lit "/tmp") ⟨[]⟩ =
      some ⟨[(lit "image", lit "x")], by decide⟩ ∧
    (⟨[(lit "image", lit "x")], by decide⟩ : Stack) ≠
      ⟨[(lit "name", lit "buildpack"), (lit "image", lit "i")], by decide⟩ := by
  decide

end DryccBuilder.Gitreceive
