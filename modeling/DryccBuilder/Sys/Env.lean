import DryccBuilder.Go.Builtin
import DryccBuilder.Go.Strings

/-!
# Environments

Package `sys` (`pkg/sys/env.go`) reads environment variables through the interface `Env`, with
two implementations: `realEnv`, over the process environment, and `FakeEnv`, over a map, which
the tests of `gitreceive` use in its place. `Environ(prefixs)` returns the variables whose names
start with one of the prefixes. `realEnv` walks the `key=value` strings of `os.Environ()`,
cutting each at its first `=`; `FakeEnv` walks the keys of its map. Both run the same loop over
the prefixes, which sets a key only while it is not set yet.

## The model

* `os.Environ()` is the field `osEnviron` of `RealEnv`.
* `environKey` is the loop over the prefixes, shared by both implementations. It reads the value
  through an `Option`: `none` is a `pair[1]` out of range, where the runtime panics, and then
  `Environ` returns `none`.
* A map's `range` visits its entries in the order of `GoMap.entries`; a statement over every
  map is over every order.

## What is proved

`RealEnv.environ_eq` and `FakeEnv.environ_eq`: over an environment of `key=value` strings with
distinct keys (`Environment`), each `Environ` returns the restriction of the environment to the
keys that start with a prefix (`Environment.select`), each value whole, whatever the order the
fake's map is visited in. Both rest on `environKey_some`, what the prefix loop does for one key.
-/

namespace DryccBuilder.Sys

open Go

/-- One turn of the loop over the prefixes for the key `key`:
`if _, hasKey := envs[key]; !hasKey && strings.HasPrefix(key, prefix) { envs[key] = value }`,
where reading `value` may fail. -/
def environPrefix (key : GoString) (value : Option GoString) (envs : GoMap GoString GoString)
    (pre : GoString) : Option (GoMap GoString GoString) :=
  if (envs.get? key).isNone ∧ hasPrefix key pre then value.map (envs.insert key) else some envs

/-- `for index := range prefixs { ... }` for the key `key`. -/
def environKey (prefixs : List GoString) (key : GoString) (value : Option GoString)
    (envs : GoMap GoString GoString) : Option (GoMap GoString GoString) :=
  prefixs.foldlM (environPrefix key value) envs

/-- `realEnv`, reading the process environment. -/
structure RealEnv where
  /-- `os.Environ()`: the `key=value` strings of the process. -/
  osEnviron : List GoString

/-- `realEnv.Environ(prefixs)`: each string is cut by `strings.SplitN(env, "=", 2)` into
`pair[0]`, the key, and `pair[1]`, the value. -/
def RealEnv.environ (r : RealEnv) (prefixs : List GoString) : Option (GoMap GoString GoString) :=
  r.osEnviron.foldlM (fun envs env =>
    let pair := splitN env (byte "=") 2
    -- `SplitN(_, _, 2)` has at least one piece: `pair[0]` is in range
    environKey prefixs (pair.headD []) pair[1]? envs) GoMap.empty

/-- A selected string without `=` panics at `pair[1]`. -/
example : (RealEnv.mk [lit "A=1", lit "B"]).environ [lit "B"] = none := by decide

/-- `FakeEnv`. -/
structure FakeEnv where
  /-- `Envs`, the map `Get` and `Environ` read. -/
  envs : GoMap GoString GoString

/-- `FakeEnv.Environ(prefixs)`: `for key := range f.Envs`, the value being `f.Envs[key]`. -/
def FakeEnv.environ (f : FakeEnv) (prefixs : List GoString) : Option (GoMap GoString GoString) :=
  f.envs.entries.foldlM (fun envs entry =>
    environKey prefixs entry.1 (some (f.envs.index entry.1)) envs) GoMap.empty

/-- A value of the interface `Env`, by its implementation. -/
inductive Env where
  /-- `RealEnv()`. -/
  | real (r : RealEnv)
  /-- A `*FakeEnv`. -/
  | fake (f : FakeEnv)

/-- `env.Environ(prefixs)`. -/
def Env.environ : Env → List GoString → Option (GoMap GoString GoString)
  | .real r, prefixs => r.environ prefixs
  | .fake f, prefixs => f.environ prefixs

/-! ### The loop over the prefixes -/

/-- The keys the prefixes select. -/
def Selected (prefixs : List GoString) (key : GoString) : Prop := ∃ pre ∈ prefixs, pre <+: key

instance (prefixs : List GoString) (key : GoString) : Decidable (Selected prefixs key) :=
  inferInstanceAs (Decidable (∃ pre ∈ prefixs, pre <+: key))

/-- A key already set stays as it is. -/
theorem environKey_of_isSome {prefixs : List GoString} {key : GoString} {value : Option GoString}
    {envs : GoMap GoString GoString} (h : (envs.get? key).isSome) :
    environKey prefixs key value envs = some envs := by
  induction prefixs with
  | nil => rfl
  | cons pre prefixs ih =>
    have hstep : environPrefix key value envs pre = some envs := by
      simp [environPrefix, Option.isSome_iff_ne_none.mp h]
    rw [environKey, List.foldlM_cons, hstep]
    exact ih

/-- The loop over the prefixes sets a key that is not set yet to its value exactly when one of
the prefixes selects it: the first prefix that does sets it, and the others find it set. -/
theorem environKey_some (prefixs : List GoString) (key value : GoString)
    (envs : GoMap GoString GoString) :
    environKey prefixs key (some value) envs =
      some (if (envs.get? key).isNone ∧ Selected prefixs key then envs.insert key value
        else envs) := by
  induction prefixs generalizing envs with
  | nil => simp [environKey, Selected]
  | cons pre prefixs ih =>
    rw [environKey, List.foldlM_cons]
    by_cases hsel : (envs.get? key).isNone ∧ pre <+: key
    · -- this prefix sets the key; the rest of the loop finds it set
      have hstep : environPrefix key (some value) envs pre = some (envs.insert key value) := by
        simp [environPrefix, hsel.1, hsel.2]
      have hset : ((envs.insert key value).get? key).isSome := by simp
      have hcond : (envs.get? key).isNone ∧ Selected (pre :: prefixs) key :=
        ⟨hsel.1, pre, List.mem_cons_self, hsel.2⟩
      rw [hstep, if_pos hcond]
      exact environKey_of_isSome hset
    · have hstep : environPrefix key (some value) envs pre = some envs := by
        simp only [environPrefix, hasPrefix_iff]
        rw [if_neg hsel]
      rw [hstep]
      refine (ih envs).trans ?_
      -- `pre` selects nothing new: the two conditions agree
      congr 2
      simp only [Selected, List.mem_cons, exists_eq_or_imp, eq_iff_iff]
      tauto

/-! ### Environments of `key=value` strings -/

/-- An environment: variables with distinct names that hold no `=`. -/
structure Environment where
  /-- The variables, in the order of `os.Environ()`. -/
  vars : List (GoString × GoString)
  no_eq : ∀ v ∈ vars, byte "=" ∉ v.1
  nodup : (vars.map Prod.fst).Nodup

/-- The `key=value` string of a variable. -/
def envString (v : GoString × GoString) : GoString := v.1 ++ byte "=" :: v.2

/-- The strings `os.Environ()` returns for the environment. -/
def Environment.strings (E : Environment) : List GoString := E.vars.map envString

/-- The environment restricted to the keys the prefixes select. -/
def Environment.select (E : Environment) (prefixs : List GoString) (key : GoString) :
    Option GoString :=
  if Selected prefixs key then E.vars.lookup key else none

section Loop

variable (prefixs : List GoString)

/-- One step of the invariant: a map holding the restriction of the variables `done`, extended
by a variable `(k, x)` of a new key when a prefix selects it, holds the restriction of
`done ++ [(k, x)]`. -/
theorem restrict_insert {done : List (GoString × GoString)} {envs : GoMap GoString GoString}
    {k x : GoString} (hdone : done.lookup k = none)
    (henvs : ∀ key, envs.get? key = if Selected prefixs key then done.lookup key else none)
    (key : GoString) :
    (if Selected prefixs k then envs.insert k x else envs).get? key =
      if Selected prefixs key then (done ++ [(k, x)]).lookup key else none := by
  by_cases hk : key = k
  · subst hk
    rw [List.lookup_append, hdone, Option.none_or]
    by_cases hsel : Selected prefixs key <;> simp [henvs, hsel]
  · have hlook : (done ++ [(k, x)]).lookup key = done.lookup key := by
      simp [List.lookup_append, List.lookup_cons, beq_false_of_ne hk]
    rw [hlook, ← henvs]
    split <;> simp [hk]

/-- The loop over the variables, each of whose steps is the prefix loop for one variable: what
it leaves at each key is the restriction of the variables seen so far. The invariant is that
the map holds the restriction of the variables done; a new key is unset in it. -/
theorem foldlM_environKey {step : GoMap GoString GoString → GoString × GoString →
      Option (GoMap GoString GoString)} :
    ∀ (vars done : List (GoString × GoString)) (envs : GoMap GoString GoString),
      (∀ v ∈ vars, ∀ envs, step envs v = environKey prefixs v.1 (some v.2) envs) →
      ((done ++ vars).map Prod.fst).Nodup →
      (∀ key, envs.get? key = if Selected prefixs key then done.lookup key else none) →
      ∃ envs', vars.foldlM step envs = some envs' ∧
        ∀ key, envs'.get? key = if Selected prefixs key then (done ++ vars).lookup key else none
  | [], done, envs, _, _, henvs => ⟨envs, rfl, by simpa using henvs⟩
  | (k, x) :: vars, done, envs, hstep, hnodup, henvs => by
    have hfresh : k ∉ done.map Prod.fst := by
      rw [List.map_append, List.nodup_append] at hnodup
      exact fun h => hnodup.2.2 _ h _ (by simp) rfl
    have hdone : done.lookup k = none := GoMap.lookup_eq_none_of_not_mem hfresh
    have hunset : (envs.get? k).isNone := by
      rw [henvs]
      split <;> simp [hdone]
    -- the variable is added when selected, and the rest of the loop runs from there
    rw [List.foldlM_cons, hstep (k, x) List.mem_cons_self, environKey_some,
      if_congr (and_iff_right hunset) rfl rfl]
    have := foldlM_environKey vars (done ++ [(k, x)]) _
      (fun v' hv' => hstep v' (List.mem_cons_of_mem _ hv')) (by simpa using hnodup)
      (restrict_insert prefixs hdone henvs)
    simpa using this

end Loop

/-- `realEnv.Environ` over an environment of `key=value` strings: the restriction of the
environment to the selected keys, each value whole even when it holds `=`. -/
theorem RealEnv.environ_eq (E : Environment) (prefixs : List GoString) :
    ∃ envs, (RealEnv.mk E.strings).environ prefixs = some envs ∧
      ∀ key, envs.get? key = E.select prefixs key := by
  have hstep : ∀ v ∈ E.vars, ∀ envs,
      (fun envs env => environKey prefixs ((splitN env (byte "=") 2).headD [])
        (splitN env (byte "=") 2)[1]? envs) envs (envString v) =
        environKey prefixs v.1 (some v.2) envs := by
    intro v hv envs
    simp [envString, splitN_two_append (E.no_eq v hv)]
  obtain ⟨envs, hfold, hget⟩ := foldlM_environKey prefixs E.vars [] GoMap.empty hstep
    (by simpa using E.nodup) (fun key => by simp)
  refine ⟨envs, ?_, fun key => by rw [hget key, List.nil_append]; rfl⟩
  simpa [RealEnv.environ, Environment.strings, List.foldlM_map] using hfold

/-- `FakeEnv.Environ` over a map with the environment's content, visited in any order: the
same restriction. -/
theorem FakeEnv.environ_eq (E : Environment) (prefixs : List GoString)
    (envs : GoMap GoString GoString) (henvs : ∀ key, envs.get? key = E.vars.lookup key) :
    ∃ envs', (FakeEnv.mk envs).environ prefixs = some envs' ∧
      ∀ key, envs'.get? key = E.select prefixs key := by
  have hstep : ∀ v ∈ envs.entries, ∀ acc,
      (fun acc (entry : GoString × GoString) =>
        environKey prefixs entry.1 (some (envs.index entry.1)) acc) acc v =
        environKey prefixs v.1 (some v.2) acc := by
    intro v hv acc
    simp [GoMap.index, envs.get?_of_mem hv]
  obtain ⟨envs', hfold, hget⟩ := foldlM_environKey prefixs envs.entries [] GoMap.empty hstep
    (by simpa using envs.nodup) (fun key => by simp)
  refine ⟨envs', hfold, fun key => ?_⟩
  rw [hget key, List.nil_append, ← GoMap.get?_eq_lookup, henvs]
  rfl

/-- The real and the fake environment agree on prefix selection: over the same `key=value`
variables, `realEnv.Environ` and `FakeEnv.Environ` return maps with the same content, the
restriction of the environment to the selected keys. -/
theorem environ_real_fake_agree (E : Environment) (prefixs : List GoString)
    (envs : GoMap GoString GoString) (henvs : ∀ key, envs.get? key = E.vars.lookup key) :
    ∃ real fake, (RealEnv.mk E.strings).environ prefixs = some real ∧
      (FakeEnv.mk envs).environ prefixs = some fake ∧
      ∀ key, real.get? key = fake.get? key ∧ fake.get? key = E.select prefixs key := by
  obtain ⟨real, hreal, hreal'⟩ := RealEnv.environ_eq E prefixs
  obtain ⟨fake, hfake, hfake'⟩ := FakeEnv.environ_eq E prefixs envs henvs
  exact ⟨real, fake, hreal, hfake, fun key => ⟨(hreal' key).trans (hfake' key).symm, hfake' key⟩⟩

/-! ### What `Environ` selects, from any environment -/

/-- Every key of the map is one the prefixes select. -/
def KeysSelected (prefixs : List GoString) (envs : GoMap GoString GoString) : Prop :=
  ∀ k v, envs.get? k = some v → Selected prefixs k

/-- A run of the prefix loop keeps every entry it finds, and sets at most its key, when some
prefix selects it. -/
theorem environKey_get? {prefixs : List GoString} {key : GoString} {value : Option GoString} :
    ∀ {envs envs' : GoMap GoString GoString}, environKey prefixs key value envs = some envs' →
      ∀ k v, envs'.get? k = some v → envs.get? k = some v ∨ (k = key ∧ Selected prefixs key) := by
  induction prefixs with
  | nil =>
    intro envs envs' h k v hk
    cases h
    exact .inl hk
  | cons pre prefixs ih =>
    intro envs envs' h k v hk
    rw [environKey, List.foldlM_cons] at h
    cases hstep : environPrefix key value envs pre with
    | none => simp [hstep] at h
    | some e₁ =>
      simp only [hstep, Option.bind_eq_bind, Option.bind_some] at h
      have hsel : Selected prefixs key → Selected (pre :: prefixs) key :=
        fun ⟨p, hp, hpk⟩ => ⟨p, List.mem_cons_of_mem _ hp, hpk⟩
      rcases ih h k v hk with hk₁ | ⟨rfl, hs⟩
      · -- the turn of `pre` either left the map or set `key`, which `pre` selects
        unfold environPrefix at hstep
        split at hstep
        · rename_i hcond
          obtain ⟨x, -, rfl⟩ := Option.map_eq_some_iff.mp hstep
          rw [GoMap.get?_insert] at hk₁
          split at hk₁
          · exact .inr ⟨‹_›, pre, List.mem_cons_self, hasPrefix_iff.mp hcond.2⟩
          · exact .inl hk₁
        · cases hstep
          exact .inl hk₁
      · exact .inr ⟨rfl, hsel hs⟩

theorem KeysSelected.environKey {prefixs : List GoString} {key : GoString}
    {value : Option GoString} {envs envs' : GoMap GoString GoString}
    (h : environKey prefixs key value envs = some envs') (hs : KeysSelected prefixs envs) :
    KeysSelected prefixs envs' := by
  intro k v hk
  rcases environKey_get? h k v hk with hk' | ⟨rfl, hsel⟩
  · exact hs k v hk'
  · exact hsel

/-- A loop over the variables whose steps keep the keys selected ends with them selected. -/
theorem KeysSelected.foldlM {β : Type} {prefixs : List GoString}
    {step : GoMap GoString GoString → β → Option (GoMap GoString GoString)}
    (hstep : ∀ envs b envs', step envs b = some envs' → KeysSelected prefixs envs →
      KeysSelected prefixs envs') :
    ∀ (bs : List β) {envs envs' : GoMap GoString GoString}, bs.foldlM step envs = some envs' →
      KeysSelected prefixs envs → KeysSelected prefixs envs'
  | [], _, _, h, hs => by
    cases h
    exact hs
  | b :: bs, envs, envs', h, hs => by
    rw [List.foldlM_cons] at h
    cases hb : step envs b with
    | none => simp [hb] at h
    | some e₁ =>
      simp only [hb, Option.bind_eq_bind, Option.bind_some] at h
      exact KeysSelected.foldlM hstep bs h (hstep envs b e₁ hb hs)

/-- **`Environ` returns only selected variables**, from any environment, real or fake. -/
theorem Env.environ_keysSelected (env : Env) (prefixs : List GoString)
    {envs : GoMap GoString GoString} (h : env.environ prefixs = some envs) :
    KeysSelected prefixs envs := by
  have hempty : KeysSelected prefixs GoMap.empty := fun k v hk => by simp at hk
  cases env with
  | real r =>
    exact KeysSelected.foldlM (fun _ _ _ hb hs => hs.environKey hb) r.osEnviron h hempty
  | fake f =>
    exact KeysSelected.foldlM (fun _ _ _ hb hs => hs.environKey hb) f.envs.entries h hempty

/-- A key no prefix selects is not in the map. -/
theorem KeysSelected.get?_eq_none {prefixs : List GoString} {envs : GoMap GoString GoString}
    (hs : KeysSelected prefixs envs) {k : GoString} (hk : ¬ Selected prefixs k) :
    envs.get? k = none :=
  Option.eq_none_iff_forall_ne_some.mpr fun v hv => hk (hs k v hv)

/-- A registry variable whose value holds `=`, and a variable no prefix selects. -/
def registryEnv : Environment where
  vars := [(lit "DRYCC_REGISTRY_HOST", lit "a=b"), (lit "PATH", lit "/bin")]
  no_eq := by decide
  nodup := by decide

theorem environ_real_fake_agree_registry :
    ∃ real fake,
      (RealEnv.mk registryEnv.strings).environ [lit "DRYCC_REGISTRY_", lit "DRYCC_STORAGE_"] =
        some real ∧
      (FakeEnv.mk ⟨registryEnv.vars, registryEnv.nodup⟩).environ
        [lit "DRYCC_REGISTRY_", lit "DRYCC_STORAGE_"] = some fake ∧
      ∀ key, real.get? key = fake.get? key ∧
        fake.get? key = registryEnv.select [lit "DRYCC_REGISTRY_", lit "DRYCC_STORAGE_"] key :=
  environ_real_fake_agree registryEnv _ ⟨registryEnv.vars, registryEnv.nodup⟩
    (fun key => GoMap.get?_eq_lookup _ key)

end DryccBuilder.Sys
