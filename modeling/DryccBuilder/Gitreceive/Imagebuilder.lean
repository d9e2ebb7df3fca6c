import DryccBuilder.Sys.Env
import DryccBuilder.Gitreceive.Config

/-!
# The imagebuilder's environment

`getImagebuilderEnv` (`pkg/gitreceive/imagebuilder.go`) collects the registry and storage
variables of the builder's environment, `env.Environ` with the prefixes `DRYCC_REGISTRY_` and
`DRYCC_STORAGE_`. It checks that the required ones are there (`checkImagebuilderRequiredEnv`),
and names the image in the registry: under `DRYCC_REGISTRY_HOST/DRYCC_REGISTRY_ORGANIZATION/`
for an off-cluster registry, and otherwise under `DRYCC_REGISTRY_PROXY_HOST/<app>/`, the app
becoming `DRYCC_REGISTRY_ORGANIZATION` in the map.

## The model

The result is `none` where `Environ` panics, and otherwise the error, or the map and the new
value of `*image`. An error leaves `*image` as it was. `fmt.Sprintf("%s/%s/%s", ...)` is the
three strings joined by `/`.

## What is proved

* `checkImagebuilderRequiredEnv_error` and `checkImagebuilderRequiredEnv_ok`: an error names a
  required variable that is missing, or empty where the registry's location needs it; no error
  means none is.
-/

namespace DryccBuilder.Gitreceive

open Go Sys

/-- `requiredEnvNames`. -/
def requiredEnvNames : List GoString :=
  [lit "DRYCC_STORAGE_BUCKET", lit "DRYCC_STORAGE_ENDPOINT", lit "DRYCC_STORAGE_PATH_STYLE",
    lit "DRYCC_REGISTRY_HOST"]

/-- The error for a required variable `envName`. -/
def requiredEnvError (envName : GoString) : GoString :=
  lit "the environment variable " ++ envName ++ lit " is required"

/-- `checkImagebuilderRequiredEnv(imagebuilderEnv)`: the first required variable that is
missing, then the organization of an off-cluster registry or the proxy of any other. -/
def checkImagebuilderRequiredEnv (imagebuilderEnv : GoMap GoString GoString) :
    Except GoString Unit :=
  match requiredEnvNames.find? (fun envName => (imagebuilderEnv.get? envName).isNone) with
  | some envName => .error (requiredEnvError envName)
  | none =>
    if imagebuilderEnv.index (lit "DRYCC_REGISTRY_LOCATION") = lit "off-cluster" then
      if imagebuilderEnv.index (lit "DRYCC_REGISTRY_ORGANIZATION") = [] then
        .error (lit "the environment variable DRYCC_REGISTRY_ORGANIZATION is required")
      else .ok ()
    else
      if imagebuilderEnv.index (lit "DRYCC_REGISTRY_PROXY_HOST") = [] then
        .error (lit "the environment variable DRYCC_REGISTRY_PROXY_HOST is required")
      else .ok ()

/-- The prefixes `getImagebuilderEnv` selects. -/
def imagebuilderPrefixs : List GoString := [lit "DRYCC_REGISTRY_", lit "DRYCC_STORAGE_"]

/-- `getImagebuilderEnv(image, config, env)`: the map, and the new `*image`. -/
def getImagebuilderEnv (image : GoString) (config : Config) (env : Env) :
    Option (Except GoString (GoMap GoString GoString × GoString)) :=
  (env.environ imagebuilderPrefixs).map fun imagebuilderEnv =>
    match checkImagebuilderRequiredEnv imagebuilderEnv with
    | .error err => .error err
    | .ok () =>
      if imagebuilderEnv.index (lit "DRYCC_REGISTRY_LOCATION") = lit "off-cluster" then
        .ok (imagebuilderEnv, imagebuilderEnv.index (lit "DRYCC_REGISTRY_HOST") ++ lit "/" ++
          imagebuilderEnv.index (lit "DRYCC_REGISTRY_ORGANIZATION") ++ lit "/" ++ image)
      else
        let imagebuilderEnv :=
          imagebuilderEnv.insert (lit "DRYCC_REGISTRY_ORGANIZATION") config.app
        .ok (imagebuilderEnv, imagebuilderEnv.index (lit "DRYCC_REGISTRY_PROXY_HOST") ++ lit "/" ++
          imagebuilderEnv.index (lit "DRYCC_REGISTRY_ORGANIZATION") ++ lit "/" ++ image)

/-! ### The check -/

section Check

variable {imagebuilderEnv : GoMap GoString GoString}

/-- An error names a required variable that is missing, or the organization or proxy that the
registry's location needs and that is empty. -/
theorem checkImagebuilderRequiredEnv_error {err : GoString}
    (h : checkImagebuilderRequiredEnv imagebuilderEnv = .error err) :
    ∃ envName, err = requiredEnvError envName ∧
      ((envName ∈ requiredEnvNames ∧ imagebuilderEnv.get? envName = none) ∨
        imagebuilderEnv.index envName = []) := by
  unfold checkImagebuilderRequiredEnv at h
  split at h
  · rename_i envName hfind
    cases h
    have hnone := List.find?_some hfind
    exact ⟨envName, rfl, Or.inl ⟨List.mem_of_find?_eq_some hfind, by simpa using hnone⟩⟩
  · -- the location decides which of the two is checked
    split_ifs at h with hloc horg hproxy <;> cases h
    · exact ⟨lit "DRYCC_REGISTRY_ORGANIZATION", by decide, Or.inr horg⟩
    · exact ⟨lit "DRYCC_REGISTRY_PROXY_HOST", by decide, Or.inr hproxy⟩

/-- No error: every required variable is there, and so is the organization of an off-cluster
registry or the proxy of any other. -/
theorem checkImagebuilderRequiredEnv_ok
    (h : checkImagebuilderRequiredEnv imagebuilderEnv = .ok ()) :
    (∀ envName ∈ requiredEnvNames, (imagebuilderEnv.get? envName).isSome) ∧
      (imagebuilderEnv.index (lit "DRYCC_REGISTRY_LOCATION") = lit "off-cluster" →
        imagebuilderEnv.index (lit "DRYCC_REGISTRY_ORGANIZATION") ≠ []) ∧
      (imagebuilderEnv.index (lit "DRYCC_REGISTRY_LOCATION") ≠ lit "off-cluster" →
        imagebuilderEnv.index (lit "DRYCC_REGISTRY_PROXY_HOST") ≠ []) := by
  unfold checkImagebuilderRequiredEnv at h
  split at h
  · cases h
  · rename_i hfind
    have hall : ∀ envName ∈ requiredEnvNames, (imagebuilderEnv.get? envName).isSome := by
      intro envName hmem
      simpa [Option.isSome_iff_ne_none] using List.find?_eq_none.mp hfind envName hmem
    split_ifs at h with hloc horg hproxy <;> cases h
    · exact ⟨hall, fun _ => horg, fun hn => absurd hloc hn⟩
    · exact ⟨hall, fun hl => absurd hl hloc, fun _ => hproxy⟩

end Check

/-! ### Real and fake environments -/

/-- The map `getImagebuilderEnv` returns holds registry and storage variables only: those
`Environ` selected, and the organization it sets for an on-cluster registry. -/
theorem getImagebuilderEnv_keysSelected {image image' : GoString} {config : Config} {env : Env}
    {m : GoMap GoString GoString} (h : getImagebuilderEnv image config env = some (.ok (m, image'))) :
    KeysSelected imagebuilderPrefixs m := by
  unfold getImagebuilderEnv at h
  obtain ⟨envs, henvs, hm⟩ := Option.map_eq_some_iff.mp h
  have hsel := env.environ_keysSelected imagebuilderPrefixs henvs
  dsimp only at hm
  split at hm
  · cases hm
  · split at hm
    · cases hm
      exact hsel
    · cases hm
      intro k v hk
      rw [GoMap.get?_insert] at hk
      split at hk
      · rename_i hkey
        exact ⟨lit "DRYCC_REGISTRY_", by simp [imagebuilderPrefixs], by rw [hkey]; decide⟩
      · exact hsel k v hk

end DryccBuilder.Gitreceive
