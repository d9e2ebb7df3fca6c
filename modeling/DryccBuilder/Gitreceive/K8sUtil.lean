import DryccBuilder.Go.Builtin
import DryccBuilder.Go.Hex
import DryccBuilder.Git.Sha
import DryccBuilder.Controller

/-!
# The builder job

`createBuilderJob` (`pkg/gitreceive/k8s_util.go`) makes the Kubernetes job that runs the image
builder for a push. `buildJob` makes a job whose pod has one container, with the config map
`imagebuilder-config` mounted, and gives that container the app's global config vars as env
vars, and `DRYCC_DEBUG` when debugging. `createBuilderJob` then names the container, sets its
image, and adds `TAR_PATH`, `SOURCE_VERSION`, `IMAGE_NAME` and the entries of
`builderImageEnv` with `addEnvToJob`.

`addEnvToJob` takes the job by value and returns nothing. Its append still reaches the caller:
the copy holds the same `Containers` slice header as the caller's job, and the assignment to
`Containers[0].Env` writes into the backing array they share. The job `buildJob` returns by
value shares that array in the same way.

## The model

* The job's `Containers` is a slice header over a store of backing arrays
  (`DryccBuilder.Go.Builtin`), and each function that writes through it takes and returns the
  store; `none` is an index out of range. A container's `Env` and `VolumeMounts` are slices
  too, but each of their backing arrays is reached through one container only, so they are
  lists.
* `os.Getenv` is the argument `getenv`, and `strconv.ParseInt(s, 10, 32)` followed by
  `int32(...)` is `parseInt`, `none` for an error.
* The security context is of any type `SC`: the builder only passes it on.
* Kubernetes gives a container, for a name that its `Env` lists more than once, the value of the
  last entry (`lastValue`).

## What is proved

`createBuilderJob_spec` gives the whole job and its one container. `createBuilderJob_env` says
which value each name of the env takes: that of `builderImageEnv`, else the builder's own, else
the app's last global config var; `createBuilderJob_map_overrides_tarPath` shows a key of
`builderImageEnv` taking `TAR_PATH` over from `tarKey`.

`imagebuilderJobName` names the job: `imagebuild-`, the app name cut to 33 bytes, the short sha
and the first eight digits of a fresh UUID. `imagebuilderJobName_length` proves the name, and so
the job's `job-name` labels, at most 63 bytes long for every app name and every sha `NewSha`
accepts.
-/

namespace DryccBuilder.Gitreceive

open Go Controller

/-! ### The Kubernetes objects -/

/-- `corev1.EnvVar`. -/
structure EnvVar where
  /-- `Name`. -/
  name : GoString
  /-- `Value`. -/
  value : GoString
  deriving DecidableEq, Repr

/-- `corev1.VolumeMount`. -/
structure VolumeMount where
  /-- `Name`. -/
  name : GoString
  /-- `MountPath`. -/
  mountPath : GoString
  /-- `ReadOnly`. -/
  readOnly : Bool
  deriving DecidableEq, Repr

/-- `corev1.Volume` whose source is a config map: its name and the config map's. -/
structure Volume where
  /-- `Name`. -/
  name : GoString
  /-- `VolumeSource.ConfigMap.Name`. -/
  configMap : GoString
  deriving DecidableEq, Repr

/-- `corev1.Container`: the fields the builder sets, as a new container has them. -/
structure Container (SC : Type) where
  /-- `Name`. -/
  name : GoString := []
  /-- `Image`. -/
  image : GoString := []
  /-- `ImagePullPolicy`. -/
  imagePullPolicy : GoString := []
  /-- `SecurityContext`, a pointer. -/
  securityContext : Option SC := none
  /-- `VolumeMounts`. -/
  volumeMounts : List VolumeMount := []
  /-- `Env`. -/
  env : List EnvVar := []
  deriving DecidableEq

/-- `batchv1.Job`: the fields the builder sets. -/
structure Job where
  /-- `ObjectMeta.Name`. -/
  name : GoString
  /-- `ObjectMeta.Namespace`. -/
  «namespace» : GoString
  /-- `ObjectMeta.Labels`. -/
  labels : GoMap GoString GoString
  /-- `Spec.BackoffLimit`. -/
  backoffLimit : Option Int32
  /-- `Spec.TTLSecondsAfterFinished`. -/
  ttlSecondsAfterFinished : Option Int32
  /-- `Spec.Template.ObjectMeta.Labels`. -/
  templateLabels : GoMap GoString GoString
  /-- `Spec.Template.Spec.Containers`, a slice header. -/
  containers : Slice
  /-- `Spec.Template.Spec.RestartPolicy`. -/
  restartPolicy : GoString
  /-- `Spec.Template.Spec.Volumes`. -/
  volumes : List Volume
  /-- `Spec.Template.Spec.NodeSelector`. -/
  nodeSelector : GoMap GoString GoString
  deriving DecidableEq

/-- The value Kubernetes gives the env var `k`: that of the last entry named `k`. -/
def lastValue (env : List EnvVar) (k : GoString) : Option GoString :=
  ((env.filter (·.name = k)).getLast?).map (·.value)

/-! ### `buildJob`, `addEnvToJob` and `createBuilderJob` -/

/-- `tarPath`. -/
def tarPath : GoString := lit "TAR_PATH"

/-- `debugKey`. -/
def debugKey : GoString := lit "DRYCC_DEBUG"

/-- `sourceVersion`. -/
def sourceVersion : GoString := lit "SOURCE_VERSION"

/-- `imagebuilderConfig`. -/
def imagebuilderConfig : GoString := lit "imagebuilder-config"

/-- `imagebuilderConfigPath`. -/
def imagebuilderConfigPath : GoString := lit "/etc/imagebuilder"

/-- The labels of the job and of its pod template. -/
def jobLabels (builderName name : GoString) : GoMap GoString GoString :=
  ⟨[(lit "app", builderName), (lit "job-name", name), (lit "heritage", lit "drycc")], by
    show [lit "app", lit "job-name", lit "heritage"].Nodup
    decide⟩

/-- `TTLSecondsAfterFinished` of `buildJob`: `21600`, unless `TTL_SECONDS_AFTER_FINISHED` is set
and parses. -/
def ttlSecondsAfterFinished (getenv : GoString → GoString)
    (parseInt : GoString → Option Int32) : Int32 :=
  if getenv (lit "TTL_SECONDS_AFTER_FINISHED") ≠ [] then
    match parseInt (getenv (lit "TTL_SECONDS_AFTER_FINISHED")) with
    | some ttl => ttl
    | none => 21600
  else 21600

variable {SC : Type}

/-- `Containers[0].Env = append(Containers[0].Env, envVar)`, through the header `containers`. -/
def appendEnv (containers : Slice) (envVar : EnvVar) (h : Arrays (Container SC)) :
    Option (Arrays (Container SC)) :=
  containers.modify 0 (fun c => { c with env := c.env ++ [envVar] }) h

/-- `addEnvToJob(job, key, value)`: the store after it. -/
def addEnvToJob (job : Job) (key value : GoString) (h : Arrays (Container SC)) :
    Option (Arrays (Container SC)) :=
  if job.containers.len > 0 then appendEnv job.containers ⟨key, value⟩ h else some h

/-- `buildJob(debug, name, namespace, builderName, pullPolicy, securityContext, nodeSelector,
values)`: the job and the store. -/
def buildJob (debug : Bool) (name «namespace» builderName pullPolicy : GoString)
    (securityContext : SC) (nodeSelector : GoMap GoString GoString) (values : List ConfigValue)
    (getenv : GoString → GoString) (parseInt : GoString → Option Int32)
    (h : Arrays (Container SC)) : Option (Job × Arrays (Container SC)) := do
  let (containers, h) :=
    h.alloc [{ imagePullPolicy := pullPolicy, securityContext := some securityContext }]
  let job : Job :=
    { name, «namespace», labels := jobLabels builderName name, backoffLimit := some 0,
      ttlSecondsAfterFinished := some (ttlSecondsAfterFinished getenv parseInt),
      templateLabels := jobLabels builderName name, containers, restartPolicy := [],
      volumes := [], nodeSelector := GoMap.empty }
  let job := { job with restartPolicy := lit "Never" }
  let h ← job.containers.modify 0 (fun c => { c with imagePullPolicy := pullPolicy }) h
  let h ← job.containers.modify 0 (fun c => { c with securityContext := some securityContext }) h
  let job := { job with
    volumes := job.volumes ++ [(⟨imagebuilderConfig, imagebuilderConfig⟩ : Volume)] }
  let h ← job.containers.modify 0 (fun c => { c with
    volumeMounts := c.volumeMounts ++
      [(⟨imagebuilderConfig, imagebuilderConfigPath, true⟩ : VolumeMount)] }) h
  let h ← if job.containers.len > 0 then
      -- only take the value of the global group
      let cvs := values.filter (·.group = lit "global")
      cvs.foldlM (fun h v => appendEnv job.containers ⟨v.name, v.value.sprintV⟩ h) h
    else pure h
  let job := { job with
    nodeSelector := if nodeSelector.len > 0 then nodeSelector else job.nodeSelector }
  let h ← if debug then addEnvToJob job debugKey (lit "1") h else pure h
  pure (job, h)

/-- `createBuilderJob(debug, name, namespace, config, tarKey, gitShortHash, imageName,
builderName, builderImage, builderImageEnv, pullPolicy, securityContext, nodeSelector)`: the job
and the store. -/
def createBuilderJob (debug : Bool) (name «namespace» : GoString) (config : List ConfigValue)
    (tarKey gitShortHash imageName builderName builderImage : GoString)
    (builderImageEnv : GoMap GoString GoString) (pullPolicy : GoString) (securityContext : SC)
    (nodeSelector : GoMap GoString GoString) (getenv : GoString → GoString)
    (parseInt : GoString → Option Int32) (h : Arrays (Container SC)) :
    Option (Job × Arrays (Container SC)) := do
  let (job, h) ← buildJob debug name «namespace» builderName pullPolicy securityContext
    nodeSelector config getenv parseInt h
  let h ← job.containers.modify 0 (fun c => { c with name := builderName }) h
  let h ← job.containers.modify 0 (fun c => { c with image := builderImage }) h
  let h ← addEnvToJob job tarPath tarKey h
  let h ← addEnvToJob job sourceVersion gitShortHash h
  let h ← addEnvToJob job (lit "IMAGE_NAME") imageName h
  let h ← builderImageEnv.entries.foldlM (fun h kv => addEnvToJob job kv.1 kv.2 h) h
  pure (job, h)

/-! ### What Kubernetes reads from an env list -/

theorem lastValue_append (l₁ l₂ : List EnvVar) (k : GoString) :
    lastValue (l₁ ++ l₂) k = (lastValue l₂ k).or (lastValue l₁ k) := by
  simp only [lastValue, List.filter_append, List.getLast?_append, Option.map_or]

theorem lastValue_nil (k : GoString) : lastValue [] k = none := rfl

theorem lastValue_singleton (e : EnvVar) (k : GoString) :
    lastValue [e] k = if e.name = k then some e.value else none := by
  by_cases he : e.name = k <;> simp [lastValue, he]

theorem lastValue_cons (e : EnvVar) (l : List EnvVar) (k : GoString) :
    lastValue (e :: l) k = (lastValue l k).or (if e.name = k then some e.value else none) := by
  rw [← List.singleton_append, lastValue_append, lastValue_singleton]

/-- The env vars of a map's entries: the value of each key is the map's. -/
theorem lastValue_entries (m : GoMap GoString GoString) (k : GoString) :
    lastValue (m.entries.map fun kv => ⟨kv.1, kv.2⟩) k = m.get? k := by
  have hfilter := m.filter_entries_key k
  simp only [lastValue, List.filter_map]
  have hcomp : ((fun e : EnvVar => decide (e.name = k)) ∘ fun kv : GoString × GoString =>
      (⟨kv.1, kv.2⟩ : EnvVar)) = fun kv => decide (kv.1 = k) := rfl
  rw [hcomp, hfilter]
  cases m.get? k <;> simp

/-! ### The container the job holds

Every write of these functions goes to index `0` of a slice of one container, so each succeeds
and changes that container (`Slice.Holds.modify`). -/

theorem addEnvToJob_of_len {job : Job} (hlen : 0 < job.containers.len) (key value : GoString)
    (h : Arrays (Container SC)) :
    addEnvToJob job key value h = appendEnv job.containers ⟨key, value⟩ h := by
  rw [addEnvToJob, if_pos hlen]

section Spec

variable {containers : Slice} {h : Arrays (Container SC)} {c : Container SC}

theorem appendEnv_holds (hc : containers.Holds h c) (e : EnvVar) :
    ∃ h', appendEnv containers e h = some h' ∧
      containers.Holds h' { c with env := c.env ++ [e] } :=
  hc.modify _

/-- Through the header it shares with the caller, `addEnvToJob` appends to the caller's
container. -/
theorem addEnvToJob_holds {job : Job} (hc : job.containers.Holds h c) (key value : GoString) :
    ∃ h', addEnvToJob job key value h = some h' ∧
      job.containers.Holds h' { c with env := c.env ++ [⟨key, value⟩] } := by
  rw [addEnvToJob_of_len hc.len_pos]
  exact appendEnv_holds hc _

/-- A loop whose every step appends one env var appends them all, in order. -/
theorem foldlM_appends {β : Type} (step : Arrays (Container SC) → β → Option (Arrays (Container SC)))
    (g : β → EnvVar)
    (hstep : ∀ h c b, containers.Holds h c →
      ∃ h', step h b = some h' ∧ containers.Holds h' { c with env := c.env ++ [g b] })
    (bs : List β) (hc : containers.Holds h c) :
    ∃ h', bs.foldlM step h = some h' ∧
      containers.Holds h' { c with env := c.env ++ bs.map g } := by
  induction bs generalizing h c with
  | nil => exact ⟨h, rfl, by simpa using hc⟩
  | cons b bs ih =>
    obtain ⟨h₁, hstep₁, hc₁⟩ := hstep h c b hc
    obtain ⟨h₂, hfold, hc₂⟩ := ih hc₁
    refine ⟨h₂, by simp [List.foldlM_cons, hstep₁, hfold], ?_⟩
    simpa using hc₂

end Spec

/-- The app's global config vars as env vars, in config order. -/
def globalEnv (values : List ConfigValue) : List EnvVar :=
  (values.filter (·.group = lit "global")).map fun v => ⟨v.name, v.value.sprintV⟩

/-- The env `buildJob` gives the container. -/
def jobEnv (debug : Bool) (values : List ConfigValue) : List EnvVar :=
  globalEnv values ++ if debug then [⟨debugKey, lit "1"⟩] else []

/-- `buildJob` returns the job with its labels, limits, restart policy, volume and node selector,
whose one container has the pull policy, the security context, the config map's mount and the
env `jobEnv`. -/
theorem buildJob_spec (debug : Bool) (name «namespace» builderName pullPolicy : GoString)
    (securityContext : SC) (nodeSelector : GoMap GoString GoString) (values : List ConfigValue)
    (getenv : GoString → GoString) (parseInt : GoString → Option Int32)
    (h : Arrays (Container SC)) :
    ∃ job h', buildJob debug name «namespace» builderName pullPolicy securityContext
        nodeSelector values getenv parseInt h = some (job, h') ∧
      job =
        { name := name, «namespace» := «namespace», labels := jobLabels builderName name,
          backoffLimit := some 0,
          ttlSecondsAfterFinished := some (ttlSecondsAfterFinished getenv parseInt),
          templateLabels := jobLabels builderName name, containers := job.containers,
          restartPolicy := lit "Never", volumes := [⟨imagebuilderConfig, imagebuilderConfig⟩],
          nodeSelector := nodeSelector } ∧
      job.containers.Holds h'
        { imagePullPolicy := pullPolicy, securityContext := some securityContext,
          volumeMounts := [⟨imagebuilderConfig, imagebuilderConfigPath, true⟩],
          env := jobEnv debug values } := by
  -- the container after each write of `buildJob`, in order
  have hc₀ := Slice.holds_alloc h
    ({ imagePullPolicy := pullPolicy, securityContext := some securityContext } : Container SC)
  simp only [buildJob]
  generalize h.alloc [{ imagePullPolicy := pullPolicy, securityContext := some securityContext }]
    = p at hc₀ ⊢
  obtain ⟨containers, h₀⟩ := p
  dsimp only at hc₀ ⊢
  obtain ⟨h₁, hm₁, hc₁⟩ := hc₀.modify (fun c => { c with imagePullPolicy := pullPolicy })
  obtain ⟨h₂, hm₂, hc₂⟩ := hc₁.modify (fun c => { c with securityContext := some securityContext })
  obtain ⟨h₃, hm₃, hc₃⟩ := hc₂.modify (fun c => { c with
    volumeMounts := c.volumeMounts ++ [⟨imagebuilderConfig, imagebuilderConfigPath, true⟩] })
  obtain ⟨h₄, hm₄, hc₄⟩ := foldlM_appends
    (fun h v => appendEnv containers ⟨v.name, v.value.sprintV⟩ h) (fun v => ⟨v.name, v.value.sprintV⟩)
    (fun _ _ _ hc => appendEnv_holds hc _) (values.filter (·.group = lit "global")) hc₃
  have hlen := hc₃.len_pos
  obtain ⟨h₅, hm₅, hc₅⟩ := appendEnv_holds hc₄ ⟨debugKey, lit "1"⟩
  -- the node selector is set when it is not empty, and an empty one is the default
  have hsel : (if nodeSelector.len > 0 then nodeSelector else GoMap.empty) = nodeSelector := by
    split
    · rfl
    · exact (GoMap.eq_empty_of_len ‹_›).symm
  cases debug with
  | false =>
    simp only [hm₁, hm₂, hm₃, hlen, hm₄, hsel, Option.bind_eq_bind, Option.bind_some,
      if_true, Bool.false_eq_true, if_false, Option.pure_def]
    refine ⟨_, _, rfl, rfl, ?_⟩
    simpa [jobEnv, globalEnv] using hc₄
  | true =>
    simp only [hm₁, hm₂, hm₃, hlen, hm₄, hsel, Option.bind_eq_bind, Option.bind_some,
      if_true, Option.pure_def, addEnvToJob_of_len, hm₅]
    refine ⟨_, _, rfl, rfl, ?_⟩
    simpa [jobEnv, globalEnv] using hc₅

/-- The env the builder's container gets: that of `buildJob`, the builder's own vars, and the
entries of `builderImageEnv` in the order of the loop. -/
def builderEnv (debug : Bool) (config : List ConfigValue) (tarKey gitShortHash imageName : GoString)
    (builderImageEnv : GoMap GoString GoString) : List EnvVar :=
  jobEnv debug config ++
    [⟨tarPath, tarKey⟩, ⟨sourceVersion, gitShortHash⟩, ⟨lit "IMAGE_NAME", imageName⟩] ++
    builderImageEnv.entries.map fun kv => ⟨kv.1, kv.2⟩

/-- `createBuilderJob` returns the job `buildJob` made, whose one container has the builder's
name, image and env. -/
theorem createBuilderJob_spec (debug : Bool) (name «namespace» : GoString)
    (config : List ConfigValue) (tarKey gitShortHash imageName builderName builderImage : GoString)
    (builderImageEnv : GoMap GoString GoString) (pullPolicy : GoString) (securityContext : SC)
    (nodeSelector : GoMap GoString GoString) (getenv : GoString → GoString)
    (parseInt : GoString → Option Int32) (h : Arrays (Container SC)) :
    ∃ job h', createBuilderJob debug name «namespace» config tarKey gitShortHash imageName
        builderName builderImage builderImageEnv pullPolicy securityContext nodeSelector getenv
        parseInt h = some (job, h') ∧
      job =
        { name := name, «namespace» := «namespace», labels := jobLabels builderName name,
          backoffLimit := some 0,
          ttlSecondsAfterFinished := some (ttlSecondsAfterFinished getenv parseInt),
          templateLabels := jobLabels builderName name, containers := job.containers,
          restartPolicy := lit "Never", volumes := [⟨imagebuilderConfig, imagebuilderConfig⟩],
          nodeSelector := nodeSelector } ∧
      job.containers.Holds h'
        { name := builderName, image := builderImage, imagePullPolicy := pullPolicy,
          securityContext := some securityContext,
          volumeMounts := [⟨imagebuilderConfig, imagebuilderConfigPath, true⟩],
          env := builderEnv debug config tarKey gitShortHash imageName builderImageEnv } := by
  obtain ⟨job, h₀, hb, hjob, hc₀⟩ := buildJob_spec debug name «namespace» builderName pullPolicy
    securityContext nodeSelector config getenv parseInt h
  -- the container after each write of `createBuilderJob`, in order
  obtain ⟨h₁, hm₁, hc₁⟩ := hc₀.modify (fun c => { c with name := builderName })
  obtain ⟨h₂, hm₂, hc₂⟩ := hc₁.modify (fun c => { c with image := builderImage })
  obtain ⟨h₃, hm₃, hc₃⟩ := addEnvToJob_holds hc₂ tarPath tarKey
  obtain ⟨h₄, hm₄, hc₄⟩ := addEnvToJob_holds hc₃ sourceVersion gitShortHash
  obtain ⟨h₅, hm₅, hc₅⟩ := addEnvToJob_holds hc₄ (lit "IMAGE_NAME") imageName
  obtain ⟨h₆, hm₆, hc₆⟩ := foldlM_appends (fun h kv => addEnvToJob job kv.1 kv.2 h)
    (fun kv => ⟨kv.1, kv.2⟩) (fun _ _ kv hc => addEnvToJob_holds hc kv.1 kv.2)
    builderImageEnv.entries hc₅
  refine ⟨job, h₆, ?_, hjob, ?_⟩
  · simp only [createBuilderJob, hb, Option.bind_eq_bind, Option.bind_some, hm₁, hm₂, hm₃, hm₄,
      hm₅, hm₆, Option.pure_def]
  · simpa [builderEnv] using hc₆

/-- The builder's own vars, with `DRYCC_DEBUG` when debugging, give each of their names its
value. -/
theorem lastValue_builderVars (debug : Bool) (tarKey gitShortHash imageName k : GoString) :
    (lastValue [⟨tarPath, tarKey⟩, ⟨sourceVersion, gitShortHash⟩, ⟨lit "IMAGE_NAME", imageName⟩]
        k).or (lastValue (if debug then [⟨debugKey, lit "1"⟩] else []) k) =
      if k = tarPath then some tarKey else if k = sourceVersion then some gitShortHash
      else if k = lit "IMAGE_NAME" then some imageName
      else if debug ∧ k = debugKey then some (lit "1") else none := by
  -- the four names are distinct
  have h1 : sourceVersion ≠ tarPath := by decide
  have h2 : lit "IMAGE_NAME" ≠ tarPath := by decide
  have h3 : lit "IMAGE_NAME" ≠ sourceVersion := by decide
  have h4 : debugKey ≠ tarPath := by decide
  have h5 : debugKey ≠ sourceVersion := by decide
  have h6 : debugKey ≠ lit "IMAGE_NAME" := by decide
  cases debug <;>
  · simp only [lastValue_cons, lastValue_nil, Option.none_or, if_true, if_false,
      Bool.false_eq_true, true_and, false_and]
    grind

/-- **The builder job's env.** `createBuilderJob` returns a job with one container, named
`builderName` and running `builderImage`. Its env is the app's global config vars in config
order, `DRYCC_DEBUG` when debugging, `TAR_PATH`, `SOURCE_VERSION` and `IMAGE_NAME`, and the
entries of `builderImageEnv`. The value Kubernetes gives a name is that of `builderImageEnv`,
else the builder's own, else that of the app's last global config var of that name. -/
theorem createBuilderJob_env (debug : Bool) (name «namespace» : GoString)
    (config : List ConfigValue) (tarKey gitShortHash imageName builderName builderImage : GoString)
    (builderImageEnv : GoMap GoString GoString) (pullPolicy : GoString) (securityContext : SC)
    (nodeSelector : GoMap GoString GoString) (getenv : GoString → GoString)
    (parseInt : GoString → Option Int32) (h : Arrays (Container SC)) :
    ∃ job h', createBuilderJob debug name «namespace» config tarKey gitShortHash imageName
        builderName builderImage builderImageEnv pullPolicy securityContext nodeSelector getenv
        parseInt h = some (job, h') ∧
      ∃ c, job.containers.read h' = [c] ∧ c.name = builderName ∧ c.image = builderImage ∧
        c.env = globalEnv config ++ (if debug then [⟨debugKey, lit "1"⟩] else []) ++
          [⟨tarPath, tarKey⟩, ⟨sourceVersion, gitShortHash⟩, ⟨lit "IMAGE_NAME", imageName⟩] ++
          builderImageEnv.entries.map (fun kv => ⟨kv.1, kv.2⟩) ∧
        ∀ k, lastValue c.env k =
          (builderImageEnv.get? k).or
            ((if k = tarPath then some tarKey else if k = sourceVersion then some gitShortHash
              else if k = lit "IMAGE_NAME" then some imageName
              else if debug ∧ k = debugKey then some (lit "1") else none).or
              (lastValue (globalEnv config) k)) := by
  obtain ⟨job, h', hrun, -, hc⟩ := createBuilderJob_spec debug name «namespace» config tarKey
    gitShortHash imageName builderName builderImage builderImageEnv pullPolicy securityContext
    nodeSelector getenv parseInt h
  refine ⟨job, h', hrun, _, hc.2, rfl, rfl, rfl, fun k => ?_⟩
  -- the later part of the env decides, part by part
  simp only [builderEnv, jobEnv, lastValue_append, lastValue_entries, ← lastValue_builderVars,
    Option.or_assoc]

/-- A `builderImageEnv` with the key `TAR_PATH` takes that name over from `tarKey`: the last
`TAR_PATH` entry carries the map's value. -/
theorem createBuilderJob_map_overrides_tarPath :
    ∃ job h', createBuilderJob false (lit "imagebuild-app") (lit "drycc") [] (lit "tar")
        (lit "abc1234") (lit "app:git-abc1234") (lit "drycc-imagebuilder") (lit "imagebuilder")
        ⟨[(tarPath, lit "x")], by decide⟩ (lit "IfNotPresent") () GoMap.empty (fun _ => [])
        (fun _ => none) ⟨[]⟩ = some (job, h') ∧
      ∃ c, job.containers.read h' = [c] ∧ lastValue c.env tarPath = some (lit "x") ∧
        lit "x" ≠ lit "tar" :=
  ⟨_, _, rfl, _, rfl, by decide, by decide⟩

/-! ### The job name -/

/-- A `uuid.UUID` of `github.com/google/uuid`. -/
structure UUID where
  /-- The sixteen bytes. -/
  bytes : Bytes 16

/-- `uuid.String()`: the hexadecimal digits of the bytes in groups of 8, 4, 4, 4 and 12, joined
by `-`. -/
def UUID.string (u : UUID) : GoString :=
  let b := u.bytes.toList
  Hex.encode (b.take 4) ++ lit "-" ++ Hex.encode ((b.drop 4).take 2) ++ lit "-" ++
    Hex.encode ((b.drop 6).take 2) ++ lit "-" ++ Hex.encode ((b.drop 8).take 2) ++ lit "-" ++
    Hex.encode (b.drop 10)

/-- `imagebuilderJobName(appName, shortSha)`, for the UUID `uuid.New()` draws: `uid` is
`uuid.New().String()[:8]`, in range since the string has 36 bytes. -/
def imagebuilderJobName (appName shortSha : GoString) (u : UUID) : GoString :=
  let uid := u.string.take 8
  let appName := if appName.length > 33 then appName.take 33 else appName
  lit "imagebuild-" ++ appName ++ lit "-" ++ shortSha ++ lit "-" ++ uid

example : imagebuilderJobName (lit "demo") (lit "12345678")
    ⟨⟨[0xde, 0xad, 0xbe, 0xef, 0, 0, 0, 0, 0, 0, 0, 0, 0, 0, 0, 0], rfl⟩⟩ =
      lit "imagebuild-demo-12345678-deadbeef" := by
  decide

/-- The first eight bytes of a UUID string are the digits of its first four bytes. -/
theorem take_string (u : UUID) : u.string.take 8 = Hex.encode (u.bytes.toList.take 4) := by
  have hlen : (Hex.encode (u.bytes.toList.take 4)).length = 8 := by
    rw [Hex.length_encode, List.length_take, u.bytes.length_eq]
    rfl
  simp only [UUID.string, List.append_assoc]
  rw [List.take_append_of_le_length (by omega), List.take_of_length_le (by omega)]

/-- The job name is the fixed parts around the app name cut to 33 bytes. -/
theorem imagebuilderJobName_eq (appName shortSha : GoString) (u : UUID) :
    imagebuilderJobName appName shortSha u =
      lit "imagebuild-" ++ appName.take 33 ++ lit "-" ++ shortSha ++ lit "-" ++
        Hex.encode (u.bytes.toList.take 4) := by
  rw [imagebuilderJobName, take_string]
  by_cases h : appName.length > 33
  · simp [h]
  · simp [h, List.take_of_length_le (Nat.le_of_not_lt h)]

theorem length_imagebuilderJobName (appName shortSha : GoString) (u : UUID) :
    (imagebuilderJobName appName shortSha u).length =
      min 33 appName.length + shortSha.length + 21 := by
  have huid : (Hex.encode (u.bytes.toList.take 4)).length = 8 := by
    rw [Hex.length_encode, List.length_take, u.bytes.length_eq]
    rfl
  have hprefix : (lit "imagebuild-").length = 11 := by decide
  have hdash : (lit "-").length = 1 := by decide
  simp only [imagebuilderJobName_eq, List.length_append, List.length_take, huid, hprefix, hdash]
  omega

/-- Builder job names fit Kubernetes' limit of 63 bytes: for every app name and every sha
`NewSha` accepts, the name has its fixed form and at most 63 bytes, and the job
`createBuilderJob` makes with it carries it as its `job-name` labels. -/
theorem imagebuilderJobName_length (appName rawSha : GoString) (sha : Git.SHA)
    (hsha : Git.newSha rawSha = .ok sha) (u : UUID) :
    imagebuilderJobName appName sha.short u =
        lit "imagebuild-" ++ appName.take 33 ++ lit "-" ++ sha.short ++ lit "-" ++
          u.string.take 8 ∧
      (imagebuilderJobName appName sha.short u).length ≤ 63 ∧
      ∀ (debug : Bool) («namespace» : GoString) (config : List ConfigValue)
        (tarKey imageName builderName builderImage : GoString)
        (builderImageEnv : GoMap GoString GoString) (pullPolicy : GoString) (securityContext : SC)
        (nodeSelector : GoMap GoString GoString) (getenv : GoString → GoString)
        (parseInt : GoString → Option Int32) (h : Arrays (Container SC)),
        ∃ job h', createBuilderJob debug (imagebuilderJobName appName sha.short u) «namespace»
            config tarKey sha.short imageName builderName builderImage builderImageEnv pullPolicy
            securityContext nodeSelector getenv parseInt h = some (job, h') ∧
          job.labels.get? (lit "job-name") = some (imagebuilderJobName appName sha.short u) ∧
          job.templateLabels.get? (lit "job-name") =
            some (imagebuilderJobName appName sha.short u) := by
  have hshort : sha.short.length = 8 := (Git.newSha_short hsha).1
  refine ⟨by rw [imagebuilderJobName_eq, take_string], ?_, ?_⟩
  · rw [length_imagebuilderJobName, hshort]
    omega
  · intro debug «namespace» config tarKey imageName builderName builderImage builderImageEnv
      pullPolicy securityContext nodeSelector getenv parseInt h
    obtain ⟨job, h', hrun, hjob, -⟩ := createBuilderJob_spec debug
      (imagebuilderJobName appName sha.short u) «namespace» config tarKey sha.short imageName
      builderName builderImage builderImageEnv pullPolicy securityContext nodeSelector getenv
      parseInt h
    have hlabel : ∀ name, (jobLabels builderName name).get? (lit "job-name") = some name := by
      intro name
      exact GoMap.get?_of_mem _ (e := (lit "job-name", name)) (by simp [jobLabels])
    refine ⟨job, h', hrun, ?_, ?_⟩ <;> rw [hjob] <;> exact hlabel _

/-- The long app name of the test, with a valid sha. -/
theorem imagebuilderJobName_length_long_app :
    (imagebuilderJobName (lit "this-name-has-more-than-24-characters-in-length")
      ((lit "0123456789abcdef0123456789abcdef01234567").take Git.shortShaIdx)
      ⟨⟨List.replicate 16 0xab, rfl⟩⟩).length ≤ 63 :=
  (@imagebuilderJobName_length Unit (lit "this-name-has-more-than-24-characters-in-length")
    (lit "0123456789abcdef0123456789abcdef01234567")
    ⟨lit "0123456789abcdef0123456789abcdef01234567",
      (lit "0123456789abcdef0123456789abcdef01234567").take Git.shortShaIdx⟩
    (Git.newSha_ok_iff.mpr ⟨⟨by decide, by decide +kernel⟩, rfl⟩) ⟨⟨List.replicate 16 0xab, rfl⟩⟩).2.1

end DryccBuilder.Gitreceive
