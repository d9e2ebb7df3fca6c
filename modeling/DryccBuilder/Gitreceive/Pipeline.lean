import DryccBuilder.Go.Flow
import DryccBuilder.Cleaner
import DryccBuilder.Gitreceive.Wait
import DryccBuilder.Gitreceive.Imagebuilder
import DryccBuilder.Gitreceive.BuildType
import DryccBuilder.Gitreceive.Build

/-!
# The build of a push

`build` (`pkg/gitreceive/build.go`) is what the hook runs for each pushed revision. It checks
the sha, makes a temporary directory under the repository, asks the controller for the app's
config, archives the revision with `git archive` and unpacks it, picks the stack, uploads the
archive to object storage, and starts the imagebuilder's job on it. It then waits for the job's
pod to start, streams its log, waits for it to end and reads its containers' exit codes, and,
when they are all `0`, publishes the release through the controller. Each step returns at once
on an error, with a message of its own; the temporary directory is removed and the pod watcher
stopped by deferred calls, however the function ends.

## The model

A run of `build` is a `Go.Flow.Trace` of `BuildEffect`s: the files, commands, uploads, the job,
the watcher, the log and the release, with how it ended. What each call outside the code returns
is a field of `BuildWorld`: the file system, the commands, the controller, object storage, the
Kubernetes API and the caches the two waits poll. Each call is made at most once in a run, so
a field is a value, or a function of the call's argument where the argument varies. The body is
cut where its stages meet, `build.inTmpDir`, `build.launch`, `build.watch` and
`build.release`, each the rest of the body at that point.

Left out: the assignment to `storagedriver.PathRegexp`, the debug logs and `prettyPrintJSON`,
and the deferred `rc.Close()` of the log stream. `build` is modelled for a positive
`SessionIdleInterval()`, where the two calls of `progress` (in `waitForPod`, and around the
release) start their tickers: `waitForPod` with the panic of `time.NewTicker` is
`Gitreceive.waitForPod`, and `checkDurations_unsafe_intervals` shows that `CheckDurations`
lets a non-positive interval through. The `progress` goroutine is `Gitreceive.Progress`.

## What is proved

* `build_releases_after_pod_success`: the release is published only after the archive was
  uploaded, the job created, both waits returned `nil`, and every container of the builder pod
  terminated with exit code `0`.
* `build_job_reads_upload`: the job `build` creates reads its archive from the key it uploaded
  it to, and its source version is the pushed revision's short sha, whatever the registry and
  storage variables of the environment.
* `build_upload_under_cleaner_key`: that key lies in a directory the cleaner's pattern for the
  app matches when the app's name is plain (`Cleaner.keyMatch_iff`), so the cleaner's
  `deleteFromStorage` deletes it once the app is gone.
-/

namespace DryccBuilder.Gitreceive

open Go Go.Flow K8s Controller Sys

/-- The fields of `Config` that `build` reads beyond those of `Config`. -/
structure BuildConfig extends Config where
  /-- `ControllerURL` (`DRYCC_CONTROLLER_URL`). -/
  controllerURL : GoString
  /-- `GitHome` (`GIT_HOME`). -/
  gitHome : GoString
  /-- `Username` (`USERNAME`). -/
  username : GoString
  /-- `PodNamespace` (`POD_NAMESPACE`). -/
  podNamespace : GoString
  /-- `Debug` (`DRYCC_DEBUG`). -/
  debug : Bool
  /-- `ImagebuilderImagePullPolicy` (`IMAGEBUILDER_IMAGE_PULL_POLICY`). -/
  imagebuilderImagePullPolicy : GoString
  /-- `BuilderPodNodeSelector` (`BUILDER_POD_NODE_SELECTOR`). -/
  builderPodNodeSelector : GoString

/-- What `build` does outside its own state; `D` is the type of a parsed `.drycc` file. -/
inductive BuildEffect (D : Type) where
  /-- `os.MkdirAll(path, 0o700)`. -/
  | mkdirAll (path : GoString)
  /-- `os.MkdirTemp` made the directory `dir`. -/
  | mkdirTemp (dir : GoString)
  /-- `os.RemoveAll(path)`. -/
  | removeAll (path : GoString)
  /-- `run(cmd)` with the arguments `args`, in the directory `dir`. -/
  | run (args : List GoString) (dir : GoString)
  /-- `storageDriver.PutContent(ctx, key, data)`. -/
  | putContent (key data : GoString)
  /-- `jobsInterface.Create(ctx, job, ...)`, the job's containers being `containers`. -/
  | createJob (job : Job) (containers : List (Container SecurityContext))
  /-- `go pw.Controller.Run(stopCh)`. -/
  | startWatcher
  /-- The deferred `close(stopCh)`. -/
  | stopWatcher
  /-- `io.Copy(os.Stdout, rc)` of the log of the pod `pod`. -/
  | copyLogs (pod : GoString)
  /-- `hooks.CreateBuild(client, username, app, image, stack, sha, procfile, dryccfile,
  dockerfile)`. -/
  | createBuild (username app image stack sha : GoString) (procfile : GoMap GoString GoString)
      (dryccfile : D) (dockerfile : GoString)
  deriving DecidableEq

/-- What the calls of `build` outside its code return. -/
structure BuildWorld (D : Type) where
  /-- `os.MkdirAll(path, 0o700)`'s error. -/
  mkdirAll : GoString → Option GoString
  /-- `os.MkdirTemp(dir, "tmp")`: the directory made. -/
  mkdirTemp : GoString → Except GoString GoString
  /-- `controller.New(conf.ControllerURL)`'s error. -/
  controllerNew : Option GoString
  /-- `hooks.GetAppConfig(client, conf.Username, appName)`: the config and the error. -/
  getAppConfig : Controller.Config × Option ControllerError
  /-- `run(cmd)`'s error, by the command's arguments. -/
  runCmd : List GoString → Option GoString
  /-- `os.Stat(path)` succeeds. -/
  statOk : GoString → Bool
  /-- `os.ReadFile(path)`. -/
  readFile : GoString → Except GoString GoString
  /-- `storageDriver.PutContent(ctx, key, data)`'s error. -/
  putContent : GoString → GoString → Option GoString
  /-- The package variable `Stacks` when `build` runs. -/
  Stacks : List Stack
  /-- What `initStack` sets `Stacks` to. -/
  initStacks : List Stack
  /-- The environment `env`. -/
  env : Env
  /-- `os.Getenv`, read by `buildJob`. -/
  getenv : GoString → GoString
  /-- `strconv.ParseInt(s, 10, 32)`, read by `buildJob`. -/
  parseInt : GoString → Option Int32
  /-- The UUID `uuid.New()` draws for the job's name. -/
  uuid : UUID
  /-- `jobsInterface.Create(ctx, job, ...)`'s error. -/
  createJob : Option GoString
  /-- The caches the polls of `waitForPod` see. -/
  startCaches : List (List Pod)
  /-- `kubeClient.CoreV1().Pods(ns).List(ctx, options)`: the names of the pods. -/
  listPods : Except GoString (List GoString)
  /-- `req.Stream(ctx)`'s error. -/
  streamLogs : Option GoString
  /-- `io.Copy(os.Stdout, rc)`'s error. -/
  copyLogs : Option GoString
  /-- The caches the polls of `waitForPodEnd` see. -/
  endCaches : List (List Pod)
  /-- `kubeClient.CoreV1().Pods(ns).Get(ctx, name, ...)`. -/
  getPod : Except GoString Pod
  /-- `yaml.Unmarshal` of a `Procfile`. -/
  unmarshalProcfile : GoString → Except GoString (GoMap GoString GoString)
  /-- `drycc.ParseDryccfile(dir)`. -/
  parseDryccfile : GoString → Except GoString D
  /-- `hooks.CreateBuild(...)`'s error. -/
  createBuild : Option ControllerError
  /-- `err.Error()` of an error of the controller's SDK. -/
  sdkError : ControllerError → GoString

/-- `fmt.Sprintf(TarKeyPattern, dir)`, `TarKeyPattern` being `"%s/tar"`. -/
def tarKeyPattern (dir : GoString) : GoString := dir ++ lit "/tar"

/-- `getProcfile(dirName)`: the `Procfile`'s process types, none when there is no `Procfile`. -/
def getProcfile (statOk : GoString → Bool) (readFile : GoString → Except GoString GoString)
    (unmarshal : GoString → Except GoString (GoMap GoString GoString)) (dirName : GoString) :
    Except GoString (GoMap GoString GoString) :=
  let file := dirName ++ lit "/Procfile"
  if statOk file then
    match readFile file with
    | .error err => .error (lit "error in reading " ++ file ++ lit " (" ++ err ++ lit ")")
    | .ok rawProcFile =>
      match unmarshal rawProcFile with
      | .error err => .error (lit "procfile " ++ file ++ lit " is malformed (" ++ err ++ lit ")")
      | .ok procfile => .ok procfile
  else .ok GoMap.empty

/-- `getDockerfile(dirName, stack)`: the `Dockerfile` of a `container` stack, else `""`. -/
def getDockerfile (statOk : GoString → Bool) (readFile : GoString → Except GoString GoString)
    (dirName : GoString) (stack : Stack) : Except GoString GoString :=
  if stack.name = lit "container" then
    let file := dirName ++ lit "/Dockerfile"
    if statOk file then
      match readFile file with
      | .error err => .error (lit "error in reading " ++ file ++ lit " (" ++ err ++ lit ")")
      | .ok rawDockerfile => .ok rawDockerfile
    else .ok []
  else .ok []

/-- The loop over `buildPod.Status.ContainerStatuses`: `none` where `state.ExitCode` reads a nil
`Terminated` and panics, else the first exit code that is not `0`, if any. -/
def firstFailedExit : List ContainerStatus → Option (Option Int32)
  | [] => some none
  | containerStatus :: rest =>
    match containerStatus.terminated with
    | none => none
    | some code => if code ≠ 0 then some (some code) else firstFailedExit rest

section Build

variable {D : Type} (conf : BuildConfig) (w : BuildWorld D)

/-- The release at the end of `build`, after the builder pod ended well. -/
def build.release (tmpDir appName imageName : GoString) (gitSha : Git.SHA) (stack : Stack) :
    Trace (BuildEffect D) GoString :=
  expect (getProcfile w.statOk w.readFile w.unmarshalProcfile tmpDir) id fun procfile =>
  expect (getDockerfile w.statOk w.readFile tmpDir stack) id fun dockerfile =>
  expect (w.parseDryccfile (FilePath.join [tmpDir, lit ".drycc"])) id fun dryccfile =>
  emit (.createBuild conf.username appName imageName stack.name gitSha.short procfile dryccfile
    dockerfile) <|
  check (checkAPICompat w.createBuild)
    (fun err => lit "the controller returned an error when publishing the release: " ++
      w.sdkError err) ret

/-- The watch of the builder pod in `build`, once the watcher runs. -/
def build.watch (tmpDir appName imageName jobName : GoString) (gitSha : Git.SHA) (stack : Stack) :
    Trace (BuildEffect D) GoString :=
  -- `waitForPod(pw, newJob.Name, conf.SessionIdleInterval(), ...)` on a positive interval, where
  -- its `progress` does not panic: what it returns is its poll's
  expect (waitForPodCondition jobName waitForPod.condition w.startCaches)
    (fun err => lit "watching events for builder pod startup (" ++ err ++ lit ")") fun () =>
  expect w.listPods (fun err => lit "list pods " ++ jobName ++ lit " fail: (" ++ err ++ lit ")")
    fun podList =>
  -- `podList.Items[0]`
  need podList.head? fun podName =>
  check w.streamLogs (fun err => lit "attempting to stream logs (" ++ err ++ lit ")") <|
  emit (.copyLogs podName) <|
  check w.copyLogs (fun err => lit "fetching builder logs (" ++ err ++ lit ")") <|
  expect (waitForPodEnd jobName w.endCaches)
    (fun err => lit "error getting builder pod status (" ++ err ++ lit ")") fun () =>
  expect w.getPod (fun err => lit "error getting builder pod status (" ++ err ++ lit ")")
    fun buildPod =>
  need (firstFailedExit buildPod.containerStatuses) fun failed =>
  check failed
    (fun code => lit "build pod exited with code " ++ lit (toString code.toInt) ++
      lit ", stopping build") <|
  build.release conf w tmpDir appName imageName gitSha stack

/-- The launch of the builder's job in `build`, once the archive is uploaded to `tarKey`. -/
def build.launch (tmpDir appName tarKey : GoString) (gitSha : Git.SHA) (stack : Stack)
    (appConf : Controller.Config) : Trace (BuildEffect D) GoString :=
  expect (buildBuilderPodNodeSelector conf.builderPodNodeSelector)
    (fun err => lit "error build builder pod node selector " ++ err) fun builderPodNodeSelector =>
  let builderName := lit "drycc-imagebuilder"
  expect (pullPolicyFromString conf.imagebuilderImagePullPolicy) id fun imagePullPolicy =>
  let securityContext := securityContextFromPrivileged true
  let imageName := appName ++ lit ":git-" ++ gitSha.short
  let buildJobName := imagebuilderJobName appName gitSha.short w.uuid
  need (getImagebuilderEnv imageName conf.toConfig w.env) fun imagebuilderEnv =>
  expect imagebuilderEnv (fun err => lit "error getting private registry details " ++ err)
    fun envAndImage =>
  let builderImageEnv := envAndImage.1.insert (lit "DRYCC_STACK") stack.name
  need (createBuilderJob conf.debug buildJobName conf.podNamespace appConf.values tarKey
    gitSha.short envAndImage.2 builderName (stack.index (lit "image")) builderImageEnv
    imagePullPolicy securityContext builderPodNodeSelector w.getenv w.parseInt ⟨[]⟩)
    fun jobAndStore =>
  emit (.createJob jobAndStore.1 (jobAndStore.1.containers.read jobAndStore.2)) <|
  check w.createJob (fun err => lit "creating builder pod (" ++ err ++ lit ")") <|
  emit .startWatcher <|
  defer (build.watch conf w tmpDir appName envAndImage.2 jobAndStore.1.name gitSha stack)
    .stopWatcher

/-- `build` once its temporary directory `tmpDir` is made, up to the upload of the archive. -/
def build.inTmpDir (repoDir tmpDir : GoString) (gitSha : Git.SHA) :
    Trace (BuildEffect D) GoString :=
  let appName := conf.app
  check w.controllerNew id <|
  -- `CheckAPICompat` passes on every error but an API mismatch, which it only warns about
  check (checkAPICompat w.getAppConfig.2) w.sdkError <|
  let appConf := w.getAppConfig.1
  let appTgz := appName ++ lit ".tar.gz"
  let gitArchiveArgs :=
    [lit "git", lit "archive", lit "--format=tar.gz", lit "--output=" ++ appTgz, gitSha.short]
  emit (.run gitArchiveArgs repoDir) <|
  check (w.runCmd gitArchiveArgs)
    (fun err => lit "running " ++ join gitArchiveArgs (lit " ") ++ lit " (" ++ err ++ lit ")") <|
  let absAppTgz := repoDir ++ lit "/" ++ appTgz
  let tarArgs := [lit "tar", lit "-xzf", appTgz, lit "-C", tmpDir ++ lit "/"]
  emit (.run tarArgs repoDir) <|
  check (w.runCmd tarArgs)
    (fun err => lit "running " ++ join tarArgs (lit " ") ++ lit " (" ++ err ++ lit ")") <|
  need (getStack w.Stacks w.initStacks w.statOk tmpDir appConf) fun stack =>
  expect (w.readFile absAppTgz)
    (fun err => lit "error while reading file " ++ appTgz ++ lit ": (" ++ err ++ lit ")")
    fun appTgzdata =>
  let tarKey := tarKeyPattern (gitKeyPattern appName gitSha.short)
  emit (.putContent tarKey appTgzdata) <|
  check (w.putContent tarKey appTgzdata)
    (fun err => lit "uploading " ++ absAppTgz ++ lit " to " ++ tarKey ++ lit " (" ++ err ++
      lit ")") <|
  build.launch conf w tmpDir appName tarKey gitSha stack appConf

/-- `build(conf, storageDriver, kubeClient, env, rawGitSha)`. -/
def build (rawGitSha : GoString) : Trace (BuildEffect D) GoString :=
  expect (Git.newSha rawGitSha) Git.ErrInvalidGitSha.error fun gitSha =>
  let repoDir := FilePath.join [conf.gitHome, conf.repository]
  let buildDir := FilePath.join [repoDir, lit "build"]
  emit (.mkdirAll buildDir) <|
  check (w.mkdirAll buildDir)
    (fun err => lit "making the build directory " ++ buildDir ++ lit " (" ++ err ++ lit ")") <|
  expect (w.mkdirTemp buildDir)
    (fun err => lit "unable to create tmpdir " ++ buildDir ++ lit " (" ++ err ++ lit ")")
    fun tmpDir =>
  emit (.mkdirTemp tmpDir) <|
  defer (build.inTmpDir conf w repoDir tmpDir gitSha) (.removeAll tmpDir)

end Build

/-- The loop passes with no code to report exactly when every container terminated with exit
code `0`. -/
theorem firstFailedExit_eq_some_none_iff (statuses : List ContainerStatus) :
    firstFailedExit statuses = some none ↔ ∀ s ∈ statuses, s.terminated = some 0 := by
  induction statuses with
  | nil => simp [firstFailedExit]
  | cons s rest ih =>
    rw [firstFailedExit, List.forall_mem_cons]
    cases s.terminated with
    | none => simp
    | some code =>
      by_cases hcode : code = 0
      · simp [hcode, ih]
      · simp [hcode]

/-! ### The effects of each stage

One lemma for each stage says which effects it has: its own, and those of the stage after it,
which runs only when every step before it passed. A lemma for a stage that calls the next also
says that the next stage's effects are its own, so that a proof about `build` goes from one stage
down to the next and back. -/

section Stages

variable {D : Type} {conf : BuildConfig} {w : BuildWorld D} {e : BuildEffect D}

theorem mem_release {tmpDir appName imageName : GoString} {gitSha : Git.SHA} {stack : Stack}
    (h : e ∈ (build.release conf w tmpDir appName imageName gitSha stack).1) :
    ∃ procfile dryccfile dockerfile, e = .createBuild conf.username appName imageName stack.name
      gitSha.short procfile dryccfile dockerfile := by
  simp only [build.release, mem_expect, mem_emit, mem_check, not_mem_ret, and_false,
    or_false] at h
  obtain ⟨procfile, -, dockerfile, -, dryccfile, -, rfl⟩ := h
  exact ⟨procfile, dryccfile, dockerfile, rfl⟩

theorem mem_watch {tmpDir appName imageName jobName : GoString} {gitSha : Git.SHA}
    {stack : Stack} (h : e ∈ (build.watch conf w tmpDir appName imageName jobName gitSha stack).1) :
    waitForPodCondition jobName waitForPod.condition w.startCaches = .ok () ∧
    ∃ podName, e = .copyLogs podName ∨
      waitForPodEnd jobName w.endCaches = .ok () ∧ ∃ pod, w.getPod = .ok pod ∧
        firstFailedExit pod.containerStatuses = some none ∧
        e ∈ (build.release conf w tmpDir appName imageName gitSha stack).1 := by
  simp only [build.watch, mem_expect, mem_need, mem_check, mem_emit] at h
  obtain ⟨⟨⟩, hstart, -, -, podName, -, -, h⟩ := h
  refine ⟨hstart, podName, ?_⟩
  rcases h with rfl | ⟨-, ⟨⟩, hend, pod, hpod, failed, hfailed, rfl, h⟩
  · exact .inl rfl
  · exact .inr ⟨hend, pod, hpod, hfailed, h⟩

theorem mem_launch {tmpDir appName tarKey : GoString} {gitSha : Git.SHA} {stack : Stack}
    {appConf : Controller.Config}
    (h : e ∈ (build.launch conf w tmpDir appName tarKey gitSha stack appConf).1) :
    ∃ sel pp envAndImage jobAndStore,
      getImagebuilderEnv (appName ++ lit ":git-" ++ gitSha.short) conf.toConfig w.env =
        some (.ok envAndImage) ∧
      createBuilderJob conf.debug (imagebuilderJobName appName gitSha.short w.uuid)
        conf.podNamespace appConf.values tarKey gitSha.short envAndImage.2
        (lit "drycc-imagebuilder") (stack.index (lit "image"))
        (envAndImage.1.insert (lit "DRYCC_STACK") stack.name) pp
        (securityContextFromPrivileged true) sel w.getenv w.parseInt ⟨[]⟩ = some jobAndStore ∧
      .createJob jobAndStore.1 (jobAndStore.1.containers.read jobAndStore.2) ∈
        (build.launch conf w tmpDir appName tarKey gitSha stack appConf).1 ∧
      (e = .createJob jobAndStore.1 (jobAndStore.1.containers.read jobAndStore.2) ∨
        w.createJob = none ∧ (e = .startWatcher ∨ e = .stopWatcher ∨
          e ∈ (build.watch conf w tmpDir appName envAndImage.2 jobAndStore.1.name gitSha
            stack).1)) := by
  simp only [build.launch, mem_expect, mem_need, mem_check, mem_emit, mem_defer] at h ⊢
  obtain ⟨sel, hsel, pp, hpp, r, henv, envAndImage, rfl, jobAndStore, hjob, h⟩ := h
  refine ⟨sel, pp, envAndImage, jobAndStore, henv, hjob,
    ⟨sel, hsel, pp, hpp, _, henv, envAndImage, rfl, jobAndStore, hjob, .inl rfl⟩, ?_⟩
  rcases h with rfl | ⟨hcreate, rfl | h | rfl⟩
  · exact .inl rfl
  · exact .inr ⟨hcreate, .inl rfl⟩
  · exact .inr ⟨hcreate, .inr (.inr h)⟩
  · exact .inr ⟨hcreate, .inr (.inl rfl)⟩

theorem mem_inTmpDir {repoDir tmpDir : GoString} {gitSha : Git.SHA}
    (h : e ∈ (build.inTmpDir conf w repoDir tmpDir gitSha).1) :
    (∃ args, e = .run args repoDir) ∨
      ∃ stack data, .putContent (tarKeyPattern (gitKeyPattern conf.app gitSha.short)) data ∈
          (build.inTmpDir conf w repoDir tmpDir gitSha).1 ∧
        (e = .putContent (tarKeyPattern (gitKeyPattern conf.app gitSha.short)) data ∨
          w.putContent (tarKeyPattern (gitKeyPattern conf.app gitSha.short)) data = none ∧
          (∀ f ∈ (build.launch conf w tmpDir conf.app
              (tarKeyPattern (gitKeyPattern conf.app gitSha.short)) gitSha stack
              w.getAppConfig.1).1,
            f ∈ (build.inTmpDir conf w repoDir tmpDir gitSha).1) ∧
          e ∈ (build.launch conf w tmpDir conf.app
            (tarKeyPattern (gitKeyPattern conf.app gitSha.short)) gitSha stack
            w.getAppConfig.1).1) := by
  simp only [build.inTmpDir, mem_expect, mem_need, mem_check, mem_emit] at h ⊢
  obtain ⟨hnew, hcompat, rfl | ⟨harchive, rfl | ⟨htar, stack, hstack, data, hread, h⟩⟩⟩ := h
  · exact .inl ⟨_, rfl⟩
  · exact .inl ⟨_, rfl⟩
  -- from here on every step up to the upload passed
  refine .inr ⟨stack, data, ⟨hnew, hcompat, .inr ⟨harchive, .inr ⟨htar, stack, hstack, data, hread,
    .inl rfl⟩⟩⟩, ?_⟩
  rcases h with rfl | ⟨hput, h⟩
  · exact .inl rfl
  · exact .inr ⟨hput, fun f hf => ⟨hnew, hcompat, .inr ⟨harchive, .inr ⟨htar, stack, hstack, data,
      hread, .inr ⟨hput, hf⟩⟩⟩⟩, h⟩

theorem mem_build {rawGitSha : GoString} (h : e ∈ (build conf w rawGitSha).1) :
    ∃ gitSha, Git.newSha rawGitSha = .ok gitSha ∧
      (e = .mkdirAll (FilePath.join [FilePath.join [conf.gitHome, conf.repository], lit "build"]) ∨
        ∃ tmpDir, (build conf w rawGitSha).1.getLast? = some (.removeAll tmpDir) ∧
          (∀ f ∈ (build.inTmpDir conf w (FilePath.join [conf.gitHome, conf.repository]) tmpDir
              gitSha).1, f ∈ (build conf w rawGitSha).1) ∧
          (e = .mkdirTemp tmpDir ∨ e = .removeAll tmpDir ∨
            e ∈ (build.inTmpDir conf w (FilePath.join [conf.gitHome, conf.repository]) tmpDir
              gitSha).1)) := by
  have hbuild := h
  simp only [build, mem_expect, mem_check, mem_emit, mem_defer] at h
  obtain ⟨gitSha, hsha, rfl | ⟨hall, tmpDir, htmp, h⟩⟩ := h
  · exact ⟨gitSha, hsha, .inl rfl⟩
  have hlast : (build conf w rawGitSha).1.getLast? = some (.removeAll tmpDir) := by
    simp only [build, hsha, expect_ok, hall, check_none, htmp, getLast?_emit, getLast?_defer,
      Option.getD_some]
  have hinc : ∀ f ∈ (build.inTmpDir conf w (FilePath.join [conf.gitHome, conf.repository]) tmpDir
      gitSha).1, f ∈ (build conf w rawGitSha).1 := by
    intro f hf
    simp only [build, mem_expect, mem_check, mem_emit, mem_defer]
    exact ⟨gitSha, hsha, .inr ⟨hall, tmpDir, htmp, .inr (.inl hf)⟩⟩
  refine ⟨gitSha, hsha, .inr ⟨tmpDir, hlast, hinc, ?_⟩⟩
  rcases h with rfl | h | rfl
  · exact .inl rfl
  · exact .inr (.inr h)
  · exact .inr (.inl rfl)

/-- The kinds of effect of the stages before the launch. -/
def BuildEffect.BeforeLaunch : BuildEffect D → Prop
  | .mkdirAll _ | .mkdirTemp _ | .removeAll _ | .run _ _ | .putContent _ _ => True
  | _ => False

/-- An effect of `build` is of a stage before the launch, or one of the launch, which then comes
after the upload of the archive. -/
theorem mem_build_launch {rawGitSha : GoString} (h : e ∈ (build conf w rawGitSha).1) :
    e.BeforeLaunch ∨
    ∃ gitSha tmpDir stack data, Git.newSha rawGitSha = .ok gitSha ∧
      .putContent (tarKeyPattern (gitKeyPattern conf.app gitSha.short)) data ∈
        (build conf w rawGitSha).1 ∧
      w.putContent (tarKeyPattern (gitKeyPattern conf.app gitSha.short)) data = none ∧
      (∀ f ∈ (build.launch conf w tmpDir conf.app
          (tarKeyPattern (gitKeyPattern conf.app gitSha.short)) gitSha stack w.getAppConfig.1).1,
        f ∈ (build conf w rawGitSha).1) ∧
      e ∈ (build.launch conf w tmpDir conf.app
        (tarKeyPattern (gitKeyPattern conf.app gitSha.short)) gitSha stack w.getAppConfig.1).1 := by
  obtain ⟨gitSha, hsha, rfl | ⟨tmpDir, -, hbuild, rfl | rfl | h⟩⟩ := mem_build h
  · exact .inl trivial
  · exact .inl trivial
  · exact .inl trivial
  obtain ⟨args, rfl⟩ | ⟨stack, data, hput, rfl | ⟨hputOk, hinTmpDir, h⟩⟩ := mem_inTmpDir h
  · exact .inl trivial
  · exact .inl trivial
  exact .inr ⟨gitSha, tmpDir, stack, data, hsha, hbuild _ hput, hputOk,
    fun f hf => hbuild _ (hinTmpDir f hf), h⟩

/-- The watch of the pod only copies its log and publishes the release. -/
theorem mem_watch_cases {tmpDir appName imageName jobName : GoString} {gitSha : Git.SHA}
    {stack : Stack} (h : e ∈ (build.watch conf w tmpDir appName imageName jobName gitSha stack).1) :
    (∃ podName, e = .copyLogs podName) ∨ ∃ procfile dryccfile dockerfile,
      e = .createBuild conf.username appName imageName stack.name gitSha.short procfile dryccfile
        dockerfile := by
  obtain ⟨-, podName, h | ⟨-, -, -, -, h⟩⟩ := mem_watch h
  · exact .inl ⟨podName, h⟩
  · exact .inr (mem_release h)

theorem putContent_not_mem_launch {tmpDir appName tarKey key data : GoString}
    {gitSha : Git.SHA} {stack : Stack} {appConf : Controller.Config} :
    .putContent key data ∉ (build.launch conf w tmpDir appName tarKey gitSha stack appConf).1 := by
  intro h
  obtain ⟨_, _, _, _, -, -, -, h | ⟨-, h | h | h⟩⟩ := mem_launch h
  · cases h
  · cases h
  · cases h
  rcases mem_watch_cases h with ⟨_, h⟩ | ⟨_, _, _, h⟩ <;> cases h

theorem createJob_not_mem_watch {tmpDir appName imageName jobName : GoString}
    {gitSha : Git.SHA} {stack : Stack} {job : Job} {cs : List (Container SecurityContext)} :
    .createJob job cs ∉ (build.watch conf w tmpDir appName imageName jobName gitSha stack).1 := by
  intro h
  rcases mem_watch_cases h with ⟨_, h⟩ | ⟨_, _, _, h⟩ <;> cases h

/-! ### How each stage returns `nil`

A stage returns `nil` only where each of its steps passed and the next stage returned `nil`,
whose effects are then its own. -/

theorem release_returned_none {tmpDir appName imageName : GoString} {gitSha : Git.SHA}
    {stack : Stack}
    (h : (build.release conf w tmpDir appName imageName gitSha stack).2 = .returned none) :
    checkAPICompat w.createBuild = none ∧ ∃ procfile dryccfile dockerfile,
      .createBuild conf.username appName imageName stack.name gitSha.short procfile dryccfile
        dockerfile ∈ (build.release conf w tmpDir appName imageName gitSha stack).1 := by
  simp only [build.release, expect_returned_none, exit_emit, check_returned_none, exit_ret,
    and_true] at h
  obtain ⟨procfile, hprocfile, dockerfile, hdockerfile, dryccfile, hdryccfile, hcompat⟩ := h
  refine ⟨hcompat, procfile, dryccfile, dockerfile, ?_⟩
  simp only [build.release, hprocfile, hdockerfile, hdryccfile, expect_ok, mem_emit, true_or]

theorem watch_returned_none {tmpDir appName imageName jobName : GoString} {gitSha : Git.SHA}
    {stack : Stack}
    (h : (build.watch conf w tmpDir appName imageName jobName gitSha stack).2 = .returned none) :
    (build.release conf w tmpDir appName imageName gitSha stack).2 = .returned none ∧
      ∀ f ∈ (build.release conf w tmpDir appName imageName gitSha stack).1,
        f ∈ (build.watch conf w tmpDir appName imageName jobName gitSha stack).1 := by
  simp only [build.watch, expect_returned_none, need_returned_none, check_returned_none,
    exit_emit] at h
  obtain ⟨⟨⟩, hstart, podList, hlist, podName, hpod, hstream, hcopy, ⟨⟩, hend, buildPod, hget,
    failed, hfailed, rfl, h⟩ := h
  refine ⟨h, fun f hf => ?_⟩
  simp only [build.watch, hstart, hlist, hpod, hstream, hcopy, hend, hget, hfailed, expect_ok,
    need_some, check_none, mem_emit]
  exact .inr hf

theorem launch_returned_none {tmpDir appName tarKey : GoString} {gitSha : Git.SHA} {stack : Stack}
    {appConf : Controller.Config}
    (h : (build.launch conf w tmpDir appName tarKey gitSha stack appConf).2 = .returned none) :
    ∃ imageName jobName,
      (build.watch conf w tmpDir appName imageName jobName gitSha stack).2 = .returned none ∧
      ∀ f ∈ (build.watch conf w tmpDir appName imageName jobName gitSha stack).1,
        f ∈ (build.launch conf w tmpDir appName tarKey gitSha stack appConf).1 := by
  simp only [build.launch, expect_returned_none, need_returned_none, check_returned_none,
    exit_emit, exit_defer] at h
  obtain ⟨sel, hsel, pp, hpp, _, henv, envAndImage, rfl, jobAndStore, hjob, hcreate, h⟩ := h
  refine ⟨_, _, h, fun f hf => ?_⟩
  simp only [build.launch, hsel, hpp, henv, hjob, hcreate, expect_ok, need_some, check_none,
    mem_emit, mem_defer]
  exact .inr (.inr (.inl hf))

theorem inTmpDir_returned_none {repoDir tmpDir : GoString} {gitSha : Git.SHA}
    (h : (build.inTmpDir conf w repoDir tmpDir gitSha).2 = .returned none) :
    ∃ stack, (build.launch conf w tmpDir conf.app
        (tarKeyPattern (gitKeyPattern conf.app gitSha.short)) gitSha stack
        w.getAppConfig.1).2 = .returned none ∧
      ∀ f ∈ (build.launch conf w tmpDir conf.app
          (tarKeyPattern (gitKeyPattern conf.app gitSha.short)) gitSha stack w.getAppConfig.1).1,
        f ∈ (build.inTmpDir conf w repoDir tmpDir gitSha).1 := by
  simp only [build.inTmpDir, expect_returned_none, need_returned_none, check_returned_none,
    exit_emit] at h
  obtain ⟨hnew, hcompat, harchive, htar, stack, hstack, data, hread, hput, h⟩ := h
  refine ⟨stack, h, fun f hf => ?_⟩
  simp only [build.inTmpDir, hnew, hcompat, harchive, htar, hstack, hread, hput, expect_ok,
    need_some, check_none, mem_emit]
  exact .inr (.inr (.inr hf))

theorem build_returned_none {rawGitSha : GoString}
    (h : (build conf w rawGitSha).2 = .returned none) :
    ∃ gitSha tmpDir, Git.newSha rawGitSha = .ok gitSha ∧
      (build.inTmpDir conf w (FilePath.join [conf.gitHome, conf.repository]) tmpDir gitSha).2 =
        .returned none ∧
      ∀ f ∈ (build.inTmpDir conf w (FilePath.join [conf.gitHome, conf.repository]) tmpDir
          gitSha).1, f ∈ (build conf w rawGitSha).1 := by
  simp only [build, expect_returned_none, check_returned_none, exit_emit, exit_defer] at h
  obtain ⟨gitSha, hsha, hall, tmpDir, htmp, h⟩ := h
  refine ⟨gitSha, tmpDir, hsha, h, fun f hf => ?_⟩
  simp only [build, hsha, hall, htmp, expect_ok, check_none, mem_emit, mem_defer]
  exact .inr (.inr (.inl hf))

end Stages

/-! ### The job and the key of the upload -/

/-- The container of the job `createBuilderJob` returns, with the env the builder's vars and
`builderImageEnv` make. -/
theorem createBuilderJob_container {debug : Bool} {name «namespace» : GoString}
    {config : List ConfigValue} {tarKey gitShortHash imageName builderName builderImage : GoString}
    {builderImageEnv : GoMap GoString GoString} {pullPolicy : GoString}
    {securityContext : SecurityContext} {nodeSelector : GoMap GoString GoString}
    {getenv : GoString → GoString} {parseInt : GoString → Option Int32}
    {h : Arrays (Container SecurityContext)} {r : Job × Arrays (Container SecurityContext)}
    (hr : createBuilderJob debug name «namespace» config tarKey gitShortHash imageName builderName
      builderImage builderImageEnv pullPolicy securityContext nodeSelector getenv parseInt h =
        some r) :
    ∃ c, r.1.containers.read r.2 = [c] ∧
      c.env = builderEnv debug config tarKey gitShortHash imageName builderImageEnv := by
  obtain ⟨job, h', hrun, -, hc⟩ := createBuilderJob_spec debug name «namespace» config tarKey
    gitShortHash imageName builderName builderImage builderImageEnv pullPolicy securityContext
    nodeSelector getenv parseInt h
  rw [hr, Option.some_inj] at hrun
  subst hrun
  exact ⟨_, hc.2, rfl⟩

/-- A builder var keeps its value in the env when `builderImageEnv` does not set its name. -/
theorem lastValue_builderEnv {debug : Bool} {config : List ConfigValue}
    {tarKey gitShortHash imageName k v : GoString} {builderImageEnv : GoMap GoString GoString}
    (hk : builderImageEnv.get? k = none)
    (hv : lastValue
      [⟨tarPath, tarKey⟩, ⟨sourceVersion, gitShortHash⟩, ⟨lit "IMAGE_NAME", imageName⟩] k =
        some v) :
    lastValue (builderEnv debug config tarKey gitShortHash imageName builderImageEnv) k =
      some v := by
  simp only [builderEnv, lastValue_append, lastValue_entries, hk, hv, Option.none_or,
    Option.some_or]

/-- Neither `TAR_PATH` nor `SOURCE_VERSION` is in the map `build` gives the builder: the
environment adds registry and storage variables only, and `build` adds `DRYCC_STACK`. -/
theorem builderImageEnv_get?_eq_none {image image' stackName k : GoString} {config : Config}
    {env : Env} {m : GoMap GoString GoString}
    (henv : getImagebuilderEnv image config env = some (.ok (m, image')))
    (hk : k = tarPath ∨ k = sourceVersion) :
    (m.insert (lit "DRYCC_STACK") stackName).get? k = none := by
  have hstack : k ≠ lit "DRYCC_STACK" := by rcases hk with rfl | rfl <;> decide
  have hsel : ¬ Selected imagebuilderPrefixs k := by rcases hk with rfl | rfl <;> decide
  rw [GoMap.get?_insert, if_neg hstack]
  exact (getImagebuilderEnv_keysSelected henv).get?_eq_none hsel

/-- A byte of a sha is ASCII and no newline. -/
theorem isShaByte_ascii {c : UInt8} (h : Git.isShaByte c) : c < 0x80 ∧ c ≠ 10 := by
  simp only [Git.isShaByte, Bool.or_eq_true, Bool.and_eq_true, decide_eq_true_eq] at h
  grind

/-- The directory of the key of an accepted sha is one the cleaner's pattern for the app
matches. -/
theorem gitKeyPattern_isGitKeyOf {rawGitSha : GoString} {gitSha : Git.SHA}
    (hsha : Git.newSha rawGitSha = .ok gitSha) (app : GoString) :
    Cleaner.IsGitKeyOf app (lit "/" ++ gitKeyPattern app gitSha.short) := by
  obtain ⟨hlen, -, hbytes⟩ := Git.newSha_short hsha
  have hrunes : runes gitSha.short = gitSha.short.map fun c => [c] :=
    runes_eq_map_of_ascii fun c hc => (isShaByte_ascii (hbytes c hc)).1
  have hslash : lit "/" ++ lit "home/" = lit "/home/" := by decide
  refine ⟨gitSha.short, ?_, ?_, ?_⟩
  · simp only [gitKeyPattern, List.append_assoc]
    rw [← List.append_assoc (lit "/"), hslash]
  · rw [hrunes, List.length_map, hlen]
    rfl
  · rw [hrunes]
    rintro _ hr rfl
    obtain ⟨c, hc, hcr⟩ := List.mem_map.mp hr
    exact (isShaByte_ascii (hbytes c hc)).2 (List.singleton_inj.mp hcr)

/-! ### A whole run of `build` -/

section Runs

variable {D : Type} (conf : BuildConfig) (w : BuildWorld D)

/-- The config of a push to `demo.git` under `/workspace`, every duration at its default. -/
def demoConf : BuildConfig where
  toConfig := Config.withDefaults (lit "demo.git")
  controllerURL := lit "http://drycc-controller"
  gitHome := lit "/workspace"
  username := lit "admin"
  podNamespace := lit "drycc"
  debug := false
  imagebuilderImagePullPolicy := lit "IfNotPresent"
  builderPodNodeSelector := []

/-- The pushed revision of the demo. -/
def demoSha : GoString := lit "0123456789abcdef0123456789abcdef01234567"

/-- The builder pod of the demo in the phase `phase`, its one container ended with code `0`. -/
def demoPod (phase : PodPhase) : Pod where
  labels :=
    ⟨[(lit "job-name", lit "imagebuild-demo-01234567-00000000"), (lit "heritage", lit "drycc")],
      by decide⟩
  phase := phase
  reason := []
  message := []
  containerStatuses := [⟨some 0⟩]

/-- A world where every call of the demo succeeds: the environment has the storage variables and
the proxy of an on-cluster registry, the stack is `buildpack`, and the builder pod is running at
the first poll and has succeeded at the second. -/
def demoWorld : BuildWorld Unit where
  mkdirAll _ := none
  mkdirTemp _ := .ok (lit "/workspace/demo.git/build/tmp1")
  controllerNew := none
  getAppConfig := (⟨[]⟩, none)
  runCmd _ := none
  statOk _ := false
  readFile _ := .ok (lit "archive")
  putContent _ _ := none
  Stacks := [⟨[(lit "name", lit "buildpack")], by decide⟩]
  initStacks := []
  env := .fake ⟨⟨[(lit "DRYCC_STORAGE_BUCKET", lit "builder"),
    (lit "DRYCC_STORAGE_ENDPOINT", lit "http://storage"),
    (lit "DRYCC_STORAGE_PATH_STYLE", lit "on"), (lit "DRYCC_REGISTRY_HOST", lit "registry"),
    (lit "DRYCC_REGISTRY_PROXY_HOST", lit "proxy")], by decide⟩⟩
  getenv _ := []
  parseInt _ := none
  uuid := ⟨⟨List.replicate 16 0, rfl⟩⟩
  createJob := none
  startCaches := [[demoPod .running]]
  listPods := .ok [lit "imagebuild-demo-01234567-00000000-x7k2p"]
  streamLogs := none
  copyLogs := none
  endCaches := [[demoPod .succeeded]]
  getPod := .ok (demoPod .succeeded)
  unmarshalProcfile _ := .ok GoMap.empty
  parseDryccfile _ := .ok ()
  createBuild := none
  sdkError _ := []

/-- **The release comes last, and only after the builder pod succeeded.** A run of `build` that
publishes a release does so for the pushed revision and the app of the config, and only after
it uploaded the archive and created the builder's job, the job's pod started and ended, and
every container of the pod terminated with exit code `0`. -/
theorem build_releases_after_pod_success (rawGitSha : GoString)
    {username appName imageName stackName sha dockerfile : GoString}
    {procfile : GoMap GoString GoString} {dryccfile : D}
    (h : .createBuild username appName imageName stackName sha procfile dryccfile dockerfile ∈
      (build conf w rawGitSha).1) :
    ∃ gitSha, Git.newSha rawGitSha = .ok gitSha ∧ sha = gitSha.short ∧ appName = conf.app ∧
      username = conf.username ∧
      ∃ tarKey data job containers,
        .putContent tarKey data ∈ (build conf w rawGitSha).1 ∧ w.putContent tarKey data = none ∧
        .createJob job containers ∈ (build conf w rawGitSha).1 ∧ w.createJob = none ∧
        waitForPodCondition job.name waitForPod.condition w.startCaches = .ok () ∧
        waitForPodEnd job.name w.endCaches = .ok () ∧
        ∃ pod, w.getPod = .ok pod ∧ ∀ s ∈ pod.containerStatuses, s.terminated = some 0 := by
  obtain h | ⟨gitSha, tmpDir, stack, data, hsha, hput, hputOk, hlaunch, h⟩ := mem_build_launch h
  · cases h
  obtain ⟨_, _, _, jobAndStore, -, -, hjob, h | ⟨hcreate, h | h | h⟩⟩ := mem_launch h
  · cases h
  · cases h
  · cases h
  obtain ⟨hstart, _, h | ⟨hend, pod, hpod, hfailed, h⟩⟩ := mem_watch h
  · cases h
  obtain ⟨_, _, _, h⟩ := mem_release h
  cases h
  exact ⟨gitSha, hsha, rfl, rfl, rfl, _, data, _, _, hput, hputOk, hlaunch _ hjob, hcreate,
    hstart, hend, pod, hpod, (firstFailedExit_eq_some_none_iff _).mp hfailed⟩

theorem build_releases_after_pod_success_demo :
    BuildEffect.createBuild (lit "admin") (lit "demo") (lit "proxy/demo/demo:git-01234567")
        (lit "buildpack") (lit "01234567") GoMap.empty () [] ∈
      (build demoConf demoWorld demoSha).1 ∧
    ∃ gitSha, Git.newSha demoSha = .ok gitSha ∧ lit "01234567" = gitSha.short ∧
      lit "demo" = demoConf.app ∧ lit "admin" = demoConf.username ∧
      ∃ tarKey data job containers,
        .putContent tarKey data ∈ (build demoConf demoWorld demoSha).1 ∧
        demoWorld.putContent tarKey data = none ∧
        .createJob job containers ∈ (build demoConf demoWorld demoSha).1 ∧
        demoWorld.createJob = none ∧
        waitForPodCondition job.name waitForPod.condition demoWorld.startCaches = .ok () ∧
        waitForPodEnd job.name demoWorld.endCaches = .ok () ∧
        ∃ pod, demoWorld.getPod = .ok pod ∧ ∀ s ∈ pod.containerStatuses, s.terminated = some 0 := by
  have h : BuildEffect.createBuild (lit "admin") (lit "demo") (lit "proxy/demo/demo:git-01234567")
      (lit "buildpack") (lit "01234567") GoMap.empty () [] ∈
        (build demoConf demoWorld demoSha).1 := by decide
  exact ⟨h, build_releases_after_pod_success demoConf demoWorld demoSha h⟩

/-- **The job reads the archive `build` uploaded.** The job a run of `build` creates has one
container, whose `TAR_PATH` is the key the run uploaded the archive to and whose
`SOURCE_VERSION` is the pushed revision's short sha, whatever variables the environment's
registry and storage settings add. -/
theorem build_job_reads_upload (rawGitSha : GoString) {job : Job}
    {containers : List (Container SecurityContext)}
    (h : .createJob job containers ∈ (build conf w rawGitSha).1) :
    ∃ gitSha tarKey data c, Git.newSha rawGitSha = .ok gitSha ∧
      .putContent tarKey data ∈ (build conf w rawGitSha).1 ∧ w.putContent tarKey data = none ∧
      containers = [c] ∧ lastValue c.env tarPath = some tarKey ∧
      lastValue c.env sourceVersion = some gitSha.short := by
  obtain h | ⟨gitSha, tmpDir, stack, data, hsha, hput, hputOk, -, h⟩ := mem_build_launch h
  · cases h
  obtain ⟨_, _, envAndImage, jobAndStore, henv, hjob, -, h | ⟨-, h | h | h⟩⟩ := mem_launch h
  rotate_left
  · cases h
  · cases h
  · exact absurd h createJob_not_mem_watch
  cases h
  obtain ⟨c, hread, henvOf⟩ := createBuilderJob_container hjob
  refine ⟨gitSha, _, data, c, hsha, hput, hputOk, hread, ?_, ?_⟩
  · rw [henvOf]
    exact lastValue_builderEnv (builderImageEnv_get?_eq_none henv (.inl rfl)) rfl
  · rw [henvOf]
    exact lastValue_builderEnv (builderImageEnv_get?_eq_none henv (.inr rfl)) rfl

theorem build_job_reads_upload_demo :
    ∃ job containers, .createJob job containers ∈ (build demoConf demoWorld demoSha).1 ∧
      ∃ gitSha tarKey data c, Git.newSha demoSha = .ok gitSha ∧
        .putContent tarKey data ∈ (build demoConf demoWorld demoSha).1 ∧
        demoWorld.putContent tarKey data = none ∧
        containers = [c] ∧ lastValue c.env tarPath = some tarKey ∧
        lastValue c.env sourceVersion = some gitSha.short := by
  obtain ⟨e, h, hjob⟩ : ∃ e ∈ (build demoConf demoWorld demoSha).1,
      (match e with | .createJob _ _ => true | _ => false) = true := by decide
  cases e <;> try cases hjob
  exact ⟨_, _, h, build_job_reads_upload demoConf demoWorld demoSha h⟩

/-- **The cleaner owns the upload.** Every key a run of `build` uploads to is `<dir>/tar` for a
directory `/<dir>` that the pattern `deleteFromStorage` compiles for the app matches, when the
app's name is plain and `regexp.Compile` follows RE2: once the app is gone, the cleaner deletes
that directory whenever the listing of `/home` has it and the storage driver's calls succeed. -/
theorem build_upload_under_cleaner_key {ε : Type} {compile : GoString → Option (GoString → Bool)}
    (hre : FollowsRE2 compile) (happ : Cleaner.IsPlainName conf.app) (rawGitSha key data : GoString)
    (h : .putContent key data ∈ (build conf w rawGitSha).1) :
    ∃ dir, key = dir ++ lit "/tar" ∧ Cleaner.KeyMatch compile conf.app (lit "/" ++ dir) ∧
      ∀ (drv : Cleaner.StorageDriver ε), drv.Succeeds → ∀ objs, lit "/" ++ dir ∈ objs →
        lit "/" ++ dir ∈ Cleaner.deleteFromStorage compile drv conf.app objs := by
  obtain ⟨gitSha, hsha, h | ⟨tmpDir, -, -, h | h | h⟩⟩ := mem_build h
  · cases h
  · cases h
  · cases h
  obtain ⟨_, h⟩ | ⟨stack, data', -, h | ⟨-, -, h⟩⟩ := mem_inTmpDir h
  · cases h
  · cases h
    have hmatch : Cleaner.KeyMatch compile conf.app (lit "/" ++ gitKeyPattern conf.app gitSha.short) :=
      (Cleaner.keyMatch_iff hre happ _).mpr (gitKeyPattern_isGitKeyOf hsha conf.app)
    exact ⟨_, rfl, hmatch, fun _ hdrv objs hobj =>
      (Cleaner.mem_deleteFromStorage hdrv).mpr ⟨hobj, hmatch⟩⟩
  · exact absurd h putContent_not_mem_launch

theorem build_upload_under_cleaner_key_demo :
    Cleaner.IsPlainName demoConf.app ∧
    BuildEffect.putContent (lit "home/demo:git-01234567/tar") (lit "archive") ∈
        (build demoConf demoWorld demoSha).1 ∧
      ∃ dir, lit "home/demo:git-01234567/tar" = dir ++ lit "/tar" ∧
        Cleaner.KeyMatch compileFragment demoConf.app (lit "/" ++ dir) ∧
        ∀ (drv : Cleaner.StorageDriver Unit), drv.Succeeds → ∀ objs, lit "/" ++ dir ∈ objs →
          lit "/" ++ dir ∈ Cleaner.deleteFromStorage compileFragment drv demoConf.app objs := by
  have happ : Cleaner.IsPlainName demoConf.app := by decide
  have h : BuildEffect.putContent (lit "home/demo:git-01234567/tar") (lit "archive") ∈
      (build demoConf demoWorld demoSha).1 := by decide
  exact ⟨happ, h, build_upload_under_cleaner_key demoConf demoWorld followsRE2_compileFragment happ
    demoSha _ _ h⟩

/-- **`build` returns `nil` only after the release.** A run of `build` that returns `nil`
published a release of the pushed revision for the app of the config, and the controller
accepted it. -/
theorem build_returns_nil_after_release (rawGitSha : GoString)
    (h : (build conf w rawGitSha).2 = .returned none) :
    ∃ gitSha imageName stackName procfile dryccfile dockerfile,
      Git.newSha rawGitSha = .ok gitSha ∧
      .createBuild conf.username conf.app imageName stackName gitSha.short procfile dryccfile
        dockerfile ∈ (build conf w rawGitSha).1 ∧
      checkAPICompat w.createBuild = none := by
  obtain ⟨gitSha, tmpDir, hsha, h, hbuild⟩ := build_returned_none h
  obtain ⟨stack, h, hinTmpDir⟩ := inTmpDir_returned_none h
  obtain ⟨imageName, jobName, h, hlaunch⟩ := launch_returned_none h
  obtain ⟨h, hwatch⟩ := watch_returned_none h
  obtain ⟨hcompat, procfile, dryccfile, dockerfile, hrelease⟩ := release_returned_none h
  exact ⟨gitSha, imageName, stack.name, procfile, dryccfile, dockerfile, hsha,
    hbuild _ (hinTmpDir _ (hlaunch _ (hwatch _ hrelease))), hcompat⟩

theorem build_returns_nil_after_release_demo :
    (build demoConf demoWorld demoSha).2 = .returned none ∧
    ∃ gitSha imageName stackName procfile dryccfile dockerfile,
      Git.newSha demoSha = .ok gitSha ∧
      .createBuild demoConf.username demoConf.app imageName stackName gitSha.short procfile
        dryccfile dockerfile ∈ (build demoConf demoWorld demoSha).1 ∧
      checkAPICompat demoWorld.createBuild = none := by
  have h : (build demoConf demoWorld demoSha).2 = .returned none := by decide
  exact ⟨h, build_returns_nil_after_release demoConf demoWorld demoSha h⟩

end Runs

end DryccBuilder.Gitreceive
