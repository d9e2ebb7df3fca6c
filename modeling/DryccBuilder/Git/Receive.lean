import DryccBuilder.Go.Flow
import DryccBuilder.Go.Exec
import DryccBuilder.Sshd.Server

/-!
# Receiving a push

`Receive` (`pkg/git/git.go`) is what the SSH server calls for a push. Unless the receive type is
`"mock"`, it works in the directory `filepath.Join(gitHome, repo)` and removes it with a deferred
`os.RemoveAll`. It makes the directory a bare repository with `createRepo`, writes the
pre-receive hook into it with `createPreReceiveHook`, and runs `git-shell -c "<operation>
'<repo>'"` in `gitHome` with the push's variables put before the server's own environment. It
copies the channel into the command's standard input, waits for it, and fails when the command
wrote anything to standard error, even if it exited with `0`.

## The model

A run is a `Go.Flow.Trace` of `ReceiveEffect`s, and what the calls outside the code return is a
field of `ReceiveWorld`, as for `build`. The template has one action, `{{.GitHome}}`, and
`preReceiveHook` is the text it renders. The mutex `createLock`, which makes concurrent calls of
`createRepo` take turns, and the logs are left out.

## What is proved

* `receive_runs_shell_after_hook`: `git-shell` starts only in a repository that existed or that
  `git init --bare` made, after the hook was written and made executable.
* `receive_returns_nil_iff`: when `Receive` returns `nil`.
-/

namespace DryccBuilder.Git

open Go Go.Flow Go.Exec Sshd

/-- The text of `preReceiveHookTplStr` before its action `{{.GitHome}}`. -/
def preReceiveHookHead : GoString :=
  lit "#!/bin/bash\n" ++
  lit "set -eo pipefail\n" ++
  lit "strip_remote_prefix() \x7b\n" ++
  lit "    stdbuf -i0 -o0 -e0 sed \"s/^/\"$'\\e[1G'\"/\"\n" ++
  lit "\x7d\n" ++
  lit "\n" ++
  lit "GIT_HOME="

/-- The text of `preReceiveHookTplStr` after its action `{{.GitHome}}`. -/
def preReceiveHookTail : GoString :=
  lit " \\\n" ++
  lit "SSH_CONNECTION=\"$SSH_CONNECTION\" \\\n" ++
  lit "SSH_ORIGINAL_COMMAND=\"$SSH_ORIGINAL_COMMAND\" \\\n" ++
  lit "REPOSITORY=\"$RECEIVE_REPO\" \\\n" ++
  lit "USERNAME=\"$RECEIVE_USER\" \\\n" ++
  lit "FINGERPRINT=\"$RECEIVE_FINGERPRINT\" \\\n" ++
  lit "POD_NAMESPACE=\"$POD_NAMESPACE\" \\\n" ++
  lit "boot git-receive | strip_remote_prefix\n"

/-- `preReceiveHookTpl.Execute(fd, map[string]string{"GitHome": gitHome})`: the text it writes,
`text/template` printing a string as it is. -/
def preReceiveHook (gitHome : GoString) : GoString :=
  preReceiveHookHead ++ gitHome ++ preReceiveHookTail

/-- What `os.Stat(path)` finds. -/
inductive StatResult where
  /-- `err == nil && fi.IsDir()`. -/
  | dir
  /-- `err == nil`, and not a directory. -/
  | notDir
  /-- `os.IsNotExist(err)`. -/
  | notExist
  /-- Any other error. -/
  | failed (err : GoString)
  deriving DecidableEq, Repr

/-- What `Receive` does outside its own state. -/
inductive ReceiveEffect where
  /-- `channel.Write(data)`. -/
  | write (data : GoString)
  /-- `os.RemoveAll(path)`. -/
  | removeAll (path : GoString)
  /-- `os.MkdirAll(path, perm)`. -/
  | mkdirAll (path : GoString) (perm : ℕ)
  /-- `cmd.CombinedOutput()` of the command `args`, in the directory `dir`. -/
  | run (args : List GoString) (dir : GoString)
  /-- `os.Create(path)`. -/
  | create (path : GoString)
  /-- The template writes `text` to the file `path`. -/
  | writeFile (path text : GoString)
  /-- The deferred `fd.Close()` of the file `path`. -/
  | close (path : GoString)
  /-- `os.Chmod(path, mode)`. -/
  | chmod (path : GoString) (mode : ℕ)
  /-- `cmd.Start()` of the command `args`, in the directory `dir`, with the environment `env`. -/
  | start (args : List GoString) (dir : GoString) (env : List GoString)
  /-- `io.Copy(inpipe, channel)`. -/
  | copyStdin
  deriving DecidableEq, Repr

/-- What the calls of `Receive` outside its code return. -/
structure ReceiveWorld where
  /-- `os.Stat(path)`. -/
  stat : GoString → StatResult
  /-- `os.MkdirAll(path, 0o755)`'s error. -/
  mkdirAll : GoString → Option GoString
  /-- `cmd.CombinedOutput()`'s error, by the command's arguments and directory. -/
  run : List GoString → GoString → Option GoString
  /-- `os.Create(path)`'s error. -/
  create : GoString → Option GoString
  /-- `preReceiveHookTpl.Execute`'s error. -/
  execute : Option GoString
  /-- `os.Chmod(path, 0o755)`'s error. -/
  chmod : GoString → Option GoString
  /-- `os.Environ()` of the server. -/
  osEnviron : List GoString
  /-- `cmd.StdinPipe()`'s error. -/
  stdinPipe : Option GoString
  /-- `cmd.Start()`'s error. -/
  start : Option GoString
  /-- `io.Copy(inpipe, channel)`'s error. -/
  copyStdin : Option GoString
  /-- `cmd.Wait()`'s error. -/
  wait : Option GoString
  /-- What `git-shell` wrote to standard error, which `errbuff` holds. -/
  stderr : GoString

/-- The arguments of `git init --bare`. -/
def gitInitArgs : List GoString := [lit "git", lit "init", lit "--bare"]

/-- `createRepo(repoPath)`: its effects, and whether it made the repository, or its error. -/
def createRepo (w : ReceiveWorld) (repoPath : GoString) :
    List ReceiveEffect × Except GoString Bool :=
  match w.stat repoPath with
  | .dir => ([], .ok false)
  | .notExist =>
    match w.mkdirAll repoPath with
    | some err => ([.mkdirAll repoPath 0o755], .error err)
    | none =>
      ([.mkdirAll repoPath 0o755, .run gitInitArgs repoPath],
        match w.run gitInitArgs repoPath with
        | some err => .error err
        | none => .ok true)
  | .notDir => ([], .error (lit "expected directory, found file"))
  | .failed err => ([], .error err)

/-- `filepath.Join(repoPath, "hooks", "pre-receive")`. -/
def hookPath (repoPath : GoString) : GoString :=
  FilePath.join [repoPath, lit "hooks", lit "pre-receive"]

/-- `createPreReceiveHook(gitHome, repoPath)`. -/
def createPreReceiveHook (w : ReceiveWorld) (gitHome repoPath : GoString) :
    Trace ReceiveEffect GoString :=
  let writePath := hookPath repoPath
  emit (.create writePath) <|
  check (w.create writePath)
    (fun err => lit "cannot create pre-receive hook file at " ++ writePath ++ lit " (" ++ err ++
      lit ")") <|
  defer
    (emit (.writeFile writePath (preReceiveHook gitHome)) <|
      check w.execute
        (fun err => lit "cannot write pre-receive hook to " ++ writePath ++ lit " (" ++ err ++
          lit ")") <|
      emit (.chmod writePath 0o755) <|
      check (w.chmod writePath)
        (fun err => lit "cannot change pre-receive hook script permissions (" ++ err ++ lit ")")
        ret)
    (.close writePath)

/-- `cmd.Env` before `os.Environ()` is appended; `SSH_ORIGINAL_COMMAND` is the command given to
`git-shell -c`. -/
def receiveEnv (c : ReceiveCall) : List GoString :=
  [lit "RECEIVE_USER=" ++ c.username, lit "RECEIVE_REPO=" ++ c.repo,
    lit "RECEIVE_FINGERPRINT=" ++ c.fingerprint, lit "SSH_ORIGINAL_COMMAND=" ++ c.shellCommand,
    lit "SSH_CONNECTION=" ++ c.conndata]

/-- `Receive(repo, operation, gitHome, channel, fingerprint, username, conndata,
receivetype)`. -/
def receive (w : ReceiveWorld) (c : ReceiveCall) : Trace ReceiveEffect GoString :=
  if c.receivetype = lit "mock" then emit (.write (lit "OK")) ret
  else
    let repoPath := FilePath.join [c.gitHome, c.repo]
    defer
      (invokeExpect (createRepo w repoPath)
          (fun err => lit "did not create new repo (" ++ err ++ lit ")") fun _ =>
        invoke (createPreReceiveHook w c.gitHome repoPath)
          (fun err => lit "did not write pre-receive hook (" ++ err ++ lit ")") <|
        let args := [lit "git-shell", lit "-c", c.shellCommand]
        check w.stdinPipe id <|
        emit (.start args c.gitHome (receiveEnv c ++ w.osEnviron)) <|
        check w.start
          (fun err => lit "failed to start git pre-receive hook: " ++ err ++ lit " (" ++
            w.stderr ++ lit ")") <|
        emit .copyStdin <|
        check w.copyStdin
          (fun err => lit "failed to write git objects into the git pre-receive hook (" ++ err ++
            lit ")") <|
        check w.wait
          (fun err => lit "failed to run git pre-receive hook: " ++ w.stderr ++ lit " (" ++ err ++
            lit ")") <|
        if w.stderr.length > 0 then fail w.stderr else ret)
      (.removeAll repoPath)

/-! ### The steps -/

section Steps

variable {w : ReceiveWorld} {e : ReceiveEffect}

/-- `createRepo` makes at most the directory and the repository in it. -/
theorem mem_createRepo {repoPath : GoString} (h : e ∈ (createRepo w repoPath).1) :
    e = .mkdirAll repoPath 0o755 ∨ e = .run gitInitArgs repoPath := by
  revert h
  unfold createRepo
  cases w.stat repoPath with
  | dir => simp
  | notDir => simp
  | notExist =>
    cases w.mkdirAll repoPath with
    | some err => simpa using .inl
    | none => simp
  | failed err => simp

/-- `createRepo` succeeds where the repository is a directory already, or where it makes the
directory and `git init --bare` in it succeeds. -/
theorem createRepo_ok_iff {repoPath : GoString} :
    (∃ created, (createRepo w repoPath).2 = .ok created) ↔ w.stat repoPath = .dir ∨
      w.stat repoPath = .notExist ∧ w.mkdirAll repoPath = none ∧
        w.run gitInitArgs repoPath = none := by
  unfold createRepo
  cases w.stat repoPath with
  | dir => simp
  | notDir => simp
  | notExist =>
    cases w.mkdirAll repoPath with
    | some err => simp
    | none => cases w.run gitInitArgs repoPath <;> simp
  | failed err => simp

/-- The hook's steps touch only its file. -/
theorem mem_createPreReceiveHook {gitHome repoPath : GoString}
    (h : e ∈ (createPreReceiveHook w gitHome repoPath).1) :
    e = .create (hookPath repoPath) ∨ e = .writeFile (hookPath repoPath) (preReceiveHook gitHome) ∨
      e = .chmod (hookPath repoPath) 0o755 ∨ e = .close (hookPath repoPath) := by
  simp only [createPreReceiveHook, mem_emit, mem_check, mem_defer, not_mem_ret, and_false,
    or_false] at h
  rcases h with rfl | ⟨-, (rfl | ⟨-, rfl⟩) | rfl⟩
  · exact .inl rfl
  · exact .inr (.inl rfl)
  · exact .inr (.inr (.inl rfl))
  · exact .inr (.inr (.inr rfl))

theorem createPreReceiveHook_returned_none_iff {gitHome repoPath : GoString} :
    (createPreReceiveHook w gitHome repoPath).2 = .returned none ↔
      w.create (hookPath repoPath) = none ∧ w.execute = none ∧
        w.chmod (hookPath repoPath) = none := by
  simp only [createPreReceiveHook, exit_emit, check_returned_none, exit_defer, exit_ret, and_true]

/-- Once the file is made, the rendered template is written to it. -/
theorem writeFile_mem_createPreReceiveHook {gitHome repoPath : GoString}
    (h : w.create (hookPath repoPath) = none) :
    .writeFile (hookPath repoPath) (preReceiveHook gitHome) ∈
      (createPreReceiveHook w gitHome repoPath).1 := by
  simp only [createPreReceiveHook, mem_emit, mem_check, h, mem_defer, true_and, true_or, or_true]

/-- The last check passes exactly when nothing was written to standard error. -/
theorem stderr_check_returned_none (stderr : GoString) :
    (if stderr.length > 0 then fail stderr else ret : Trace ReceiveEffect GoString).2 =
      .returned none ↔ stderr = [] := by
  cases stderr <;> simp

end Steps

/-! ### A whole run of `Receive` -/

section Runs

variable (w : ReceiveWorld) (c : ReceiveCall)

/-- A push of `demo.git` to the server, whose `gitHome` is `/workspace`. -/
def demoCall : ReceiveCall where
  repo := lit "demo.git"
  operation := lit "git-receive-pack"
  gitHome := lit "/workspace"
  fingerprint := lit "b4:2e:9a:11"
  username := lit "admin"
  conndata := lit "10.0.0.1 50000 10.0.0.2 2222"
  receivetype := lit "gitreceive"

/-- A server where the repository is new and every call succeeds. -/
def freshWorld : ReceiveWorld where
  stat _ := .notExist
  mkdirAll _ := none
  run _ _ := none
  create _ := none
  execute := none
  chmod _ := none
  osEnviron := [lit "PATH=/usr/bin"]
  stdinPipe := none
  start := none
  copyStdin := none
  wait := none
  stderr := []

/-- **`git-shell` runs in a repository with its hook.** `Receive` starts
`git-shell -c "<operation> '<repo>'"` in `gitHome` only for a call that is not a mock, in a
repository that was a directory already or that it made with `git init --bare`, and after it
wrote the pre-receive hook rendered for `gitHome` and made it executable. The command's
environment is the push's variables followed by the server's. -/
theorem receive_runs_shell_after_hook {args : List GoString} {dir : GoString}
    {env : List GoString} (h : .start args dir env ∈ (receive w c).1) :
    ∃ repoPath, c.repoPath = some repoPath ∧
      args = [lit "git-shell", lit "-c", c.shellCommand] ∧ dir = c.gitHome ∧
      env = receiveEnv c ++ w.osEnviron ∧
      (w.stat repoPath = .dir ∨ w.stat repoPath = .notExist ∧ w.mkdirAll repoPath = none ∧
        w.run gitInitArgs repoPath = none) ∧
      .writeFile (hookPath repoPath) (preReceiveHook c.gitHome) ∈ (receive w c).1 ∧
      w.chmod (hookPath repoPath) = none := by
  unfold receive at h
  split at h
  · simp at h
  rename_i hmock
  simp only [mem_defer, mem_invokeExpect, mem_invoke, mem_check, mem_emit, reduceCtorEq,
    false_or, or_false] at h
  rcases h with h | ⟨created, hcreated, h | ⟨hhook, hpipe, h⟩⟩
  · rcases mem_createRepo h with h | h <;> cases h
  · rcases mem_createPreReceiveHook h with h | h | h | h <;> cases h
  have hstart : ReceiveEffect.start args dir env =
      .start [lit "git-shell", lit "-c", c.shellCommand] c.gitHome
        (receiveEnv c ++ w.osEnviron) := by
    rcases h with h | ⟨-, -, -, h⟩
    · exact h
    · split at h <;> simp at h
  cases hstart
  have hrepo := createRepo_ok_iff.mp ⟨created, hcreated⟩
  obtain ⟨hcreate, -, hchmod⟩ := createPreReceiveHook_returned_none_iff.mp hhook
  refine ⟨_, by simp [ReceiveCall.repoPath, hmock], rfl, rfl, rfl, hrepo, ?_, hchmod⟩
  simp only [receive, if_neg hmock, mem_defer, mem_invokeExpect, mem_invoke]
  exact .inl (.inr ⟨created, hcreated, .inl (writeFile_mem_createPreReceiveHook hcreate)⟩)

theorem receive_runs_shell_after_hook_push :
    .start [lit "git-shell", lit "-c", lit "git-receive-pack 'demo.git'"] (lit "/workspace")
        (receiveEnv demoCall ++ [lit "PATH=/usr/bin"]) ∈ (receive freshWorld demoCall).1 ∧
    ∃ repoPath, demoCall.repoPath = some repoPath ∧
      [lit "git-shell", lit "-c", lit "git-receive-pack 'demo.git'"] =
        [lit "git-shell", lit "-c", demoCall.shellCommand] ∧
      lit "/workspace" = demoCall.gitHome ∧
      receiveEnv demoCall ++ [lit "PATH=/usr/bin"] = receiveEnv demoCall ++ freshWorld.osEnviron ∧
      (freshWorld.stat repoPath = .dir ∨ freshWorld.stat repoPath = .notExist ∧
        freshWorld.mkdirAll repoPath = none ∧ freshWorld.run gitInitArgs repoPath = none) ∧
      .writeFile (hookPath repoPath) (preReceiveHook demoCall.gitHome) ∈
        (receive freshWorld demoCall).1 ∧
      freshWorld.chmod (hookPath repoPath) = none := by
  have h : ReceiveEffect.start [lit "git-shell", lit "-c", lit "git-receive-pack 'demo.git'"]
      (lit "/workspace") (receiveEnv demoCall ++ [lit "PATH=/usr/bin"]) ∈
        (receive freshWorld demoCall).1 := by decide
  exact ⟨h, receive_runs_shell_after_hook freshWorld demoCall h⟩

/-- **When `Receive` returns `nil`.** A call that is not a mock returns `nil` exactly when the
repository is there or is made, the hook is written, `git-shell` starts, reads the channel and
exits with `0`, and it wrote nothing to standard error. -/
theorem receive_returns_nil_iff :
    (receive w c).2 = .returned none ↔ c.receivetype = lit "mock" ∨
      (w.stat (FilePath.join [c.gitHome, c.repo]) = .dir ∨
        w.stat (FilePath.join [c.gitHome, c.repo]) = .notExist ∧
          w.mkdirAll (FilePath.join [c.gitHome, c.repo]) = none ∧
          w.run gitInitArgs (FilePath.join [c.gitHome, c.repo]) = none) ∧
      w.create (hookPath (FilePath.join [c.gitHome, c.repo])) = none ∧ w.execute = none ∧
      w.chmod (hookPath (FilePath.join [c.gitHome, c.repo])) = none ∧
      w.stdinPipe = none ∧ w.start = none ∧ w.copyStdin = none ∧ w.wait = none ∧
      w.stderr = [] := by
  unfold receive
  split
  · simp [*]
  rename_i hmock
  simp only [exit_defer, invokeExpect_returned_none, invoke_returned_none, check_returned_none,
    exit_emit, createPreReceiveHook_returned_none_iff, stderr_check_returned_none, hmock,
    false_or, exists_and_right, createRepo_ok_iff, and_assoc]

end Runs

end DryccBuilder.Git
