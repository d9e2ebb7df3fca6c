import DryccBuilder.Go.FilePath
import DryccBuilder.Controller
import DryccBuilder.Sshd.WrapInLock

/-!
# The SSH server: authentication and exec requests

`AuthKey` (`pkg/sshd/server.go`) asks the controller for the user of a key and stores the
user's apps, joined with `", "`, in the `"apps"` extension of the connection's permissions.
`answer` serves the requests of a session channel: it replies to `env`, runs `ping`, and for
`git-receive-pack` and `git-upload-pack` cleans the repository name and calls `wrapInLock`
with the `fn` that `runReceive` builds. That `fn` replies `true`, checks the name against the
`"apps"` extension with `strings.Contains`, and calls `git.Receive` (`pkg/git/git.go`), which
works in the directory `filepath.Join(gitHome, repo)` and removes it when it returns.

## The model

* The controller's answers (`controller.New`, `hooks.UserFromKey`) are arguments of `authKey`;
  `checkAPICompat` is `controller.CheckAPICompat` (`pkg/controller/utils.go`).
* An exec request carries its command as `ssh.Unmarshal(req.Payload, e)` decodes it into
  `e.Value` (the payload decoder is outside the repository); every string is the decoding of
  some payload, so ranging over commands ranges over what any payload can give.
* `answer` returns the list of `Event`s it causes on the channel, in order, and its return
  value. What `wrapInLock` returns depends on the lock, the timer and `fn`
  (`DryccBuilder.Sshd.WrapInLock`); here it is the argument `wrap`. The `wrapInLock` event
  records the name and what `fn` does when it runs (`runReceive`).
* `git.Receive` is modelled by the call it receives (`ReceiveCall`), the directory it creates
  and removes (`ReceiveCall.repoPath`) and the command it gives `git-shell`.
* Logging is not modelled.

## What is proved

* `answer_eq`: the request loop replies to every request before the first `exec` and returns
  in it; `exitStatuses_answer_length_le`: `answer` sends at most one exit status, that of the
  `exec`, and `answer_exit_zero_iff` says when it is `0` (`ExitsZero`).
* `runReceive_of_mem_apps`: every app of the user reaches `git.Receive`;
  `cleanRepoName_no_shell_bytes`: an accepted name has no `$`, backquote or quote.
* The last section gives the inputs at which the checks fall short: a push command without a
  repository exits with `0` after a `false` reply, a part of an app's name passes the
  `strings.Contains` check, and a name with a quote between its dots passes the `..` check
  and leaves `gitHome`.
-/

namespace DryccBuilder.Sshd

open Go Controller

/-- The errors of the server's request handling. -/
inductive ServerError where
  /-- `errBuildAppPerm`: "user has no permission to build the app". -/
  | buildAppPerm
  /-- `errDirPerm`: "cannot change directory in file name". -/
  | dirPerm
  /-- `errDirCreatePerm`: "empty repo name". -/
  | dirCreatePerm
  /-- An error `git.Receive` returns. -/
  | receiveFailed
  deriving DecidableEq, Repr

/-! ### Authentication -/

/-- What `hooks.UserFromKey` returns. -/
structure UserInfo where
  /-- `Username`. -/
  username : GoString
  /-- `Apps`: the apps the user may push to. -/
  apps : List GoString

/-- The `Extensions` of the `ssh.Permissions` that `AuthKey` returns. -/
structure Permissions where
  /-- `"user"`. -/
  user : GoString
  /-- `"fingerprint"`. -/
  fingerprint : GoString
  /-- `"apps"`. -/
  apps : GoString
  deriving DecidableEq, Repr

/-- `AuthKey(key, cnf)`, where `fp` is `fingerprint(key)`, `newErr` the error of
`controller.New` and `(userInfo, err)` what `hooks.UserFromKey` returns. -/
def authKey (newErr : Option ControllerError) (fp : GoString) (userInfo : UserInfo)
    (err : Option ControllerError) : Except ControllerError Permissions :=
  match newErr with
  | some e => .error e
  | none =>
    match checkAPICompat err, err with
    | some _, some e => .error e
    | _, _ =>
      .ok { user := userInfo.username, fingerprint := fp, apps := join userInfo.apps (lit ", ") }

/-- The permissions `AuthKey` grants carry the user's apps joined with `", "`. -/
theorem authKey_ok {fp : GoString} {userInfo : UserInfo} {err : Option ControllerError}
    {p : Permissions} (h : authKey none fp userInfo err = .ok p) :
    p = { user := userInfo.username, fingerprint := fp, apps := join userInfo.apps (lit ", ") } := by
  simp only [authKey] at h
  split at h
  · cases h
  · cases h
    rfl

/-! ### Commands and repository names -/

/-- `cleanExec(pay)`, of the command `value` that `ssh.Unmarshal` decodes from `pay`:
`strings.NewReplacer("$", "", "`", "'")` removes every `$` and turns every backquote into a
quote. -/
def cleanExec (value : GoString) : GoString :=
  replacer [(byte "$", []), (byte "`", lit "'")] value

/-- `cleanRepoName(name)`: the empty and `..` checks on the name as given, then the quotes
removed, then one `.git` suffix and one leading `/` trimmed. -/
def cleanRepoName (name : GoString) : Except ServerError GoString :=
  if name.length = 0 then .error .dirCreatePerm
  else if contains name (lit "..") then .error .dirPerm
  else
    let name := replaceAll name (byte "'") []
    .ok (trimPrefix (trimSuffix name (lit ".git")) (lit "/"))

/-- `cleanExec` leaves no `$` and no backquote. -/
theorem cleanExec_no_dollar_backquote (value : GoString) :
    byte "$" ∉ cleanExec value ∧ byte "`" ∉ cleanExec value := by
  have hpairs : ∀ a b, b ∈ ([(byte "$", []), (byte "`", lit "'")].lookup a).getD [a] →
      b ≠ byte "$" ∧ b ≠ byte "`" := by
    intro a b hb
    by_cases hd : a = byte "$"
    · simp [hd, List.lookup] at hb
    have hd' : (a == byte "$") = false := beq_eq_false_iff_ne.mpr hd
    by_cases hq : a = byte "`"
    · have hne : (byte "`" == byte "$") = false := by decide
      have hquote : lit "'" = [byte "'"] := by decide
      simp [hne, hq, List.lookup, hquote] at hb
      subst hb
      decide
    · simp [List.lookup, hd', beq_eq_false_iff_ne.mpr hq] at hb
      subst hb
      exact ⟨hd, hq⟩
  constructor
  · intro h
    obtain ⟨a, -, hb⟩ := mem_replacer.mp h
    exact (hpairs a _ hb).1 rfl
  · intro h
    obtain ⟨a, -, hb⟩ := mem_replacer.mp h
    exact (hpairs a _ hb).2 rfl

/-- What `cleanRepoName` accepts is a part of the name with its quotes removed. -/
theorem cleanRepoName_ok_isInfix {name repoName : GoString} (h : cleanRepoName name = .ok repoName) :
    repoName <:+: replaceAll name (byte "'") [] := by
  unfold cleanRepoName at h
  split_ifs at h
  cases h
  exact (trimPrefix_isSuffix _ _).isInfix.trans (trimSuffix_isPrefix _ _).isInfix

/-- A name `cleanRepoName` accepts from a command `cleanExec` cleaned has none of the bytes
`$`, backquote and quote. -/
theorem cleanRepoName_no_shell_bytes {value name repoName : GoString}
    (hname : name ∈ splitN (cleanExec value) (byte " ") 2)
    (h : cleanRepoName name = .ok repoName) :
    byte "$" ∉ repoName ∧ byte "`" ∉ repoName ∧ byte "'" ∉ repoName := by
  have hsub : ∀ b ∈ repoName, b ∈ cleanExec value ∧ b ≠ byte "'" := by
    intro b hb
    rcases mem_replaceAll.mp ((cleanRepoName_ok_isInfix h).subset hb) with ⟨-, hnil⟩ | ⟨hb', hq⟩
    · simp at hnil
    · exact ⟨(infix_of_mem_splitN hname).subset hb', hq⟩
  obtain ⟨hd, hbq⟩ := cleanExec_no_dollar_backquote value
  exact ⟨fun hb => hd (hsub _ hb).1, fun hb => hbq (hsub _ hb).1, fun hb => (hsub _ hb).2 rfl⟩

/-- The command of a push of `demo.git`, with the quotes the git client puts around the name. -/
theorem cleanRepoName_no_shell_bytes_push :
    lit "'demo.git'" ∈ splitN (cleanExec (lit "git-receive-pack 'demo.git'")) (byte " ") 2 ∧
      cleanRepoName (lit "'demo.git'") = .ok (lit "demo") ∧
      byte "$" ∉ lit "demo" ∧ byte "`" ∉ lit "demo" ∧ byte "'" ∉ lit "demo" := by
  have hname :
      lit "'demo.git'" ∈ splitN (cleanExec (lit "git-receive-pack 'demo.git'")) (byte " ") 2 := by
    decide
  have hclean : cleanRepoName (lit "'demo.git'") = .ok (lit "demo") := by decide
  exact ⟨hname, hclean, cleanRepoName_no_shell_bytes hname hclean⟩

/-! ### Receiving -/

/-- The arguments of a call `git.Receive(repo, operation, gitHome, channel, fingerprint,
username, conndata, receivetype)`. -/
structure ReceiveCall where
  repo : GoString
  operation : GoString
  gitHome : GoString
  fingerprint : GoString
  username : GoString
  conndata : GoString
  receivetype : GoString
  deriving DecidableEq, Repr

/-- The directory `git.Receive` creates with `createRepo` and removes with its deferred
`os.RemoveAll`: `filepath.Join(gitHome, repo)`, unless `receivetype` is `"mock"`, where it
only writes `OK`. -/
def ReceiveCall.repoPath (c : ReceiveCall) : Option GoString :=
  if c.receivetype = lit "mock" then none else some (FilePath.join [c.gitHome, c.repo])

/-- The command `git.Receive` gives `git-shell -c`: `fmt.Sprintf("%s '%s'", operation, repo)`. -/
def ReceiveCall.shellCommand (c : ReceiveCall) : GoString :=
  c.operation ++ lit " '" ++ c.repo ++ lit "'"

/-- What the `fn` that `runReceive` builds does when `wrapInLock` runs it, after replying
`true` to the request. -/
inductive ReceiveRun where
  /-- The name is not in the `"apps"` extension: return `errBuildAppPerm`. -/
  | denied
  /-- Call `git.Receive` and return what it returns. -/
  | receive (call : ReceiveCall)
  deriving DecidableEq, Repr

/-- The fields of `server` that `answer` reads. -/
structure Server where
  /-- `gitHome`. -/
  gitHome : GoString
  /-- `receivetype`. -/
  receivetype : GoString

/-- `s.runReceive(req, sshConn, channel, repoName, parts, connData)`. -/
def runReceive (s : Server) (perm : Permissions) (repoName : GoString) (parts : List GoString)
    (connData : GoString) : ReceiveRun :=
  if !contains perm.apps repoName then .denied
  else
    .receive
      { repo := repoName ++ lit ".git"
        operation := parts.headD []
        gitHome := s.gitHome
        fingerprint := perm.fingerprint
        username := perm.user
        conndata := connData
        receivetype := s.receivetype }

/-- Every app of the user passes the check of `fn`, which then calls `git.Receive` on it. -/
theorem runReceive_of_mem_apps (s : Server) (condata : GoString) {fp : GoString}
    {userInfo : UserInfo} {err : Option ControllerError} {p : Permissions}
    (h : authKey none fp userInfo err = .ok p) {app : GoString} (happ : app ∈ userInfo.apps)
    (parts : List GoString) :
    runReceive s p app parts condata =
      .receive
        { repo := app ++ lit ".git"
          operation := parts.headD []
          gitHome := s.gitHome
          fingerprint := fp
          username := userInfo.username
          conndata := condata
          receivetype := s.receivetype } := by
  obtain rfl := authKey_ok h
  have hc : contains (join userInfo.apps (lit ", ")) app = true := contains_join_of_mem _ happ
  rw [runReceive, hc]
  rfl

/-- `admin`, whose apps are `demo` and `shop`, pushes `demo`. -/
theorem runReceive_of_mem_apps_demo :
    authKey none (lit "b4:2e:9a:11") ⟨lit "admin", [lit "demo", lit "shop"]⟩ none =
        .ok ⟨lit "admin", lit "b4:2e:9a:11", lit "demo, shop"⟩ ∧
      lit "demo" ∈ [lit "demo", lit "shop"] ∧
      runReceive ⟨lit "/workspace", lit "gitreceive"⟩
          ⟨lit "admin", lit "b4:2e:9a:11", lit "demo, shop"⟩ (lit "demo")
          [lit "git-receive-pack", lit "'demo'"] (lit "10.0.0.1 50000 10.0.0.2 2222") =
        .receive
          { repo := lit "demo" ++ lit ".git"
            operation := [lit "git-receive-pack", lit "'demo'"].headD []
            gitHome := lit "/workspace"
            fingerprint := lit "b4:2e:9a:11"
            username := lit "admin"
            conndata := lit "10.0.0.1 50000 10.0.0.2 2222"
            receivetype := lit "gitreceive" } := by
  have hauth : authKey none (lit "b4:2e:9a:11") ⟨lit "admin", [lit "demo", lit "shop"]⟩ none =
      .ok ⟨lit "admin", lit "b4:2e:9a:11", lit "demo, shop"⟩ := by
    decide
  have happ : lit "demo" ∈ [lit "demo", lit "shop"] := List.mem_cons_self
  exact ⟨hauth, happ, runReceive_of_mem_apps _ _ hauth happ _⟩

/-! ### Answering requests -/

/-- A request on a session channel: its type and, for `exec`, the command. -/
structure Request where
  /-- `req.Type`. -/
  type : GoString
  /-- The command `ssh.Unmarshal` decodes from `req.Payload`. -/
  payload : GoString

/-- What `answer` does on the channel. -/
inductive Event where
  /-- `req.Reply(ok, nil)`. -/
  | reply (ok : Bool)
  /-- `sendExitStatus(status, channel)`: an `"exit-status"` request. -/
  | exitStatus (status : UInt32)
  /-- `channel.Write(data)`. -/
  | write (data : GoString)
  /-- `channel.Stderr().Write(data)`. -/
  | writeStderr (data : GoString)
  /-- `wrapInLock(s.pushLock, repoName, fn)`, `fn` doing what `run` says when it runs. -/
  | wrapInLock (repoName : GoString) (run : ReceiveRun)
  /-- The deferred `channel.Close()`. -/
  | close
  deriving DecidableEq, Repr

/-- `gitPktLine(w, s)`: `fmt.Fprintf(w, "%04x%s", len(s)+4, s)`. -/
def gitPktLine (s : GoString) : GoString := hex04 (s.length + 4) ++ s

/-- `multiplePush`. -/
def multiplePush : GoString := lit "Another git push is ongoing"

/-- `Ping(channel, req)`: write `pong`, send exit status 0, reply `true`. -/
def ping : List Event := [.write (lit "pong"), .exitStatus 0, .reply true]

/-- The status of an `"exit-status"` request, and `none` for every other event. -/
@[simp] def Event.exitStatus? : Event → Option UInt32
  | .exitStatus status => some status
  | _ => none

/-- The statuses of the `"exit-status"` requests among the events, in order. -/
def exitStatuses (evs : List Event) : List UInt32 := evs.filterMap Event.exitStatus?

@[simp] theorem exitStatuses_append (a b : List Event) :
    exitStatuses (a ++ b) = exitStatuses a ++ exitStatuses b := List.filterMap_append

@[simp] theorem exitStatuses_nil : exitStatuses [] = [] := rfl

@[simp] theorem exitStatuses_cons (e : Event) (evs : List Event) :
    exitStatuses (e :: evs) = e.exitStatus?.toList ++ exitStatuses evs := by
  cases e <;> rfl

/-- The requests before the first `exec`, and that request's command: `answer` replies to the
former and returns in the latter. -/
def takeToExec : List Request → List Request × Option GoString
  | [] => ([], none)
  | req :: reqs =>
    if req.type = lit "exec" then ([], some req.payload)
    else
      let r := takeToExec reqs
      (req :: r.1, r.2)

/-- The reply `answer` gives to a request it does not return in: `true` to `env`, `false` to
every other type. -/
def replyOf (req : Request) : Event := .reply (decide (req.type = lit "env"))

@[simp] theorem exitStatuses_map_replyOf (reqs : List Request) :
    exitStatuses (reqs.map replyOf) = [] := by
  simp [exitStatuses, replyOf, Event.exitStatus?]

section Answer

variable (s : Server) (perm : Permissions) (condata : GoString)
  (wrap : GoString → WrapResult ServerError)

/-- The `"exec"` case of `answer`, which always returns. -/
def answerExec (value : GoString) : List Event × Option ServerError :=
  let clean := cleanExec value
  let parts := splitN clean (byte " ") 2
  let cmd := parts.headD []
  if cmd = lit "ping" then (ping, none)
  else if cmd = lit "git-receive-pack" ∨ cmd = lit "git-upload-pack" then
    if parts.length < 2 then
      -- `break` leaves the inner `switch` for the `sendExitStatus(0, channel)` after it
      ([.reply false, .exitStatus 0], none)
    else
      match cleanRepoName (parts.getD 1 []) with
      | .error e => ([.writeStderr (lit "No repo given")], some e)
      | .ok repoName =>
        let fn := runReceive s perm repoName parts condata
        match wrap repoName with
        | .alreadyLocked =>
          ([.wrapInLock repoName fn, .write (gitPktLine (lit "ERR " ++ multiplePush ++ lit "\n")),
            .exitStatus 1], none)
        | res => ([.wrapInLock repoName fn, .exitStatus (if res = .fnReturned none then 0 else 1)],
            none)
  else ([.reply false], none)

/-- `s.answer(channel, requests, condata, sshconn)` over the requests that arrive. -/
def answer : List Request → List Event × Option ServerError
  | [] => ([.close], none)
  | req :: reqs =>
    if req.type = lit "env" then
      let r := answer reqs
      (.reply true :: r.1, r.2)
    else if req.type = lit "exec" then
      let r := answerExec s perm condata wrap req.payload
      (r.1 ++ [.close], r.2)
    else
      let r := answer reqs
      (.reply false :: r.1, r.2)

theorem answer_cons_env {req : Request} (reqs : List Request) (h : req.type = lit "env") :
    answer s perm condata wrap (req :: reqs) =
      (.reply true :: (answer s perm condata wrap reqs).1, (answer s perm condata wrap reqs).2) := by
  simp only [answer, if_pos h]

theorem answer_cons_exec {req : Request} (reqs : List Request) (h : req.type = lit "exec") :
    answer s perm condata wrap (req :: reqs) =
      ((answerExec s perm condata wrap req.payload).1 ++ [.close],
        (answerExec s perm condata wrap req.payload).2) := by
  have henv : req.type ≠ lit "env" := by rw [h]; decide
  simp only [answer, if_neg henv, if_pos h]

theorem answer_cons_other {req : Request} (reqs : List Request) (henv : req.type ≠ lit "env")
    (hexec : req.type ≠ lit "exec") :
    answer s perm condata wrap (req :: reqs) =
      (.reply false :: (answer s perm condata wrap reqs).1, (answer s perm condata wrap reqs).2) := by
  simp only [answer, if_neg henv, if_neg hexec]

/-- **The request loop.** `answer` replies to every request before the first `exec` and returns
in that one; without an `exec` it runs until the requests end. -/
theorem answer_eq (reqs : List Request) :
    answer s perm condata wrap reqs =
      match takeToExec reqs with
      | (pre, none) => (pre.map replyOf ++ [.close], none)
      | (pre, some v) =>
        (pre.map replyOf ++ (answerExec s perm condata wrap v).1 ++ [.close],
          (answerExec s perm condata wrap v).2) := by
  induction reqs with
  | nil => rfl
  | cons req reqs ih =>
    by_cases hexec : req.type = lit "exec"
    · rw [answer_cons_exec s perm condata wrap reqs hexec, takeToExec, if_pos hexec]
      simp
    have htake : takeToExec (req :: reqs) = (req :: (takeToExec reqs).1, (takeToExec reqs).2) := by
      rw [takeToExec, if_neg hexec]
    have hreply : ∃ b, replyOf req = .reply b ∧
        answer s perm condata wrap (req :: reqs) =
          (.reply b :: (answer s perm condata wrap reqs).1, (answer s perm condata wrap reqs).2) := by
      by_cases henv : req.type = lit "env"
      · exact ⟨true, by simp [replyOf, henv], answer_cons_env s perm condata wrap reqs henv⟩
      · exact ⟨false, by simp [replyOf, henv], answer_cons_other s perm condata wrap reqs henv hexec⟩
    obtain ⟨b, hb, hans⟩ := hreply
    rw [hans, htake, ih]
    rcases takeToExec reqs with ⟨pre, _ | v⟩ <;> simp [hb]

/-! ### The branches of the `exec` case -/

/-- A push command is not `ping`. -/
theorem ne_ping_of_push {cmd : GoString}
    (hcmd : cmd = lit "git-receive-pack" ∨ cmd = lit "git-upload-pack") : cmd ≠ lit "ping" := by
  rcases hcmd with rfl | rfl <;> decide

section Exec

variable {value : GoString} {parts : List GoString}
  (hp : splitN (cleanExec value) (byte " ") 2 = parts)
include hp

theorem answerExec_ping (h : parts.headD [] = lit "ping") :
    answerExec s perm condata wrap value = (ping, none) := by
  subst hp
  simp only [answerExec, if_pos h]

theorem answerExec_short
    (hcmd : parts.headD [] = lit "git-receive-pack" ∨ parts.headD [] = lit "git-upload-pack")
    (hlen : parts.length < 2) :
    answerExec s perm condata wrap value = ([.reply false, .exitStatus 0], none) := by
  have hping := ne_ping_of_push hcmd
  subst hp
  simp only [answerExec, if_neg hping, if_pos hcmd, if_pos hlen]

theorem answerExec_badName {e : ServerError}
    (hcmd : parts.headD [] = lit "git-receive-pack" ∨ parts.headD [] = lit "git-upload-pack")
    (hlen : ¬ parts.length < 2) (hname : cleanRepoName (parts.getD 1 []) = .error e) :
    answerExec s perm condata wrap value = ([.writeStderr (lit "No repo given")], some e) := by
  have hping := ne_ping_of_push hcmd
  subst hp
  simp only [answerExec, if_neg hping, if_pos hcmd, if_neg hlen, hname]

theorem answerExec_push {repoName : GoString}
    (hcmd : parts.headD [] = lit "git-receive-pack" ∨ parts.headD [] = lit "git-upload-pack")
    (hlen : ¬ parts.length < 2) (hname : cleanRepoName (parts.getD 1 []) = .ok repoName) :
    answerExec s perm condata wrap value =
      (.wrapInLock repoName (runReceive s perm repoName parts condata) ::
        (if wrap repoName = .alreadyLocked then
          [.write (gitPktLine (lit "ERR " ++ multiplePush ++ lit "\n")), .exitStatus 1]
        else [.exitStatus (if wrap repoName = .fnReturned none then 0 else 1)]), none) := by
  have hping := ne_ping_of_push hcmd
  subst hp
  simp only [answerExec, if_neg hping, if_pos hcmd, if_neg hlen, hname]
  cases wrap repoName <;> simp

theorem answerExec_illegal (hping : parts.headD [] ≠ lit "ping")
    (hcmd : ¬ (parts.headD [] = lit "git-receive-pack" ∨ parts.headD [] = lit "git-upload-pack")) :
    answerExec s perm condata wrap value = ([.reply false], none) := by
  subst hp
  simp only [answerExec, if_neg hping, if_neg hcmd]

end Exec

/-! ### Exit statuses -/

/-- The commands after which the `exec` case sends exit status `0`: `ping`; a push command
without a repository, where the `break` leaves the inner `switch` for the
`sendExitStatus(0, channel)` after it; a push whose name is accepted and whose `wrapInLock`
returns `nil`. -/
def ExitsZero (value : GoString) : Prop :=
  let parts := splitN (cleanExec value) (byte " ") 2
  let cmd := parts.headD []
  cmd = lit "ping" ∨ ((cmd = lit "git-receive-pack" ∨ cmd = lit "git-upload-pack") ∧
    (parts.length < 2 ∨ ∃ repoName, cleanRepoName (parts.getD 1 []) = .ok repoName ∧
      wrap repoName = .fnReturned none))

/-- **The exit status of the `exec` case**: it sends none, or one, and that one is `0` exactly
after the commands of `ExitsZero`. -/
theorem exitStatuses_answerExec (value : GoString) :
    exitStatuses (answerExec s perm condata wrap value).1 = [] ∧ ¬ ExitsZero wrap value ∨
      ∃ status, exitStatuses (answerExec s perm condata wrap value).1 = [status] ∧
        (status = 0 ↔ ExitsZero wrap value) := by
  obtain ⟨parts, hp⟩ : ∃ parts, splitN (cleanExec value) (byte " ") 2 = parts := ⟨_, rfl⟩
  have hz : ExitsZero wrap value ↔ parts.headD [] = lit "ping" ∨
      ((parts.headD [] = lit "git-receive-pack" ∨ parts.headD [] = lit "git-upload-pack") ∧
        (parts.length < 2 ∨ ∃ repoName, cleanRepoName (parts.getD 1 []) = .ok repoName ∧
          wrap repoName = .fnReturned none)) := by
    rw [ExitsZero, hp]
  rw [hz]
  by_cases hping : parts.headD [] = lit "ping"
  · rw [answerExec_ping s perm condata wrap hp hping]
    exact .inr ⟨0, rfl, iff_of_true rfl (.inl hping)⟩
  by_cases hcmd : parts.headD [] = lit "git-receive-pack" ∨ parts.headD [] = lit "git-upload-pack"
  · by_cases hlen : parts.length < 2
    · rw [answerExec_short s perm condata wrap hp hcmd hlen]
      exact .inr ⟨0, rfl, iff_of_true rfl (.inr ⟨hcmd, .inl hlen⟩)⟩
    cases hname : cleanRepoName (parts.getD 1 []) with
    | error e =>
      rw [answerExec_badName s perm condata wrap hp hcmd hlen hname]
      refine .inl ⟨rfl, ?_⟩
      rintro (h | ⟨-, h | ⟨r, hr, -⟩⟩)
      exacts [hping h, hlen h, nomatch hr]
    | ok repoName =>
      rw [answerExec_push s perm condata wrap hp hcmd hlen hname]
      -- the push's status: `1` when the lock is taken, else as `wrapInLock` returned
      have hiff : (if wrap repoName = .fnReturned none then 0 else 1 : UInt32) = 0 ↔
          wrap repoName = .fnReturned none := by
        split_ifs with hok
        · exact iff_of_true rfl hok
        · exact iff_of_false (by decide) hok
      have hpush : (∃ r, (Except.ok repoName : Except ServerError GoString) = .ok r ∧
          wrap r = .fnReturned none) ↔ wrap repoName = .fnReturned none :=
        ⟨fun ⟨r, hr, hw⟩ => by cases hr; exact hw, fun hw => ⟨repoName, rfl, hw⟩⟩
      refine .inr ⟨_, ?_, hiff.trans (hpush.symm.trans ?_)⟩
      · by_cases hlock : wrap repoName = .alreadyLocked
        · simp [hlock]
        · simp [hlock]
      · exact ⟨fun h => .inr ⟨hcmd, .inr h⟩, fun h => h.resolve_left hping |>.2.resolve_left hlen⟩
  · rw [answerExec_illegal s perm condata wrap hp hping hcmd]
    refine .inl ⟨rfl, ?_⟩
    rintro (h | ⟨h, -⟩)
    exacts [hping h, hcmd h]

/-- `answer` sends the exit statuses of the `exec` it returns in, and none without one. -/
theorem exitStatuses_answer (reqs : List Request) :
    exitStatuses (answer s perm condata wrap reqs).1 =
      match (takeToExec reqs).2 with
      | none => []
      | some v => exitStatuses (answerExec s perm condata wrap v).1 := by
  rw [answer_eq]
  rcases takeToExec reqs with ⟨pre, _ | v⟩ <;> simp

/-- **At most one exit status.** Over any requests, `answer` sends at most one `"exit-status"`
request, the one of the `exec` it returns in. -/
theorem exitStatuses_answer_length_le (reqs : List Request) :
    (exitStatuses (answer s perm condata wrap reqs).1).length ≤ 1 := by
  rw [exitStatuses_answer]
  rcases (takeToExec reqs).2 with _ | v
  · simp
  · rcases exitStatuses_answerExec s perm condata wrap v with ⟨h, -⟩ | ⟨status, h, -⟩ <;> simp [h]

/-- **Exit status `0`.** Over any requests, `answer` sends exit status `0` exactly when it
returns in an `exec` whose command is `ping`, a push command without a repository, or a push
whose name is accepted and whose `wrapInLock` returns `nil`. -/
theorem answer_exit_zero_iff (reqs : List Request) :
    0 ∈ exitStatuses (answer s perm condata wrap reqs).1 ↔
      ∃ value, (takeToExec reqs).2 = some value ∧ ExitsZero wrap value := by
  rw [exitStatuses_answer]
  rcases (takeToExec reqs).2 with _ | v
  · simp
  · rcases exitStatuses_answerExec s perm condata wrap v with ⟨h, hz⟩ | ⟨status, h, hz⟩
    · simp [h, hz]
    · simp [h, eq_comm (a := (0 : UInt32)), hz]

/-! ### Where the checks fall short -/

/-- A push command without a repository is answered with a `false` reply and exit status `0`. -/
theorem answer_upload_without_repo :
    answer s perm condata wrap [⟨lit "exec", lit "git-upload-pack"⟩] =
      ([.reply false, .exitStatus 0, .close], none) := by
  have hparts : splitN (cleanExec (lit "git-upload-pack")) (byte " ") 2 = [lit "git-upload-pack"] := by
    decide
  rw [answer_cons_exec s perm condata wrap [] rfl,
    answerExec_short s perm condata wrap hparts (.inr rfl) (by simp)]
  rfl

/-- A name that is only a part of an app's name is let through to `git.Receive`. -/
theorem answer_receives_part_of_app (fp user : GoString) :
    ∃ p, authKey none fp ⟨user, [lit "demo"]⟩ none = .ok p ∧
      (answer s p condata wrap [⟨lit "exec", lit "git-receive-pack dem"⟩]).1.head? =
        some (.wrapInLock (lit "dem") (.receive
          { repo := lit "dem.git"
            operation := lit "git-receive-pack"
            gitHome := s.gitHome
            fingerprint := fp
            username := user
            conndata := condata
            receivetype := s.receivetype })) ∧
      lit "dem" ∉ [lit "demo"] := by
  refine ⟨⟨user, fp, lit "demo"⟩, rfl, ?_, by decide⟩
  have hparts : splitN (cleanExec (lit "git-receive-pack dem")) (byte " ") 2 =
      [lit "git-receive-pack", lit "dem"] := by decide
  have hname : cleanRepoName (lit "dem") = .ok (lit "dem") := by decide
  have hc : contains (lit "demo") (lit "dem") = true := by decide
  rw [answer_cons_exec s _ condata wrap [] rfl,
    answerExec_push s _ condata wrap hparts (.inl rfl) (by simp) hname]
  simp [runReceive, hc]
  rfl

/-- A name can pass the `..` check and still climb out of `gitHome`, the check running before
the quotes are removed; and `.git` is accepted as the empty name. -/
theorem cleanRepoName_escapes_gitHome (receivetype : GoString) (p : Permissions) :
    (answer ⟨lit "/workspace", receivetype⟩ p condata wrap
        [⟨lit "exec", lit "git-receive-pack .'./x"⟩]).1.head? =
      some (.wrapInLock (lit "../x") (runReceive ⟨lit "/workspace", receivetype⟩ p (lit "../x")
        [lit "git-receive-pack", lit ".'./x"] condata)) ∧
    FilePath.join [lit "/workspace", lit "../x" ++ lit ".git"] = lit "/x.git" ∧
    ¬ FilePath.IsStrictlyUnder (lit "/workspace") (lit "/x.git") ∧
    cleanRepoName (lit ".git") = .ok [] := by
  have hparts : splitN (cleanExec (lit "git-receive-pack .'./x")) (byte " ") 2 =
      [lit "git-receive-pack", lit ".'./x"] := by decide
  have hname : cleanRepoName (lit ".'./x") = .ok (lit "../x") := by decide
  refine ⟨?_, by decide, by decide, by decide⟩
  rw [answer_cons_exec _ p condata wrap [] rfl,
    answerExec_push _ p condata wrap hparts (.inl rfl) (by simp) hname]
  rfl

end Answer

/-! ### Connections -/

/-- A channel-open request (`ssh.NewChannel`): its type, and whether `Accept` or `Reject` has
decided it. -/
structure NewChannel where
  /-- `ChannelType()`. -/
  channelType : GoString
  /-- Whether the request has been accepted or rejected. -/
  decided : Bool
  deriving DecidableEq, Repr

/-- `incoming.Reject(ssh.UnknownChannelType, "Unknown channel type")`: the request is decided. -/
def NewChannel.reject (c : NewChannel) : NewChannel := { c with decided := true }

/-- What `handleConn` does with the channel-open requests of a connection. -/
inductive ConnEvent (ε : Type) where
  /-- `incoming.Reject(...)`. -/
  | reject (channelType : GoString)
  /-- `go s.answer(channel, req, condata, sshConn)`. -/
  | answer (channelType : GoString)
  /-- `panic(err)`, with the error `Accept` returned. -/
  | panic (err : ε)
  deriving DecidableEq, Repr

section Conn

variable {ε : Type} (accept : NewChannel → Except ε Unit)

/-- The loop of `s.handleConn(conn, conf)` over the channel-open requests, by type, with
`accept` for `incoming.Accept()`. A request that is not a session is rejected, and the same
iteration goes on to `Accept` it. -/
def handleChannels : List GoString → List (ConnEvent ε)
  | [] => []
  | t :: ts =>
    let incoming : NewChannel := ⟨t, false⟩
    let (rejected, incoming) :=
      if t ≠ lit "session" then ([ConnEvent.reject t], incoming.reject) else ([], incoming)
    match accept incoming with
    | .error err => rejected ++ [.panic err]
    | .ok () => rejected ++ .answer t :: handleChannels ts

/-- `s.handleConn(conn, conf)`, `chans` being the channel-open requests `ssh.NewServerConn`
delivers, or `none` when the handshake fails and `handleConn` returns at once. -/
def handleConn (chans : Option (List GoString)) : List (ConnEvent ε) :=
  match chans with
  | none => []
  | some types => handleChannels accept types

theorem handleChannels_session {t : GoString} (ts : List GoString) (h : t = lit "session") :
    handleChannels accept (t :: ts) =
      match accept ⟨t, false⟩ with
      | .error err => [.panic err]
      | .ok () => .answer t :: handleChannels accept ts := by
  simp [handleChannels, h]

theorem handleChannels_other {t : GoString} (ts : List GoString) (h : t ≠ lit "session") :
    handleChannels accept (t :: ts) =
      match accept ⟨t, true⟩ with
      | .error err => [.reject t, .panic err]
      | .ok () => .reject t :: .answer t :: handleChannels accept ts := by
  simp only [handleChannels, if_pos h, NewChannel.reject]
  cases accept ⟨t, true⟩ <;> rfl

variable (haccept : ∀ c : NewChannel, c.decided = true → ∃ err, accept c = .error err)
include haccept

/-- With the library's rule that a decided request cannot be accepted, `handleConn` starts
`answer` only for sessions. -/
theorem handleConn_answer_session {chans : Option (List GoString)} {t : GoString}
    (h : ConnEvent.answer t ∈ handleConn accept chans) : t = lit "session" := by
  obtain _ | types := chans
  · simp [handleConn] at h
  simp only [handleConn] at h
  induction types with
  | nil => simp [handleChannels] at h
  | cons t' ts ih =>
    by_cases hs : t' = lit "session"
    · rw [handleChannels_session accept ts hs] at h
      split at h
      · simp at h
      · rcases List.mem_cons.mp h with h | h
        · cases h
          exact hs
        · exact ih h
    · obtain ⟨err, herr⟩ := haccept ⟨t', true⟩ rfl
      rw [handleChannels_other accept ts hs, herr] at h
      simp at h

/-- A connection that opens any channel other than a session makes `handleConn` panic. -/
theorem handleConn_panics {types : List GoString} (h : ∃ t ∈ types, t ≠ lit "session") :
    ∃ err, ConnEvent.panic err ∈ handleConn accept (some types) := by
  simp only [handleConn]
  induction types with
  | nil => simp at h
  | cons t ts ih =>
    by_cases hs : t = lit "session"
    · rw [handleChannels_session accept ts hs]
      cases hacc : accept ⟨t, false⟩ with
      | error err => exact ⟨err, by simp⟩
      | ok u =>
        have hts : ∃ t ∈ ts, t ≠ lit "session" := by
          obtain ⟨t', ht', hne⟩ := h
          rcases List.mem_cons.mp ht' with rfl | ht'
          · exact absurd hs hne
          · exact ⟨t', ht', hne⟩
        obtain ⟨err, herr⟩ := ih hts
        exact ⟨err, List.mem_cons_of_mem _ herr⟩
    · obtain ⟨err, herr⟩ := haccept ⟨t, true⟩ rfl
      rw [handleChannels_other accept ts hs, herr]
      exact ⟨err, by simp⟩

end Conn

/-- An `Accept` that follows the decided-once rule, failing on a decided request. -/
def acceptOnce (c : NewChannel) : Except Unit Unit := if c.decided then .error () else .ok ()

/-- A connection that opens a session and then an `x11` channel: the session is answered. -/
theorem handleConn_answer_session_x11 :
    ConnEvent.answer (lit "session") ∈ handleConn acceptOnce (some [lit "session", lit "x11"]) ∧
      lit "session" = lit "session" := by
  have h : ConnEvent.answer (lit "session") ∈
      handleConn acceptOnce (some [lit "session", lit "x11"]) := by
    decide
  exact ⟨h, handleConn_answer_session acceptOnce (fun c hc => ⟨(), by simp [acceptOnce, hc]⟩) h⟩

theorem handleConn_panics_direct_tcpip :
    ∃ err, ConnEvent.panic err ∈ handleConn acceptOnce (some [lit "direct-tcpip"]) :=
  handleConn_panics acceptOnce (fun c hc => ⟨(), by simp [acceptOnce, hc]⟩)
    ⟨lit "direct-tcpip", by simp, by decide⟩

end DryccBuilder.Sshd
