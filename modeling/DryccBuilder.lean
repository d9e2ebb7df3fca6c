import DryccBuilder.Go.Strings
import DryccBuilder.Go.FilePath
import DryccBuilder.Go.Regexp
import DryccBuilder.Go.Builtin
import DryccBuilder.Go.Hex
import DryccBuilder.Go.Bufio
import DryccBuilder.Go.Wait
import DryccBuilder.Go.Flow
import DryccBuilder.Go.Exec
import DryccBuilder.Transition
import DryccBuilder.Controller
import DryccBuilder.Sshd.RepoLock
import DryccBuilder.Sshd.WrapInLock
import DryccBuilder.Sshd.Server
import DryccBuilder.Cleaner
import DryccBuilder.Sshd.Circuit
import DryccBuilder.Sshd.Util
import DryccBuilder.Healthsrv.Probe
import DryccBuilder.Healthsrv.Handlers
import DryccBuilder.Gitreceive.BuildType
import DryccBuilder.Git.Sha
import DryccBuilder.K8s.Client
import DryccBuilder.Gitreceive.K8sUtil
import DryccBuilder.Gitreceive.Build
import DryccBuilder.Sys.Env
import DryccBuilder.Gitreceive.Config
import DryccBuilder.Gitreceive.Imagebuilder
import DryccBuilder.Gitreceive.Run
import DryccBuilder.Gitreceive.Wait
import DryccBuilder.Gitreceive.Progress
import DryccBuilder.Gitreceive.Pipeline
import DryccBuilder.Git.Receive
import DryccBuilder.Push
import DryccBuilder.Boot
