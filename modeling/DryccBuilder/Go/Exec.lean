import DryccBuilder.Go.Strings

/-!
# The environment of a command

`exec.Cmd.Env` (`os/exec`) is the environment of the process a command starts, a list of
`key=value` strings. Where it holds a key more than once, "only the last value in the slice for
each duplicate key is used". `lookupEnv env key` is the value the process then reads for `key`;
for a key with no `=` in it, the entries of that key are those that start with `key=`.
-/

namespace Go.Exec

/-- The value a process started with the environment `env` reads for `key`: that of the last
entry `key=value`. -/
def lookupEnv (env : List GoString) (key : GoString) : Option GoString :=
  (env.filter fun kv => (key ++ lit "=").isPrefixOf kv).getLast?.map (·.drop (key.length + 1))

@[simp] theorem lookupEnv_nil (key : GoString) : lookupEnv [] key = none := rfl

end Go.Exec
