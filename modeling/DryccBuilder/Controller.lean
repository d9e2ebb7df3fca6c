import DryccBuilder.Go.Strings

/-!
# What the builder reads from the controller SDK

The builder talks to the Drycc controller through `controller-sdk-go`, which is outside the
repository. Its values enter the model as data: the errors of its calls, with
`controller.CheckAPICompat` (`pkg/controller/utils.go`), and the config values of an app
(`api.ConfigValue`), which `getStack` and `buildJob` (`pkg/gitreceive`) read.

## The model

A config value's `Value` is an `interface{}` decoded from the controller's JSON. The builder
only asserts it to a `string` (`getStack`) or prints it with `%v` (`buildJob`), so a value is
either a string or another value given by what `%v` prints for it.
-/

namespace DryccBuilder.Controller

open Go

/-- An error of the controller SDK. -/
inductive ControllerError where
  /-- `drycc.ErrAPIMismatch`: the SDK and the controller speak different API versions. -/
  | apiMismatch
  /-- Any other error. -/
  | other (msg : GoString)
  deriving DecidableEq, Repr

/-- `controller.CheckAPICompat(c, err)`: an API mismatch is only warned about. -/
def checkAPICompat : Option ControllerError → Option ControllerError
  | some .apiMismatch => none
  | err => err

/-- The dynamic value of a config var's `Value interface{}`. -/
inductive ConfigValueData where
  /-- A `string`. -/
  | str (s : GoString)
  /-- A value of any other type, by what `fmt.Sprintf("%v", ...)` prints for it. -/
  | other (printed : GoString)
  deriving DecidableEq, Repr

/-- `fmt.Sprintf("%v", v)`: a string prints as itself. -/
def ConfigValueData.sprintV : ConfigValueData → GoString
  | .str s => s
  | .other printed => printed

/-- `api.ConfigValue`: a config var (`ConfigVar`: `Name` and `Value`) of an app's group. -/
structure ConfigValue where
  /-- `Group`, such as `"global"`. -/
  group : GoString
  /-- `Name`. -/
  name : GoString
  /-- `Value`. -/
  value : ConfigValueData
  deriving DecidableEq, Repr

/-- `api.Config`: the config of an app; the builder reads its `Values` only. -/
structure Config where
  /-- `Values`. -/
  values : List ConfigValue
  deriving DecidableEq, Repr

end DryccBuilder.Controller
