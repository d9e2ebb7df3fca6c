import DryccBuilder.Go.Strings

/-!
# Go file paths

`filepath.Join` and `filepath.Clean` on a Unix system, where the separator is `/`.

`Clean` returns "the shortest path name equivalent to path by purely lexical processing":
it replaces runs of slashes by one, drops each `.` element, drops each inner `..` together
with the element before it that is not `..`, and drops the `..` elements that begin a rooted
path; an empty result is `"."`. Go computes this with one scan and a write index that it
moves back over a dropped element; here the path is split into its elements first and the
scan is a left fold over them (`cleanStep`), which keeps the elements written so far, last
first. A `..` can back over an element exactly when the scan's write index is past its
`dotdot` mark, that is when the last element kept is not a `..`.

`Join` skips the leading empty elements, joins the rest with `/` and cleans the result.
-/

namespace Go.FilePath

open Go

/-- The elements of a path: the pieces between slashes, without the empty and the `.` ones. -/
def elements (p : GoString) : List GoString :=
  (p.splitOn '/'.toUInt8).filter fun e => e ≠ [] ∧ e ≠ lit "."

/-- One element of the path scanned by `Clean`, onto the elements kept so far (last first). -/
def cleanStep (rooted : Bool) (kept : List GoString) (e : GoString) : List GoString :=
  if e = lit ".." then
    match kept with
    | last :: rest => if last = lit ".." then e :: kept else rest
    | [] => if rooted then [] else [e]
  else e :: kept

/-- `filepath.Clean(path)`. -/
def clean (p : GoString) : GoString :=
  if p = [] then lit "." else
    let rooted := p.head? = some '/'.toUInt8
    let body := join ((elements p).foldl (cleanStep rooted) []).reverse (lit "/")
    let out := if rooted then lit "/" ++ body else body
    if out = [] then lit "." else out

/-- `filepath.Join(elem...)`: from the first non-empty element on, the elements joined with
`/` and cleaned; `""` when every element is empty. -/
def join (elems : List GoString) : GoString :=
  match elems.dropWhile (· = []) with
  | [] => []
  | es => clean (Go.join es (lit "/"))

/-- The path `p` names an entry strictly below the directory `dir`: both are rooted, and the
elements of `dir` are a proper prefix of those of `p`. For clean rooted paths, which have no
`..` element, this is lying inside `dir` and not being `dir` itself. -/
def IsStrictlyUnder (dir p : GoString) : Prop :=
  dir.head? = some '/'.toUInt8 ∧ p.head? = some '/'.toUInt8 ∧
    elements dir <+: elements p ∧ (elements dir).length < (elements p).length

instance (dir p : GoString) : Decidable (IsStrictlyUnder dir p) := by
  unfold IsStrictlyUnder; infer_instance

/-- `Clean` turns `dir/../x` back out of `dir`. -/
example : clean (lit "/workspace/../x.git") = lit "/x.git" := by decide

example : join [lit "/workspace", lit "demo.git"] = lit "/workspace/demo.git" := by decide

end Go.FilePath
