import DryccBuilder.Go.Bufio
import DryccBuilder.K8s.Client

/-!
# The git-receive hook

`Run` (`pkg/gitreceive/run.go`) is the main of the pre-receive hook that git runs on a push. Git
writes to the hook's standard input one line for each ref the push updates,
`<old-value> SP <new-value> SP <ref-name> LF`; `Run` reads the lines with a `bufio.Scanner`,
splits each with `readLine`, and, when the SSH command was a `git-receive-pack`, calls `build`
on the new revision, returning the first error.

## The model

`build` does its work through the controller, object storage and Kubernetes; here it is a
parameter `build : Builder`, whose result may depend on the revision and on the builds made
before it in the same run. `Run` returns the builds it made, in order, with its error, and
`none` where it panics. The Kubernetes client `Run` makes first is `K8s.newInCluster` of what
`client-go` returns, `config` and `clientset`: `NewInCluster` panics where they fail, so the
error branch after it is never taken (`K8s.newInCluster_ne_error`).

## What is proved

* `run_pushed_updates`: over every list of ref updates, with LF or CRLF line endings, `Run`
  builds the new revision of each, in order, up to the first build that fails, and returns that
  build's error; after any other SSH command it builds nothing. This is `buildEach`, the
  statement of what the hook is for, over the updates of the push.
* `run_stops_at_malformed`: on any input, `Run` builds nothing after the first line that is not
  three fields, and fails on that line unless a build before it failed, whatever the command.
-/

namespace DryccBuilder.Gitreceive

open Go

/-- What the calls of `build` return: a result for each revision, which may depend on the builds
made before it in the same run. -/
abbrev Builder := List GoString → GoString → Except GoString Unit

/-- `readLine(line)`: the three fields of a line. -/
def readLine (line : GoString) : Except GoString (GoString × GoString × GoString) :=
  match split line (byte " ") with
  | [oldRev, newRev, refName] => .ok (oldRev, newRev, refName)
  | _ => .error (lit "malformed line [" ++ line ++ lit "]")

/-- The `for scanner.Scan()` loop of `Run` over the lines left, after the builds `done`: the
builds it makes and what `Run` returns. -/
def runLines (receivePack : Bool) (build : Builder) (done : List GoString) :
    List GoString → List GoString × Except GoString Unit
  | [] => (done, .ok ())
  | line :: lines =>
    match readLine line with
    | .error err => (done, .error (lit "reading STDIN (" ++ err ++ lit ")"))
    | .ok (_, newRev, _) =>
      if receivePack then
        match build done newRev with
        | .error err => (done ++ [newRev], .error err)
        | .ok () => runLines receivePack build (done ++ [newRev]) lines
      else runLines receivePack build done lines

/-- `Run(conf, env, storageDriver)` on the standard input `stdin`, with `conf.SSHOriginalCommand`
`sshOriginalCommand`: the builds it makes and what it returns. -/
def run (config clientset : Except GoString Unit) (sshOriginalCommand : GoString)
    (build : Builder) (stdin : GoString) : Option (List GoString × Except GoString Unit) :=
  match K8s.newInCluster config clientset with
  | none => none
  | some (.error err) => some ([], .error (lit "couldn't reach the api server (" ++ err ++ lit ")"))
  | some (.ok ()) =>
    some (runLines (hasPrefix sshOriginalCommand (lit "git-receive-pack")) build []
      (scanLines (byte "\n") (byte "\r") stdin))

/-- What the hook is for: build each revision in order, stopping at the first build that
fails. -/
def buildEach (build : Builder) (done : List GoString) :
    List GoString → List GoString × Except GoString Unit
  | [] => (done, .ok ())
  | rev :: revs =>
    match build done rev with
    | .error err => (done ++ [rev], .error err)
    | .ok () => buildEach build (done ++ [rev]) revs

/-- A ref update as git passes it to the pre-receive hook: no field holds a space or a line
break, as git's object names and ref names cannot. -/
structure RefUpdate where
  /-- `<old-value>`. -/
  oldRev : GoString
  /-- `<new-value>`. -/
  newRev : GoString
  /-- `<ref-name>`. -/
  refName : GoString
  no_space : byte " " ∉ oldRev ∧ byte " " ∉ newRev ∧ byte " " ∉ refName
  no_newline : byte "\n" ∉ oldRev ∧ byte "\n" ∉ newRev ∧ byte "\n" ∉ refName
  no_cr : byte "\r" ∉ refName

/-- The line git writes for an update, without its line ending. -/
def RefUpdate.line (u : RefUpdate) : GoString :=
  u.oldRev ++ byte " " :: (u.newRev ++ byte " " :: u.refName)

example : (run (.ok ()) (.ok ()) (lit "git-receive-pack 'demo'") (fun _ _ => .ok ())
    (lit "0 1 refs/heads/main\r\n1 2 refs/heads/dev\n")).map Prod.fst = some [lit "1", lit "2"] := by
  decide

/-! ### Lines -/

/-- A line is read exactly when it is three fields without spaces. -/
theorem readLine_eq_ok {line : GoString} {fields : GoString × GoString × GoString} :
    readLine line = .ok fields ↔ split line (byte " ") = [fields.1, fields.2.1, fields.2.2] := by
  unfold readLine
  split
  · rename_i a b c h
    rw [h]
    constructor
    · intro hok
      cases hok
      rfl
    · intro heq
      simp only [List.cons.injEq, and_true] at heq
      obtain ⟨rfl, rfl, rfl⟩ := heq
      rfl
  · rename_i hne
    constructor
    · intro h
      cases h
    · intro h
      exact absurd h (hne _ _ _)

theorem readLine_line (u : RefUpdate) : readLine u.line = .ok (u.oldRev, u.newRev, u.refName) := by
  rw [readLine_eq_ok]
  have hline : u.line = [byte " "].intercalate [u.oldRev, u.newRev, u.refName] := by
    simp [RefUpdate.line, List.intercalate_cons_of_ne_nil]
  rw [hline, split]
  refine List.splitOn_intercalate _ (fun l hl => ?_) (by simp)
  simp only [List.mem_cons, List.not_mem_nil, or_false] at hl
  rcases hl with rfl | rfl | rfl
  exacts [u.no_space.1, u.no_space.2.1, u.no_space.2.2]

/-- The line of an update holds no line break. -/
theorem newline_not_mem_line (u : RefUpdate) : byte "\n" ∉ u.line := by
  have hsp : byte "\n" ≠ byte " " := by decide
  simp only [RefUpdate.line, List.mem_append, List.mem_cons, not_or]
  exact ⟨u.no_newline.1, hsp, u.no_newline.2.1, hsp, u.no_newline.2.2⟩

/-- The line of an update does not end with `'\r'`: its last byte is the ref name's, or the space
before an empty one. -/
theorem getLast_line_ne_cr (u : RefUpdate) : u.line.getLast? ≠ some (byte "\r") := by
  intro h
  have hsp : byte "\r" ≠ byte " " := by decide
  have hline : u.line = (u.oldRev ++ byte " " :: u.newRev ++ [byte " "]) ++ u.refName := by
    simp [RefUpdate.line]
  rcases u.refName.eq_nil_or_concat with href | ⟨init, c, href⟩
  · rw [hline, href, List.append_nil, List.getLast?_concat, Option.some.injEq] at h
    exact hsp h.symm
  · rw [hline, href, List.concat_eq_append, ← List.append_assoc, List.getLast?_concat,
      Option.some.injEq] at h
    exact u.no_cr (by rw [href, ← h]; simp)

/-! ### The loop -/

section Loop

variable (build : Builder)

/-- Over well-formed lines, the loop after a `git-receive-pack` is `buildEach` over their new
revisions. -/
theorem runLines_updates (done : List GoString) (ups : List RefUpdate) :
    runLines true build done (ups.map RefUpdate.line) =
      buildEach build done (ups.map RefUpdate.newRev) := by
  induction ups generalizing done with
  | nil => rfl
  | cons u ups ih =>
    simp only [List.map_cons, runLines, readLine_line, if_true, buildEach]
    cases build done u.newRev with
    | error err => rfl
    | ok _ => exact ih _

/-- After any other command the loop reads every well-formed line and builds nothing. -/
theorem runLines_updates_other (done : List GoString) (ups : List RefUpdate) :
    runLines false build done (ups.map RefUpdate.line) = (done, .ok ()) := by
  induction ups with
  | nil => rfl
  | cons u ups ih =>
    simp only [List.map_cons, runLines, readLine_line, Bool.false_eq_true, if_false]
    exact ih

/-- What the loop does before a malformed line, and at it. -/
theorem runLines_malformed (receivePack : Bool) (done : List GoString) (good : List RefUpdate)
    {bad : GoString} (hbad : (split bad (byte " ")).length ≠ 3) (rest : List GoString) :
    runLines receivePack build done (good.map RefUpdate.line ++ bad :: rest) =
      if receivePack then
        match buildEach build done (good.map RefUpdate.newRev) with
        | (built, .ok ()) =>
          (built, .error (lit "reading STDIN (" ++
            (lit "malformed line [" ++ bad ++ lit "]") ++ lit ")"))
        | r => r
      else (done, .error (lit "reading STDIN (" ++
        (lit "malformed line [" ++ bad ++ lit "]") ++ lit ")")) := by
  have hread : readLine bad = .error (lit "malformed line [" ++ bad ++ lit "]") := by
    unfold readLine
    split
    · rename_i a b c h
      exact absurd (by rw [h]; rfl) hbad
    · rfl
  induction good generalizing done with
  | nil =>
    cases receivePack <;> simp [runLines, hread, buildEach]
  | cons u good ih =>
    cases receivePack with
    | false =>
      simp only [List.map_cons, List.cons_append, runLines, readLine_line,
        Bool.false_eq_true, if_false]
      simpa using ih done
    | true =>
      simp only [List.map_cons, List.cons_append, runLines, readLine_line, if_true, buildEach]
      cases build done u.newRev with
      | error err => rfl
      | ok _ => simpa using ih (done ++ [u.newRev])

end Loop

/-! ### `Run` -/

/-- **`Run` builds what was pushed.** Over every list of ref updates git writes to the hook, with
LF or with CRLF line endings, a `git-receive-pack` builds the new revision of each update in
order, stopping at the first build that fails and returning its error; any other command builds
nothing and succeeds. -/
theorem run_pushed_updates (build : Builder) (cmd : GoString) (ups : List RefUpdate) :
    (run (.ok ()) (.ok ()) cmd build (unlines [byte "\n"] (ups.map RefUpdate.line)) =
      some (if hasPrefix cmd (lit "git-receive-pack") then
        buildEach build [] (ups.map RefUpdate.newRev)
      else ([], .ok ()))) ∧
    run (.ok ()) (.ok ()) cmd build (unlines [byte "\r", byte "\n"] (ups.map RefUpdate.line)) =
      run (.ok ()) (.ok ()) cmd build (unlines [byte "\n"] (ups.map RefUpdate.line)) := by
  have hnl : ∀ l ∈ ups.map RefUpdate.line, byte "\n" ∉ l :=
    List.forall_mem_map.mpr fun u _ => newline_not_mem_line u
  have hcr : ∀ l ∈ ups.map RefUpdate.line, l.getLast? ≠ some (byte "\r") :=
    List.forall_mem_map.mpr fun u _ => getLast_line_ne_cr u
  -- the scanner reads back the lines git wrote, with either ending
  have hlf := scanLines_unlines hnl hcr
  have hne : byte "\n" ≠ byte "\r" := by decide
  have hcrlf := scanLines_unlines_crlf hnl hne
  refine ⟨?_, by simp only [run, K8s.newInCluster, hlf, hcrlf]⟩
  simp only [run, K8s.newInCluster, hlf, Option.some.injEq]
  split
  · rename_i hrecv
    rw [hrecv, runLines_updates]
  · rename_i hrecv
    rw [Bool.not_eq_true] at hrecv
    rw [hrecv, runLines_updates_other]

/-- **`Run` stops at a malformed line.** Whatever the command, `Run` builds nothing after the
first line of its input that is not three fields, and fails on it with
`reading STDIN (malformed line [...])`, unless a build before it failed. -/
theorem run_stops_at_malformed (build : Builder) (cmd stdin : GoString) {good : List RefUpdate}
    {bad : GoString} {rest : List GoString}
    (hlines : scanLines (byte "\n") (byte "\r") stdin = good.map RefUpdate.line ++ bad :: rest)
    (hbad : (split bad (byte " ")).length ≠ 3) :
    run (.ok ()) (.ok ()) cmd build stdin = some
      (if hasPrefix cmd (lit "git-receive-pack") then
        match buildEach build [] (good.map RefUpdate.newRev) with
        | (built, .ok ()) =>
          (built, .error (lit "reading STDIN (" ++
            (lit "malformed line [" ++ bad ++ lit "]") ++ lit ")"))
        | r => r
      else ([], .error (lit "reading STDIN (" ++
        (lit "malformed line [" ++ bad ++ lit "]") ++ lit ")"))) := by
  simp only [run, K8s.newInCluster, hlines, Option.some.injEq]
  rw [runLines_malformed build _ [] good hbad rest]

/-- A push whose second line has two fields: the first update is built, and `Run` fails on the
second line. -/
theorem run_stops_at_malformed_two_fields :
    run (.ok ()) (.ok ()) (lit "git-receive-pack 'demo'") (fun _ _ => .ok ())
        (lit "0 1 refs/heads/main\n1 2\n") =
      some ([lit "1"], .error (lit "reading STDIN (malformed line [1 2])")) :=
  (@run_stops_at_malformed (fun _ _ => .ok ()) (lit "git-receive-pack 'demo'")
    (lit "0 1 refs/heads/main\n1 2\n")
    [⟨lit "0", lit "1", lit "refs/heads/main", by decide, by decide, by decide⟩] (lit "1 2") []
    (by decide) (by decide)).trans (by decide)

end DryccBuilder.Gitreceive
