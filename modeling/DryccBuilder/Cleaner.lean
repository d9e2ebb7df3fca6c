import DryccBuilder.Go.FilePath
import DryccBuilder.Go.Regexp

/-!
# The deleted-app cleaner

`cleaner.Run` (`pkg/cleaner/cleaner.go`) compares, every `pollSleepDuration`, the namespaces
of the cluster with the directories at the top of `gitHome`. Each directory ending in `.git`
whose name, lower-cased and without the suffix, is no namespace's lower-cased name belongs to
a deleted app: the cleaner removes `gitHome/<app>.git` and deletes the objects of object
storage under `/home` that the regular expression `^/home/<app>:git-.{8}$` matches, the
directories `build` uploads under `GitKeyPattern`.

## The model

* One iteration of the loop is `runOnce`: its inputs are the answers of the namespace
  `List` and of `os.ReadDir(gitHome)` (an `Except`; an error ends the iteration) and the
  objects under `/home`. It returns what it does, as `Effect`s in order, and the objects left.
* Object storage is the list of the objects under `/home` (absolute paths), and the driver,
  `StorageDriver`, answers `List(ctx, "home")` from it and gives the error of each `Delete`.
  An error of either ends the deletions of one app; a `Delete` that fails deletes nothing.
  What is proved of the deletions assumes a driver whose calls succeed, `StorageDriver.Succeeds`.
* `strings.ToLower` takes its Unicode table as the parameter `mapLower`; `regexp.Compile`
  followed by `MatchString` is the parameter `compile`, `FollowsRE2` saying that it agrees
  with RE2 on the patterns of `Go.Regexp`'s fragment.
* Logging and the sleep are not modelled.

## What is proved

`runOnce_eq` summarizes an iteration: it removes the directories of the stale apps and deletes
every object a stale app's pattern matches. The directory it removes is rebuilt from the
lower-cased name, and the app name is pasted into the pattern as it is: the iteration removes
exactly the stale directories and deletes exactly their apps' objects for the names that are
their own lower case and have no metacharacter (`IsPlainName`), which is
`runOnce_removes_stale`, and `runOnce_mixed_case_and_metachar` gives the inputs where the other
names go wrong: a directory removed under a name it does not have, and a live app's object
deleted.
-/

namespace DryccBuilder

open Go

namespace Gitreceive

/-- `fmt.Sprintf(GitKeyPattern, app, sha)`, `GitKeyPattern` being `"home/%s:git-%s"`. -/
def gitKeyPattern (app sha : GoString) : GoString := lit "home/" ++ app ++ lit ":git-" ++ sha

end Gitreceive

namespace Cleaner

/-- `dotGitSuffix`. -/
def dotGitSuffix : GoString := lit ".git"

/-- An entry of `os.ReadDir(gitHome)`. -/
structure DirEntry where
  /-- `Name()`. -/
  name : GoString
  /-- `IsDir()`. -/
  isDir : Bool
  deriving DecidableEq, Repr

/-- `localDirs(gitHome, filter)`, over the entries `os.ReadDir(gitHome)` returned. -/
def localDirs (entries : List DirEntry) (filter : GoString → Bool) : List GoString :=
  entries.filterMap fun fileInfo =>
    let nm := fileInfo.name
    if nm.length ≤ 0 ∨ nm = lit "." ∨ !fileInfo.isDir then none
    else if filter nm then some nm else none

/-- `getDiff(namespaceList, dirs)`: the lower-cased dirs that are no namespace's lower-cased
name. -/
def getDiff (mapLower : GoString → GoString) (namespaceList dirs : List GoString) :
    List GoString :=
  let namespacesSet := namespaceList.map (toLower mapLower)
  dirs.filterMap fun dir =>
    let lowerName := toLower mapLower dir
    if lowerName ∈ namespacesSet then none else some lowerName

/-- `stripSuffixes(strs, suffix)`: each string cut at the last place the suffix begins. -/
def stripSuffixes (strs : List GoString) (suffix : GoString) : List GoString :=
  strs.map fun str =>
    match lastIndex str suffix with
    | some idx => str.take idx
    | none => str

/-- `dirHasGitSuffix(dir)`. -/
def dirHasGitSuffix (dir : GoString) : Bool := hasSuffix dir dotGitSuffix

/-- The pattern `deleteFromStorage` compiles for an app. -/
def gitRegexPattern (app : GoString) : GoString :=
  lit "^/" ++ Gitreceive.gitKeyPattern app (lit ".\x7b8\x7d") ++ lit "$"

/-- What the object store answers the cleaner: `List(ctx, "home")` from the objects stored, and
the error of `Delete(ctx, obj)`. -/
structure StorageDriver (ε : Type) where
  /-- `storageDriver.List(ctx, "home")` on the objects stored. -/
  list : List GoString → Except ε (List GoString)
  /-- The error `storageDriver.Delete(ctx, obj)` returns. -/
  delete : GoString → Option ε

/-- A driver whose calls succeed, `List` returning the objects stored. -/
def StorageDriver.Succeeds {ε : Type} (d : StorageDriver ε) : Prop :=
  (∀ objs, d.list objs = .ok objs) ∧ ∀ obj, d.delete obj = none

/-- The loop of `deleteFromStorage` over the listed objects: the objects it deletes, in order,
up to the first `Delete` that fails, where it returns. -/
def deleteMatching {ε : Type} (d : StorageDriver ε) (gitRegex : GoString → Bool) :
    List GoString → List GoString
  | [] => []
  | obj :: objs =>
    if gitRegex obj then
      match d.delete obj with
      | some _ => []
      | none => obj :: deleteMatching d gitRegex objs
    else deleteMatching d gitRegex objs

/-- `deleteFromStorage(app, storageDriver)` on the objects `storage`: the objects it deletes, in
order. A failed `List`, or a pattern that does not compile, deletes none. -/
def deleteFromStorage {ε : Type} (compile : GoString → Option (GoString → Bool))
    (d : StorageDriver ε) (app : GoString) (storage : List GoString) : List GoString :=
  match d.list storage with
  | .error _ => []
  | .ok objs =>
    match compile (gitRegexPattern app) with
    | none => []
    | some gitRegex => deleteMatching d gitRegex objs

/-- What the cleaner does outside its own state. -/
inductive Effect where
  /-- `fs.RemoveAll(path)`. -/
  | removeAll (path : GoString)
  /-- `storageDriver.Delete(ctx, obj)`. -/
  | delete (obj : GoString)
  deriving DecidableEq, Repr

section Run

variable {ε : Type} (mapLower : GoString → GoString) (compile : GoString → Option (GoString → Bool))
  (gitHome : GoString) (d : StorageDriver ε)

/-- The inner loop of `Run` over `appsToDelete`, from the objects under `/home`: what it does
and the objects left. -/
def removeApps : List GoString → List GoString → List Effect × List GoString
  | [], storage => ([], storage)
  | appToDelete :: apps, storage =>
    let dirToDelete := FilePath.join [gitHome, appToDelete ++ dotGitSuffix]
    let deleted := deleteFromStorage compile d appToDelete storage
    let rest := removeApps apps (storage.filter (· ∉ deleted))
    (.removeAll dirToDelete :: deleted.map .delete ++ rest.1, rest.2)

/-- One iteration of the loop of `Run(gitHome, nsLister, fs, pollSleepDuration,
storageDriver)`, from the answers of the namespace `List` (the namespaces' names) and of
`os.ReadDir(gitHome)`, and the objects under `/home`. -/
def runOnce (nsList : Except ε (List GoString)) (readDir : Except ε (List DirEntry))
    (storage : List GoString) : List Effect × List GoString :=
  match nsList, readDir with
  | .error _, _ => ([], storage)
  | .ok _, .error _ => ([], storage)
  | .ok nsList, .ok entries =>
    let gitDirs := localDirs entries dirHasGitSuffix
    let gitDirs := stripSuffixes gitDirs dotGitSuffix
    let appsToDelete := getDiff mapLower nsList gitDirs
    removeApps compile gitHome d appsToDelete storage

end Run

/-! ### The steps of an iteration -/

/-- A name that ends in `.git` is neither empty nor `.`. -/
theorem ne_nil_dot_of_gitSuffix {nm : GoString} (h : dotGitSuffix <:+ nm) :
    nm ≠ [] ∧ nm ≠ lit "." := by
  have hlen : 4 ≤ nm.length := by
    have := h.length_le
    rwa [show dotGitSuffix.length = 4 by decide] at this
  constructor
  · rintro rfl
    simp at hlen
  · rintro rfl
    revert hlen
    decide

/-- `localDirs` with `dirHasGitSuffix` keeps the directories whose name ends in `.git`. -/
theorem localDirs_gitSuffix (entries : List DirEntry) :
    localDirs entries dirHasGitSuffix =
      (entries.filter fun e => e.isDir ∧ dotGitSuffix <:+ e.name).map (·.name) := by
  -- the name checks of the loop are implied by the suffix
  have key : ∀ e : DirEntry,
      (if e.name.length ≤ 0 ∨ e.name = lit "." ∨ (!e.isDir) = true then none
        else if dirHasGitSuffix e.name = true then some e.name else none) =
      if e.isDir ∧ dotGitSuffix <:+ e.name then some e.name else none := by
    intro e
    by_cases hkeep : e.isDir ∧ dotGitSuffix <:+ e.name
    · obtain ⟨hnil, hdot⟩ := ne_nil_dot_of_gitSuffix hkeep.2
      simp [hnil, hdot, hkeep, dirHasGitSuffix]
    · rw [if_neg hkeep]
      by_cases hd : e.isDir <;> simp_all [dirHasGitSuffix]
  unfold localDirs
  simp only [key]
  induction entries with
  | nil => rfl
  | cons e entries ih =>
    by_cases hkeep : e.isDir ∧ dotGitSuffix <:+ e.name
    · simp [hkeep, ih]
    · simp [hkeep, ih]

/-- On names that end in the suffix, `stripSuffixes` is `strings.TrimSuffix`. -/
theorem stripSuffixes_of_suffix {strs : List GoString} {suffix : GoString}
    (h : ∀ str ∈ strs, suffix <:+ str) :
    stripSuffixes strs suffix = strs.map (trimSuffix · suffix) := by
  apply List.map_congr_left
  intro str hstr
  rw [lastIndex_of_isSuffix (h str hstr), trimSuffix, if_pos (h str hstr)]

/-- On names that are their own lower case, `getDiff` keeps those that are no namespace's
lower-cased name. -/
theorem getDiff_of_lower {mapLower : GoString → GoString} {dirs : List GoString}
    (h : ∀ d ∈ dirs, toLower mapLower d = d) (namespaceList : List GoString) :
    getDiff mapLower namespaceList dirs =
      dirs.filter (· ∉ namespaceList.map (toLower mapLower)) := by
  induction dirs with
  | nil => rfl
  | cons d dirs ih =>
    have hd := h d (List.mem_cons_self ..)
    have ih' := ih fun d' hd' => h d' (List.mem_cons_of_mem d hd')
    unfold getDiff at ih' ⊢
    rw [List.filterMap_cons, ih', List.filter_cons]
    simp only [hd]
    by_cases hmem : d ∈ namespaceList.map (toLower mapLower)
    · rw [if_pos hmem, if_neg (by simpa using hmem)]
    · rw [if_neg hmem, if_pos (by simpa using hmem)]

/-! ### What the inner loop does -/

/-- The path of a `RemoveAll`, and `none` for a `Delete`. -/
def Effect.removed? : Effect → Option GoString
  | .removeAll path => some path
  | .delete _ => none

/-- The paths removed, in order. -/
def removals (effects : List Effect) : List GoString := effects.filterMap Effect.removed?

/-- The pattern of `app` compiles and matches `x`. -/
def KeyMatch (compile : GoString → Option (GoString → Bool)) (app x : GoString) : Prop :=
  ∃ gitRegex, compile (gitRegexPattern app) = some gitRegex ∧ gitRegex x = true

section Run

variable {ε : Type} {mapLower : GoString → GoString} {compile : GoString → Option (GoString → Bool)}
  {gitHome : GoString} {d : StorageDriver ε}

/-- Where no `Delete` fails, the loop deletes every object the pattern matches. -/
theorem deleteMatching_of_delete_none (hd : ∀ obj, d.delete obj = none)
    (gitRegex : GoString → Bool) (objs : List GoString) :
    deleteMatching d gitRegex objs = objs.filter gitRegex := by
  induction objs with
  | nil => rfl
  | cons obj objs ih =>
    by_cases hm : gitRegex obj = true
    · simp [deleteMatching, hm, hd obj, ih]
    · simp [deleteMatching, hm, ih]

theorem mem_deleteFromStorage (hd : d.Succeeds) {app x : GoString} {objs : List GoString} :
    x ∈ deleteFromStorage compile d app objs ↔ x ∈ objs ∧ KeyMatch compile app x := by
  unfold deleteFromStorage KeyMatch
  rw [hd.1 objs]
  cases hc : compile (gitRegexPattern app) with
  | none => simp
  | some gitRegex => simp [deleteMatching_of_delete_none hd.2]

/-- The inner loop removes the directory of each app, in order. -/
theorem removals_removeApps (apps storage : List GoString) :
    removals (removeApps compile gitHome d apps storage).1 =
      apps.map fun app => FilePath.join [gitHome, app ++ dotGitSuffix] := by
  induction apps generalizing storage with
  | nil => rfl
  | cons app apps ih =>
    simp only [removeApps, removals, List.filterMap_cons, Effect.removed?, List.filterMap_append,
      List.map_cons] at ih ⊢
    rw [ih]
    simp [Effect.removed?]

/-- With a driver whose calls succeed, the inner loop deletes the objects that some app's
pattern matches, each object being listed again for each app but deleted once. -/
theorem delete_mem_removeApps (hd : d.Succeeds) (apps storage : List GoString) (x : GoString) :
    Effect.delete x ∈ (removeApps compile gitHome d apps storage).1 ↔
      x ∈ storage ∧ ∃ app ∈ apps, KeyMatch compile app x := by
  induction apps generalizing storage with
  | nil => simp [removeApps]
  | cons app apps ih =>
    simp only [removeApps, List.mem_cons, reduceCtorEq, false_or, List.mem_append,
      List.mem_map, Effect.delete.injEq, exists_eq_right, ih, List.mem_filter,
      decide_eq_true_eq, mem_deleteFromStorage hd, exists_eq_or_imp]
    constructor
    · rintro (⟨hx, hk⟩ | ⟨⟨hx, -⟩, hk⟩)
      · exact ⟨hx, .inl hk⟩
      · exact ⟨hx, .inr hk⟩
    · rintro ⟨hx, hk | hk⟩
      · exact .inl ⟨hx, hk⟩
      · by_cases hk' : KeyMatch compile app x
        · exact .inl ⟨hx, hk'⟩
        · exact .inr ⟨⟨hx, fun h => hk' h.2⟩, hk⟩

end Run

/-! ### Plain names -/

/-- A name that is its own lower case and has no metacharacter of RE2: pasted into a pattern,
it stands for itself. The names of the directories `git.Receive` creates, parts of app names,
are plain. -/
def IsPlainName (name : GoString) : Prop := ∀ c ∈ name, IsLiteral c ∧ asciiLower c = c

instance (name : GoString) : Decidable (IsPlainName name) :=
  decidable_of_iff (name.all fun c => decide (IsLiteral c) && asciiLower c == c) (by
    simp [IsPlainName])

/-- An object under the key pattern of `app`: `/home/<app>:git-<s>`, `s` eight runes, none a
newline. -/
def IsGitKeyOf (app x : GoString) : Prop :=
  ∃ s, x = lit "/home/" ++ app ++ lit ":git-" ++ s ∧ (runes s).length = 8 ∧
    ∀ r ∈ runes s, r ≠ lit "\n"

/-- With a `regexp.Compile` that follows RE2, the pattern of a plain name matches exactly its
keys. -/
theorem keyMatch_iff {compile : GoString → Option (GoString → Bool)} (hre : FollowsRE2 compile)
    {app : GoString} (happ : IsPlainName app) (x : GoString) :
    KeyMatch compile app x ↔ IsGitKeyOf app x := by
  set w := lit "/home/" ++ app ++ lit ":git-" with hw
  have hlit : ∀ c ∈ w, IsLiteral c := by
    intro c hc
    simp only [hw, List.mem_append] at hc
    rcases hc with (hc | hc) | hc
    · exact isLiteral_of_all (by decide) c hc
    · exact (happ c hc).1
    · exact isLiteral_of_all (by decide) c hc
  have hpat : gitRegexPattern app = lit "^" ++ w ++ lit ".\x7b8\x7d" ++ lit "$" := by
    have hslash : lit "^/" ++ lit "home/" = lit "^" ++ lit "/home/" := by decide
    simp only [gitRegexPattern, Gitreceive.gitKeyPattern, hw, List.append_assoc]
    rw [← List.append_assoc (lit "^/"), hslash, List.append_assoc]
  have hcomp := hre _ _ (compileAnchored_literals_dots hlit)
  rw [← hpat] at hcomp
  have hmatch := matchAnchored_literals_dots (fun c hc => (hlit c hc).lt) 8 x
  constructor
  · rintro ⟨gitRegex, hc, hx⟩
    rw [hcomp, Option.some_inj] at hc
    subst hc
    exact hmatch.mp hx
  · intro hx
    exact ⟨_, hcomp, hmatch.mpr hx⟩

/-! ### An iteration -/

/-- The stale directories: the top-level directories whose name ends in `.git`
and whose name without the suffix is, compared case-insensitively, no namespace's name. -/
def staleDirs (mapLower : GoString → GoString) (nsList : List GoString)
    (entries : List DirEntry) : List GoString :=
  ((entries.filter fun e => e.isDir ∧ dotGitSuffix <:+ e.name).map (·.name)).filter fun d =>
    toLower mapLower (trimSuffix d dotGitSuffix) ∉ nsList.map (toLower mapLower)

section Run

variable {ε : Type} {mapLower : GoString → GoString} {compile : GoString → Option (GoString → Bool)}
  {gitHome : GoString} {d : StorageDriver ε}

/-- **An iteration.** After successful listings, the inner loop runs over the lower-cased
names, without `.git`, of the directories that end in it and that are no namespace's. -/
theorem runOnce_eq (nsList : List GoString) (entries : List DirEntry)
    (storage : List GoString) :
    runOnce mapLower compile gitHome d (.ok nsList) (.ok entries) storage =
      removeApps compile gitHome d
        (getDiff mapLower nsList
          (((entries.filter fun e => e.isDir ∧ dotGitSuffix <:+ e.name).map (·.name)).map
            (trimSuffix · dotGitSuffix)))
        storage := by
  have hsuf : ∀ d ∈ (entries.filter fun e => e.isDir ∧ dotGitSuffix <:+ e.name).map (·.name),
      dotGitSuffix <:+ d := by
    intro d hd
    obtain ⟨e, he, rfl⟩ := List.mem_map.mp hd
    exact (of_decide_eq_true (List.mem_filter.mp he).2).2
  simp only [runOnce, localDirs_gitSuffix, stripSuffixes_of_suffix hsuf]

/-- The apps of an iteration over plain names are the stale directories without `.git`. -/
theorem appsToDelete_of_plain
    (hplain : ∀ e ∈ entries, e.isDir → dotGitSuffix <:+ e.name →
      IsPlainName (trimSuffix e.name dotGitSuffix)) (nsList : List GoString) :
    getDiff mapLower nsList
        (((entries.filter fun e => e.isDir ∧ dotGitSuffix <:+ e.name).map (·.name)).map
          (trimSuffix · dotGitSuffix)) =
      (staleDirs mapLower nsList entries).map (trimSuffix · dotGitSuffix) := by
  have hlower : ∀ d ∈ ((entries.filter fun e => e.isDir ∧ dotGitSuffix <:+ e.name).map
      (·.name)), toLower mapLower (trimSuffix d dotGitSuffix) = trimSuffix d dotGitSuffix := by
    intro d hd
    obtain ⟨e, he, rfl⟩ := List.mem_map.mp hd
    obtain ⟨hin, hkeep⟩ := List.mem_filter.mp he
    have hkeep := of_decide_eq_true hkeep
    exact toLower_of_lower mapLower fun c hc =>
      ⟨((hplain e hin hkeep.1 hkeep.2) c hc).1.lt, ((hplain e hin hkeep.1 hkeep.2) c hc).2⟩
  have hstems : ∀ a ∈ ((entries.filter fun e => e.isDir ∧ dotGitSuffix <:+ e.name).map
      (·.name)).map (trimSuffix · dotGitSuffix), toLower mapLower a = a := by
    intro a ha
    obtain ⟨d, hd, rfl⟩ := List.mem_map.mp ha
    exact hlower d hd
  rw [getDiff_of_lower hstems, staleDirs, List.filter_map]
  congr 1
  apply List.filter_congr
  intro d hd
  simp [hlower d hd]

end Run

/-- A stale directory ends in `.git` and, when the listed directories are plain, is plain
without it. -/
theorem mem_staleDirs {mapLower : GoString → GoString} {nsList : List GoString}
    {entries : List DirEntry}
    (hplain : ∀ e ∈ entries, e.isDir → dotGitSuffix <:+ e.name →
      IsPlainName (trimSuffix e.name dotGitSuffix))
    {d : GoString} (hd : d ∈ staleDirs mapLower nsList entries) :
    dotGitSuffix <:+ d ∧ IsPlainName (trimSuffix d dotGitSuffix) := by
  obtain ⟨e, he, rfl⟩ := List.mem_map.mp (List.mem_filter.mp hd).1
  obtain ⟨hin, hkeep⟩ := List.mem_filter.mp he
  have hkeep := of_decide_eq_true hkeep
  exact ⟨hkeep.2, hplain e hin hkeep.1 hkeep.2⟩

/-- **The cleaner on plain names.** When every directory of `gitHome` that ends in `.git` has a
plain name without it, an iteration whose listings succeed removes exactly the stale
directories, in the order `os.ReadDir` lists them, and deletes exactly the objects under
`/home` that are keys of a stale app, with a storage driver whose calls succeed. -/
theorem runOnce_removes_stale {ε : Type} (mapLower : GoString → GoString)
    {compile : GoString → Option (GoString → Bool)} (hre : FollowsRE2 compile)
    (gitHome : GoString) {drv : StorageDriver ε} (hdrv : drv.Succeeds) (nsList : List GoString)
    (entries : List DirEntry) (storage : List GoString)
    (hplain : ∀ e ∈ entries, e.isDir → dotGitSuffix <:+ e.name →
      IsPlainName (trimSuffix e.name dotGitSuffix)) :
    removals (runOnce mapLower compile gitHome drv (.ok nsList) (.ok entries)
        storage).1 = (staleDirs mapLower nsList entries).map (fun d => FilePath.join [gitHome, d]) ∧
      ∀ x, Effect.delete x ∈ (runOnce mapLower compile gitHome drv (.ok nsList)
          (.ok entries) storage).1 ↔
        x ∈ storage ∧ ∃ d ∈ staleDirs mapLower nsList entries,
          IsGitKeyOf (trimSuffix d dotGitSuffix) x := by
  rw [runOnce_eq, appsToDelete_of_plain hplain]
  constructor
  · rw [removals_removeApps, List.map_map]
    apply List.map_congr_left
    intro d hd
    simp only [Function.comp_apply, trimSuffix_append (mem_staleDirs hplain hd).1]
  · intro x
    rw [delete_mem_removeApps hdrv]
    apply and_congr_right
    intro _
    constructor
    · rintro ⟨app, happ, hkey⟩
      obtain ⟨d, hd, rfl⟩ := List.mem_map.mp happ
      exact ⟨d, hd, (keyMatch_iff hre (mem_staleDirs hplain hd).2 x).mp hkey⟩
    · rintro ⟨d, hd, hkey⟩
      exact ⟨_, List.mem_map_of_mem hd, (keyMatch_iff hre (mem_staleDirs hplain hd).2 x).mpr hkey⟩

/-- A driver on which `List` and `Delete` succeed. -/
def StorageDriver.faithful : StorageDriver Unit := ⟨.ok, fun _ => none⟩

theorem StorageDriver.faithful_succeeds : StorageDriver.faithful.Succeeds :=
  ⟨fun _ => rfl, fun _ => rfl⟩

theorem runOnce_removes_stale_demo :
    removals (runOnce id compileFragment (lit "/workspace") .faithful (.ok [lit "live"])
        (.ok [⟨lit "demo.git", true⟩, ⟨lit "live.git", true⟩])
        [lit "/home/demo:git-1234abcd", lit "/home/live:git-1234abcd"]).1 =
      (staleDirs id [lit "live"] [⟨lit "demo.git", true⟩, ⟨lit "live.git", true⟩]).map
        (fun d => FilePath.join [lit "/workspace", d]) ∧
    ∀ x, Effect.delete x ∈ (runOnce id compileFragment (lit "/workspace") .faithful
        (.ok [lit "live"]) (.ok [⟨lit "demo.git", true⟩, ⟨lit "live.git", true⟩])
        [lit "/home/demo:git-1234abcd", lit "/home/live:git-1234abcd"]).1 ↔
      x ∈ [lit "/home/demo:git-1234abcd", lit "/home/live:git-1234abcd"] ∧
        ∃ d ∈ staleDirs id [lit "live"] [⟨lit "demo.git", true⟩, ⟨lit "live.git", true⟩],
          IsGitKeyOf (trimSuffix d dotGitSuffix) x :=
  runOnce_removes_stale id followsRE2_compileFragment (lit "/workspace")
    StorageDriver.faithful_succeeds [lit "live"]
    [⟨lit "demo.git", true⟩, ⟨lit "live.git", true⟩]
    [lit "/home/demo:git-1234abcd", lit "/home/live:git-1234abcd"] (by decide)

/-- Where the names are not plain: a directory with an upper-case letter is removed under its
lower-cased name, and an app whose name has a `.` has the objects of a live app deleted. -/
theorem runOnce_mixed_case_and_metachar :
    runOnce id compileFragment (lit "/workspace") .faithful (.ok [])
        (.ok [⟨lit "MyApp.git", true⟩]) [] =
      ([.removeAll (lit "/workspace/myapp.git")], []) ∧
    runOnce id compileFragment (lit "/workspace") .faithful (.ok [lit "axb"])
        (.ok [⟨lit "a.b.git", true⟩]) [lit "/home/axb:git-12345678"] =
      ([.removeAll (lit "/workspace/a.b.git"), .delete (lit "/home/axb:git-12345678")], []) :=
  ⟨by decide, by decide⟩

end Cleaner

end DryccBuilder
