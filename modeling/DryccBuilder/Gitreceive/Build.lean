import DryccBuilder.Go.Builtin
import DryccBuilder.Go.Strings

/-!
# The builder pod's node selector

`buildBuilderPodNodeSelector` (`pkg/gitreceive/build.go`) reads the setting
`BUILDER_POD_NODE_SELECTOR` into the node selector of the builder pod. The setting is a list of
`key:value` segments separated by `,`: each segment is split at `:`, a segment that does not
split in two fails the whole setting, and otherwise the trimmed key is set to the trimmed value,
a later segment overriding an earlier one with the same key. The empty setting is the empty
selector, although `Split("", ",")` is one empty segment.

## The model

The result is an `Except`: the error is the text `fmt.Errorf` makes, the selector a `GoMap`.
`selectorStep` is the body of the loop and `buildBuilderPodNodeSelector` the loop, a `foldlM`
over the segments that stops at the first error as the `return` does.

## What is proved

* `buildBuilderPodNodeSelector_ok_iff`: the setting is accepted exactly when it is empty or
  every segment has one `:`; `buildBuilderPodNodeSelector_error` gives the error text.
* `get?_buildBuilderPodNodeSelector`: an accepted setting maps each trimmed key to the trimmed
  value of its last segment, and nothing else.
* `buildBuilderPodNodeSelector_join`: the parser inverts the printer. Joining `k:v` segments,
  with white space around each key and value (`Padded`), parses back to the map of the pairs.
-/

namespace DryccBuilder.Gitreceive

open Go

/-- The error of a setting that is not a list of `key:value` segments. -/
def nodeSelectorError (config : GoString) : GoString :=
  lit "invalid BuilderPodNodeSelector value format: " ++ config

/-- One turn of the loop over the segments: `param := strings.Split(line, ":")`, and
`selector[TrimSpace(param[0])] = TrimSpace(param[1])` when there are two pieces. -/
def selectorStep (config : GoString) (selector : GoMap GoString GoString) (line : GoString) :
    Except GoString (GoMap GoString GoString) :=
  match split line (byte ":") with
  | [key, value] => .ok (selector.insert (trimSpace key) (trimSpace value))
  | _ => .error (nodeSelectorError config)

/-- `buildBuilderPodNodeSelector(config)`. -/
def buildBuilderPodNodeSelector (config : GoString) :
    Except GoString (GoMap GoString GoString) :=
  if config ≠ [] then (split config (byte ",")).foldlM (selectorStep config) GoMap.empty
  else .ok GoMap.empty

example : buildBuilderPodNodeSelector (lit "pool:worker ,network:fast, disk:ssd") =
    .ok (((GoMap.empty.insert (lit "pool") (lit "worker")).insert (lit "network") (lit "fast")).insert
      (lit "disk") (lit "ssd")) := by
  decide

/-- The key and value a segment sets, when it has one `:`. -/
def segmentPair (line : GoString) : Option (GoString × GoString) :=
  match split line (byte ":") with
  | [key, value] => some (trimSpace key, trimSpace value)
  | _ => none

/-! ### One segment -/

section Step

variable {config : GoString} {selector selector' : GoMap GoString GoString} {line : GoString}

theorem selectorStep_eq_ok_iff :
    selectorStep config selector line = .ok selector' ↔
      ∃ key value, segmentPair line = some (key, value) ∧ selector' = selector.insert key value := by
  unfold selectorStep segmentPair
  split <;> simp [eq_comm]

theorem selectorStep_error {e : GoString} (h : selectorStep config selector line = .error e) :
    e = nodeSelectorError config := by
  unfold selectorStep at h
  split at h <;> simp_all

/-- A segment is accepted exactly when it has one `:`. -/
theorem segmentPair_isSome_iff : (segmentPair line).isSome ↔ line.count (byte ":") = 1 := by
  rw [split_eq_pair_iff, segmentPair]
  split <;> simp_all

theorem selectorStep_isOk_iff :
    (∃ selector', selectorStep config selector line = .ok selector') ↔
      line.count (byte ":") = 1 := by
  simp only [selectorStep_eq_ok_iff, ← segmentPair_isSome_iff, Option.isSome_iff_exists]
  constructor
  · rintro ⟨_, key, value, h, -⟩
    exact ⟨_, h⟩
  · rintro ⟨⟨key, value⟩, h⟩
    exact ⟨_, key, value, h, rfl⟩

end Step

/-! ### The loop -/

section Loop

variable (config : GoString)

/-- Every error of the loop is the one error text. -/
theorem foldlM_selectorStep_error {lines : List GoString} {selector : GoMap GoString GoString}
    {e : GoString} (h : lines.foldlM (selectorStep config) selector = .error e) :
    e = nodeSelectorError config := by
  induction lines generalizing selector with
  | nil => cases h
  | cons line lines ih =>
    rw [List.foldlM_cons] at h
    cases hs : selectorStep config selector line with
    | error e' =>
      rw [hs] at h
      cases h
      exact selectorStep_error hs
    | ok selector' =>
      rw [hs] at h
      exact ih h

/-- The loop runs to its end exactly when every segment has one `:`. -/
theorem foldlM_selectorStep_isOk_iff (lines : List GoString) (selector : GoMap GoString GoString) :
    (∃ selector', lines.foldlM (selectorStep config) selector = .ok selector') ↔
      ∀ line ∈ lines, line.count (byte ":") = 1 := by
  induction lines generalizing selector with
  | nil => simp [List.foldlM_nil, pure, Except.pure]
  | cons line lines ih =>
    rw [List.forall_mem_cons, ← @selectorStep_isOk_iff config selector line]
    simp only [List.foldlM_cons]
    cases hs : selectorStep config selector line with
    | error e => simp [bind, Except.bind]
    | ok selector' => simpa [bind, Except.bind] using ih selector'

/-- What the loop leaves at a key: the value of the last segment with that key, or what was
there before. -/
theorem get?_foldlM_selectorStep {lines : List GoString} {selector selector' : GoMap GoString GoString}
    (h : lines.foldlM (selectorStep config) selector = .ok selector') (key : GoString) :
    selector'.get? key =
      ((lines.filterMap segmentPair).reverse.lookup key).or (selector.get? key) := by
  induction lines generalizing selector with
  | nil =>
    cases h
    simp
  | cons line lines ih =>
    rw [List.foldlM_cons] at h
    cases hs : selectorStep config selector line with
    | error e =>
      rw [hs] at h
      cases h
    | ok selector₁ =>
      rw [hs] at h
      obtain ⟨k, v, hkv, rfl⟩ := selectorStep_eq_ok_iff.mp hs
      rw [ih h, List.filterMap_cons, hkv, List.reverse_cons, List.lookup_append, Option.or_assoc,
        GoMap.get?_insert]
      by_cases hk : key = k
      · simp [hk]
      · simp [List.lookup_cons, beq_false_of_ne hk, hk]

end Loop

/-! ### The setting -/

/-- An error of `buildBuilderPodNodeSelector` is the one error text, naming the setting. -/
theorem buildBuilderPodNodeSelector_error {config e : GoString}
    (h : buildBuilderPodNodeSelector config = .error e) : e = nodeSelectorError config := by
  unfold buildBuilderPodNodeSelector at h
  split at h
  · exact foldlM_selectorStep_error config h
  · cases h

/-- The setting is accepted exactly when it is empty or each of its segments has one `:`. -/
theorem buildBuilderPodNodeSelector_ok_iff (config : GoString) :
    (∃ selector, buildBuilderPodNodeSelector config = .ok selector) ↔
      config = [] ∨ ∀ line ∈ split config (byte ","), line.count (byte ":") = 1 := by
  unfold buildBuilderPodNodeSelector
  by_cases hc : config = []
  · simp [hc]
  · simp only [ne_eq, hc, not_false_eq_true, if_true, false_or]
    exact foldlM_selectorStep_isOk_iff config _ _

/-- An accepted setting maps each trimmed key to the trimmed value of the last segment with
that key, and has no other keys. -/
theorem get?_buildBuilderPodNodeSelector {config : GoString} {selector : GoMap GoString GoString}
    (h : buildBuilderPodNodeSelector config = .ok selector) (key : GoString) :
    selector.get? key = ((split config (byte ",")).filterMap segmentPair).reverse.lookup key := by
  unfold buildBuilderPodNodeSelector at h
  split at h
  · simpa using get?_foldlM_selectorStep config h key
  · -- the empty setting: its one segment `""` has no `:` and sets nothing
    cases h
    simp_all [split, segmentPair]

/-! ### Printing and parsing back -/

/-- A key or value as written into the setting: a text with no `,` or `:` that does not begin
or end with white space, and white space around it. -/
structure Padded where
  /-- The white space before. -/
  before : GoString
  /-- The key or value. -/
  text : GoString
  /-- The white space after. -/
  after : GoString
  no_comma : byte "," ∉ text
  no_colon : byte ":" ∉ text
  no_leading : spaceRunes.NoLeading text
  no_trailing : spaceRunes.NoTrailing text
  space_before : spaceRunes.IsRun before
  space_after : spaceRunes.IsRun after

/-- The bytes of a padded text. -/
def Padded.render (p : Padded) : GoString := p.before ++ p.text ++ p.after

/-- The segment `k:v`. -/
def segment (kv : Padded × Padded) : GoString := kv.1.render ++ lit ":" ++ kv.2.render

/-- White space holds no `,` and no `:`. -/
theorem not_mem_of_isRun {s : GoString} (hs : spaceRunes.IsRun s) :
    byte "," ∉ s ∧ byte ":" ∉ s := by
  have hw : ∀ w ∈ spaceRunes.words, byte "," ∉ w ∧ byte ":" ∉ w := by
    decide +kernel
  obtain ⟨rs, hrs, rfl⟩ := hs
  simp only [List.mem_flatten, not_exists, not_and]
  exact ⟨fun r hr => (hw r (hrs r hr)).1, fun r hr => (hw r (hrs r hr)).2⟩

theorem Padded.render_not_mem (p : Padded) : byte "," ∉ p.render ∧ byte ":" ∉ p.render := by
  have hb := not_mem_of_isRun p.space_before
  have ha := not_mem_of_isRun p.space_after
  simp only [render, List.mem_append, not_or]
  exact ⟨⟨⟨hb.1, p.no_comma⟩, ha.1⟩, ⟨⟨hb.2, p.no_colon⟩, ha.2⟩⟩

theorem Padded.trimSpace_render (p : Padded) : trimSpace p.render = p.text :=
  Encodings.trimFunc_pad p.space_before p.space_after p.no_leading p.no_trailing

/-- A segment splits at its one `:` and sets its key to its value. -/
theorem segmentPair_segment (kv : Padded × Padded) :
    segmentPair (segment kv) = some (kv.1.text, kv.2.text) := by
  have hcolon : lit ":" = [byte ":"] := by decide
  have hsplit : split (segment kv) (byte ":") = [kv.1.render, kv.2.render] := by
    have h : List.splitOn (byte ":") ([byte ":"].intercalate [kv.1.render, kv.2.render]) =
        [kv.1.render, kv.2.render] :=
      List.splitOn_intercalate _
        (by simpa using And.intro kv.1.render_not_mem.2 kv.2.render_not_mem.2) (by simp)
    simpa [Go.split, segment, hcolon] using h
  simp only [segmentPair, hsplit, Padded.trimSpace_render]

theorem segment_not_mem_comma (kv : Padded × Padded) : byte "," ∉ segment kv := by
  have h1 := kv.1.render_not_mem.1
  have h2 := kv.2.render_not_mem.1
  have hc : byte "," ∉ lit ":" := by decide
  simp only [segment, List.mem_append, not_or]
  exact ⟨⟨h1, hc⟩, h2⟩

/-- The setting the pairs print to splits back into their segments. -/
theorem split_join_segment {pairs : List (Padded × Padded)} (hne : pairs ≠ []) :
    split (join (pairs.map segment) (lit ",")) (byte ",") = pairs.map segment := by
  have hcomma : lit "," = [byte ","] := by decide
  rw [join, hcomma, Go.split]
  refine List.splitOn_intercalate (byte ",") (fun line hline => ?_) (by simpa using hne)
  obtain ⟨kv, -, rfl⟩ := List.mem_map.mp hline
  exact segment_not_mem_comma kv

/-- The parser inverts the printer: the `,`-join of `k:v` segments, with any white space around
each key and value, parses to the map of the pairs, a later pair overriding an earlier one. -/
theorem buildBuilderPodNodeSelector_join (pairs : List (Padded × Padded)) :
    ∃ selector, buildBuilderPodNodeSelector (join (pairs.map segment) (lit ",")) = .ok selector ∧
      ∀ key, selector.get? key =
        (pairs.map fun kv => (kv.1.text, kv.2.text)).reverse.lookup key := by
  by_cases hnil : pairs = []
  · subst hnil
    exact ⟨GoMap.empty, rfl, fun key => rfl⟩
  have hsplit := split_join_segment hnil
  have hpairs : (pairs.map segment).filterMap segmentPair =
      pairs.map fun kv => (kv.1.text, kv.2.text) := by
    have hf : segmentPair ∘ segment = some ∘ fun kv : Padded × Padded => (kv.1.text, kv.2.text) :=
      funext segmentPair_segment
    rw [List.filterMap_map, hf, List.filterMap_eq_map]
  obtain ⟨selector, hsel⟩ := (buildBuilderPodNodeSelector_ok_iff _).mpr (Or.inr (by
    rw [hsplit]
    intro line hline
    obtain ⟨kv, -, rfl⟩ := List.mem_map.mp hline
    exact segmentPair_isSome_iff.mp (by simp [segmentPair_segment])))
  refine ⟨selector, hsel, fun key => ?_⟩
  rw [get?_buildBuilderPodNodeSelector hsel, hsplit, hpairs]

/-- The node-selector parser accepts exactly its grammar, says what an accepted setting maps each
key to, and inverts its printer. -/
theorem buildBuilderPodNodeSelector_accepts_grammar :
    (∀ config, (∃ selector, buildBuilderPodNodeSelector config = .ok selector) ↔
      config = [] ∨ ∀ line ∈ split config (byte ","), line.count (byte ":") = 1) ∧
    (∀ config selector, buildBuilderPodNodeSelector config = .ok selector → ∀ key,
      selector.get? key = ((split config (byte ",")).filterMap segmentPair).reverse.lookup key) ∧
    ∀ pairs : List (Padded × Padded), ∃ selector,
      buildBuilderPodNodeSelector (join (pairs.map segment) (lit ",")) = .ok selector ∧
        ∀ key, selector.get? key = (pairs.map fun kv => (kv.1.text, kv.2.text)).reverse.lookup key :=
  ⟨buildBuilderPodNodeSelector_ok_iff, fun _ _ h => get?_buildBuilderPodNodeSelector h,
    buildBuilderPodNodeSelector_join⟩

theorem buildBuilderPodNodeSelector_pool_worker :
    buildBuilderPodNodeSelector (lit "pool:worker") =
        .ok (GoMap.empty.insert (lit "pool") (lit "worker")) ∧
      (GoMap.empty.insert (lit "pool") (lit "worker")).get? (lit "pool") = some (lit "worker") := by
  have hsel : buildBuilderPodNodeSelector (lit "pool:worker") =
      .ok (GoMap.empty.insert (lit "pool") (lit "worker")) := by
    decide
  refine ⟨hsel, ?_⟩
  rw [buildBuilderPodNodeSelector_accepts_grammar.2.1 _ _ hsel]
  decide

end DryccBuilder.Gitreceive
