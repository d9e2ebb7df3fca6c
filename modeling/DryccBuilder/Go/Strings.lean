import Mathlib

/-!
# Go strings

A Go `string` is an immutable sequence of bytes: `len` counts bytes, `s[i:j]` slices bytes,
and the functions of package `strings` that the builder calls compare bytes. This module
models a Go string as a `List UInt8` and gives those functions as their documentation states
them, over lists of any type with decidable equality wherever the function does not look
inside the bytes.

## The model

* `lit` is a string literal of the source: the UTF-8 bytes of its characters.
* `contains`, `hasPrefix`, `hasSuffix` decide `<:+:`, `<+:`, `<:+` of `Mathlib.Data.List.Infix`.
* `trimPrefix`, `trimSuffix`, `lastIndex`, `join` follow `strings.TrimPrefix`,
  `strings.TrimSuffix`, `strings.LastIndex` (with `none` for Go's `-1`) and `strings.Join`.
* `split`, `splitN` and `replaceAll` are given for a one-byte separator or pattern, and
  `replacer` for a `strings.Replacer` whose old strings are single bytes: these are the only
  kinds the builder uses, and for them Go's definitions do not depend on UTF-8 decoding.
* `trimSpace` follows `strings.TrimSpace`, which does decode: it drops the UTF-8 encodings of
  the runes of `unicode.IsSpace` from both ends (`trimFunc` over `Encodings`).
* `toLower` follows `strings.ToLower`: an ASCII string is lowered byte by byte; any other
  string goes through `strings.Map(unicode.ToLower, s)`, whose Unicode case table is taken
  as a parameter `mapLower`.
-/

namespace Go

/-- A Go `string`: its bytes. -/
abbrev GoString := List UInt8

/-- A string literal of the source: the UTF-8 encoding of its characters. -/
def lit (s : String) : GoString := s.toList.flatMap String.utf8EncodeChar

/-- The byte of a one-byte literal. -/
def byte (s : String) : UInt8 := (lit s).headD 0

@[simp] theorem lit_append (s t : String) : lit (s ++ t) = lit s ++ lit t := by
  simp [lit]

section Generic

variable {α : Type*} [DecidableEq α]

/-! ### Searching -/

/-- `strings.Contains(s, substr)`: `substr` occurs in `s`. -/
def contains (s substr : List α) : Bool := decide (substr <:+: s)

/-- `strings.HasPrefix(s, prefix)`. -/
def hasPrefix (s pre : List α) : Bool := decide (pre <+: s)

/-- `strings.HasSuffix(s, suffix)`. -/
def hasSuffix (s suf : List α) : Bool := decide (suf <:+ s)

/-- `strings.LastIndex(s, substr)`: the last index at which `substr` begins in `s`, or `none`
where Go returns `-1`. -/
def lastIndex (s substr : List α) : Option ℕ :=
  ((List.range (s.length + 1)).filter fun i => substr <+: s.drop i).getLast?

@[simp] theorem contains_iff {s t : List α} : contains s t = true ↔ t <:+: s := by
  simp [contains]

@[simp] theorem hasPrefix_iff {s t : List α} : hasPrefix s t = true ↔ t <+: s := by
  simp [hasPrefix]

@[simp] theorem hasSuffix_iff {s t : List α} : hasSuffix s t = true ↔ t <:+ s := by
  simp [hasSuffix]

/-- The empty string occurs in every string. -/
@[simp] theorem contains_nil (s : List α) : contains s [] = true := by
  simp [List.nil_infix]

/-- An element of a joined list occurs in the join. -/
theorem contains_join_of_mem {elems : List (List α)} {x : List α} (sep : List α)
    (h : x ∈ elems) : contains (sep.intercalate elems) x = true := by
  rw [contains_iff]
  induction elems with
  | nil => simp at h
  | cons e es ih =>
    cases es with
    | nil =>
      rw [List.mem_singleton] at h
      simp [h]
    | cons e' es' =>
      rw [List.intercalate_cons_cons]
      rcases List.mem_cons.mp h with rfl | h
      · exact ⟨[], sep ++ sep.intercalate (e' :: es'), by simp⟩
      · exact (ih h).trans ⟨e ++ sep, [], by simp⟩

/-! ### Rewriting -/

/-- `strings.TrimPrefix(s, prefix)`: `s` without the leading `prefix`, if it begins with it. -/
def trimPrefix (s pre : List α) : List α := if pre <+: s then s.drop pre.length else s

/-- `strings.TrimSuffix(s, suffix)`: `s` without the trailing `suffix`, if it ends with it. -/
def trimSuffix (s suf : List α) : List α :=
  if suf <:+ s then s.take (s.length - suf.length) else s

/-- A `strings.Replacer` made by `strings.NewReplacer(old₁, new₁, ...)` from one-byte old
strings: each element is replaced by the new string of the first pair whose old is that
element, and kept if there is none. -/
def replacer (pairs : List (α × List α)) (s : List α) : List α :=
  s.flatMap fun c => (pairs.lookup c).getD [c]

/-- `strings.ReplaceAll(s, old, new)` for a one-byte `old`. -/
def replaceAll (s : List α) (old : α) (new : List α) : List α :=
  s.flatMap fun c => if c = old then new else [c]

/-- `strings.Join(elems, sep)`. -/
def join (elems : List (List α)) (sep : List α) : List α := sep.intercalate elems

/-- `strings.SplitN(s, sep, n)` for a one-byte `sep`: at most `n` pieces, cut at the first
occurrences of `sep`, the last piece being the rest of `s` unsplit. -/
def splitN (s : List α) (sep : α) : ℕ → List (List α)
  | 0 => []
  | 1 => [s]
  | n + 2 =>
    if sep ∈ s then s.takeWhile (· ≠ sep) :: splitN (s.dropWhile (· ≠ sep)).tail sep (n + 1)
    else [s]

/-- `strings.Split(s, sep)` for a one-byte `sep`: the pieces between the occurrences of `sep`,
each occurrence cutting, so that `Split("", sep)` is `[""]`. -/
def split (s : List α) (sep : α) : List (List α) := s.splitOn sep

/-- `trimPrefix` keeps a suffix of the string. -/
theorem trimPrefix_isSuffix (s pre : List α) : trimPrefix s pre <:+ s := by
  unfold trimPrefix
  split
  · exact List.drop_suffix _ _
  · exact List.suffix_refl s

/-- `trimSuffix` keeps a prefix of the string. -/
theorem trimSuffix_isPrefix (s suf : List α) : trimSuffix s suf <+: s := by
  unfold trimSuffix
  split
  · exact List.take_prefix _ _
  · exact List.prefix_refl s

theorem trimSuffix_append {s suf : List α} (h : suf <:+ s) : trimSuffix s suf ++ suf = s := by
  obtain ⟨t, rfl⟩ := h
  simp [trimSuffix]

/-- The last place a suffix begins is where it ends the string. -/
theorem lastIndex_of_isSuffix {s suf : List α} (h : suf <:+ s) :
    lastIndex s suf = some (s.length - suf.length) := by
  obtain ⟨t, rfl⟩ := h
  have hsplit : (t ++ suf).length + 1 = (t.length + 1) + suf.length := by simp; omega
  have hfar : ∀ j ∈ List.range suf.length, ¬ suf <+: (t ++ suf).drop (t.length + 1 + j) := by
    intro j hj hp
    have := hp.length_le
    rw [List.mem_range] at hj
    simp at this
    omega
  unfold lastIndex
  rw [hsplit, List.range_add, List.filter_append, List.range_succ, List.filter_append]
  have hnone : (List.map (fun j => t.length + 1 + j) (List.range suf.length)).filter
      (fun i => decide (suf <+: (t ++ suf).drop i)) = [] := by
    rw [List.filter_eq_nil_iff]
    intro i hi
    obtain ⟨j, hj, rfl⟩ := List.mem_map.mp hi
    simpa using hfar j hj
  have hlast : [t.length].filter (fun i => decide (suf <+: (t ++ suf).drop i)) = [t.length] := by
    simp
  rw [hnone, hlast]
  simp

theorem mem_replacer {pairs : List (α × List α)} {s : List α} {b : α} :
    b ∈ replacer pairs s ↔ ∃ a ∈ s, b ∈ (pairs.lookup a).getD [a] := by
  simp [replacer]

theorem mem_replaceAll {s : List α} {old b : α} {new : List α} :
    b ∈ replaceAll s old new ↔ (old ∈ s ∧ b ∈ new) ∨ (b ∈ s ∧ b ≠ old) := by
  simp only [replaceAll, List.mem_flatMap]
  constructor
  · rintro ⟨a, ha, hb⟩
    split at hb
    · exact Or.inl ⟨by rwa [← ‹a = old›], hb⟩
    · rw [List.mem_singleton] at hb
      subst hb
      exact Or.inr ⟨ha, ‹_›⟩
  · rintro (⟨ho, hb⟩ | ⟨hb, hne⟩)
    · exact ⟨old, ho, by simpa using hb⟩
    · exact ⟨b, hb, by simp [hne]⟩

/-- `SplitN` into two pieces at a separator that occurs. -/
theorem splitN_two_of_mem {s : List α} {sep : α} (h : sep ∈ s) :
    splitN s sep 2 = [s.takeWhile (· ≠ sep), (s.dropWhile (· ≠ sep)).tail] := by
  simp [splitN, h]

/-- `SplitN(s + sep + t, sep, 2)` when `s` has no `sep`: `s`, and `t` whole, each later `sep`
kept. -/
theorem splitN_two_append {s t : List α} {sep : α} (h : sep ∉ s) :
    splitN (s ++ sep :: t) sep 2 = [s, t] := by
  have hs : ∀ x ∈ s, decide (x ≠ sep) = true := fun x hx => by
    simpa using ne_of_mem_of_not_mem hx h
  rw [splitN_two_of_mem (by simp), List.takeWhile_append_of_pos hs,
    List.dropWhile_append_of_pos hs]
  simp

/-- Every piece of `SplitN` is a part of the string. -/
theorem infix_of_mem_splitN {s : List α} {sep : α} {n : ℕ} {p : List α}
    (h : p ∈ splitN s sep n) : p <:+: s := by
  induction n using Nat.strongRecOn generalizing s with
  | ind n ih =>
    match n, h with
    | 1, h =>
      rw [splitN, List.mem_singleton] at h
      exact h ▸ List.infix_refl s
    | n + 2, h =>
      unfold splitN at h
      split at h
      · rcases List.mem_cons.mp h with rfl | h
        · exact (List.takeWhile_prefix _).isInfix
        · refine (ih (n + 1) (by omega) h).trans ?_
          exact (List.tail_suffix _ |>.trans (List.dropWhile_suffix _)).isInfix
      · rw [List.mem_singleton] at h
        exact h ▸ List.infix_refl s

/-- `Split` cuts at every occurrence: one piece more than the separator occurs. -/
theorem length_split (s : List α) (sep : α) : (split s sep).length = s.count sep + 1 := by
  induction s with
  | nil => simp [split]
  | cons c s ih =>
    simp only [split, List.splitOn, List.splitOnP_cons_eq_if_modifyHead] at ih ⊢
    by_cases hc : c = sep
    · simp [hc, ih]
    · simp [hc, ih]

/-- A string with one separator splits into the two sides of it. -/
theorem split_eq_pair_iff {s : List α} {sep : α} :
    s.count sep = 1 ↔ ∃ a b, split s sep = [a, b] := by
  rw [← Nat.add_right_cancel_iff (n := 1), ← length_split, List.length_eq_two]

omit [DecidableEq α] in
/-- Joining one more element: the separator comes before it unless it is the first. -/
theorem join_append_singleton (elems : List (List α)) (x sep : List α) :
    join (elems ++ [x]) sep = join elems sep ++ (if elems = [] then [] else sep) ++ x := by
  induction elems with
  | nil => simp [join]
  | cons y ys ih =>
    cases ys with
    | nil => simp [join, List.intercalate_cons_cons]
    | cons z zs =>
      simp only [join, List.cons_append, List.intercalate_cons_cons] at ih ⊢
      rw [ih]
      simp

/-! ### Trimming

`strings.TrimLeftFunc(s, f)` decodes the rune at the front of `s` with
`utf8.DecodeRuneInString` and drops it while `f` holds of it. That function finds a rune
exactly where its UTF-8 encoding begins `s`, so, for the runes of `f` given by their encodings
`ws`, one step drops the encoding of `ws` that begins `s`. `strings.TrimRightFunc` decodes at
the end with `utf8.DecodeLastRuneInString`, which finds a rune exactly where its encoding ends
`s`: it is the same loop over the reversed string and the reversed encodings. Each step drops
at least one byte, so `len(s)` steps finish the loop.

The lemmas rest on three properties of UTF-8, which `Encodings` carries: no encoding begins
or ends another, and the first byte of an encoding never follows the first byte of one. -/

/-- The rest of `s` after the encoding of `ws` that begins it, if one does. -/
def dropLeading (ws : List (List α)) (s : List α) : Option (List α) :=
  (ws.find? fun w => decide (w <+: s)).map fun w => s.drop w.length

/-- `strings.TrimLeftFunc(s, f)`, `f` holding of the runes encoded by `ws`, in at most `n`
steps. -/
def trimLeftFunc (ws : List (List α)) : ℕ → List α → List α
  | 0, s => s
  | n + 1, s =>
    match dropLeading ws s with
    | some t => trimLeftFunc ws n t
    | none => s

/-- `strings.TrimRightFunc(s, f)`, in at most `n` steps. -/
def trimRightFunc (ws : List (List α)) (n : ℕ) (s : List α) : List α :=
  (trimLeftFunc (ws.map List.reverse) n s.reverse).reverse

/-- `strings.TrimFunc(s, f)`: `TrimRightFunc(TrimLeftFunc(s, f), f)`. -/
def trimFunc (ws : List (List α)) (s : List α) : List α :=
  trimRightFunc ws s.length (trimLeftFunc ws s.length s)

section PrefixFree

variable {ws : List (List α)} (hfree : ∀ w ∈ ws, ∀ w' ∈ ws, w <+: w' → w = w')
include hfree

/-- In a prefix code the encoding that begins `w ++ t` is `w`. -/
theorem dropLeading_append {w : List α} (hw : w ∈ ws) (t : List α) :
    dropLeading ws (w ++ t) = some t := by
  cases hf : ws.find? (fun w' => decide (w' <+: w ++ t)) with
  | none =>
    rw [List.find?_eq_none] at hf
    exact absurd (List.prefix_append w t) (by simpa using hf w hw)
  | some w' =>
    have hw' := List.mem_of_find?_eq_some hf
    have hp : w' <+: w ++ t := by simpa using List.find?_some hf
    have heq : w' = w := by
      rcases List.prefix_or_prefix_of_prefix hp (List.prefix_append w t) with h | h
      · exact hfree w' hw' w hw h
      · exact (hfree w hw w' hw' h).symm
    simp [dropLeading, hf, heq]

omit hfree in
theorem dropLeading_eq_none {s : List α} (hs : ∀ w ∈ ws, ¬ w <+: s) :
    dropLeading ws s = none := by
  simp only [dropLeading, Option.map_eq_none_iff, List.find?_eq_none]
  simpa using hs

omit hfree in
/-- A string that no encoding begins is its own `TrimLeftFunc`. -/
theorem trimLeftFunc_of_noLeading {s : List α} (hs : ∀ w ∈ ws, ¬ w <+: s) (n : ℕ) :
    trimLeftFunc ws n s = s := by
  cases n with
  | zero => rfl
  | succ n => simp [trimLeftFunc, dropLeading_eq_none hs]

/-- `TrimLeftFunc` drops a leading run of encodings, one per step. -/
theorem trimLeftFunc_flatten_append {rs : List (List α)} (hrs : ∀ r ∈ rs, r ∈ ws)
    {t : List α} (ht : ∀ w ∈ ws, ¬ w <+: t) {n : ℕ} (hn : rs.length ≤ n) :
    trimLeftFunc ws n (rs.flatten ++ t) = t := by
  induction rs generalizing n with
  | nil => exact trimLeftFunc_of_noLeading ht n
  | cons r rs ih =>
    obtain ⟨n, rfl⟩ : ∃ m, n = m + 1 := Nat.exists_eq_add_one.mpr (by simp at hn; omega)
    have hdrop := dropLeading_append hfree (hrs r List.mem_cons_self) (rs.flatten ++ t)
    rw [List.flatten_cons, List.append_assoc, trimLeftFunc, hdrop]
    exact ih (fun r' hr' => hrs r' (List.mem_cons_of_mem r hr')) (by simp at hn; omega)

end PrefixFree

/-- The encodings of a set of runes, with the properties of UTF-8 that trimming relies on. -/
structure Encodings (α : Type*) where
  /-- One encoding per rune. -/
  words : List (List α)
  ne_nil : ∀ w ∈ words, w ≠ []
  /-- No encoding begins another. -/
  prefix_free : ∀ w ∈ words, ∀ w' ∈ words, w <+: w' → w = w'
  /-- No encoding ends another. -/
  suffix_free : ∀ w ∈ words, ∀ w' ∈ words, w <:+ w' → w = w'
  /-- The first byte of an encoding never follows the first byte of one. -/
  head_not_mem_tail : ∀ w ∈ words, ∀ r ∈ words, ∀ c ∈ r.head?, c ∉ w.tail

namespace Encodings

variable (E : Encodings α)

/-- No encoding begins `s`. -/
def NoLeading (s : List α) : Prop := ∀ w ∈ E.words, ¬ w <+: s

/-- No encoding ends `s`. -/
def NoTrailing (s : List α) : Prop := ∀ w ∈ E.words, ¬ w <:+ s

/-- `s` is a run of encodings, such as a run of white space. -/
def IsRun (s : List α) : Prop := ∃ rs : List (List α), (∀ r ∈ rs, r ∈ E.words) ∧ s = rs.flatten

variable {E}

omit [DecidableEq α] in
theorem noLeading_nil : E.NoLeading [] := fun w hw hp =>
  E.ne_nil w hw (List.prefix_nil.mp hp)

omit [DecidableEq α] in
/-- A run has no more encodings than bytes. -/
theorem length_le_length_flatten {rs : List (List α)} (hrs : ∀ r ∈ rs, r ∈ E.words) :
    rs.length ≤ rs.flatten.length := by
  induction rs with
  | nil => simp
  | cons r rs ih =>
    have hr : r.length ≠ 0 := by
      simpa using E.ne_nil r (hrs r List.mem_cons_self)
    have := ih (fun r' hr' => hrs r' (List.mem_cons_of_mem r hr'))
    simp only [List.length_cons, List.flatten_cons, List.length_append]
    omega

omit [DecidableEq α] in
/-- The reversed encodings form a prefix code: `TrimRightFunc` reads them from the end. -/
theorem reverse_prefix_free :
    ∀ w ∈ E.words.map List.reverse, ∀ w' ∈ E.words.map List.reverse, w <+: w' → w = w' := by
  simp only [List.mem_map]
  rintro _ ⟨w, hw, rfl⟩ _ ⟨w', hw', rfl⟩ hp
  rw [E.suffix_free w hw w' hw' (List.reverse_prefix.mp hp)]

omit [DecidableEq α] in
/-- Past a non-empty string that no encoding begins, a run of encodings cannot complete an
encoding begun in the string: the run's first byte would follow an encoding's first byte. -/
theorem noLeading_append_run {k : List α} (hk : E.NoLeading k) (hne : k ≠ [])
    {b : List α} (hb : E.IsRun b) : E.NoLeading (k ++ b) := by
  obtain ⟨rs, hrs, rfl⟩ := hb
  intro w hw hp
  rcases List.prefix_or_prefix_of_prefix hp (List.prefix_append k rs.flatten) with h | h
  · exact hk w hw h
  obtain ⟨u, rfl⟩ := h
  -- `w = k ++ u`: the part `u` past `k` begins the run, and is not empty since `w` is no prefix of `k`
  have hu : u <+: rs.flatten := (List.prefix_append_right_inj k).mp hp
  obtain ⟨c, u, rfl⟩ := List.exists_cons_of_ne_nil (fun hnil : u = [] => hk _ hw (by simp [hnil]))
  obtain ⟨r, rs, rfl⟩ := List.exists_cons_of_ne_nil (fun hnil : rs = [] => by simp [hnil] at hu)
  obtain ⟨d, r, rfl⟩ := List.exists_cons_of_ne_nil (E.ne_nil _ (hrs _ List.mem_cons_self))
  have hcd : c = d := by simpa using hu.head
  obtain ⟨x, k, rfl⟩ := List.exists_cons_of_ne_nil hne
  exact E.head_not_mem_tail _ hw _ (hrs _ List.mem_cons_self) d (by simp) (by simp [← hcd])

omit [DecidableEq α] in
theorem IsRun.append {a b : List α} (ha : E.IsRun a) (hb : E.IsRun b) : E.IsRun (a ++ b) := by
  obtain ⟨ra, hra, rfl⟩ := ha
  obtain ⟨rb, hrb, rfl⟩ := hb
  refine ⟨ra ++ rb, fun r hr => ?_, by simp⟩
  rcases List.mem_append.mp hr with h | h
  exacts [hra r h, hrb r h]

/-- `TrimRightFunc` reads a run of encodings backwards and stops at the end of a string that
no encoding ends. -/
theorem trimRightFunc_append_run {k b : List α} (hk : E.NoTrailing k) (hb : E.IsRun b)
    {n : ℕ} (hn : b.length ≤ n) : trimRightFunc E.words n (k ++ b) = k := by
  obtain ⟨rb, hrb, rfl⟩ := hb
  have hrev : (k ++ rb.flatten).reverse = (rb.map List.reverse).reverse.flatten ++ k.reverse := by
    rw [List.reverse_append, List.reverse_flatten]
  have hrun : ∀ r ∈ (rb.map List.reverse).reverse, r ∈ E.words.map List.reverse := by
    intro r hr
    obtain ⟨r', hr', rfl⟩ := List.mem_map.mp (List.mem_reverse.mp hr)
    exact List.mem_map_of_mem (hrb r' hr')
  have hk'' : ∀ w ∈ E.words.map List.reverse, ¬ w <+: k.reverse := by
    intro w hw hp
    obtain ⟨w', hw', rfl⟩ := List.mem_map.mp hw
    exact hk w' hw' (List.reverse_prefix.mp hp)
  have hlen := length_le_length_flatten hrb
  rw [trimRightFunc, hrev,
    trimLeftFunc_flatten_append reverse_prefix_free hrun hk''
      (by simp only [List.length_reverse, List.length_map]; omega),
    List.reverse_reverse]

/-- White space alone trims to the empty string. -/
theorem trimFunc_run {a : List α} (ha : E.IsRun a) : trimFunc E.words a = [] := by
  obtain ⟨ra, hra, rfl⟩ := ha
  have hleft := trimLeftFunc_flatten_append E.prefix_free hra noLeading_nil
    (length_le_length_flatten hra)
  have hnil : E.NoTrailing [] := fun w hw hs => E.ne_nil w hw (List.suffix_nil.mp hs)
  rw [List.append_nil] at hleft
  rw [trimFunc, hleft]
  simpa using trimRightFunc_append_run hnil ⟨[], by simp, rfl⟩ (Nat.zero_le _)

/-- `TrimFunc` takes back white space put around a string that neither begins nor ends with
any: the round trip of trimming. -/
theorem trimFunc_pad {a k b : List α} (ha : E.IsRun a) (hb : E.IsRun b) (hk : E.NoLeading k)
    (hk' : E.NoTrailing k) : trimFunc E.words (a ++ k ++ b) = k := by
  by_cases hne : k = []
  · subst hne
    simpa using trimFunc_run (ha.append hb)
  obtain ⟨ra, hra, rfl⟩ := ha
  have hlen := length_le_length_flatten hra
  -- the left trim drops the run before `k` and stops at `k`, the run after it being no help
  have hleft : trimLeftFunc E.words (ra.flatten ++ k ++ b).length (ra.flatten ++ k ++ b)
      = k ++ b := by
    rw [List.append_assoc]
    exact trimLeftFunc_flatten_append E.prefix_free hra (noLeading_append_run hk hne hb)
      (by simp only [List.length_append]; omega)
  rw [trimFunc, hleft]
  exact trimRightFunc_append_run hk' hb (by simp only [List.length_append]; omega)

end Encodings

end Generic

/-! ### White space -/

/-- The runes of `unicode.IsSpace`: `'\t'`, `'\n'`, `'\v'`, `'\f'`, `'\r'`, `' '`, U+0085 and
U+00A0 of Latin-1, and the other runes of the `White_Space` table. -/
def spaceChars : List Char :=
  ['\t', '\n', '\x0b', '\x0c', '\r', ' ', '\x85', '\xa0', '\u1680',
   '\u2000', '\u2001', '\u2002', '\u2003', '\u2004', '\u2005', '\u2006', '\u2007', '\u2008',
   '\u2009', '\u200a', '\u2028', '\u2029', '\u202f', '\u205f', '\u3000']

/-- The UTF-8 encodings of the white space runes. -/
def spaceWords : List GoString := spaceChars.map String.utf8EncodeChar

theorem spaceWords_prefix_free :
    ∀ w ∈ spaceWords, ∀ w' ∈ spaceWords, w <+: w' → w = w' := by
  decide +kernel

theorem spaceWords_suffix_free :
    ∀ w ∈ spaceWords, ∀ w' ∈ spaceWords, w <:+ w' → w = w' := by
  decide +kernel

theorem spaceWords_head_not_mem_tail :
    ∀ w ∈ spaceWords, ∀ r ∈ spaceWords, ∀ c ∈ r.head?, c ∉ w.tail := by
  -- decided as a boolean: the kernel is slow on the nested membership instances
  have h : (spaceWords.all fun w => spaceWords.all fun r =>
      w.tail.all fun c => r.head? != some c) = true := by
    decide +kernel
  simp only [List.all_eq_true, bne_iff_ne, ne_eq] at h
  intro w hw r hr c hc hct
  exact h w hw r hr c hct (Option.mem_def.mp hc)

/-- The white space runes, as `Encodings`. -/
def spaceRunes : Encodings UInt8 where
  words := spaceWords
  ne_nil := by decide
  prefix_free := spaceWords_prefix_free
  suffix_free := spaceWords_suffix_free
  head_not_mem_tail := spaceWords_head_not_mem_tail

/-- `strings.TrimSpace(s)`: `TrimFunc(s, unicode.IsSpace)`, which its ASCII fast path also
computes. -/
def trimSpace (s : GoString) : GoString := trimFunc spaceRunes.words s

example : trimSpace (lit "\u3000 pool:worker\t") = lit "pool:worker" := by decide

/-! ### Formatting -/

/-- `fmt.Sprintf("%04x", n)`: `n` in lowercase hexadecimal, padded with `0` to four digits. -/
def hex04 (n : ℕ) : GoString :=
  let d := Nat.toDigits 16 n
  (List.replicate (4 - d.length) '0' ++ d).map Char.toUInt8

example : hex04 35 = lit "0023" := by decide

/-! ### Case -/

/-- The ASCII lowering of a byte: `'A'`..`'Z'` to `'a'`..`'z'`, every other byte kept. -/
def asciiLower (c : UInt8) : UInt8 := if 65 ≤ c ∧ c ≤ 90 then c + 32 else c

/-- `strings.ToLower(s)`: an ASCII string is lowered byte by byte, any other goes through
`strings.Map(unicode.ToLower, s)`, given here as `mapLower`. -/
def toLower (mapLower : GoString → GoString) (s : GoString) : GoString :=
  if s.all (· < 0x80) then s.map asciiLower else mapLower s

/-- A string of lower-case ASCII is its own `ToLower`. -/
theorem toLower_of_lower (mapLower : GoString → GoString) {s : GoString}
    (h : ∀ c ∈ s, c < 0x80 ∧ asciiLower c = c) : toLower mapLower s = s := by
  have hall : s.all (· < 0x80) = true := by
    rw [List.all_eq_true]
    intro c hc
    simpa using (h c hc).1
  rw [toLower, if_pos hall]
  conv_rhs => rw [← List.map_id s]
  exact List.map_congr_left fun c hc => (h c hc).2
end Go
