import Mathlib.Data.List.Basic

/-!
# Go slices and maps

Two of Go's built-in composite types, as a library over arbitrary element types.

A slice value is a header: the backing array it points into and a length. Copying a struct
that holds a slice copies the header and not the elements, so an assignment `s[i].f = x` made
through one copy is seen through every header on the same array. `Arrays α` is the store of
the backing arrays of one element type, addressed by number; `Slice.read` gives the elements a
header sees, and `Slice.modify` the store after a write through it, `none` where the index is
out of range and the Go runtime panics. A buffer that no other header shares is its list of
elements, filled by `storeNext`.

A map value is modelled by the entries a `for k, v := range m` visits, in that order, with
distinct keys. The runtime picks the order afresh for each loop; a statement over every map is
a statement over every order.
-/

namespace Go

/-! ### Slices -/

/-- A slice header: the address of its backing array and its length. -/
structure Slice where
  /-- The backing array, an address of the store. -/
  array : ℕ
  /-- `len(s)`. -/
  len : ℕ
  deriving DecidableEq, Repr

/-- The backing arrays of one element type, by address. -/
structure Arrays (α : Type) where
  /-- The array at each address. -/
  arrays : List (List α)

variable {α : Type}

/-- A new backing array holding `xs`, and the header of the slice over all of it. -/
def Arrays.alloc (h : Arrays α) (xs : List α) : Slice × Arrays α :=
  (⟨h.arrays.length, xs.length⟩, ⟨h.arrays ++ [xs]⟩)

namespace Slice

/-- The elements `s[0], ..., s[len(s)-1]`. -/
def read (s : Slice) (h : Arrays α) : List α :=
  (h.arrays.getD s.array []).take s.len

/-- `s[i] = f(s[i])`: the store after the write into the backing array. -/
def modify (s : Slice) (i : ℕ) (f : α → α) (h : Arrays α) : Option (Arrays α) :=
  if i < s.len then some ⟨h.arrays.modify s.array (List.modify · i f)⟩ else none

/-- The header points into the store: its array exists and is at least as long. -/
def Valid (s : Slice) (h : Arrays α) : Prop :=
  ∃ xs, h.arrays[s.array]? = some xs ∧ s.len ≤ xs.length

variable {s t : Slice} {h h' : Arrays α} {i : ℕ} {f : α → α}

@[simp]
theorem read_alloc (h : Arrays α) (xs : List α) :
    (h.alloc xs).1.read (h.alloc xs).2 = xs := by
  simp [Arrays.alloc, read]

theorem valid_alloc (h : Arrays α) (xs : List α) : (h.alloc xs).1.Valid (h.alloc xs).2 :=
  ⟨xs, by simp [Arrays.alloc]⟩

theorem modify_of_lt (hi : i < s.len) :
    s.modify i f h = some ⟨h.arrays.modify s.array (List.modify · i f)⟩ := by
  simp [modify, hi]

theorem modify_eq_none (hi : s.len ≤ i) : s.modify i f h = none := by
  simp [modify, Nat.not_lt.mpr hi]

/-- A write that succeeds was in range. -/
theorem lt_of_modify_eq_some (hm : s.modify i f h = some h') : i < s.len := by
  by_contra hn
  rw [modify_eq_none (Nat.not_lt.mp hn)] at hm
  cases hm

/-- A write through `s` is seen through `s`: its elements are modified at `i`. -/
theorem read_modify (hs : s.Valid h) (hm : s.modify i f h = some h') :
    s.read h' = (s.read h).modify i f := by
  obtain ⟨xs, hxs, -⟩ := hs
  rw [modify_of_lt (lt_of_modify_eq_some hm), Option.some.injEq] at hm
  subst hm
  simp only [read, List.getD_eq_getElem?_getD, List.getElem?_modify, hxs]
  simp [List.take_modify]

/-- A write keeps every header valid: it changes no array's length. -/
theorem Valid.modify (ht : t.Valid h) (hm : s.modify i f h = some h') : t.Valid h' := by
  obtain ⟨ys, hys, hlen⟩ := ht
  rw [modify_of_lt (lt_of_modify_eq_some hm), Option.some.injEq] at hm
  subst hm
  refine ⟨if s.array = t.array then ys.modify i f else ys, ?_, ?_⟩
  · simp only [List.getElem?_modify, hys]
    split <;> simp
  · split <;> simpa

/-! A slice of one element, such as the `Containers` of a pod with one container: every write
`s[0] = f(s[0])` succeeds and is seen through `s`. -/

/-- `s` points into the store and holds exactly `x`. -/
def Holds (s : Slice) (h : Arrays α) (x : α) : Prop := s.Valid h ∧ s.read h = [x]

theorem holds_alloc (h : Arrays α) (x : α) : (h.alloc [x]).1.Holds (h.alloc [x]).2 x :=
  ⟨valid_alloc h [x], read_alloc h [x]⟩

theorem Holds.len_pos {x : α} (hx : s.Holds h x) : 0 < s.len := by
  obtain ⟨-, hr⟩ := hx
  by_contra h0
  rw [read, Nat.eq_zero_of_not_pos h0, List.take_zero] at hr
  cases hr

theorem Holds.modify {x : α} (hx : s.Holds h x) (f : α → α) :
    ∃ h', s.modify 0 f h = some h' ∧ s.Holds h' (f x) := by
  have hm := modify_of_lt (f := f) (h := h) hx.len_pos
  refine ⟨_, hm, hx.1.modify hm, ?_⟩
  rw [read_modify hx.1 hm, hx.2]
  rfl

end Slice

/-! A buffer that only its own function sees, such as a `make([]byte, n)` that a loop fills one
element after the other with `buf[j] = v; j++`, is its list of elements with the index `j`. -/

/-- `buf[j] = v; j++`: `none` where `j` is out of range and the runtime panics. -/
def storeNext (st : ℕ × List α) (v : α) : Option (ℕ × List α) :=
  if st.1 < st.2.length then some (st.1 + 1, st.2.set st.1 v) else none

/-- A buffer of `n` elements made as `d`, whose first elements `w` have been written, with the
index of the next write. -/
def filled (w : List α) (n : ℕ) (d : α) : ℕ × List α :=
  (w.length, w ++ List.replicate (n - w.length) d)

@[simp]
theorem filled_nil (n : ℕ) (d : α) : filled [] n d = (0, List.replicate n d) := by
  simp [filled]

/-- The next write into a buffer with room lands just past what was written. -/
theorem storeNext_filled {w : List α} {n : ℕ} (hw : w.length < n) (d v : α) :
    storeNext (filled w n d) v = some (filled (w ++ [v]) n d) := by
  obtain ⟨m, hm⟩ : ∃ m, n - w.length = m + 1 := ⟨n - w.length - 1, by omega⟩
  have hlen : (w ++ List.replicate (n - w.length) d).length = n := by
    rw [List.length_append, List.length_replicate]
    omega
  have hrest : n - (w ++ [v]).length = m := by
    rw [List.length_append, List.length_singleton]
    omega
  simp only [storeNext, filled, hlen, hw, if_true, hrest]
  rw [List.set_append_right _ _ (Nat.le_refl _), Nat.sub_self, hm, List.replicate_succ,
    List.set_cons_zero, List.length_append, List.length_singleton, List.append_assoc,
    List.singleton_append]

/-- Writes of `ws`, one after the other, into a buffer with room for them. -/
theorem foldlM_storeNext_filled {w : List α} {n : ℕ} (d : α) (ws : List α)
    (h : (w ++ ws).length ≤ n) :
    ws.foldlM storeNext (filled w n d) = some (filled (w ++ ws) n d) := by
  induction ws generalizing w with
  | nil => simp
  | cons v ws ih =>
    have hw : w.length < n := by
      rw [List.length_append, List.length_cons] at h
      omega
    simp only [List.foldlM_cons, storeNext_filled hw, Option.bind_eq_bind, Option.bind_some]
    rw [ih (by simpa using h)]
    simp

/-! ### Maps -/

/-- A `map[κ]ν`, by the entries a `range` over it visits, in that order. -/
structure GoMap (κ ν : Type) where
  /-- The entries, in the order of iteration. -/
  entries : List (κ × ν)
  /-- A key appears once. -/
  nodup : (entries.map Prod.fst).Nodup
  deriving DecidableEq

namespace GoMap

variable {κ ν : Type}

/-- The empty map (a `nil` map reads the same). -/
def empty : GoMap κ ν := ⟨[], List.nodup_nil⟩

/-- `len(m)`. -/
def len (m : GoMap κ ν) : ℕ := m.entries.length

/-- A map with no entries is the empty map. -/
theorem eq_empty_of_len {m : GoMap κ ν} (h : ¬ m.len > 0) : m = empty := by
  obtain ⟨entries, nodup⟩ := m
  have hnil : entries = [] := List.eq_nil_of_length_eq_zero (by simpa [len] using h)
  subst hnil
  rfl

/-- A key of no entry is found by no `lookup`. -/
theorem lookup_eq_none_of_not_mem [BEq κ] [LawfulBEq κ] {l : List (κ × ν)} {k : κ}
    (h : k ∉ l.map Prod.fst) : l.lookup k = none := by
  induction l with
  | nil => rfl
  | cons e l ih =>
    obtain ⟨a, b⟩ := e
    simp only [List.map_cons, List.mem_cons, not_or] at h
    rw [List.lookup_cons, beq_false_of_ne h.1]
    exact ih h.2

variable [DecidableEq κ]

/-- `v, ok := m[k]`. -/
def get? (m : GoMap κ ν) (k : κ) : Option ν := m.entries.lookup k

/-- `get?` is a `lookup` with any lawful `==` on the keys, such as that of `List`. -/
theorem get?_eq_lookup [BEq κ] [LawfulBEq κ] (m : GoMap κ ν) (k : κ) :
    m.get? k = m.entries.lookup k := by
  unfold get?
  congr
  exact lawful_beq_subsingleton _ _

/-- `m[k]`: the zero value for a missing key. -/
def index [Inhabited ν] (m : GoMap κ ν) (k : κ) : ν := (m.get? k).getD default

/-- `m[k] = v`: the entry of `k` is replaced, or added. Where it goes in the order of iteration
is of no account, since `range` picks the order afresh. -/
def insert (m : GoMap κ ν) (k : κ) (v : ν) : GoMap κ ν :=
  ⟨(k, v) :: m.entries.filter (fun e => e.1 ≠ k), by
    rw [List.map_cons, List.nodup_cons]
    refine ⟨fun hk => ?_, m.nodup.sublist (List.filter_sublist.map Prod.fst)⟩
    obtain ⟨e, he, rfl⟩ := List.mem_map.mp hk
    simp at he⟩

theorem lookup_filter_ne {l : List (κ × ν)} {k k' : κ} (h : k' ≠ k) :
    (l.filter fun e => e.1 ≠ k).lookup k' = l.lookup k' := by
  induction l with
  | nil => rfl
  | cons e l ih =>
    obtain ⟨a, b⟩ := e
    by_cases ha : a = k
    · subst ha
      rw [List.filter_cons_of_neg (by simp), ih, List.lookup_cons, beq_false_of_ne h]
    · rw [List.filter_cons_of_pos (by simpa using ha), List.lookup_cons, List.lookup_cons, ih]

@[simp]
theorem get?_insert (m : GoMap κ ν) (k k' : κ) (v : ν) :
    (m.insert k v).get? k' = if k' = k then some v else m.get? k' := by
  by_cases h : k' = k
  · subst h
    simp [insert, get?]
  · show ((k, v) :: m.entries.filter (fun e => e.1 ≠ k)).lookup k' = _
    rw [List.lookup_cons, beq_false_of_ne h, if_neg h]
    exact lookup_filter_ne h

@[simp]
theorem get?_empty (k : κ) : (empty : GoMap κ ν).get? k = none := rfl

/-- The entries of a key, in the order of iteration: the one `get?` finds, or none. -/
theorem filter_entries_key (m : GoMap κ ν) (k : κ) :
    m.entries.filter (fun e => e.1 = k) = ((m.get? k).map fun v => (k, v)).toList := by
  obtain ⟨l, hl⟩ := m
  simp only [get?]
  induction l with
  | nil => simp
  | cons e l ih =>
    obtain ⟨k', v'⟩ := e
    simp only [List.map_cons, List.nodup_cons] at hl
    by_cases hk : k = k'
    · subst hk
      have hnone : List.filter (fun e => decide (e.1 = k)) l = [] := by
        rw [List.filter_eq_nil_iff]
        intro e he hek
        exact hl.1 (List.mem_map.mpr ⟨e, he, by simpa using hek⟩)
      simp [hnone]
    · have hk' : ¬ k' = k := fun h => hk h.symm
      simp [hk', List.lookup_cons, beq_false_of_ne hk, ih hl.2]

/-- A read of an entry's key finds the entry's value. -/
theorem get?_of_mem (m : GoMap κ ν) {e : κ × ν} (h : e ∈ m.entries) : m.get? e.1 = some e.2 := by
  have hmem : e ∈ m.entries.filter (fun e' => e'.1 = e.1) := List.mem_filter.mpr ⟨h, by simp⟩
  rw [m.filter_entries_key] at hmem
  cases hg : m.get? e.1 with
  | none => simp [hg] at hmem
  | some v =>
    obtain ⟨k, x⟩ := e
    simp only [hg, Option.map_some, Option.toList_some, List.mem_singleton, Prod.mk.injEq] at hmem
    rw [hmem.2]

/-- Two maps with the same content, which only the order of a `range` tells apart. -/
def Equiv (m₁ m₂ : GoMap κ ν) : Prop := ∀ k, m₁.get? k = m₂.get? k

theorem Equiv.index [Inhabited ν] {m₁ m₂ : GoMap κ ν} (h : m₁.Equiv m₂) (k : κ) :
    m₁.index k = m₂.index k := by
  unfold GoMap.index
  rw [h k]

theorem Equiv.insert {m₁ m₂ : GoMap κ ν} (h : m₁.Equiv m₂) (k : κ) (v : ν) :
    (m₁.insert k v).Equiv (m₂.insert k v) := by
  intro k'
  simp [h k']

end GoMap

end Go
