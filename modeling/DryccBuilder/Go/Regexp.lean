import DryccBuilder.Go.Strings

/-!
# Go regular expressions on a fragment of RE2

`regexp.Compile` parses a pattern in RE2 syntax, and `MatchString` runs it over the runes of a
string, decoded as `utf8.DecodeRune` decodes them. This module gives both for the anchored
patterns `^…$` whose body is a sequence of single ASCII characters that are not
metacharacters and of `.`, each possibly repeated `{n}` times.

## The model

* `runeWidth` is the number of bytes `utf8.DecodeRune` takes from a string: the length of a
  valid encoding at its start, and `1` where none starts (Go then decodes `RuneError`).
  `runes` cuts a string into the encodings of its runes.
* An `Atom` matches one rune: a literal ASCII character matches itself, and `.` matches every
  rune but a newline, the flag `s` being off.
* `compileAnchored` parses a pattern of the fragment into its atoms, with `{n}` unrolled, and
  gives `none` for every other pattern; it is not `regexp.Compile`'s error, only the edge of
  the fragment. `matchAnchored` is `MatchString` of such a pattern: the string has one rune
  per atom, each matching it.
* `FollowsRE2 compile` says that a function standing for `regexp.Compile` (a matcher, or
  `none` for an error) agrees with RE2 on the fragment. `compileFragment` is one such function.
-/

namespace Go

/-! ### Runes -/

/-- For a byte that starts a multi-byte encoding, the encoding's length and the range of its
second byte: Go's `first` and `acceptRanges` tables. ASCII bytes, continuation bytes and
`0xC0`, `0xC1`, `0xF5`..`0xFF` start none. -/
def leadInfo (c : UInt8) : Option (ℕ × UInt8 × UInt8) :=
  if c < 0xC2 then none
  else if c < 0xE0 then some (2, 0x80, 0xBF)
  else if c = 0xE0 then some (3, 0xA0, 0xBF)
  else if c < 0xED then some (3, 0x80, 0xBF)
  else if c = 0xED then some (3, 0x80, 0x9F)
  else if c < 0xF0 then some (3, 0x80, 0xBF)
  else if c = 0xF0 then some (4, 0x90, 0xBF)
  else if c < 0xF4 then some (4, 0x80, 0xBF)
  else if c = 0xF4 then some (4, 0x80, 0x8F)
  else none

/-- A continuation byte, `0b10xxxxxx`. -/
def isCont (b : UInt8) : Bool := 0x80 ≤ b && b ≤ 0xBF

/-- The number of bytes `utf8.DecodeRune(s)` consumes. -/
def runeWidth : GoString → ℕ
  | [] => 0
  | c :: rest =>
    match leadInfo c, rest with
    | none, _ => 1
    | some (n, lo, hi), b1 :: rest1 =>
      if ¬(lo ≤ b1 ∧ b1 ≤ hi) then 1
      else if n = 2 then 2
      else
        match rest1 with
        | b2 :: rest2 =>
          if !isCont b2 then 1
          else if n = 3 then 3
          else
            match rest2 with
            | b3 :: _ => if isCont b3 then 4 else 1
            | [] => 1
        | [] => 1
    | some _, [] => 1

/-- `runes` with a bound on the number of runes. -/
def runesAux : ℕ → GoString → List GoString
  | _, [] => []
  | 0, _ :: _ => []
  | fuel + 1, s@(_ :: _) => s.take (runeWidth s) :: runesAux fuel (s.drop (runeWidth s))

/-- The string cut into the encodings of its runes, as a `for range` loop decodes it. -/
def runes (s : GoString) : List GoString := runesAux s.length s

theorem runeWidth_ascii {c : UInt8} (h : c < 0x80) (rest : GoString) :
    runeWidth (c :: rest) = 1 := by
  have hc : c < 0xC2 := by
    rw [UInt8.lt_iff_toNat_lt] at h ⊢
    simp only [UInt8.reduceToNat] at h ⊢
    omega
  have hlead : leadInfo c = none := by
    rw [leadInfo, if_pos hc]
  simp [runeWidth, hlead]

theorem runeWidth_pos {s : GoString} (h : s ≠ []) : 0 < runeWidth s := by
  obtain ⟨c, rest, rfl⟩ := List.exists_cons_of_ne_nil h
  -- every branch of the decoder takes between one and four bytes
  simp only [runeWidth]
  repeat' split
  all_goals omega

@[simp] theorem runesAux_nil (fuel : ℕ) : runesAux fuel [] = [] := by
  cases fuel <;> rfl

/-- An ASCII byte is a rune of its own, whatever follows it. -/
theorem runesAux_cons_ascii {c : UInt8} (h : c < 0x80) (fuel : ℕ) (rest : GoString) :
    runesAux (fuel + 1) (c :: rest) = [c] :: runesAux fuel rest := by
  simp [runesAux, runeWidth_ascii h]

/-- Enough fuel gives all the runes. -/
theorem runesAux_eq_runes {fuel : ℕ} {s : GoString} (h : s.length ≤ fuel) :
    runesAux fuel s = runes s := by
  suffices key : ∀ n fuel fuel' (s : GoString), s.length ≤ n → n ≤ fuel → n ≤ fuel' →
      runesAux fuel s = runesAux fuel' s from key s.length fuel s.length s le_rfl h le_rfl
  intro n
  induction n with
  | zero =>
    intro fuel fuel' s hs _ _
    rw [List.length_eq_zero_iff.mp (Nat.le_zero.mp hs)]
    simp
  | succ n ih =>
    intro fuel fuel' s hs hf hf'
    obtain _ | ⟨c, rest⟩ := s
    · simp
    obtain ⟨f, rfl⟩ := Nat.exists_eq_add_of_lt (Nat.lt_of_lt_of_le (Nat.zero_lt_succ n) hf)
    obtain ⟨f', rfl⟩ := Nat.exists_eq_add_of_lt (Nat.lt_of_lt_of_le (Nat.zero_lt_succ n) hf')
    have hw := runeWidth_pos (List.cons_ne_nil c rest)
    simp only [zero_add, runesAux]
    congr 1
    apply ih
    · simp only [List.length_drop, List.length_cons] at hs ⊢
      omega
    · omega
    · omega

theorem runes_cons_ascii {c : UInt8} (h : c < 0x80) (rest : GoString) :
    runes (c :: rest) = [c] :: runes rest := by
  rw [runes, List.length_cons, runesAux_cons_ascii h, runesAux_eq_runes le_rfl]

/-- An ASCII string is a rune for each byte. -/
theorem runes_eq_map_of_ascii {s : GoString} (h : ∀ c ∈ s, c < 0x80) :
    runes s = s.map fun c => [c] := by
  induction s with
  | nil => simp [runes]
  | cons c rest ih =>
    rw [runes_cons_ascii (h c List.mem_cons_self), ih fun b hb => h b (List.mem_cons_of_mem _ hb),
      List.map_cons]

/-- The rune that starts a string is its first byte only when that byte is ASCII or starts
no encoding; in particular a string whose first rune is an ASCII character begins with it. -/
theorem runes_cons_of_head {x : GoString} {c : UInt8} {rs : List GoString} (hc : c < 0x80)
    (h : runes x = [c] :: rs) : ∃ rest, x = c :: rest ∧ runes rest = rs := by
  obtain _ | ⟨b, rest⟩ := x
  · simp [runes] at h
  have hchunk : (b :: rest).take (runeWidth (b :: rest)) = [c] := by
    simp only [runes, List.length_cons, runesAux] at h
    exact (List.cons.inj h).1
  have hb : b = c := by
    have := congrArg List.head? hchunk
    rw [List.head?_take, if_neg (Nat.pos_iff_ne_zero.mp (runeWidth_pos (List.cons_ne_nil b rest)))]
      at this
    simpa using this
  subst hb
  rw [runes_cons_ascii hc] at h
  exact ⟨rest, rfl, (List.cons.inj h).2⟩

/-! ### Patterns -/

/-- A pattern that matches one rune. -/
inductive Atom where
  /-- An ASCII character that is not a metacharacter: the rune itself. -/
  | lit (c : UInt8)
  /-- `.`: any rune but a newline. -/
  | dot
  deriving DecidableEq, Repr

/-- Whether the atom matches the rune encoded by `r`. -/
def Atom.matches : Atom → GoString → Bool
  | .lit c, r => r = [c]
  | .dot, r => r ≠ Go.lit "\n"

/-- The metacharacters of RE2 syntax. -/
def metachars : GoString := lit "\\.+*?()|[]\x7b\x7d^$"

/-- The atom a byte of a pattern stands for, where it stands for one alone. -/
def atomOf (c : UInt8) : Option Atom :=
  if c = byte "." then some .dot
  else if c < 0x80 ∧ c ∉ metachars then some (.lit c)
  else none

/-- A decimal digit. -/
def isDigit (c : UInt8) : Bool := byte "0" ≤ c && c ≤ byte "9"

/-- The value of a string of decimal digits. -/
def decimal (ds : GoString) : ℕ := ds.foldl (fun n d => 10 * n + (d - byte "0").toNat) 0

/-- A repetition count `{n}` as RE2 reads it after an atom: the digits and what follows the
closing brace. RE2 takes no leading zero and no count above `1000`; those, `{n,m}` and a
brace that does not close, are outside the fragment. -/
def repeatCount (s : GoString) : Option (ℕ × GoString) :=
  match s with
  | c :: rest =>
    if c ≠ byte "\x7b" then none
    else
      let ds := rest.takeWhile isDigit
      let after := rest.drop ds.length
      if ds = [] ∨ (ds.length ≥ 2 ∧ ds.head? = some (byte "0")) ∨ 1000 < decimal ds then none
      else if after.head? = some (byte "\x7d") then some (decimal ds, after.tail) else none
  | [] => none

/-- The atoms of a pattern body, with each `{n}` unrolled; `none` outside the fragment. -/
def parseAtoms : ℕ → GoString → Option (List Atom)
  | _, [] => some []
  | 0, _ :: _ => none
  | fuel + 1, c :: rest =>
    match atomOf c with
    | none => none
    | some a =>
      if rest.head? = some (byte "\x7b") then
        match repeatCount rest with
        | some (n, after) => (parseAtoms fuel after).map (List.replicate n a ++ ·)
        | none => none
      else (parseAtoms fuel rest).map (a :: ·)

/-- A pattern `^body$` of the fragment, as its atoms. -/
def compileAnchored (p : GoString) : Option (List Atom) :=
  if 2 ≤ p.length ∧ p.head? = some (byte "^") ∧ p.getLast? = some (byte "$") then
    parseAtoms p.length (p.drop 1).dropLast
  else none

/-- Whether runes are matched one by one by the atoms. -/
def matchRunes : List Atom → List GoString → Bool
  | [], [] => true
  | a :: as, r :: rs => a.matches r && matchRunes as rs
  | _, _ => false

/-- `MatchString` of an anchored pattern of the fragment. -/
def matchAnchored (atoms : List Atom) (s : GoString) : Bool := matchRunes atoms (runes s)

/-- A function standing for `regexp.Compile` followed by `MatchString` (`none` for a compile
error) agrees with RE2 on the patterns of the fragment. -/
def FollowsRE2 (compile : GoString → Option (GoString → Bool)) : Prop :=
  ∀ p atoms, compileAnchored p = some atoms → compile p = some (matchAnchored atoms)

/-- The fragment's own compiler, failing on every pattern outside it. -/
def compileFragment (p : GoString) : Option (GoString → Bool) :=
  (compileAnchored p).map matchAnchored

theorem followsRE2_compileFragment : FollowsRE2 compileFragment := by
  intro p atoms h
  simp [compileFragment, h]

/-! ### Literals followed by dots -/

@[simp] theorem parseAtoms_nil (fuel : ℕ) : parseAtoms fuel [] = some [] := by
  cases fuel <;> rfl

/-- A byte that stands for itself in a pattern. -/
def IsLiteral (c : UInt8) : Prop := atomOf c = some (.lit c)

instance : DecidablePred IsLiteral := fun c => inferInstanceAs (Decidable (atomOf c = _))

/-- Bytes checked one by one to stand for themselves. -/
theorem isLiteral_of_all {w : GoString} (h : w.all (fun c => decide (IsLiteral c)) = true) :
    ∀ c ∈ w, IsLiteral c := by
  simpa using h

theorem IsLiteral.lt {c : UInt8} (h : IsLiteral c) : c < 0x80 := by
  unfold IsLiteral atomOf at h
  by_cases hd : c = byte "."
  · rw [if_pos hd] at h
    cases h
  rw [if_neg hd] at h
  by_cases hl : c < 0x80 ∧ c ∉ metachars
  · exact hl.1
  · rw [if_neg hl] at h
    cases h

theorem IsLiteral.ne_brace {c : UInt8} (h : IsLiteral c) : c ≠ byte "\x7b" := by
  rintro rfl
  have hbrace : atomOf (byte "\x7b") = none := by decide
  rw [IsLiteral, hbrace] at h
  cases h

/-- Literal bytes parse to themselves, one atom each. -/
theorem parseAtoms_literals {w : GoString} (hw : ∀ c ∈ w, IsLiteral c) (fuel : ℕ)
    {rest : GoString} (hrest : rest.head? ≠ some (byte "\x7b")) :
    parseAtoms (w.length + fuel) (w ++ rest) = (parseAtoms fuel rest).map (w.map .lit ++ ·) := by
  induction w with
  | nil =>
    simp only [List.length_nil, zero_add, List.nil_append, List.map_nil]
    cases parseAtoms fuel rest <;> rfl
  | cons c w ih =>
    have hc : IsLiteral c := hw c (List.mem_cons_self ..)
    have hnext : (w ++ rest).head? ≠ some (byte "\x7b") := by
      cases w with
      | nil => simpa using hrest
      | cons d w =>
        have hd : IsLiteral d := hw d (by simp)
        simpa using hd.ne_brace
    rw [List.length_cons, Nat.add_right_comm, List.cons_append, parseAtoms, hc]
    simp only [if_neg hnext]
    rw [ih (fun d hd => hw d (List.mem_cons_of_mem c hd))]
    cases parseAtoms fuel rest <;> rfl

/-- `.` repeated `n` times matches `n` runes, none a newline. -/
theorem matchRunes_dots (n : ℕ) (rs : List GoString) :
    matchRunes (List.replicate n .dot) rs = true ↔ rs.length = n ∧ ∀ r ∈ rs, r ≠ lit "\n" := by
  induction n generalizing rs with
  | zero => cases rs <;> simp [matchRunes]
  | succ n ih =>
    cases rs with
    | nil => simp [matchRunes]
    | cons r rs =>
      simp only [List.replicate_succ, matchRunes, Atom.matches, Bool.and_eq_true,
        decide_eq_true_eq, ih, List.length_cons, List.mem_cons, forall_eq_or_imp,
        Nat.add_right_cancel_iff]
      tauto

/-- **Literals then dots.** A pattern of ASCII literals `w` followed by `n` dots matches
exactly the strings `w ++ s` where `s` has `n` runes, none a newline. -/
theorem matchAnchored_literals_dots {w : GoString} (hw : ∀ c ∈ w, c < 0x80) (n : ℕ)
    (x : GoString) :
    matchAnchored (w.map .lit ++ List.replicate n .dot) x = true ↔
      ∃ s, x = w ++ s ∧ (runes s).length = n ∧ ∀ r ∈ runes s, r ≠ lit "\n" := by
  induction w generalizing x with
  | nil => simp [matchAnchored, matchRunes_dots]
  | cons c w ih =>
    have hc : c < 0x80 := hw c (List.mem_cons_self ..)
    have hw' : ∀ d ∈ w, d < 0x80 := fun d hd => hw d (List.mem_cons_of_mem c hd)
    constructor
    · intro h
      rcases hr : runes x with _ | ⟨r, rs⟩
      · simp [matchAnchored, hr, matchRunes] at h
      simp only [matchAnchored, hr, List.map_cons, List.cons_append, matchRunes,
        Atom.matches, Bool.and_eq_true, decide_eq_true_eq] at h
      obtain ⟨rfl, hrest⟩ := h
      obtain ⟨rest, rfl, hrs⟩ := runes_cons_of_head hc hr
      obtain ⟨s, rfl, hs⟩ := (ih hw' rest).mp (by rw [matchAnchored, hrs]; exact hrest)
      exact ⟨s, rfl, hs⟩
    · rintro ⟨s, rfl, hs⟩
      have hrest := (ih hw' (w ++ s)).mpr ⟨s, rfl, hs⟩
      simp only [matchAnchored, List.cons_append, runes_cons_ascii hc, List.map_cons,
        matchRunes, Atom.matches, decide_true, Bool.true_and]
      exact hrest

/-- A pattern of literals followed by `.{8}` compiles to the literals and eight dots. -/
theorem compileAnchored_literals_dots {w : GoString} (hw : ∀ c ∈ w, IsLiteral c) :
    compileAnchored (lit "^" ++ w ++ lit ".\x7b8\x7d" ++ lit "$") =
      some (w.map .lit ++ List.replicate 8 .dot) := by
  have hcaret : lit "^" = [byte "^"] := by decide
  have hdollar : lit "$" = [byte "$"] := by decide
  have hdots : lit ".\x7b8\x7d" = [byte ".", byte "\x7b", byte "8", byte "\x7d"] := by decide
  have hbody : parseAtoms 6 (lit ".\x7b8\x7d") = some (List.replicate 8 .dot) := by decide
  have hnext : (lit ".\x7b8\x7d").head? ≠ some (byte "\x7b") := by decide
  have hp : lit "^" ++ w ++ lit ".\x7b8\x7d" ++ lit "$" = byte "^" :: (w ++ lit ".\x7b8\x7d") ++ [byte "$"] := by
    simp [hcaret, hdollar]
  have hcond : 2 ≤ (byte "^" :: (w ++ lit ".\x7b8\x7d") ++ [byte "$"]).length ∧
      (byte "^" :: (w ++ lit ".\x7b8\x7d") ++ [byte "$"]).head? = some (byte "^") ∧
      (byte "^" :: (w ++ lit ".\x7b8\x7d") ++ [byte "$"]).getLast? = some (byte "$") := by
    refine ⟨by simp [hdots], rfl, ?_⟩
    rw [List.getLast?_append_of_ne_nil _ (List.cons_ne_nil _ _)]
    rfl
  rw [hp, compileAnchored, if_pos hcond]
  have hlen : (byte "^" :: (w ++ lit ".\x7b8\x7d") ++ [byte "$"]).length = w.length + 6 := by
    simp [hdots]
  rw [hlen, List.cons_append, List.drop_one, List.tail_cons, List.dropLast_concat,
    parseAtoms_literals hw 6 hnext, hbody]
  rfl

end Go
