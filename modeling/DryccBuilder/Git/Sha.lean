import DryccBuilder.Go.Strings

/-!
# Git SHAs

`NewSha` (`pkg/git/sha.go`) accepts a raw sha that matches `^[\da-f]{40}$`, and keeps it with its
first `shortShaIdx` characters, the short sha that names the image and the build job of a push.

## The model

`shaRegex.MatchString` is `shaRegexMatch`. In RE2, `\d` is an ASCII digit, so the pattern
accepts exactly the strings of forty bytes each of which is a digit or one of `a` to `f`.
-/

namespace DryccBuilder.Git

open Go

/-- `shortShaIdx`: the length of a short sha. -/
def shortShaIdx : ℕ := 8

/-- A byte of `[\da-f]`. -/
def isShaByte (c : UInt8) : Bool := (48 ≤ c && c ≤ 57) || (97 ≤ c && c ≤ 102)

/-- `shaRegex.MatchString(rawSha)`. -/
def shaRegexMatch (rawSha : GoString) : Bool := rawSha.length == 40 && rawSha.all isShaByte

/-- `ErrInvalidGitSha`. -/
structure ErrInvalidGitSha where
  /-- The raw sha. -/
  sha : GoString

/-- `ErrInvalidGitSha.Error()`. -/
def ErrInvalidGitSha.error (e : ErrInvalidGitSha) : GoString :=
  lit "git sha " ++ e.sha ++ lit " was invalid"

/-- `SHA`, read through `Full()` and `Short()`. -/
structure SHA where
  /-- `Full()`. -/
  full : GoString
  /-- `Short()`. -/
  short : GoString

/-- `NewSha(rawSha)`: the sha and `rawSha[0:shortShaIdx]`, in range since a matching sha has
forty bytes. -/
def newSha (rawSha : GoString) : Except ErrInvalidGitSha SHA :=
  if !shaRegexMatch rawSha then .error ⟨rawSha⟩ else .ok ⟨rawSha, rawSha.take shortShaIdx⟩

example : (newSha (lit "0123456789abcdef0123456789abcdef01234567")).toOption.map SHA.short =
    some (lit "01234567") := by
  decide

/-- `NewSha` accepts exactly the strings of forty digits and letters `a` to `f`. -/
theorem newSha_ok_iff {rawSha : GoString} {sha : SHA} :
    newSha rawSha = .ok sha ↔
      (rawSha.length = 40 ∧ ∀ c ∈ rawSha, isShaByte c) ∧ sha = ⟨rawSha, rawSha.take shortShaIdx⟩ := by
  have hmatch : shaRegexMatch rawSha = true ↔ rawSha.length = 40 ∧ ∀ c ∈ rawSha, isShaByte c := by
    rw [shaRegexMatch, Bool.and_eq_true, beq_iff_eq, List.all_eq_true]
  unfold newSha
  cases hm : shaRegexMatch rawSha
  · -- rejected: the error is no sha
    rw [Bool.not_false, if_pos rfl]
    constructor
    · intro h
      cases h
    · rintro ⟨hc, -⟩
      exact absurd (hmatch.mpr hc) (by rw [hm]; exact Bool.false_ne_true)
  · rw [Bool.not_true, if_neg Bool.false_ne_true, Except.ok.injEq]
    constructor
    · intro h
      exact ⟨hmatch.mp hm, h.symm⟩
    · rintro ⟨-, rfl⟩
      rfl

/-- The short sha of an accepted sha: its first eight bytes, each a digit or a letter `a` to
`f`. -/
theorem newSha_short {rawSha : GoString} {sha : SHA} (h : newSha rawSha = .ok sha) :
    sha.short.length = shortShaIdx ∧ sha.short <+: sha.full ∧ ∀ c ∈ sha.short, isShaByte c := by
  obtain ⟨⟨hlen, hall⟩, rfl⟩ := newSha_ok_iff.mp h
  refine ⟨by simp [hlen, shortShaIdx], List.take_prefix _ _, fun c hc => hall c ?_⟩
  exact List.mem_of_mem_take hc

end DryccBuilder.Git
