import DryccBuilder.Go.Strings

/-!
# Line scanning

`bufio.Scanner` with its default split function `bufio.ScanLines` reads its input one line at a
time: a line is what stands before a `'\n'`, with one `'\r'` at its end dropped, and the input's
last line need not end with `'\n'`; an input ending with `'\n'` has no empty line after it. This
module gives the lines the scanner returns over all of its input, and reads back the lines of a
text written one line after the other, with LF or CRLF endings.

The scanner stops with `bufio.ErrTooLong` on a line longer than its buffer; that is left out:
the texts here are lines of a few hundred bytes.
-/

namespace Go

section Generic

variable {α : Type*} [DecidableEq α]

/-- `dropCR(data)`: `data` without one `'\r'` at its end. -/
def dropCR (cr : α) (data : List α) : List α :=
  if data.getLast? = some cr then data.dropLast else data

/-- The tokens `bufio.ScanLines` returns over all of `data`, separated by `nl`. -/
def scanLines (nl cr : α) (data : List α) : List (List α) :=
  let pieces := split data nl
  (if pieces.getLast? = some [] then pieces.dropLast else pieces).map (dropCR cr)

/-- Lines written one after the other, each followed by `eol`. -/
def unlines (eol : List α) (lines : List (List α)) : List α :=
  lines.flatMap (· ++ eol)

theorem dropCR_of_getLast_ne {cr : α} {data : List α} (h : data.getLast? ≠ some cr) :
    dropCR cr data = data := by
  simp [dropCR, h]

@[simp]
theorem dropCR_append_cr (cr : α) (data : List α) : dropCR cr (data ++ [cr]) = data := by
  simp [dropCR]

omit [DecidableEq α] in
/-- Lines each ended by `nl` are the separated pieces with an empty one after the last. -/
theorem unlines_eq_intercalate (nl : α) (lines : List (List α)) :
    unlines [nl] lines = [nl].intercalate (lines ++ [[]]) := by
  induction lines with
  | nil => rfl
  | cons l lines ih =>
    rw [List.cons_append, List.intercalate_cons_of_ne_nil (by simp), ← ih]
    simp [unlines]

/-- `ScanLines` reads back the pieces of a text written line by line, before `dropCR`. -/
theorem split_unlines {nl : α} {lines : List (List α)} (h : ∀ l ∈ lines, nl ∉ l) :
    split (unlines [nl] lines) nl = lines ++ [[]] := by
  rw [unlines_eq_intercalate, split]
  refine List.splitOn_intercalate nl (fun l hl => ?_) (by simp)
  rcases List.mem_append.mp hl with hl | hl
  · exact h l hl
  · simp at hl
    simp [hl]

/-- **LF endings**: the scanner reads back the lines of a text written with `'\n'` after each,
when no line holds `'\n'` or ends with `'\r'`. -/
theorem scanLines_unlines {nl cr : α} {lines : List (List α)} (h : ∀ l ∈ lines, nl ∉ l)
    (hcr : ∀ l ∈ lines, l.getLast? ≠ some cr) :
    scanLines nl cr (unlines [nl] lines) = lines := by
  simp only [scanLines, split_unlines h, List.getLast?_append, List.getLast?_singleton,
    Option.some_or, if_true, List.dropLast_concat]
  exact (List.map_congr_left fun l hl => dropCR_of_getLast_ne (hcr l hl)).trans (List.map_id _)

/-- **CRLF endings**: the scanner reads back the lines of a text written with `"\r\n"` after
each, when no line holds `'\n'`; a line may itself end with `'\r'`, since only the last one is
dropped. -/
theorem scanLines_unlines_crlf {nl cr : α} {lines : List (List α)} (h : ∀ l ∈ lines, nl ∉ l)
    (hne : nl ≠ cr) : scanLines nl cr (unlines [cr, nl] lines) = lines := by
  have hcrlf : unlines [cr, nl] lines = unlines [nl] (lines.map (· ++ [cr])) := by
    simp [unlines, List.flatMap_map]
  have h' : ∀ l ∈ lines.map (· ++ [cr]), nl ∉ l := by
    simp only [List.mem_map]
    rintro _ ⟨l, hl, rfl⟩ hm
    rcases List.mem_append.mp hm with hm | hm
    · exact h l hl hm
    · exact hne (List.mem_singleton.mp hm)
  simp only [scanLines, hcrlf, split_unlines h', List.getLast?_append, List.getLast?_singleton,
    Option.some_or, if_true, List.dropLast_concat, List.map_map]
  exact (List.map_congr_left fun l _ => dropCR_append_cr cr l).trans (List.map_id _)

end Generic

end Go
