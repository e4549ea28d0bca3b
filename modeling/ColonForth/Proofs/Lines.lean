import ColonForth.Text.Lines
import Mathlib.Data.List.Basic
import Mathlib.Tactic.Common

/-!
# Lines of a text

A program file is cut at line feeds once its line ends are unified, a startup file at more
characters.  Both cut a text alike in which no other character ends a line
(`startupLines_eq_programLines`).  The lines that a program file is cut into hold no line end
themselves, and such lines, each followed by a line feed, are the lines of the text that they make
up (`programLines_ofLines`): so some of the lines of a text are the lines of another one.
-/

namespace ColonForth.Text

/-- The text that consists of the given lines, each with a line feed at its end. -/
def ofLines (lines : List Text) : Text := lines.flatMap (· ++ ['\n'])

variable {t line : Text} {lines : List Text} {isBreak isBreak' : Char → Bool}

/-! ## Line ends -/

lemma carriageReturn_not_mem_unifyLineEnds (t : Text) : '\r' ∉ unifyLineEnds t := by
  fun_induction unifyLineEnds t with
  | case1 => simp
  | case2 rest ih => simpa using ih
  | case3 c rest hcrlf ih =>
    rw [List.mem_cons, not_or]
    refine ⟨?_, ih⟩
    split
    · decide
    · next hc => exact fun he => hc he.symm

lemma unifyLineEnds_of_not_mem (h : '\r' ∉ t) : unifyLineEnds t = t := by
  fun_induction unifyLineEnds t with
  | case1 => rfl
  | case2 rest ih => exact absurd List.mem_cons_self h
  | case3 c rest hcrlf ih =>
    rw [List.mem_cons, not_or] at h
    rw [if_neg fun he => h.1 he.symm, ih h.2]

/-! ## Cutting at breaks -/

lemma linesAt_congr (h : ∀ c ∈ t, isBreak c = isBreak' c) :
    linesAt isBreak t = linesAt isBreak' t := by
  induction t with
  | nil => rfl
  | cons c rest ih =>
    rw [linesAt, linesAt, h c List.mem_cons_self, ih fun d hd => h d (List.mem_cons_of_mem c hd)]

/-- A line holds characters of the text that are no breaks. -/
lemma of_mem_linesAt (hline : line ∈ linesAt isBreak t) {c : Char} (hc : c ∈ line) :
    c ∈ t ∧ isBreak c = false := by
  induction t generalizing line with
  | nil => exact absurd hline List.not_mem_nil
  | cons d rest ih =>
    have later : ∀ {line'}, line' ∈ linesAt isBreak rest → c ∈ line' →
        c ∈ d :: rest ∧ isBreak c = false := fun hline' hc' =>
      ⟨List.mem_cons_of_mem d (ih hline' hc').1, (ih hline' hc').2⟩
    rw [linesAt] at hline
    split at hline
    · rcases List.mem_cons.1 hline with rfl | hline
      · exact absurd hc List.not_mem_nil
      · exact later hline hc
    · next hd =>
      have here : c = d → c ∈ d :: rest ∧ isBreak c = false := by
        rintro rfl
        exact ⟨List.mem_cons_self, by simpa using hd⟩
      split at hline
      · rw [List.mem_singleton.1 hline] at hc
        exact here (List.mem_singleton.1 hc)
      · next first more hmore =>
        rw [hmore] at later
        rcases List.mem_cons.1 hline with rfl | hline
        · rcases List.mem_cons.1 hc with hc | hc
          · exact here hc
          · exact later List.mem_cons_self hc
        · exact later (List.mem_cons_of_mem first hline) hc

/-- A line that ends with a break is cut off at it. -/
lemma linesAt_append_break {d : Char} (h : ∀ c ∈ line, isBreak c = false)
    (hd : isBreak d = true) (rest : Text) :
    linesAt isBreak (line ++ d :: rest) = line :: linesAt isBreak rest := by
  induction line with
  | nil => rw [List.nil_append, linesAt, if_pos hd]
  | cons c more ih =>
    have hc : ¬ isBreak c = true := by simp [h c List.mem_cons_self]
    rw [List.cons_append, linesAt, if_neg hc, ih fun e he => h e (List.mem_cons_of_mem c he)]

lemma linesAt_ofLines (h : ∀ line ∈ lines, ∀ c ∈ line, isBreak c = false)
    (hbreak : isBreak '\n' = true) : linesAt isBreak (ofLines lines) = lines := by
  induction lines with
  | nil => rfl
  | cons line rest ih =>
    have hcons : ofLines (line :: rest) = line ++ '\n' :: ofLines rest := by simp [ofLines]
    rw [hcons, linesAt_append_break (h line List.mem_cons_self) hbreak,
      ih fun l hl => h l (List.mem_cons_of_mem line hl)]

/-! ## Program files and startup files -/

/-- The two ways of cutting a text agree if line feeds are all that ends a line in it. -/
lemma startupLines_eq_programLines (h : ∀ c ∈ t, isLineBreak c = (c == '\n')) :
    startupLines t = programLines t := by
  have hreturn : '\r' ∉ t := fun hmem => absurd (h '\r' hmem) (by decide)
  rw [startupLines, programLines, unifyLineEnds_of_not_mem hreturn]
  exact linesAt_congr h

/-- If no character of some lines ends a line, then nothing but the line feeds between them does. -/
lemma isLineBreak_of_mem_join (h : ∀ line ∈ lines, ∀ c ∈ line, isLineBreak c = false) :
    ∀ c ∈ join ['\n'] lines, isLineBreak c = (c == '\n') := by
  have hline : ∀ line ∈ lines, ∀ c ∈ line, isLineBreak c = (c == '\n') := by
    intro line hline c hc
    rw [h line hline c hc, eq_comm, beq_eq_false_iff_ne]
    rintro rfl
    exact absurd (h line hline _ hc) (by decide)
  induction lines with
  | nil => exact fun c hc => absurd hc List.not_mem_nil
  | cons line rest ih =>
    rw [List.forall_mem_cons] at hline
    cases rest with
    | nil => exact hline.1
    | cons next more =>
      intro c hc
      rw [join_cons_cons, List.append_assoc, List.mem_append, List.mem_append] at hc
      rcases hc with hc | hc | hc
      · exact hline.1 c hc
      · rw [List.mem_singleton.1 hc]
        decide
      · exact ih (fun l hl => h l (List.mem_cons_of_mem line hl)) hline.2 c hc

/-- No line of a program file holds a line end. -/
lemma ne_of_mem_programLines (hline : line ∈ programLines t) {c : Char} (hc : c ∈ line) :
    c ≠ '\n' ∧ c ≠ '\r' := by
  obtain ⟨hmem, hbreak⟩ := of_mem_linesAt hline hc
  refine ⟨by simpa using hbreak, ?_⟩
  rintro rfl
  exact carriageReturn_not_mem_unifyLineEnds t hmem

/-- **Lines without line ends are the lines of the text that they make up.** -/
theorem programLines_ofLines (h : ∀ line ∈ lines, ∀ c ∈ line, c ≠ '\n' ∧ c ≠ '\r') :
    programLines (ofLines lines) = lines := by
  have hreturn : '\r' ∉ ofLines lines := by
    intro hmem
    obtain ⟨line, hline, hc⟩ := List.mem_flatMap.1 hmem
    rcases List.mem_append.1 hc with hc | hc
    · exact (h line hline '\r' hc).2 rfl
    · exact absurd hc (by decide)
  rw [programLines, unifyLineEnds_of_not_mem hreturn]
  exact linesAt_ofLines (fun line hline c hc => by simp [(h line hline c hc).1]) rfl

end ColonForth.Text
