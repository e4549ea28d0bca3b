import ColonForth.Proofs.LowerCase
import ColonForth.Proofs.Pieces

/-!
# Lower-casing a text in parts

What becomes of a sigma depends on its neighbours, so in general the parts of a text cannot be put
into lower case one by one.  They can where a *neutral* character stands between them.  Such a
character is left alone, and no sigma sees past it, since it is neither cased nor case-ignorable.

* `lower_append_neutral`: lower-casing treats the two sides of a neutral character apart.
* `neutral_of_isBlank`, `isBlank_lowerChar`: every blank is neutral, and nothing else becomes a
  blank.  The first is checked for each blank; the second by the walk along the case table that
  `LowerCase` sets up, with the blanks in the place of the rows.
* `trim_lower`: therefore trimming and lower-casing can be done in either order.
-/

namespace ColonForth.Text

/-! ## Neutral characters -/

/-- A character that lower-casing leaves alone and that no sigma sees past. -/
structure Neutral (c : Char) : Prop where
  /-- It is not passed over. -/
  not_ignorable : isCaseIgnorable c = false
  /-- It is no cased letter. -/
  not_cased : isCased c = false
  /-- It stays as it is. -/
  settled : Settled c

instance (c : Char) : Decidable (Neutral c) :=
  decidable_of_iff (isCaseIgnorable c = false ∧ isCased c = false ∧ Settled c)
    ⟨fun h => ⟨h.1, h.2.1, h.2.2⟩, fun h => ⟨h.not_ignorable, h.not_cased, h.settled⟩⟩

variable {c : Char}

/-- What is behind a neutral character does not matter. -/
lemma startsCased_append_neutral (hc : Neutral c) (s t : Text) :
    startsCased (s ++ c :: t) = startsCased s := by
  induction s with
  | nil =>
    have hdrop : (c :: t).dropWhile isCaseIgnorable = c :: t :=
      List.dropWhile_cons_of_neg (by simp [hc.not_ignorable])
    rw [List.nil_append, startsCased, hdrop]
    exact hc.not_cased
  | cons d rest ih =>
    by_cases hd : isCaseIgnorable d = true
    · unfold startsCased at ih ⊢
      rw [List.cons_append, List.dropWhile_cons_of_pos hd, List.dropWhile_cons_of_pos hd]
      exact ih
    · unfold startsCased
      rw [List.cons_append, List.dropWhile_cons_of_neg hd, List.dropWhile_cons_of_neg hd]

/-- The characters before a text matter only for what a sigma sees of them. -/
lemma lowerAfter_congr {before before' : Text}
    (h : ∀ s, startsCased (s ++ before) = startsCased (s ++ before')) (t : Text) :
    lowerAfter before t = lowerAfter before' t := by
  induction t generalizing before before' with
  | nil => rfl
  | cons d rest ih =>
    have hhere : lowerAt before d rest = lowerAt before' d rest := by
      have hsees : startsCased before = startsCased before' := h []
      rw [lowerAt, lowerAt, hsees]
    have hrest : ∀ s, startsCased (s ++ d :: before) = startsCased (s ++ d :: before') := by
      intro s
      simpa using h (s ++ [d])
    rw [lowerAfter, lowerAfter, hhere, ih hrest]

lemma lowerAfter_append_neutral (hc : Neutral c) (before s t : Text) :
    lowerAfter before (s ++ c :: t) = lowerAfter before s ++ c :: lower t := by
  induction s generalizing before with
  | nil =>
    have hback : lowerAfter (c :: before) t = lower t := by
      refine lowerAfter_congr (fun s => ?_) t
      rw [startsCased_append_neutral hc, List.append_nil]
    rw [List.nil_append, lowerAfter, lowerAfter, lowerAt_of_settled hc.settled, hback]
    rfl
  | cons d rest ih =>
    have hhere : lowerAt before d (rest ++ c :: t) = lowerAt before d rest := by
      rw [lowerAt, lowerAt, startsCased_append_neutral hc]
    rw [List.cons_append, lowerAfter, lowerAfter, hhere, ih, List.append_assoc]

/-- **Lower-casing treats the two sides of a neutral character apart.** -/
theorem lower_append_neutral (hc : Neutral c) (s t : Text) :
    lower (s ++ c :: t) = lower s ++ c :: lower t :=
  lowerAfter_append_neutral hc [] s t

lemma lower_append_space (s t : Text) : lower (s ++ ' ' :: t) = lower s ++ ' ' :: lower t :=
  lower_append_neutral (by decide +kernel) s t

/-! ## Blanks -/

/-- Each character of the table of blanks is neutral. -/
lemma neutral_of_mem_blankRanges : ∀ r ∈ blankRanges,
    ∀ n ∈ List.range' r.first (r.last + 1 - r.first), Neutral (Char.ofNat n) := by
  decide +kernel

lemma neutral_of_isBlank (hc : isBlank c = true) : Neutral c := by
  obtain ⟨r, hr, hfirst, hlast⟩ := CodeRange.exists_of_covers hc
  have hmem : c.toNat ∈ List.range' r.first (r.last + 1 - r.first) := by
    rw [List.mem_range'_1]
    omega
  have hneutral := neutral_of_mem_blankRanges r hr c.toNat hmem
  rwa [Char.ofNat_toNat] at hneutral

/-- The blanks as rows of a case table. -/
def blankRows : List CaseRow := blankRanges.map fun r => ⟨r.first, r.last, 1, r.first⟩

/-- No image of a row of the case table is a blank. -/
lemma all_clears_blankRows : (CaseRow.table.all fun r => r.clears blankRows) = true := by
  decide +kernel

lemma isBlank_image {row : CaseRow} (hrow : row ∈ CaseRow.table) {n : Nat}
    (hold : row.holds n = true) : isBlank (Char.ofNat (row.image n)) = false := by
  by_cases hvalid : (row.image n).isValidChar
  · rw [isBlank, CodeRange.covers, toNat_ofNat_of_valid hvalid]
    split
    · next r hr =>
      have hlast : row.image n ≤ r.last := by simpa using List.find?_some hr
      have hfind : blankRows.find? (fun q => row.image n ≤ q.last)
          = some ⟨r.first, r.last, 1, r.first⟩ := by
        rw [blankRows, List.find?_map]
        exact congrArg (Option.map _) hr
      have hclear := List.all_eq_true.1 all_clears_blankRows row hrow
      have hmiss := CaseRow.not_holds_of_clears hclear hold hfind
      by_contra hblank
      have hfirst : r.first ≤ row.image n := by simpa using hblank
      rw [CaseRow.holds_iff.2 ⟨hfirst, hlast, Nat.mod_one _⟩] at hmiss
      exact absurd hmiss (by decide)
    · rfl
  · -- a number that is no code point stands for the null character
    rw [Char.ofNat, dif_neg hvalid]
    decide

/-- **Lower-casing keeps blanks, and makes none.** -/
theorem isBlank_lowerChar (c : Char) : isBlank (lowerChar c) = isBlank c := by
  by_cases hc : isBlank c = true
  · rw [(neutral_of_isBlank hc).settled.1]
  · unfold lowerChar
    split
    · next row hrow =>
      split
      · next hold =>
        rw [isBlank_image (List.mem_of_find?_eq_some hrow) hold]
        simpa using hc
      · rfl
    · rfl

lemma isBlank_of_mem_lowerAt {before after : Text} {x : Char} (h : x ∈ lowerAt before c after) :
    isBlank x = isBlank c := by
  unfold lowerAt at h
  split at h
  · next hsigma =>
    subst hsigma
    split at h
    · rw [List.mem_singleton.1 h]
      decide
    · rw [List.mem_singleton.1 h]
      decide
  · split at h
    · next hdot =>
      subst hdot
      simp only [List.mem_cons, List.not_mem_nil, or_false] at h
      rcases h with rfl | rfl
      · decide
      · decide
    · rw [List.mem_singleton.1 h]
      exact isBlank_lowerChar c

lemma lowerAt_ne_nil (before : Text) (c : Char) (after : Text) : lowerAt before c after ≠ [] := by
  unfold lowerAt
  split
  · split <;> simp
  · split <;> simp

/-! ## The ends of a text -/

/-- Blanks at the front of a text stay there. -/
lemma lower_append_of_front {l : Text} (hl : ∀ c ∈ l, isBlank c = true) (t : Text) :
    lower (l ++ t) = l ++ lower t := by
  induction l with
  | nil => rfl
  | cons d rest ih =>
    rw [List.forall_mem_cons] at hl
    have hd := lower_append_neutral (neutral_of_isBlank hl.1) [] (rest ++ t)
    rw [ih hl.2] at hd
    exact hd

/-- Blanks at the back of a text stay there. -/
lemma lower_append_of_back {r : Text} (hr : ∀ c ∈ r, isBlank c = true) (t : Text) :
    lower (t ++ r) = lower t ++ r := by
  cases r with
  | nil => rw [List.append_nil, List.append_nil]
  | cons d rest =>
    rw [List.forall_mem_cons] at hr
    have hrest : lower rest = rest :=
      lower_eq_self_iff.2 fun x hx => (neutral_of_isBlank (hr.2 x hx)).settled
    rw [lower_append_neutral (neutral_of_isBlank hr.1), hrest]

lemma isBlank_head_lower {t : Text} {x : Char} (h : x ∈ (lower t).head?) :
    ∃ d ∈ t.head?, isBlank x = isBlank d := by
  cases t with
  | nil => exact absurd h (by simp [lower, lowerAfter])
  | cons d rest =>
    rw [lower, lowerAfter, List.head?_append_of_ne_nil _ (lowerAt_ne_nil _ _ _)] at h
    exact ⟨d, rfl, isBlank_of_mem_lowerAt (List.mem_of_mem_head? h)⟩

lemma isBlank_last_lowerAfter {before t : Text} {x : Char}
    (h : x ∈ (lowerAfter before t).getLast?) : ∃ d ∈ t.getLast?, isBlank x = isBlank d := by
  induction t generalizing before with
  | nil => exact absurd h (by simp [lowerAfter])
  | cons d rest ih =>
    rw [lowerAfter] at h
    cases rest with
    | nil =>
      rw [lowerAfter, List.append_nil] at h
      exact ⟨d, rfl, isBlank_of_mem_lowerAt (List.mem_of_mem_getLast? h)⟩
    | cons e more =>
      have hne : lowerAfter (d :: before) (e :: more) ≠ [] := by
        rw [lowerAfter]
        exact List.append_ne_nil_of_left_ne_nil (lowerAt_ne_nil _ _ _) _
      rw [List.getLast?_append_of_ne_nil _ hne] at h
      obtain ⟨y, hy, hblank⟩ := ih h
      exact ⟨y, by simpa using hy, hblank⟩

/-- A text without blanks at its ends has none there in lower case. -/
lemma Bare.lower {t : Text} (h : Bare isBlank t) : Bare isBlank (lower t) := by
  refine ⟨fun x hx => ?_, fun x hx => ?_⟩
  · obtain ⟨d, hd, hblank⟩ := isBlank_head_lower hx
    rw [hblank, h.head d hd]
  · obtain ⟨d, hd, hblank⟩ := isBlank_last_lowerAfter hx
    rw [hblank, h.last d hd]

/-- **Trimming and lower-casing can be done in either order.** -/
theorem trim_lower (t : Text) : trim (lower t) = lower (trim t) := by
  obtain ⟨l, r, hl, hr, ht, hbare⟩ := trimBy_split isBlank t
  rw [← trim_eq_trimBy] at ht hbare
  have hparts : lower t = l ++ lower (trim t) ++ r := by
    conv_lhs => rw [ht]
    rw [lower_append_of_back hr, lower_append_of_front hl]
  rw [hparts, trim_eq_trimBy, trimBy_of_split hl hr hbare.lower]

end ColonForth.Text
