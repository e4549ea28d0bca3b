import ColonForth.Text.LowerCase
import Mathlib.Tactic.Common

/-!
# Texts that are in lower case already

Program text is put into lower case before it is cut, and the body of a defined word goes through
the same treatment once more when the word is run.  The second time nothing may change.  This file
shows that it does not, although lower-casing looks at the neighbours of a sigma and may lengthen
a text:

* `lower_eq_self_iff`: a text is its own lower-case form exactly when each of its characters is
  *settled*, that is, untouched by the table and different from the dotted capital I;
* `settled_of_mem_lower`: every character of a lower-case form is settled.

Being settled is a property of single characters, so it passes to every piece of a text and to
every text put together from pieces.  The one fact about the table, that a look-up of an image of
a row finds no member of a row, is checked by a walk along the table for each of its rows.
-/

namespace ColonForth

namespace CaseRow

/-- Whether the images of the row `r` have the other parity than the members of the row `q`, which
is a row of step two. -/
def oddTo (r q : CaseRow) : Bool :=
  q.step == 2 && (r.step == 2 || r.first == r.last) && (r.target + q.first) % 2 == 1

/-- Whether a look-up of an image of the row `r` finds no member in the given rows.  Rows that end
below all images are passed over; the first row that begins above all of them ends the walk. -/
def clears (r : CaseRow) : List CaseRow → Bool
  | [] => true
  | q :: rest =>
    if q.last < r.target then r.clears rest
    else if r.image r.last < q.first ∧ r.image r.last ≤ q.last then true
    else r.oddTo q && r.clears rest

/-- No image of a row belongs to a row. -/
lemma all_clears_table : (table.all fun r => r.clears table) = true := by decide +kernel

/-- The row that holds the dotted capital I and nothing else. -/
def dottedRow : CaseRow := ⟨0x130, 0x130, 2, 0x130⟩

/-- No image of a row is the dotted capital I. -/
lemma all_clears_dotted : (table.all fun r => r.clears [dottedRow]) = true := by decide +kernel

lemma holds_iff {row : CaseRow} {n : Nat} :
    row.holds n = true ↔ row.first ≤ n ∧ n ≤ row.last ∧ (n - row.first) % row.step = 0 := by
  simp [holds, and_assoc]

lemma not_holds_of_oddTo {r q : CaseRow} {n : Nat} (h : r.oddTo q = true)
    (hr : r.holds n = true) : q.holds (r.image n) = false := by
  obtain ⟨h1, h2, h3⟩ := holds_iff.1 hr
  simp only [oddTo, Bool.and_eq_true, Bool.or_eq_true, beq_iff_eq] at h
  obtain ⟨⟨hq, hr'⟩, hodd⟩ := h
  by_contra hold
  rw [Bool.not_eq_false, holds_iff, hq, image] at hold
  rcases hr' with hstep | hone
  · rw [hstep] at h3
    omega
  · omega

/-- A look-up of an image of a row among rows that the row clears finds no member. -/
lemma not_holds_of_clears {r q : CaseRow} {rows : List CaseRow} {n : Nat}
    (h : r.clears rows = true) (hr : r.holds n = true)
    (hq : rows.find? (fun row => r.image n ≤ row.last) = some q) :
    q.holds (r.image n) = false := by
  obtain ⟨h1, h2, -⟩ := holds_iff.1 hr
  have hle : r.image n ≤ r.image r.last := by
    simp only [image]
    omega
  induction rows with
  | nil => simp at hq
  | cons row rest ih =>
    rw [clears] at h
    split at h
    · next hbelow =>
      -- the row ends below all images, and the look-up passes it over
      have hskip : ¬ r.image n ≤ row.last := by
        simp only [image]
        omega
      rw [List.find?_cons_of_neg (by simpa using hskip)] at hq
      exact ih h hq
    · split at h
      · next habove =>
        -- the row begins above all images, and the look-up stops there
        have htake : r.image n ≤ row.last := Nat.le_trans hle habove.2
        rw [List.find?_cons_of_pos (by simpa using htake)] at hq
        obtain rfl := Option.some.inj hq
        by_contra hold
        rw [Bool.not_eq_false, holds_iff] at hold
        omega
      · -- the row and the images overlap, but their parities differ
        rw [Bool.and_eq_true] at h
        by_cases htake : r.image n ≤ row.last
        · rw [List.find?_cons_of_pos (by simpa using htake)] at hq
          obtain rfl := Option.some.inj hq
          exact not_holds_of_oddTo h.1 hr
        · rw [List.find?_cons_of_neg (by simpa using htake)] at hq
          exact ih h.2 hq

end CaseRow

namespace Text

/-- Whether lower-casing leaves the character alone wherever it stands. -/
def Settled (c : Char) : Prop := lowerChar c = c ∧ c ≠ dottedCapitalI

instance (c : Char) : Decidable (Settled c) := inferInstanceAs (Decidable (_ ∧ _))

lemma toNat_ofNat_of_valid {n : Nat} (h : n.isValidChar) : (Char.ofNat n).toNat = n := by
  rw [Char.ofNat, dif_pos h]
  rfl

/-- The image of a code point of a row of the table is settled. -/
lemma settled_image {row : CaseRow} (hrow : row ∈ CaseRow.table) {n : Nat}
    (hold : row.holds n = true) : Settled (Char.ofNat (row.image n)) := by
  by_cases hvalid : (row.image n).isValidChar
  · have hcode := toNat_ofNat_of_valid hvalid
    refine ⟨?_, fun hdot => ?_⟩
    · unfold lowerChar
      rw [hcode]
      split
      · next q hq =>
        have hclear := List.all_eq_true.1 CaseRow.all_clears_table row hrow
        rw [CaseRow.not_holds_of_clears hclear hold hq]
        rfl
      · rfl
    · have hclear := List.all_eq_true.1 CaseRow.all_clears_dotted row hrow
      have himage : row.image n = 0x130 := by
        rw [← hcode, hdot]
        rfl
      have hfind : [CaseRow.dottedRow].find? (fun q => row.image n ≤ q.last)
          = some CaseRow.dottedRow := by
        rw [himage]
        rfl
      have hmiss := CaseRow.not_holds_of_clears hclear hold hfind
      rw [himage] at hmiss
      exact absurd hmiss (by decide)
  · -- a number that is no code point stands for the null character
    rw [Char.ofNat, dif_neg hvalid]
    decide

/-- What the table does to a character is settled. -/
lemma settled_lowerChar {c : Char} (hc : c ≠ dottedCapitalI) : Settled (lowerChar c) := by
  by_cases hfix : lowerChar c = c
  · rw [hfix]
    exact ⟨hfix, hc⟩
  · unfold lowerChar at hfix ⊢
    split at hfix
    · next row hrow =>
      split at hfix
      · next hold =>
        rw [if_pos hold]
        exact settled_image (List.mem_of_find?_eq_some hrow) hold
      · exact absurd rfl hfix
    · exact absurd rfl hfix

lemma settled_of_mem_lowerAt {before after : Text} {c x : Char}
    (h : x ∈ lowerAt before c after) : Settled x := by
  unfold lowerAt at h
  split at h
  · split at h
    · rw [List.mem_singleton.1 h]
      decide
    · rw [List.mem_singleton.1 h]
      decide
  · split at h
    · simp only [List.mem_cons, List.not_mem_nil, or_false] at h
      rcases h with rfl | rfl
      · decide
      · decide
    · next hdot =>
      rw [List.mem_singleton.1 h]
      exact settled_lowerChar hdot

lemma settled_of_mem_lowerAfter {before t : Text} {x : Char} (h : x ∈ lowerAfter before t) :
    Settled x := by
  induction t generalizing before with
  | nil => exact absurd h List.not_mem_nil
  | cons c rest ih =>
    rw [lowerAfter, List.mem_append] at h
    rcases h with h | h
    · exact settled_of_mem_lowerAt h
    · exact ih h

/-- **Every character of a lower-case form is settled.** -/
theorem settled_of_mem_lower {t : Text} {x : Char} (h : x ∈ lower t) : Settled x :=
  settled_of_mem_lowerAfter h

lemma lowerAt_of_settled {before after : Text} {c : Char} (h : Settled c) :
    lowerAt before c after = [c] := by
  have hsigma : c ≠ capitalSigma := by
    rintro rfl
    exact absurd h.1 (by decide)
  rw [lowerAt, if_neg hsigma, if_neg h.2, h.1]

lemma settled_of_lowerAt_append {before after rest more : Text} {c : Char}
    (h : lowerAt before c after ++ more = c :: rest) : Settled c ∧ more = rest := by
  unfold lowerAt at h
  split at h
  · next hsigma =>
    subst hsigma
    split at h
    · exact absurd (List.cons.inj h).1 (by decide)
    · exact absurd (List.cons.inj h).1 (by decide)
  · split at h
    · next hdot =>
      subst hdot
      exact absurd (List.cons.inj h).1 (by decide)
    · next hdot =>
      obtain ⟨h1, h2⟩ := List.cons.inj h
      exact ⟨⟨h1, hdot⟩, h2⟩

lemma lowerAfter_eq_self_iff {before t : Text} :
    lowerAfter before t = t ↔ ∀ c ∈ t, Settled c := by
  induction t generalizing before with
  | nil => simp [lowerAfter]
  | cons c rest ih =>
    rw [lowerAfter, List.forall_mem_cons]
    constructor
    · intro h
      obtain ⟨hc, hrest⟩ := settled_of_lowerAt_append h
      exact ⟨hc, ih.1 hrest⟩
    · rintro ⟨hc, hrest⟩
      rw [lowerAt_of_settled hc, ih.2 hrest]
      rfl

/-- **A text is its own lower-case form exactly when all its characters are settled.** -/
theorem lower_eq_self_iff {t : Text} : lower t = t ↔ ∀ c ∈ t, Settled c :=
  lowerAfter_eq_self_iff

/-- Lower-casing twice is lower-casing once. -/
lemma lower_lower (t : Text) : lower (lower t) = lower t :=
  lower_eq_self_iff.2 fun _ hc => settled_of_mem_lower hc

end Text

end ColonForth
