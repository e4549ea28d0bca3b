import ColonForth.Tokens
import ColonForth.Proofs.LowerCase
import ColonForth.Proofs.Pieces

/-!
# Tokens

A token is what cutting a program can yield: a text in lower case that has no space in it, the
empty text included.  Tokens may hold other blanks than the space.

* `isToken_of_mem_tokenize`: what cutting yields are tokens.
* `tokenize_spaced`: tokens with spaces between them are cut into the same tokens again, provided
  that trimming finds no blank at the two ends.
* `dropEmpty_tokenize_iff`: cutting a text in lower case gives the pieces it is made of, up to
  empty ones, exactly when trimming removes nothing but spaces from it.
-/

namespace ColonForth

open Text

/-- A text that cutting a program can yield. -/
structure IsToken (t : Text) : Prop where
  /-- Spaces separate tokens. -/
  noSpace : ' ' ∉ t
  /-- Programs are put into lower case first. -/
  lower_eq : lower t = t

instance (t : Text) : Decidable (IsToken t) :=
  decidable_of_iff (' ' ∉ t ∧ lower t = t) ⟨fun h => ⟨h.1, h.2⟩, fun h => ⟨h.1, h.2⟩⟩

/-- A text without any blank. -/
def Unblank (t : Text) : Prop := ∀ c ∈ t, isBlank c = false

instance (t : Text) : Decidable (Unblank t) := List.decidableBAll _ t

lemma Unblank.space_not_mem {t : Text} (h : Unblank t) : ' ' ∉ t := by
  intro hmem
  have hspace := h ' ' hmem
  rw [isBlank_space] at hspace
  exact absurd hspace (by decide)

lemma isToken_colon : IsToken colon := by decide +kernel

lemma isToken_semicolon : IsToken semicolon := by decide +kernel

lemma unblank_colon : Unblank colon := by decide

lemma unblank_semicolon : Unblank semicolon := by decide

/-- **What cutting a program yields are tokens.** -/
theorem isToken_of_mem_tokenize {p t : Text} (h : t ∈ tokenize p) : IsToken t := by
  refine ⟨space_not_mem_of_mem_pieces h, lower_eq_self_iff.2 fun c hc => ?_⟩
  have hmem : c ∈ trim (lower p) := (mem_of_mem_pieces h c hc).1
  exact settled_of_mem_lower (mem_of_mem_trimBy hmem)

/-- Texts in lower case with spaces between them are in lower case. -/
lemma lower_spaced {ts : List Text} (h : ∀ t ∈ ts, lower t = t) :
    lower (spaced ts) = spaced ts := by
  refine lower_eq_self_iff.2 fun c hc => ?_
  rcases mem_spaced hc with rfl | ⟨t, ht, hct⟩
  · decide +kernel
  · exact lower_eq_self_iff.1 (h t ht) c hct

/-! ## Cutting what was put together -/

lemma tokenize_of_lower {t : Text} (h : lower t = t) : tokenize t = pieces (trim t) := by
  rw [tokenize, h]

lemma tokenize_of_bare {t : Text} (h : lower t = t) (hbare : Bare isBlank t) :
    tokenize t = pieces t := by
  rw [tokenize_of_lower h, trim_eq_trimBy, trimBy_of_bare hbare]

lemma Unblank.bare {t : Text} (h : Unblank t) : Bare isBlank t :=
  ⟨fun c hc => h c (List.mem_of_mem_head? hc), fun c hc => h c (List.mem_of_mem_getLast? hc)⟩

/-- A token without blanks is a program of one token. -/
lemma tokenize_token {t : Text} (h : lower t = t) (hblank : Unblank t) : tokenize t = [t] := by
  rw [tokenize_of_bare h hblank.bare, pieces_of_not_mem hblank.space_not_mem]

lemma head?_spaced {t : Text} (ht : t ≠ []) (ts : List Text) :
    (spaced (t :: ts)).head? = t.head? := by
  cases ts with
  | nil => rfl
  | cons u more =>
    rw [spaced_cons_cons, List.head?_append_of_ne_nil _ ht]

lemma spaced_append_singleton {ts : List Text} (hts : ts ≠ []) (t : Text) :
    spaced (ts ++ [t]) = spaced ts ++ ' ' :: t := by
  induction ts with
  | nil => exact absurd rfl hts
  | cons u rest ih =>
    cases rest with
    | nil => exact spaced_cons_cons u t []
    | cons v more =>
      rw [List.cons_append, List.cons_append, spaced_cons_cons, ← List.cons_append,
        ih (by simp), spaced_cons_cons, List.append_assoc, List.cons_append]

lemma getLast?_spaced {t : Text} (ht : t ≠ []) (ts : List Text) :
    (spaced (ts ++ [t])).getLast? = t.getLast? := by
  by_cases hts : ts = []
  · subst hts
    rfl
  · obtain ⟨c, hc⟩ := Option.isSome_iff_exists.1 (List.getLast?_isSome.2 ht)
    rw [spaced_append_singleton hts, List.getLast?_append, List.getLast?_cons, hc]
    rfl

/-- Tokens between two tokens that have no blank at their outer ends are cut into the same tokens
again. -/
theorem tokenize_spaced {first last : Text} {ts : List Text} (hfirst : first ≠ [])
    (hlast : last ≠ []) (hts : ∀ t ∈ first :: (ts ++ [last]), IsToken t)
    (hhead : Bare isBlank first) (hend : Bare isBlank last) :
    tokenize (spaced (first :: (ts ++ [last]))) = first :: (ts ++ [last]) := by
  have hbare : Bare isBlank (spaced (first :: (ts ++ [last]))) := by
    refine ⟨fun c hc => hhead.head c ?_, fun c hc => hend.last c ?_⟩
    · rwa [head?_spaced hfirst] at hc
    · rwa [← List.cons_append, getLast?_spaced hlast] at hc
  rw [tokenize_of_bare (lower_spaced fun t ht => (hts t ht).lower_eq) hbare,
    pieces_spaced_of_not_mem (by simp) fun t ht => (hts t ht).noSpace]

/-- **Cutting a text in lower case gives its pieces, up to empty ones, exactly when trimming
removes nothing but spaces from it.** -/
theorem dropEmpty_tokenize_iff {t : Text} (h : lower t = t) :
    dropEmpty (tokenize t) = dropEmpty (pieces t) ↔ trim t = trimSpaces t := by
  rw [tokenize_of_lower h]
  exact dropEmpty_pieces_trim_iff t

end ColonForth
