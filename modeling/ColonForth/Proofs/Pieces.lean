import ColonForth.Text.Blank
import Mathlib.Data.List.DropRight
import Mathlib.Tactic.Common

/-!
# Pieces of a text

How cutting at spaces, joining with spaces and trimming act on one another.

* Cutting: everything about `pieces` follows from `pieces_append_space`, the pieces of two texts
  with a space between them.
* Empty pieces: evaluation passes over them, so texts are compared by their pieces without the
  empty ones, `dropEmpty (pieces t)`.  These do not see the spaces at the ends of a text.
* Trimming: `trimBy p` removes the characters of a class `p` from both ends, and is described by
  how it splits a text (`trimBy_split`) and by the one text it leaves (`trimBy_of_split`).
  `trim` is the case of the blanks, `trimSpaces` that of the plain space.

The last section compares the two trimmings: trimming blanks keeps the non-empty pieces of a text
exactly when it removes nothing but plain spaces.
-/

namespace ColonForth.Text

/-! ## Cutting at spaces -/

@[simp] lemma pieces_nil : pieces [] = [[]] := rfl

@[simp] lemma pieces_cons_space (t : Text) : pieces (' ' :: t) = [] :: pieces t := rfl

/-- A character other than the space belongs to the first piece of what follows it. -/
lemma pieces_cons_of_ne {c : Char} (hc : c ≠ ' ') (t : Text) :
    ∃ piece more, pieces t = piece :: more ∧ pieces (c :: t) = (c :: piece) :: more := by
  obtain ⟨piece, more, h⟩ := List.exists_cons_of_ne_nil (splitOn_ne_nil ' ' t)
  refine ⟨piece, more, h, ?_⟩
  rw [pieces, splitOn, if_neg hc, h]

/-- **The pieces of two texts with a space between them.** -/
theorem pieces_append_space (a b : Text) : pieces (a ++ ' ' :: b) = pieces a ++ pieces b := by
  induction a with
  | nil => rfl
  | cons c rest ih =>
    by_cases hc : c = ' '
    · subst hc
      rw [List.cons_append, pieces_cons_space, pieces_cons_space, ih, List.cons_append]
    · obtain ⟨p, more, hp, hcp⟩ := pieces_cons_of_ne hc rest
      obtain ⟨q, others, hq, hcq⟩ := pieces_cons_of_ne hc (rest ++ ' ' :: b)
      rw [hp, hq, List.cons_append] at ih
      obtain ⟨rfl, rfl⟩ := List.cons.inj ih
      rw [List.cons_append, hcq, hcp, List.cons_append]

/-- Where two texts meet, the last piece of the first and the first piece of the second become
one. -/
lemma pieces_append (a b : Text) :
    ∃ front x y back, pieces a = front ++ [x] ∧ pieces b = y :: back ∧
      pieces (a ++ b) = front ++ (x ++ y) :: back := by
  induction a with
  | nil =>
    obtain ⟨y, back, hb⟩ := List.exists_cons_of_ne_nil (splitOn_ne_nil ' ' b)
    exact ⟨[], [], y, back, rfl, hb, hb⟩
  | cons c rest ih =>
    obtain ⟨front, x, y, back, ha, hb, hab⟩ := ih
    by_cases hc : c = ' '
    · subst hc
      refine ⟨[] :: front, x, y, back, ?_, hb, ?_⟩
      · rw [pieces_cons_space, ha, List.cons_append]
      · rw [List.cons_append, pieces_cons_space, hab, List.cons_append]
    · obtain ⟨p, more, hp, hcp⟩ := pieces_cons_of_ne hc rest
      obtain ⟨q, others, hq, hcq⟩ := pieces_cons_of_ne hc (rest ++ b)
      rw [ha] at hp
      rw [hab] at hq
      rw [List.cons_append, hcp, hcq]
      -- the character goes to the piece where the texts meet if there is no other
      cases front with
      | nil =>
        obtain ⟨rfl, rfl⟩ := List.cons.inj hp
        obtain ⟨rfl, rfl⟩ := List.cons.inj hq
        exact ⟨[], c :: x, y, back, rfl, hb, rfl⟩
      | cons first front =>
        obtain ⟨rfl, rfl⟩ := List.cons.inj hp
        obtain ⟨rfl, rfl⟩ := List.cons.inj hq
        exact ⟨(c :: first) :: front, x, y, back, rfl, hb, rfl⟩

/-- A text without spaces is its only piece. -/
lemma pieces_of_not_mem {t : Text} (h : ' ' ∉ t) : pieces t = [t] := by
  induction t with
  | nil => rfl
  | cons c rest ih =>
    rw [List.mem_cons, not_or] at h
    obtain ⟨p, more, hp, hcp⟩ := pieces_cons_of_ne (Ne.symm h.1) rest
    rw [ih h.2] at hp
    obtain ⟨rfl, rfl⟩ := List.cons.inj hp
    exact hcp

/-- A piece has characters of the text only, and no space. -/
lemma mem_of_mem_pieces {t piece : Text} (h : piece ∈ pieces t) :
    ∀ c ∈ piece, c ∈ t ∧ c ≠ ' ' := by
  induction t generalizing piece with
  | nil =>
    rw [pieces_nil, List.mem_singleton] at h
    subst h
    exact fun c hc => absurd hc List.not_mem_nil
  | cons d rest ih =>
    intro c hc
    by_cases hd : d = ' '
    · subst hd
      rw [pieces_cons_space, List.mem_cons] at h
      rcases h with rfl | h
      · exact absurd hc List.not_mem_nil
      · exact ⟨List.mem_cons_of_mem _ (ih h c hc).1, (ih h c hc).2⟩
    · obtain ⟨p, more, hp, hdp⟩ := pieces_cons_of_ne hd rest
      rw [hdp, List.mem_cons] at h
      rcases h with rfl | h
      · rcases List.mem_cons.1 hc with rfl | hc
        · exact ⟨List.mem_cons_self, hd⟩
        · have hmem := ih (hp ▸ List.mem_cons_self) c hc
          exact ⟨List.mem_cons_of_mem _ hmem.1, hmem.2⟩
      · have hmem := ih (hp ▸ List.mem_cons_of_mem _ h) c hc
        exact ⟨List.mem_cons_of_mem _ hmem.1, hmem.2⟩

lemma space_not_mem_of_mem_pieces {t piece : Text} (h : piece ∈ pieces t) : ' ' ∉ piece :=
  fun hc => (mem_of_mem_pieces h ' ' hc).2 rfl

lemma spaced_cons_cons (t u : Text) (more : List Text) :
    spaced (t :: u :: more) = t ++ ' ' :: spaced (u :: more) := by
  rw [spaced, join_cons_cons, List.append_assoc]
  rfl

/-- The pieces of texts with spaces between them are those of all the texts. -/
lemma pieces_spaced {ts : List Text} (hne : ts ≠ []) :
    pieces (spaced ts) = ts.flatMap pieces := by
  induction ts with
  | nil => exact absurd rfl hne
  | cons t rest ih =>
    cases rest with
    | nil => simp [spaced, join]
    | cons u more =>
      rw [spaced_cons_cons, pieces_append_space, ih (by simp)]
      rfl

/-- Words with spaces between them are cut into the same words again. -/
lemma pieces_spaced_of_not_mem {ts : List Text} (hne : ts ≠ []) (h : ∀ t ∈ ts, ' ' ∉ t) :
    pieces (spaced ts) = ts := by
  rw [pieces_spaced hne]
  clear hne
  induction ts with
  | nil => rfl
  | cons t rest ih =>
    rw [List.forall_mem_cons] at h
    rw [List.flatMap_cons, pieces_of_not_mem h.1, ih h.2]
    rfl

/-- The pieces of a text with spaces between them are the text. -/
lemma spaced_pieces (t : Text) : spaced (pieces t) = t := by
  induction t with
  | nil => rfl
  | cons c rest ih =>
    by_cases hc : c = ' '
    · subst hc
      obtain ⟨piece, more, h⟩ := List.exists_cons_of_ne_nil (splitOn_ne_nil ' ' rest)
      rw [pieces, h] at ih
      rw [pieces_cons_space, pieces, h, spaced_cons_cons, ih, List.nil_append]
    · obtain ⟨piece, more, hrest, hpieces⟩ := pieces_cons_of_ne hc rest
      rw [hrest] at ih
      rw [hpieces]
      cases more with
      | nil => exact congrArg (c :: ·) ih
      | cons next more =>
        rw [spaced_cons_cons] at ih
        rw [spaced_cons_cons, List.cons_append, ih]

/-- A text put together with spaces has the characters of the texts, and spaces. -/
lemma mem_spaced {ts : List Text} {c : Char} (h : c ∈ spaced ts) :
    c = ' ' ∨ ∃ t ∈ ts, c ∈ t := by
  induction ts with
  | nil => exact absurd h List.not_mem_nil
  | cons t rest ih =>
    cases rest with
    | nil => exact Or.inr ⟨t, by simp, h⟩
    | cons u more =>
      rw [spaced_cons_cons, List.mem_append, List.mem_cons] at h
      rcases h with h | h | h
      · exact Or.inr ⟨t, by simp, h⟩
      · exact Or.inl h
      · rcases ih h with h | ⟨s, hs, hc⟩
        · exact Or.inl h
        · exact Or.inr ⟨s, List.mem_cons_of_mem _ hs, hc⟩

/-! ## Empty pieces -/

/-- The texts that are not empty, in order. -/
def dropEmpty (ts : List Text) : List Text := ts.filter (fun t => !t.isEmpty)

@[simp] lemma dropEmpty_nil : dropEmpty [] = [] := rfl

@[simp] lemma dropEmpty_cons_nil (ts : List Text) : dropEmpty ([] :: ts) = dropEmpty ts := rfl

lemma dropEmpty_cons_of_ne {t : Text} (h : t ≠ []) (ts : List Text) :
    dropEmpty (t :: ts) = t :: dropEmpty ts := by
  cases t with
  | nil => exact absurd rfl h
  | cons c rest => rfl

@[simp] lemma dropEmpty_append (ts us : List Text) :
    dropEmpty (ts ++ us) = dropEmpty ts ++ dropEmpty us := List.filter_append ..

lemma mem_dropEmpty {t : Text} {ts : List Text} : t ∈ dropEmpty ts ↔ t ∈ ts ∧ t ≠ [] := by
  simp [dropEmpty]

lemma dropEmpty_eq_self {ts : List Text} (h : ∀ t ∈ ts, t ≠ []) : dropEmpty ts = ts := by
  refine List.filter_eq_self.2 fun t ht => ?_
  simpa using h t ht

/-- The non-empty pieces hold all characters but the spaces. -/
lemma flatten_dropEmpty_pieces (t : Text) :
    (dropEmpty (pieces t)).flatten = t.filter (fun c => c != ' ') := by
  induction t with
  | nil => rfl
  | cons c rest ih =>
    by_cases hc : c = ' '
    · subst hc
      rw [pieces_cons_space, dropEmpty_cons_nil, ih]
      rfl
    · obtain ⟨p, more, hp, hcp⟩ := pieces_cons_of_ne hc rest
      have hsame : (dropEmpty (p :: more)).flatten = p ++ (dropEmpty more).flatten := by
        cases p with
        | nil => rfl
        | cons d p => rfl
      rw [hp, hsame] at ih
      rw [hcp, dropEmpty_cons_of_ne (by simp), List.filter_cons_of_pos (by simpa using hc), ← ih]
      rfl

/-- Spaces have no pieces but empty ones. -/
lemma dropEmpty_pieces_spaces {r : Text} (hr : ∀ c ∈ r, c = ' ') : dropEmpty (pieces r) = [] := by
  induction r with
  | nil => rfl
  | cons c rest ih =>
    rw [List.forall_mem_cons] at hr
    obtain ⟨rfl, hrest⟩ := hr
    exact ih hrest

/-- Spaces at the ends of a text do not change its non-empty pieces. -/
lemma dropEmpty_pieces_of_split {l m r : Text} (hl : ∀ c ∈ l, c = ' ') (hr : ∀ c ∈ r, c = ' ') :
    dropEmpty (pieces (l ++ m ++ r)) = dropEmpty (pieces m) := by
  have hleft : ∀ t : Text, dropEmpty (pieces (l ++ t)) = dropEmpty (pieces t) := by
    intro t
    induction l with
    | nil => rfl
    | cons c rest ih =>
      rw [List.forall_mem_cons] at hl
      obtain ⟨rfl, hrest⟩ := hl
      exact ih hrest
  rw [List.append_assoc, hleft]
  cases r with
  | nil => rw [List.append_nil]
  | cons c rest =>
    rw [List.forall_mem_cons] at hr
    obtain ⟨rfl, hrest⟩ := hr
    rw [pieces_append_space, dropEmpty_append, dropEmpty_pieces_spaces hrest, List.append_nil]

/-! ## Trimming -/

/-- The text without the characters of the class `p` at its two ends. -/
def trimBy (p : Char → Bool) (t : Text) : Text := (t.dropWhile p).rdropWhile p

/-- The text without the plain spaces at its two ends. -/
def trimSpaces (t : Text) : Text := trimBy (fun c => c == ' ') t

lemma trim_eq_trimBy (t : Text) : trim t = trimBy isBlank t := rfl

/-- Neither the first nor the last character of the text belongs to the class `p`. -/
structure Bare (p : Char → Bool) (t : Text) : Prop where
  /-- The first character is not in the class. -/
  head : ∀ c ∈ t.head?, p c = false
  /-- The last character is not in the class. -/
  last : ∀ c ∈ t.getLast?, p c = false

/-- What is left of a text without its front of the class does not begin in the class. -/
lemma eq_false_of_mem_head?_dropWhile {p : Char → Bool} {t : Text} {c : Char}
    (hc : c ∈ (t.dropWhile p).head?) : p c = false := by
  have hnot := List.head?_dropWhile_not p t
  rw [show (t.dropWhile p).head? = some c from hc] at hnot
  exact hnot

/-- What is left of a text without its back of the class does not end in the class. -/
lemma eq_false_of_mem_getLast?_rdropWhile {p : Char → Bool} {t : Text} {c : Char}
    (hc : c ∈ (t.rdropWhile p).getLast?) : p c = false := by
  rw [List.rdropWhile, List.getLast?_reverse] at hc
  exact eq_false_of_mem_head?_dropWhile hc

/-- The two ends that `trimBy` cuts off, and the bare text between them. -/
lemma trimBy_split (p : Char → Bool) (t : Text) :
    ∃ l r, (∀ c ∈ l, p c = true) ∧ (∀ c ∈ r, p c = true) ∧ t = l ++ trimBy p t ++ r ∧
      Bare p (trimBy p t) := by
  refine ⟨t.takeWhile p, (t.dropWhile p).rtakeWhile p, fun c hc => List.mem_takeWhile_imp hc,
    fun c hc => List.mem_rtakeWhile_imp hc, ?_, fun c hc => ?_,
    fun c hc => eq_false_of_mem_getLast?_rdropWhile hc⟩
  · rw [trimBy, List.append_assoc, List.rdropWhile_append_rtakeWhile,
      List.takeWhile_append_dropWhile]
  · -- what is left begins as the text without its front does
    obtain ⟨more, hmore⟩ := List.rdropWhile_prefix p (l := t.dropWhile p)
    refine eq_false_of_mem_head?_dropWhile (t := t) ?_
    rw [← hmore, List.head?_append, show (List.rdropWhile p _).head? = some c from hc]
    rfl

lemma dropWhile_of_head {p : Char → Bool} {t : Text} (h : ∀ c ∈ t.head?, p c = false) :
    t.dropWhile p = t := by
  cases t with
  | nil => rfl
  | cons c rest => exact List.dropWhile_cons_of_neg (by simp [h c rfl])

/-- A bare text between ends of the class is what `trimBy` leaves. -/
lemma trimBy_of_split {p : Char → Bool} {l m r : Text} (hl : ∀ c ∈ l, p c = true)
    (hr : ∀ c ∈ r, p c = true) (hm : Bare p m) : trimBy p (l ++ m ++ r) = m := by
  rw [trimBy, List.append_assoc, List.dropWhile_append_of_pos hl]
  cases m with
  | nil =>
    have hnil : r.dropWhile p = [] := List.dropWhile_eq_nil_iff.2 hr
    rw [List.nil_append, hnil, List.rdropWhile_nil]
  | cons c rest =>
    rw [List.cons_append, List.dropWhile_cons_of_neg (by simp [hm.head c rfl]), ← List.cons_append,
      List.rdropWhile, List.reverse_append, List.dropWhile_append_of_pos (by simpa using hr),
      dropWhile_of_head, List.reverse_reverse]
    intro d hd
    rw [List.head?_reverse] at hd
    exact hm.last d hd

lemma trimBy_of_bare {p : Char → Bool} {t : Text} (h : Bare p t) : trimBy p t = t := by
  simpa using trimBy_of_split (l := []) (r := []) (by simp) (by simp) h

lemma bare_trim (t : Text) : Bare isBlank (trim t) := by
  obtain ⟨-, -, -, -, -, hbare⟩ := trimBy_split isBlank t
  exact hbare

lemma mem_of_mem_trimBy {p : Char → Bool} {t : Text} {c : Char} (h : c ∈ trimBy p t) : c ∈ t := by
  obtain ⟨l, r, -, -, ht, -⟩ := trimBy_split p t
  rw [ht]
  exact List.mem_append_left _ (List.mem_append_right _ h)

lemma Bare.mono {p q : Char → Bool} {t : Text} (hqp : ∀ c, q c = true → p c = true)
    (h : Bare p t) : Bare q t := by
  have hnot : ∀ c, p c = false → q c = false := by
    intro c hp
    by_contra hq
    rw [Bool.not_eq_false] at hq
    rw [hqp c hq] at hp
    exact absurd hp (by decide)
  exact ⟨fun c hc => hnot c (h.head c hc), fun c hc => hnot c (h.last c hc)⟩

/-- Blanks around a text make no difference to what trimming leaves. -/
lemma trim_append_blanks {l t r : Text} (hl : ∀ c ∈ l, isBlank c = true)
    (hr : ∀ c ∈ r, isBlank c = true) : trim (l ++ t ++ r) = trim t := by
  obtain ⟨l', r', hl', hr', ht, hbare⟩ := trimBy_split isBlank t
  have hparts : l ++ t ++ r = (l ++ l') ++ trim t ++ (r' ++ r) := by
    conv_lhs => rw [ht]
    simp [trim_eq_trimBy]
  rw [hparts, trim_eq_trimBy]
  refine trimBy_of_split ?_ ?_ hbare
  · simpa [or_imp, forall_and] using And.intro hl hl'
  · simpa [or_imp, forall_and] using And.intro hr' hr

/-! ## Trimming blanks against trimming spaces -/

/-- Trimming plain spaces keeps the non-empty pieces. -/
lemma dropEmpty_pieces_trimSpaces (t : Text) :
    dropEmpty (pieces (trimSpaces t)) = dropEmpty (pieces t) := by
  obtain ⟨l, r, hl, hr, ht, -⟩ := trimBy_split (fun c => c == ' ') t
  have hsplit := dropEmpty_pieces_of_split (m := trimSpaces t) (fun c hc => by simpa using hl c hc)
    (fun c hc => by simpa using hr c hc)
  rw [trimSpaces, ← ht] at hsplit
  exact hsplit.symm

/-- If only spaces are cut off, trimming blanks is trimming spaces. -/
lemma trim_eq_trimSpaces {t l r : Text} (ht : t = l ++ trim t ++ r) (hl : ∀ c ∈ l, c = ' ')
    (hr : ∀ c ∈ r, c = ' ') : trim t = trimSpaces t := by
  obtain ⟨-, -, -, -, -, hbare⟩ := trimBy_split isBlank t
  have hbare' : Bare (fun c => c == ' ') (trim t) := by
    refine hbare.mono fun c hc => ?_
    rw [show c = ' ' by simpa using hc]
    exact isBlank_space
  have hsplit := trimBy_of_split (fun c hc => by simpa using hl c hc)
    (fun c hc => by simpa using hr c hc) hbare'
  rw [← ht] at hsplit
  exact hsplit.symm

/-- Where every blank is a plain space, trimming blanks is trimming spaces. -/
lemma trim_eq_trimSpaces_of_blank {t : Text} (h : ∀ c ∈ t, isBlank c = true → c = ' ') :
    trim t = trimSpaces t := by
  obtain ⟨l, r, hl, hr, ht, -⟩ := trimBy_split isBlank t
  refine trim_eq_trimSpaces ht (fun c hc => h c ?_ (hl c hc)) fun c hc => h c ?_ (hr c hc)
  · rw [ht]
    exact List.mem_append_left _ (List.mem_append_left _ hc)
  · rw [ht]
    exact List.mem_append_right _ hc

/-- **Trimming blanks keeps the non-empty pieces of a text exactly when it removes nothing but
plain spaces.** -/
theorem dropEmpty_pieces_trim_iff (t : Text) :
    dropEmpty (pieces (trim t)) = dropEmpty (pieces t) ↔ trim t = trimSpaces t := by
  constructor
  · intro h
    obtain ⟨l, r, -, -, ht, -⟩ := trimBy_split isBlank t
    rw [← trim_eq_trimBy] at ht
    -- the ends that are cut off have no character that is not a space
    have hchars := congrArg List.flatten h
    rw [flatten_dropEmpty_pieces, flatten_dropEmpty_pieces] at hchars
    have hlen := congrArg List.length hchars
    conv_rhs at hlen => rw [ht]
    simp only [List.filter_append, List.length_append] at hlen
    have hl : l.filter (fun c => c != ' ') = [] := List.eq_nil_of_length_eq_zero (by omega)
    have hr : r.filter (fun c => c != ' ') = [] := List.eq_nil_of_length_eq_zero (by omega)
    rw [List.filter_eq_nil_iff] at hl hr
    exact trim_eq_trimSpaces ht (fun c hc => by simpa using hl c hc)
      fun c hc => by simpa using hr c hc
  · intro h
    rw [h]
    exact dropEmpty_pieces_trimSpaces t

end ColonForth.Text
