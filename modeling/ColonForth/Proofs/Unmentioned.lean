import ColonForth.Proofs.LowerParts
import ColonForth.Proofs.Reachable

/-!
# Names that are not mentioned

A name that neither the program nor any stored body mentions has no influence on a run: whatever
is stored under it, and whether anything is, the run ends alike and leaves the entry as it was.

Running a text puts it into lower case, trims it and cuts it, so what counts as a mention has to
be more than a piece that is the name.  A piece at an end of a body may lose blanks there, and it
may come to an end only after it was captured into another body.  A text *mentions* a name if one
of its pieces in lower case is the name with blanks around it (`Mentions`); this passes from the
words of a text to the text (`Mentions.of_mem_tokenize`), and from a captured body to what it was
captured from (`mentions_extendBody`).

A name is looked up in two places, where a word is evaluated and where it is captured.  Neither
meets the name, and nothing new mentions it (`Quiet.acts`), so two runs that differ in its entry
stay in step (`simulates_blind`).
-/

namespace ColonForth

open Text

/-! ## Mentions -/

/-- The text is `name` with blanks around it. -/
def UpToBlanks (name t : Text) : Prop :=
  ∃ l r, (∀ c ∈ l, isBlank c = true) ∧ (∀ c ∈ r, isBlank c = true) ∧ t = l ++ name ++ r

/-- A non-empty piece of the text in lower case is `name`, up to blanks at its ends. -/
def Mentions (t name : Text) : Prop :=
  ∃ piece ∈ dropEmpty (pieces (lower t)), UpToBlanks name piece

variable {name s t : Text}

lemma UpToBlanks.refl (t : Text) : UpToBlanks t t := ⟨[], [], by simp, by simp, by simp⟩

lemma UpToBlanks.trans (h : UpToBlanks name s) (h' : UpToBlanks s t) : UpToBlanks name t := by
  obtain ⟨l, r, hl, hr, rfl⟩ := h
  obtain ⟨l', r', hl', hr', rfl⟩ := h'
  refine ⟨l' ++ l, r ++ r', ?_, ?_, by simp⟩
  · simpa [or_imp, forall_and] using And.intro hl' hl
  · simpa [or_imp, forall_and] using And.intro hr hr'

lemma UpToBlanks.trim_eq (h : UpToBlanks name t) : trim t = trim name := by
  obtain ⟨l, r, hl, hr, rfl⟩ := h
  exact trim_append_blanks hl hr

/-- A name is not mentioned if no piece is the name when both are trimmed. -/
lemma not_mentions_of_trim_ne
    (h : ∀ piece ∈ dropEmpty (pieces (lower t)), trim piece ≠ trim name) : ¬ Mentions t name := by
  rintro ⟨piece, hpiece, hname⟩
  exact h piece hpiece hname.trim_eq

lemma not_mentions_nil (name : Text) : ¬ Mentions [] name := by
  rintro ⟨piece, hpiece, -⟩
  exact absurd hpiece List.not_mem_nil

/-- Two texts with a space between them mention what one of them mentions. -/
lemma mentions_append_space :
    Mentions (s ++ ' ' :: t) name ↔ Mentions s name ∨ Mentions t name := by
  have hpieces : dropEmpty (pieces (lower (s ++ ' ' :: t))) =
      dropEmpty (pieces (lower s)) ++ dropEmpty (pieces (lower t)) := by
    rw [lower_append_space, pieces_append_space, dropEmpty_append]
  simp only [Mentions, hpieces, List.mem_append, or_and_right, exists_or]

/-- A token mentions a name if it is the name, up to blanks. -/
lemma mentions_token (ht : IsToken t) : Mentions t name ↔ t ≠ [] ∧ UpToBlanks name t := by
  rw [Mentions, ht.lower_eq, pieces_of_not_mem ht.noSpace]
  simp only [mem_dropEmpty, List.mem_singleton]
  constructor
  · rintro ⟨piece, ⟨rfl, hne⟩, hname⟩
    exact ⟨hne, hname⟩
  · rintro ⟨hne, hname⟩
    exact ⟨t, ⟨rfl, hne⟩, hname⟩

lemma ne_of_not_mentions (ht : IsToken t) (hne : t ≠ []) (h : ¬ Mentions t name) : t ≠ name := by
  rintro rfl
  exact h ((mentions_token ht).2 ⟨hne, .refl t⟩)

/-- What trimming leaves of a text has the pieces of the text, up to blanks. -/
lemma exists_piece_of_mem_pieces_trim (h : t ∈ pieces (trim s)) :
    ∃ piece ∈ pieces s, UpToBlanks t piece := by
  obtain ⟨l, r, hl, hr, hs, -⟩ := trimBy_split isBlank s
  rw [← trim_eq_trimBy] at hs
  -- the piece may have lost blanks at its end, where the text was trimmed, …
  have hback : ∃ y, (∀ c ∈ y, isBlank c = true) ∧ t ++ y ∈ pieces (trim s ++ r) := by
    obtain ⟨front, x, y, back, htrim, hpieces, hall⟩ := pieces_append (trim s) r
    rw [htrim, List.mem_append, List.mem_singleton] at h
    rcases h with h | rfl
    · exact ⟨[], by simp, by rw [hall]; simp [h]⟩
    · have hy : y ∈ pieces r := by rw [hpieces]; exact List.mem_cons_self
      exact ⟨y, fun c hc => hr c (mem_of_mem_pieces hy c hc).1, by rw [hall]; simp⟩
  -- … and at its beginning
  obtain ⟨y, hy, hmem⟩ := hback
  obtain ⟨front, x, first, back, hpieces, htrim, hall⟩ := pieces_append l (trim s ++ r)
  rw [htrim, List.mem_cons] at hmem
  rw [hs, List.append_assoc, hall]
  rcases hmem with hfirst | hmem
  · have hx : x ∈ pieces l := by rw [hpieces]; simp
    refine ⟨x ++ first, by simp, x, y, ?_, hy, by rw [← hfirst, List.append_assoc]⟩
    exact fun c hc => hl c (mem_of_mem_pieces hx c hc).1
  · exact ⟨t ++ y, by simp [hmem], [], y, by simp, hy, by simp⟩

/-- **What a word of a text mentions, the text mentions.** -/
theorem Mentions.of_mem_tokenize (hword : t ∈ tokenize s) (h : Mentions t name) :
    Mentions s name := by
  obtain ⟨hne, hname⟩ := (mentions_token (isToken_of_mem_tokenize hword)).1 h
  obtain ⟨piece, hpiece, hblanks⟩ := exists_piece_of_mem_pieces_trim hword
  refine ⟨piece, mem_dropEmpty.2 ⟨hpiece, ?_⟩, hname.trans hblanks⟩
  rintro rfl
  obtain ⟨l, r, -, -, hparts⟩ := hblanks
  have hempty : l = [] ∧ t = [] ∧ r = [] := by simpa using hparts.symm
  exact hne hempty.2.1

namespace Interpreter

/-- **What a captured body mentions, the body before or the text that was added mentions.** -/
theorem mentions_extendBody {body addition : Text} (h : Mentions (extendBody body addition) name) :
    Mentions body name ∨ Mentions addition name := by
  by_cases hnil : body = []
  · subst hnil
    rw [extendBody_nil] at h
    exact Or.inr h
  · rw [extendBody_of_ne hnil] at h
    exact mentions_append_space.1 h

/-! ## Interpreters that do not mention a name -/

/-- No body but the one under `name` mentions the name, nor does the definition that is being
captured. -/
structure Quiet (name : Text) (i : Interpreter) : Prop where
  /-- What is stored. -/
  stored : ∀ {other body : Text}, other ≠ name → i.definitions.lookup other = some body →
    ¬ Mentions body name
  /-- What is being captured. -/
  captured : ∀ {other body : Text}, i.mode = .capturing other body →
    other ≠ name ∧ ¬ Mentions body name

variable {i i' j j' : Interpreter} {word : Text}

lemma Quiet.not_mentions_expansionOf (h : Quiet name i) (hne : word ≠ name)
    (hword : ¬ Mentions word name) : ¬ Mentions (i.expansionOf word) name := by
  rw [expansionOf]
  cases hlook : i.definitions.lookup word with
  | none => exact hword
  | some body => exact h.stored hne hlook

/-- One word that does not mention the name brings in no mention of it. -/
lemma Quiet.acts (h : Quiet name i) (htoken : IsToken word) (hword : ¬ Mentions word name)
    (hacts : Acts i word j) : Quiet name j := by
  cases hacts with
  | skip => exact h
  | name hmode hne hcolon hsemicolon hread =>
    refine ⟨h.stored, fun hmode' => ?_⟩
    obtain ⟨rfl, rfl⟩ := Mode.capturing.inj hmode'
    exact ⟨ne_of_not_mentions htoken hne hword, not_mentions_nil name⟩
  | store hmode =>
    refine ⟨fun hother hlook => ?_, fun hmode' => absurd hmode' (by simp [Interpreter.define])⟩
    rcases lookup_of_lookup_define hlook with ⟨-, rfl⟩ | hlook
    · exact (h.captured hmode).2
    · exact h.stored hother hlook
  | extend hmode hne hsemicolon =>
    refine ⟨h.stored, fun hmode' => ?_⟩
    obtain ⟨rfl, rfl⟩ := Mode.capturing.inj hmode'
    obtain ⟨hother, hbody⟩ := h.captured hmode
    refine ⟨hother, fun hmentions => ?_⟩
    rcases mentions_extendBody hmentions with hmentions | hmentions
    · exact hbody hmentions
    · exact h.not_mentions_expansionOf (ne_of_not_mentions htoken hne hword) hword hmentions
  | opening hmode => exact ⟨h.stored, fun hmode' => absurd hmode' (by simp)⟩
  | push hmode hcolon hread => exact ⟨h.stored, h.captured⟩
  | primitive hmode hcolon hread hlook hname hrun => exact ⟨h.stored, h.captured⟩

/-! ## Two runs that differ in the entry of a name -/

/-- Two interpreters that differ at most in the entry of `name`, which is `entry` on one side and
`entry'` on the other, and a queue, none of which mention the name. -/
structure Blind (name : Text) (entry entry' : Option Text) (queue : List Text)
    (j j' : Interpreter) : Prop where
  /-- All but the entry is equal. -/
  agree : AgreeOn (fun t => t ≠ name) j j'
  /-- The entry of the first. -/
  lookup_eq : j.definitions.lookup name = entry
  /-- The entry of the second. -/
  lookup_eq' : j'.definitions.lookup name = entry'
  /-- The first does not mention the name, and so neither does the second. -/
  quiet : Quiet name j
  /-- The words still to come do not mention it. -/
  queue : ∀ t ∈ queue, IsToken t ∧ ¬ Mentions t name

variable {entry entry' : Option Text} {queue : List Text}

/-- A word that does not mention the name acts alike on both sides, and on neither side on the
entry. -/
lemma Blind.act (h : Blind name entry entry' (word :: queue) j j') (hne : word ≠ []) :
    Agree (Blind name entry entry' queue) (j.act word) (j'.act word) := by
  obtain ⟨⟨htoken, hword⟩, hrest⟩ := List.forall_mem_cons.1 h.queue
  have hname : word ≠ name := ne_of_not_mentions htoken hne hword
  refine (h.agree.act fun _ => hname).imp fun k k' hk hk' hagree => ?_
  have hacts := acts_of_act hk
  -- a definition that is stored is one of another name
  have hentry : k.definitions.lookup name = j.definitions.lookup name :=
    hacts.lookup_eq fun _ captured hmode => (h.quiet.captured hmode).1 rfl
  have hentry' : k'.definitions.lookup name = j'.definitions.lookup name :=
    (acts_of_act hk').lookup_eq fun _ captured hmode =>
      (h.quiet.captured (h.agree.mode.trans hmode)).1 rfl
  exact ⟨hagree, hentry.trans h.lookup_eq, hentry'.trans h.lookup_eq',
    h.quiet.acts htoken hword hacts, hrest⟩

/-- **Runs that differ in the entry of a name stay in step** if nothing mentions the name. -/
theorem simulates_blind (name : Text) (entry entry' : Option Text) :
    Simulates (Blind name entry entry') := by
  refine ⟨?_, ?_⟩
  · intro word queue j j' h hexp
    by_cases hne : word = []
    · -- an empty word is passed over, also where the name is empty
      subst hne
      obtain ⟨-, hrest⟩ := List.forall_mem_cons.1 h.queue
      exact ⟨rfl, .ok ⟨h.agree, h.lookup_eq, h.lookup_eq', h.quiet, hrest⟩⟩
    · obtain ⟨⟨htoken, hword⟩, -⟩ := List.forall_mem_cons.1 h.queue
      refine ⟨?_, h.act hne⟩
      rw [← h.agree.expansion? fun _ => ne_of_not_mentions htoken hne hword, hexp]
  · intro word body queue j j' h hexp
    obtain ⟨⟨htoken, hword⟩, hrest⟩ := List.forall_mem_cons.1 h.queue
    obtain ⟨hne, -, -, -, hlook⟩ := expansion?_eq_some_iff.1 hexp
    have hname : word ≠ name := ne_of_not_mentions htoken hne hword
    refine ⟨?_, h.agree, h.lookup_eq, h.lookup_eq', h.quiet, fun t ht => ?_⟩
    · rw [← h.agree.expansion? fun _ => hname, hexp]
    · rcases List.mem_append.1 ht with ht | ht
      · refine ⟨isToken_of_mem_tokenize ht, fun hmentions => ?_⟩
        exact h.quiet.stored hname hlook (hmentions.of_mem_tokenize ht)
      · exact hrest t ht

/-- **A name that nobody mentions cannot influence a run.**  If two interpreters differ in the
entry of a name only, and neither the program, nor a body stored under another name, nor the
definition that is being captured mentions the name, the program fails alike in both or goes well
in both.  Then they still differ in the entry only, and each has the entry it had. -/
theorem eval_unmentioned {program : Text} (hagree : AgreeOn (fun t => t ≠ name) i i')
    (hprogram : ¬ Mentions program name)
    (hstored : ∀ other body, other ≠ name → i.definitions.lookup other = some body →
      ¬ Mentions body name)
    (hcaptured : ∀ other body, i.mode = .capturing other body →
      other ≠ name ∧ ¬ Mentions body name) (limit : Nat) :
    Agree (fun j j' => AgreeOn (fun t => t ≠ name) j j' ∧
        j.definitions.lookup name = i.definitions.lookup name ∧
        j'.definitions.lookup name = i'.definitions.lookup name)
      (eval limit i program).outcome (eval limit i' program).outcome := by
  have hquiet : Quiet name i := ⟨fun hne hlook => hstored _ _ hne hlook, fun hmode =>
    hcaptured _ _ hmode⟩
  have hstart : Blind name (i.definitions.lookup name) (i'.definitions.lookup name)
      (tokenize program) i i' := by
    refine ⟨hagree, rfl, rfl, hquiet, fun t ht => ⟨isToken_of_mem_tokenize ht, ?_⟩⟩
    exact fun hmentions => hprogram (hmentions.of_mem_tokenize ht)
  exact ((simulates_blind name _ _).eval limit hstart).imp fun j j' _ _ hj =>
    ⟨hj.agree, hj.lookup_eq, hj.lookup_eq'⟩

/-- The interpreter after `: w dup * ;`. -/
def squaring : Interpreter := new.define ['w'] ['d', 'u', 'p', ' ', '*']

/-- The program `3 : v W w ; V`, which defines `v` by way of `w` and runs it. -/
def fourthPower : Text := ['3', ' ', ':', ' ', 'v', ' ', 'W', ' ', 'w', ' ', ';', ' ', 'V']

/-- Whether `x` is defined makes no difference to a program that captures, stores and runs words
without mentioning it. -/
theorem eval_unmentioned_fourthPower :
    ¬ Mentions fourthPower ['x'] ∧
      (∃ j, (eval 1 squaring fourthPower).outcome = .ok j ∧ j.stack = Stack.empty.push 81) ∧
      Agree (fun j j' => AgreeOn (fun t => t ≠ ['x']) j j' ∧
          j.definitions.lookup ['x'] = some ['1'] ∧ j'.definitions.lookup ['x'] = none)
        (eval 1 (squaring.define ['x'] ['1']) fourthPower).outcome
        (eval 1 squaring fourthPower).outcome := by
  have hprogram : ¬ Mentions fourthPower ['x'] := not_mentions_of_trim_ne (by decide +kernel)
  have hagree : AgreeOn (fun t => t ≠ ['x']) (squaring.define ['x'] ['1']) squaring :=
    ⟨rfl, rfl, fun t ht => Dictionary.lookup_insert_of_ne _ _ ht⟩
  have hstored : ∀ other body, other ≠ ['x'] →
      (squaring.define ['x'] ['1']).definitions.lookup other = some body →
        ¬ Mentions body ['x'] := by
    intro other body hne hlook
    rcases lookup_of_lookup_define hlook with ⟨hother, -⟩ | hlook
    · exact absurd hother hne
    rcases lookup_of_lookup_define hlook with ⟨-, rfl⟩ | hlook
    · exact not_mentions_of_trim_ne (by decide +kernel)
    · exact absurd hlook (by simp [new])
  have hcaptured : ∀ other body, (squaring.define ['x'] ['1']).mode = .capturing other body →
      other ≠ ['x'] ∧ ¬ Mentions body ['x'] :=
    fun other body hmode => absurd hmode (by simp [Interpreter.define])
  refine ⟨hprogram, ⟨(squaring.define ['v'] ['d', 'u', 'p', ' ', '*', ' ', 'd', 'u', 'p', ' ', '*']
    ).push 81, by decide +kernel, rfl⟩, ?_⟩
  exact eval_unmentioned hagree hprogram hstored hcaptured 1

end Interpreter

end ColonForth
