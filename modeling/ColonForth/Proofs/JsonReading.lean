import ColonForth.Json
import ColonForth.Proofs.CodeUnits
import ColonForth.Proofs.PrintedStack

/-!
# Reading JSON text

A reader takes the text of a JSON value character by character.  It stands between two parts or in
a bare one (a number or a name), in a string, or in an escape (`Place`), and it keeps what has been
read of the collections that are still open (`Outline`).  A bare part has no mark of its own at its
end: it ends where a character comes that cannot belong to it.  Strings are read as UTF-16 code
units, which are made up to a string when it ends.

* `Json.isPlain_render`: the text of a value is made of printable ASCII characters, whatever strings
  there are in it.
* `Json.read?_render`: the text of a value is read as that value, with the pairs that are split in
  its strings joined.
* `Json.render_joined`: a value has the same text as the value with its pairs joined.
-/

namespace ColonForth

/-! ## Printable text -/

namespace Text

/-- All characters of the text are printable ASCII characters. -/
def IsPlain (t : Text) : Prop := ∀ c ∈ t, 0x20 ≤ c.toNat ∧ c.toNat ≤ 0x7E

instance (t : Text) : Decidable t.IsPlain := List.decidableBAll _ _

lemma isPlain_cons {c : Char} {t : Text} :
    IsPlain (c :: t) ↔ (0x20 ≤ c.toNat ∧ c.toNat ≤ 0x7E) ∧ IsPlain t := List.forall_mem_cons

lemma isPlain_append {s t : Text} : IsPlain (s ++ t) ↔ IsPlain s ∧ IsPlain t :=
  List.forall_mem_append

end Text

namespace Json

open Text WideText

/-- What holds of the items of an array and of the members of an object holds of every value. -/
@[elab_as_elim]
theorem induction {motive : Json → Prop} (null : motive .null) (bool : ∀ b, motive (.bool b))
    (number : ∀ n, motive (.number n)) (string : ∀ t, motive (.string t))
    (array : ∀ items, (∀ v ∈ items, motive v) → motive (.array items))
    (object : ∀ members, (∀ m ∈ members, motive m.2) → motive (.object members)) (v : Json) :
    motive v :=
  @Json.rec motive (fun items => ∀ v ∈ items, motive v)
    (fun members => ∀ m ∈ members, motive m.2) (fun m => motive m.2) null bool number string array
    object (fun _ h => absurd h List.not_mem_nil)
    (fun _ _ head tail => List.forall_mem_cons.2 ⟨head, tail⟩)
    (fun _ h => absurd h List.not_mem_nil)
    (fun _ _ head tail => List.forall_mem_cons.2 ⟨head, tail⟩) (fun _ _ h => h) v

lemma isPlain_hex (width n : Nat) : IsPlain (hex width n) := by
  have hdigit : ∀ d < 16, IsPlain [hexDigit d] := by decide
  induction width generalizing n with
  | zero => exact fun c hc => absurd hc List.not_mem_nil
  | succ width ih =>
    exact isPlain_append.2 ⟨ih _, hdigit _ (Nat.mod_lt n (by decide))⟩

lemma isPlain_unitEscape (n : Nat) : IsPlain (unitEscape n) :=
  isPlain_append.2 (⟨by decide, isPlain_hex 4 n⟩ : IsPlain ['\\', 'u'] ∧ IsPlain (hex 4 n))

lemma isPlain_escapeChar (c : Char) : IsPlain (escapeChar c) := by
  unfold escapeChar
  split
  · next h =>
    have hc : c = '"' ∨ c = '\\' := by simpa using h
    rcases hc with rfl | rfl <;> decide
  iterate 5
    split
    · decide
  split
  · next h => exact isPlain_cons.2 ⟨by simpa using h, by decide⟩
  split
  · exact isPlain_unitEscape _
  · exact isPlain_append.2 ⟨isPlain_unitEscape _, isPlain_unitEscape _⟩

lemma isPlain_escapePoint (p : CodePoint) : IsPlain (escapePoint p) := by
  cases p with
  | char c => exact isPlain_escapeChar c
  | half h => exact isPlain_unitEscape h.unit

lemma isPlain_renderString (t : WideText) : IsPlain (renderString t) := by
  refine isPlain_cons.2 ⟨by decide, isPlain_append.2 ⟨fun c hc => ?_, by decide⟩⟩
  obtain ⟨p, -, hp⟩ := List.mem_flatMap.1 hc
  exact isPlain_escapePoint p c hp

lemma isPlain_ofInt (n : Int) : IsPlain (Decimal.ofInt n) := by
  rw [Decimal.ofInt_eq, isPlain_append]
  constructor
  · split <;> decide
  · intro c hc
    exact Literal.of_isDigit (P := fun c => 0x20 ≤ c.toNat ∧ c.toNat ≤ 0x7E) (by decide)
      (Decimal.isDigit_of_mem_ofNat c hc)

lemma renderItems_cons_cons (v w : Json) (rest : List Json) :
    renderItems (v :: w :: rest) = v.render ++ ',' :: ' ' :: renderItems (w :: rest) := by
  rw [renderItems]
  exact List.cons_ne_nil w rest

lemma renderMembers_cons_cons (key : WideText) (v : Json) (m : WideText × Json)
    (rest : List (WideText × Json)) :
    renderMembers ((key, v) :: m :: rest) = renderString key ++ ':' :: ' ' ::
      (v.render ++ ',' :: ' ' :: renderMembers (m :: rest)) := by
  rw [renderMembers]
  exact List.cons_ne_nil m rest

lemma isPlain_renderItems {items : List Json} (h : ∀ v ∈ items, IsPlain v.render) :
    IsPlain (renderItems items) := by
  induction items with
  | nil => decide
  | cons v rest ih =>
    rw [List.forall_mem_cons] at h
    cases rest with
    | nil =>
      rw [renderItems]
      exact h.1
    | cons w more =>
      simp only [renderItems_cons_cons, isPlain_append, isPlain_cons]
      exact ⟨h.1, by decide, by decide, ih h.2⟩

lemma isPlain_renderMembers {members : List (WideText × Json)}
    (h : ∀ m ∈ members, IsPlain m.2.render) : IsPlain (renderMembers members) := by
  induction members with
  | nil => decide
  | cons m rest ih =>
    obtain ⟨key, v⟩ := m
    rw [List.forall_mem_cons] at h
    cases rest with
    | nil =>
      simp only [renderMembers, isPlain_append, isPlain_cons]
      exact ⟨isPlain_renderString key, by decide, by decide, h.1⟩
    | cons m' more =>
      simp only [renderMembers_cons_cons, isPlain_append, isPlain_cons]
      exact ⟨isPlain_renderString key, by decide, by decide, h.1, by decide, by decide, ih h.2⟩

/-- **The text of a value is made of printable ASCII characters.** -/
theorem isPlain_render (v : Json) : IsPlain v.render := by
  induction v using induction with
  | null => decide
  | bool b => cases b <;> decide
  | number n =>
    rw [render]
    exact isPlain_ofInt n
  | string t =>
    rw [render]
    exact isPlain_renderString t
  | array items ih =>
    rw [render, isPlain_cons, isPlain_append]
    exact ⟨by decide, isPlain_renderItems ih, by decide⟩
  | object members ih =>
    rw [render, isPlain_cons, isPlain_append]
    exact ⟨by decide, isPlain_renderMembers ih, by decide⟩

/-! ## Joined pairs -/

mutual

/-- The value with the pairs that are split in its strings joined. -/
def joined : Json → Json
  | .string t => .string t.joined
  | .array items => .array (joinedItems items)
  | .object members => .object (joinedMembers members)
  | v => v

/-- The items of an array with their pairs joined. -/
def joinedItems : List Json → List Json
  | [] => []
  | item :: rest => item.joined :: joinedItems rest

/-- The members of an object with their pairs joined. -/
def joinedMembers : List (WideText × Json) → List (WideText × Json)
  | [] => []
  | (key, value) :: rest => (key.joined, value.joined) :: joinedMembers rest

end

/-- The character of a pair is written as its halves are. -/
lemma escapeChar_ofPair {high low : Nat} (h : CodePoint.isPair high low = true) :
    escapeChar (CodePoint.ofPair high low) = unitEscape high ++ unitEscape low := by
  have hcode := CodePoint.toNat_ofPair h
  simp only [CodePoint.isPair, Bool.and_eq_true, decide_eq_true_eq] at h
  have hlarge : ¬ (CodePoint.ofPair high low).toNat < 0x10000 := by omega
  have hplain : ∀ d : Char, d.toNat < 0x10000 → CodePoint.ofPair high low ≠ d :=
    fun d hd heq => hlarge (heq ▸ hd)
  have hhigh : 0xD800 + ((CodePoint.ofPair high low).toNat - 0x10000) / 0x400 = high := by omega
  have hlow : 0xDC00 + ((CodePoint.ofPair high low).toNat - 0x10000) % 0x400 = low := by omega
  rw [escapeChar, hhigh, hlow, if_neg hlarge]
  have hprintable : ¬ (CodePoint.ofPair high low).toNat ≤ 0x7E := by omega
  simp [hplain, hprintable]

lemma flatMap_escapePoint_joined (t : WideText) :
    t.joined.flatMap escapePoint = t.flatMap escapePoint := by
  fun_induction WideText.joined t with
  | case1 => rfl
  | case2 p => rfl
  | case3 p q rest c hpair ih =>
    obtain ⟨high, low, rfl, rfl, hhalves, hc⟩ := CodePoint.pair?_eq_some hpair
    rw [List.flatMap_cons, ih, List.flatMap_cons, List.flatMap_cons, escapePoint, escapePoint,
      escapePoint, hc, escapeChar_ofPair hhalves, List.append_assoc]
  | case4 p q rest hpair ih =>
    rw [List.flatMap_cons, ih]
    rfl

lemma renderString_joined (t : WideText) : renderString t.joined = renderString t := by
  rw [renderString, renderString, flatMap_escapePoint_joined]

lemma renderItems_joinedItems {items : List Json} (h : ∀ v ∈ items, v.joined.render = v.render) :
    renderItems (joinedItems items) = renderItems items := by
  induction items with
  | nil => rfl
  | cons v rest ih =>
    rw [List.forall_mem_cons] at h
    cases rest with
    | nil => exact h.1
    | cons w more =>
      rw [renderItems_cons_cons, ← ih h.2, ← h.1]
      exact renderItems_cons_cons _ _ _

lemma renderMembers_joinedMembers {members : List (WideText × Json)}
    (h : ∀ m ∈ members, m.2.joined.render = m.2.render) :
    renderMembers (joinedMembers members) = renderMembers members := by
  induction members with
  | nil => rfl
  | cons m rest ih =>
    obtain ⟨key, v⟩ := m
    rw [List.forall_mem_cons] at h
    cases rest with
    | nil =>
      rw [joinedMembers, joinedMembers, renderMembers, renderMembers, renderString_joined, h.1]
    | cons m' more =>
      rw [renderMembers_cons_cons, ← ih h.2, ← h.1, ← renderString_joined key]
      exact renderMembers_cons_cons _ _ _ _

/-- **A value has the same text as the value with its pairs joined.** -/
theorem render_joined (v : Json) : v.joined.render = v.render := by
  induction v using induction with
  | null => rfl
  | bool b => rfl
  | number n => rfl
  | string t =>
    rw [joined, render, render]
    exact renderString_joined t
  | array items ih => rw [joined, render, render, renderItems_joinedItems ih]
  | object members ih => rw [joined, render, render, renderMembers_joinedMembers ih]

/-! ## The reader -/

/-- A collection of which some parts have been read. -/
inductive Frame where
  /-- The items before the one that is being read. -/
  | array (items : List Json)
  /-- The members before the one that is being read, and the key of that one. -/
  | object (members : List (WideText × Json)) (key : WideText)

/-- What has been read, inside the given collections, innermost first. -/
inductive Outline where
  /-- A value is to come. -/
  | value (frames : List Frame)
  /-- The key of a member is to come, behind the given members. -/
  | key (members : List (WideText × Json)) (frames : List Frame)
  /-- A key has come, behind the given members, and a colon is to follow. -/
  | colon (members : List (WideText × Json)) (key : WideText) (frames : List Frame)
  /-- A value has come. -/
  | after (value : Json) (frames : List Frame)

namespace Outline

/-- A value that is no collection comes. -/
def deliver? : Outline → Json → Option Outline
  | .value frames, v => some (.after v frames)
  | .key members frames, .string name => some (.colon members name frames)
  | _, _ => none

/-- A mark comes.  A collection may be closed at once, but not behind a comma. -/
def mark? : Outline → Char → Option Outline
  | .value frames, '[' => some (.value (.array [] :: frames))
  | .value frames, '\x7b' => some (.key [] frames)
  | .value (.array [] :: frames), ']' => some (.after (.array []) frames)
  | .key [] frames, '\x7d' => some (.after (.object []) frames)
  | .colon members name frames, ':' => some (.value (.object members name :: frames))
  | .after v (.array items :: frames), ',' => some (.value (.array (items ++ [v]) :: frames))
  | .after v (.array items :: frames), ']' => some (.after (.array (items ++ [v])) frames)
  | .after v (.object members name :: frames), ',' => some (.key (members ++ [(name, v)]) frames)
  | .after v (.object members name :: frames), '\x7d' =>
    some (.after (.object (members ++ [(name, v)])) frames)
  | _, _ => none

/-- The value that has come, if no collection is open. -/
def value? : Outline → Option Json
  | .after v [] => some v
  | _ => none

end Outline

/-- Where the reader stands. -/
inductive Place where
  /-- Behind the given characters of a bare part, or between two parts. -/
  | bare (t : Text)
  /-- In a string, behind the given code units. -/
  | quoted (units : List Nat)
  /-- Behind a backslash in a string. -/
  | escape (units : List Nat)
  /-- In the code of an escaped code unit, of which digits with the given value have come; another
  one and `more` others are to come. -/
  | code (units : List Nat) (value more : Nat)

/-- A reader in the middle of a text. -/
structure Reader where
  /-- Where it stands. -/
  place : Place
  /-- What it has read. -/
  outline : Outline

/-- The characters that may stand between two parts. -/
def isBlank (c : Char) : Bool := c == ' ' || c == '\t' || c == '\n' || c == '\r'

/-- The characters that open, close and separate collections and their parts. -/
def isMark (c : Char) : Bool := ['[', ']', '\x7b', '\x7d', ',', ':'].contains c

/-- The characters that belong to a bare part: all but blanks, marks and quotes. -/
def isBare (c : Char) : Bool := !(isBlank c || isMark c || c == '"')

/-- The number that some digits stand for.  There are no leading zeros. -/
def natural? (digits : Text) : Option Nat :=
  if digits.all Literal.isDigit && !digits.isEmpty && (digits.head? != some '0' || digits == ['0'])
  then some (Literal.valueOf digits)
  else none

/-- The integer that some digits behind an optional minus sign stand for. -/
def integer? : Text → Option Int
  | '-' :: digits => (natural? digits).map fun n : Nat => -(n : Int)
  | digits => (natural? digits).map fun n : Nat => (n : Int)

/-- The value that a bare part stands for. -/
def ofBare? (t : Text) : Option Json :=
  match integer? t with
  | some n => some (.number n)
  | none =>
    [("null".toList, .null), ("true".toList, .bool true), ("false".toList, .bool false)].lookup t

/-- The code unit that a short escape stands for. -/
def shortEscape? (c : Char) : Option Nat :=
  [('"', 0x22), ('\\', 0x5C), ('/', 0x2F), ('b', 0x08), ('f', 0x0C), ('n', 0x0A), ('r', 0x0D),
    ('t', 0x09)].lookup c

/-- The value of a hexadecimal digit. -/
def hexValue? (c : Char) : Option Nat :=
  if Literal.isDigit c then some (c.toNat - 0x30)
  else if 'a' ≤ c && c ≤ 'f' then some (c.toNat - 0x57)
  else if 'A' ≤ c && c ≤ 'F' then some (c.toNat - 0x37)
  else none

namespace Reader

/-- What has been read if the part in which the reader stands, if any, ends there. -/
def settle? : Reader → Option Outline
  | ⟨.bare [], outline⟩ => some outline
  | ⟨.bare (c :: t), outline⟩ => (ofBare? (c :: t)).bind outline.deliver?
  | _ => none

/-- A character comes between two parts that does not begin a bare one. -/
def begin? (outline : Outline) (c : Char) : Option Reader :=
  if isMark c then (outline.mark? c).map (Reader.mk (.bare []))
  else if isBlank c then some ⟨.bare [], outline⟩
  else some ⟨.quoted [], outline⟩

/-- A character comes. -/
def feed? : Reader → Char → Option Reader
  | ⟨.bare t, outline⟩, c =>
    if isBare c then some ⟨.bare (t ++ [c]), outline⟩
    else (settle? ⟨.bare t, outline⟩).bind fun outline' => begin? outline' c
  | ⟨.quoted us, outline⟩, c =>
    if c = '"' then (outline.deliver? (.string (ofUnits us))).map (Reader.mk (.bare []))
    else if c = '\\' then some ⟨.escape us, outline⟩
    else if c.toNat < 0x20 then none
    else some ⟨.quoted (us ++ (CodePoint.char c).units), outline⟩
  | ⟨.escape us, outline⟩, c =>
    if c = 'u' then some ⟨.code us 0 3, outline⟩
    else (shortEscape? c).map fun u => ⟨.quoted (us ++ [u]), outline⟩
  | ⟨.code us value 0, outline⟩, c =>
    (hexValue? c).map fun d => ⟨.quoted (us ++ [16 * value + d]), outline⟩
  | ⟨.code us value (more + 1), outline⟩, c =>
    (hexValue? c).map fun d => ⟨.code us (16 * value + d) more, outline⟩

/-- The characters of a text come. -/
def run? (r : Reader) (t : Text) : Option Reader := t.foldlM feed? r

end Reader

/-- The value that a text stands for. -/
def read? (t : Text) : Option Json :=
  ((Reader.run? ⟨.bare [], .value []⟩ t).bind Reader.settle?).bind Outline.value?

/-! ## Strings -/

namespace Reader

variable {o o' o'' : Outline}

lemma run?_cons (r : Reader) (c : Char) (t : Text) :
    run? r (c :: t) = (feed? r c).bind (run? · t) :=
  List.foldlM_cons

lemma run?_append (r : Reader) (s t : Text) : run? r (s ++ t) = (run? r s).bind (run? · t) :=
  List.foldlM_append

/-- The escape of a code unit is read as that unit. -/
lemma run?_unitEscape {n : Nat} (h : n < 0x10000) (us : List Nat) :
    run? ⟨.quoted us, o⟩ (unitEscape n) = some ⟨.quoted (us ++ [n]), o⟩ := by
  have hsixteen : ∀ d < 16, hexValue? (hexDigit d) = some d := by decide
  have hdigit : ∀ m, hexValue? (hexDigit (m % 16)) = some (m % 16) :=
    fun m => hsixteen _ (Nat.mod_lt m (by decide))
  have hescape : unitEscape n = ['\\', 'u'] ++ [hexDigit (n / 16 / 16 / 16 % 16),
      hexDigit (n / 16 / 16 % 16), hexDigit (n / 16 % 16), hexDigit (n % 16)] := rfl
  have hopen : run? ⟨.quoted us, o⟩ ['\\', 'u'] = some ⟨.code us 0 3, o⟩ := rfl
  have hvalue : 16 * (16 * (16 * (16 * 0 + n / 16 / 16 / 16 % 16) + n / 16 / 16 % 16) +
      n / 16 % 16) + n % 16 = n := by omega
  rw [hescape, run?_append, hopen, Option.bind_some]
  simp only [run?_cons, feed?, hdigit, Option.map_some, Option.bind_some, hvalue]
  rfl

/-- A character of a string is read as its code units. -/
lemma run?_escapeChar (c : Char) (us : List Nat) :
    run? ⟨.quoted us, o⟩ (escapeChar c) = some ⟨.quoted (us ++ (CodePoint.char c).units), o⟩ := by
  unfold escapeChar
  split
  · next h =>
    have hc : c = '"' ∨ c = '\\' := by simpa using h
    rcases hc with rfl | rfl <;> rfl
  next hplain =>
  -- the five control characters with short escapes come before the printable characters
  rw [Bool.or_eq_true, decide_eq_true_iff, decide_eq_true_iff, not_or] at hplain
  iterate 5
    split
    · next h =>
      subst h
      rfl
  split
  · next h =>
    rw [Bool.and_eq_true, decide_eq_true_iff, decide_eq_true_iff] at h
    rw [run?_cons, feed?, if_neg hplain.1, if_neg hplain.2, if_neg (Nat.not_lt.2 h.1)]
    rfl
  split
  · next h => rw [run?_unitEscape h, CodePoint.units, if_pos h]
  · next h =>
    have hvalid : c.toNat.isValidChar := c.valid
    unfold Nat.isValidChar at hvalid
    rw [run?_append, run?_unitEscape (by omega), Option.bind_some, run?_unitEscape (by omega),
      CodePoint.units, if_neg h, List.append_assoc]
    rfl

/-- A half is read as its code unit. -/
lemma run?_escapePoint (p : CodePoint) (us : List Nat) :
    run? ⟨.quoted us, o⟩ (escapePoint p) = some ⟨.quoted (us ++ p.units), o⟩ := by
  cases p with
  | char c => exact run?_escapeChar c us
  | half h => exact run?_unitEscape (h.lt_end.trans (by decide)) us

lemma run?_escapePoints (t : WideText) (us : List Nat) :
    run? ⟨.quoted us, o⟩ (t.flatMap escapePoint) =
      some ⟨.quoted (us ++ t.flatMap CodePoint.units), o⟩ := by
  induction t generalizing us with
  | nil =>
    rw [List.flatMap_nil, List.flatMap_nil, List.append_nil]
    rfl
  | cons p rest ih =>
    rw [List.flatMap_cons, run?_append, run?_escapePoint, Option.bind_some, ih, List.append_assoc,
      List.flatMap_cons]

/-! ## Parts and collections -/

/-- A text that comes between two parts is made of whole parts and leads from one outline to
another. -/
def Leads (o : Outline) (t : Text) (o' : Outline) : Prop :=
  (run? ⟨.bare [], o⟩ t).bind settle? = some o'

lemma Leads.nil (o : Outline) : Leads o [] o := rfl

/-- Where a part may end, it does end if a character comes that is not bare. -/
lemma feed?_of_settle? {r : Reader} {c : Char} (h : r.settle? = some o) (hc : isBare c = false) :
    r.feed? c = feed? ⟨.bare [], o⟩ c := by
  obtain ⟨place, outline⟩ := r
  cases place with
  | bare t =>
    rw [feed?, feed?, h, if_neg (by simp [hc]), if_neg (by simp [hc])]
    rfl
  | quoted us => exact absurd h (by simp [settle?])
  | escape us => exact absurd h (by simp [settle?])
  | code us value more => exact absurd h (by simp [settle?])

lemma Leads.append {s t : Text} {c : Char} (h : Leads o s o') (hc : isBare c = false)
    (ht : Leads o' (c :: t) o'') : Leads o (s ++ c :: t) o'' := by
  obtain ⟨r, hrun, hsettle⟩ := Option.bind_eq_some_iff.1 h
  rw [Leads, run?_append, hrun, Option.bind_some, run?_cons, feed?_of_settle? hsettle hc,
    ← run?_cons]
  exact ht

lemma Leads.blank {t : Text} (h : Leads o t o') : Leads o (' ' :: t) o' := h

/-- A mark leads on as it does in the outline. -/
lemma Leads.mark {t : Text} {c : Char} (hc : isMark c = true) (hmark : o.mark? c = some o')
    (h : Leads o' t o'') : Leads o (c :: t) o'' := by
  have hbare : ¬ isBare c = true := by simp [isBare, hc]
  have hfeed : feed? ⟨.bare [], o⟩ c = some ⟨.bare [], o'⟩ := by
    rw [feed?, if_neg hbare, settle?, Option.bind_some, begin?, if_pos hc, hmark, Option.map_some]
  rw [Leads, run?_cons, hfeed]
  exact h

/-- A string leads on as the string with its pairs joined does in the outline. -/
lemma leads_renderString {t : WideText} (h : o.deliver? (.string t.joined) = some o') :
    Leads o (renderString t) o' := by
  have hopen : feed? ⟨.bare [], o⟩ '"' = some ⟨.quoted [], o⟩ := rfl
  have hclose : feed? ⟨.quoted (t.flatMap CodePoint.units), o⟩ '"' = some ⟨.bare [], o'⟩ := by
    rw [feed?, if_pos rfl, ofUnits_flatMap_units, h, Option.map_some]
  rw [Leads, renderString, run?_cons, hopen, Option.bind_some, run?_append, run?_escapePoints,
    Option.bind_some, List.nil_append, run?_cons, hclose]
  rfl

lemma run?_bare {s t : Text} (h : t.all isBare = true) :
    run? ⟨.bare s, o⟩ t = some ⟨.bare (s ++ t), o⟩ := by
  induction t generalizing s with
  | nil =>
    rw [List.append_nil]
    rfl
  | cons c rest ih =>
    rw [List.all_cons, Bool.and_eq_true] at h
    rw [run?_cons, feed?, if_pos h.1, Option.bind_some, ih h.2, List.append_assoc]
    rfl

/-- A bare part leads on as its value does in the outline. -/
lemma leads_bare {t : Text} {v : Json} (hbare : t.all isBare = true) (hvalue : ofBare? t = some v)
    (h : o.deliver? v = some o') : Leads o t o' := by
  rw [Leads, run?_bare hbare, Option.bind_some, List.nil_append]
  cases t with
  | nil =>
    have hnone : ofBare? [] = none := rfl
    exact absurd (hnone.symm.trans hvalue) (by simp)
  | cons c rest => rw [settle?, hvalue, Option.bind_some, h]

end Reader

open Reader

/-- The decimal digits of a number have no leading zero. -/
lemma head?_ofNat {n : Nat} (h : 0 < n) : (Decimal.ofNat n).head? ≠ some '0' := by
  induction n using Nat.strongRecOn with
  | ind n ih =>
    by_cases hsmall : n < 10
    · have hdigit : ∀ d < 10, 0 < d → (Decimal.ofNat d).head? ≠ some '0' := by decide
      exact hdigit n hsmall h
    · rw [Decimal.ofNat, Nat.toDigits_of_base_le (by decide) (Nat.not_lt.1 hsmall),
        List.head?_append_of_ne_nil _ Nat.toDigits_ne_nil]
      exact ih (n / 10) (by omega) (by omega)

lemma natural?_ofNat (n : Nat) : natural? (Decimal.ofNat n) = some n := by
  have hdigits : (Decimal.ofNat n).all Literal.isDigit = true :=
    List.all_eq_true.2 Decimal.isDigit_of_mem_ofNat
  have hhead : ((Decimal.ofNat n).head? != some '0' || Decimal.ofNat n == ['0']) = true := by
    rcases Nat.eq_zero_or_pos n with rfl | hpos
    · decide
    · simp [head?_ofNat hpos]
  rw [natural?, hdigits, hhead, if_pos (by simp [Decimal.ofNat_ne_nil]), Decimal.valueOf_ofNat]

lemma integer?_ofInt (n : Int) : integer? (Decimal.ofInt n) = some n := by
  rw [Decimal.ofInt_eq]
  by_cases hneg : n < 0
  · have hvalue : -(n.natAbs : Int) = n := by omega
    rw [if_pos hneg, List.singleton_append, integer?, natural?_ofNat, Option.map_some, hvalue]
  · have hvalue : (n.natAbs : Int) = n := by omega
    rw [if_neg hneg, List.nil_append]
    unfold integer?
    split
    · next digits hdigits =>
      -- a minus sign is no digit
      have hminus : '-' ∈ Decimal.ofNat n.natAbs := by
        rw [hdigits]
        exact List.mem_cons_self
      exact absurd (Decimal.isDigit_of_mem_ofNat _ hminus) (by decide)
    · rw [natural?_ofNat, Option.map_some, hvalue]

lemma ofBare?_ofInt (n : Int) : ofBare? (Decimal.ofInt n) = some (.number n) := by
  rw [ofBare?, integer?_ofInt]

lemma all_isBare_ofInt (n : Int) : (Decimal.ofInt n).all isBare = true := by
  rw [Decimal.ofInt_eq, List.all_append, Bool.and_eq_true]
  constructor
  · split <;> decide
  · rw [List.all_eq_true]
    exact fun c hc => Literal.of_isDigit (P := fun c => isBare c = true) (by decide)
      (Decimal.isDigit_of_mem_ofNat c hc)

lemma leads_renderItems {items before : List Json} {frames : List Frame} (hne : items ≠ [])
    (h : ∀ v ∈ items, ∀ frames, Leads (.value frames) v.render (.after v.joined frames)) :
    Leads (.value (.array before :: frames)) (renderItems items ++ [']'])
      (.after (.array (before ++ joinedItems items)) frames) := by
  induction items generalizing before with
  | nil => exact absurd rfl hne
  | cons v rest ih =>
    rw [List.forall_mem_cons] at h
    cases rest with
    | nil =>
      rw [renderItems]
      exact (h.1 _).append (by decide) (.mark (by decide) rfl (.nil _))
    | cons w more =>
      have hrest := @ih (before ++ [v.joined]) (List.cons_ne_nil w more) h.2
      rw [List.append_assoc] at hrest
      rw [renderItems_cons_cons, List.append_assoc]
      exact (h.1 _).append (by decide) (.mark (by decide) rfl hrest.blank)

lemma leads_renderMembers {members before : List (WideText × Json)} {frames : List Frame}
    (hne : members ≠ [])
    (h : ∀ m ∈ members, ∀ frames, Leads (.value frames) m.2.render (.after m.2.joined frames)) :
    Leads (.key before frames) (renderMembers members ++ ['\x7d'])
      (.after (.object (before ++ joinedMembers members)) frames) := by
  induction members generalizing before with
  | nil => exact absurd rfl hne
  | cons m rest ih =>
    obtain ⟨key, v⟩ := m
    rw [List.forall_mem_cons] at h
    have hkey : Leads (.key before frames) (renderString key) (.colon before key.joined frames) :=
      leads_renderString rfl
    cases rest with
    | nil =>
      rw [renderMembers, List.append_assoc]
      refine hkey.append (by decide) (.mark (by decide) rfl (.blank ?_))
      exact (h.1 _).append (by decide) (.mark (by decide) rfl (.nil _))
    | cons m' more =>
      have hrest := @ih (before ++ [(key.joined, v.joined)]) (List.cons_ne_nil m' more) h.2
      rw [List.append_assoc] at hrest
      simp only [renderMembers_cons_cons, List.append_assoc, List.cons_append]
      refine hkey.append (by decide) (.mark (by decide) rfl (.blank ?_))
      exact (h.1 _).append (by decide) (.mark (by decide) rfl hrest.blank)

/-- The text of a value leads on as the value with its pairs joined does, whatever collections it
stands in. -/
lemma leads_render (v : Json) (frames : List Frame) :
    Leads (.value frames) v.render (.after v.joined frames) := by
  induction v using induction generalizing frames with
  | null => exact leads_bare (by decide) rfl rfl
  | bool b => cases b <;> exact leads_bare (by decide) rfl rfl
  | number n =>
    rw [render]
    exact leads_bare (all_isBare_ofInt n) (ofBare?_ofInt n) rfl
  | string t =>
    rw [render]
    exact leads_renderString rfl
  | array items ih =>
    rw [render]
    cases items with
    | nil => exact .mark (by decide) rfl (.mark (by decide) rfl (.nil _))
    | cons v rest =>
      exact .mark (by decide) rfl (leads_renderItems (List.cons_ne_nil v rest) ih)
  | object members ih =>
    rw [render]
    cases members with
    | nil => exact .mark (by decide) rfl (.mark (by decide) rfl (.nil _))
    | cons m rest =>
      exact .mark (by decide) rfl (leads_renderMembers (List.cons_ne_nil m rest) ih)

/-- **The text of a value is read as that value**, with its pairs joined. -/
theorem read?_render (v : Json) : read? v.render = some v.joined := by
  have hread : (run? ⟨.bare [], .value []⟩ v.render).bind settle? = some (.after v.joined []) :=
    leads_render v []
  rw [read?, hread]
  rfl

/-- What may be written in other ways than a value is written is read too, and two halves of a pair
are joined.  A half by itself stays as it is. -/
example :
    (read? "[ \"\\u00E9\\/\\uD83D\\ude00\" ]".toList).map render =
        some "[\"\\u00e9/\\ud83d\\ude00\"]".toList ∧
      (read? "\"\\ud83d \"".toList).map render = some "\"\\ud83d \"".toList := by
  decide +kernel

end Json

end ColonForth
