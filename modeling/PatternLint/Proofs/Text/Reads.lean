import PatternLint.Proofs.Text.Position
/-!
# Reading a word

`Reads` names the text between two cursors: reading on from the first, the word is what is passed on the way to the
second. Words are read character by character (`reads_cons`) and part by part (`reads_append`), and one cursor leads to
another exactly if some word is read between them (`leads_iff_reads`). So a place of a text is a way to cut the text in
two.
-/
namespace PatternLint.Cursor

/-- From the first cursor the word is read to the second. -/
structure Reads (c : Cursor) (word : List Char) (d : Cursor) : Prop where
  rest : c.rest = word ++ d.rest
  offset : d.offset = c.offset + byteLength word
  before : d.before = word.getLast?.or c.before

variable {c d d' e : Cursor} {word word' u v post : List Char} {x : Char}

@[simp] theorem reads_nil : c.Reads [] d ↔ d = c := by
  constructor
  · rintro ⟨hrest, hoffset, hbefore⟩
    cases c
    cases d
    simp_all
  · rintro rfl
    exact ⟨rfl, rfl, rfl⟩

theorem next?_eq_some_iff : c.next? = some d ↔ ∃ x, c.Reads [x] d := by
  obtain ⟨before, offset, rest⟩ := c
  cases rest with
  | nil => simpa [next?] using fun x h => by simpa using Reads.rest h
  | cons x xs =>
    simp only [next?, Option.some.injEq]
    constructor
    · rintro rfl
      exact ⟨x, rfl, rfl, rfl⟩
    · rintro ⟨y, hrest, hoffset, hbefore⟩
      cases d
      simp_all

theorem reads_append : c.Reads (u ++ v) d ↔ ∃ e, c.Reads u e ∧ e.Reads v d := by
  constructor
  · rintro ⟨hrest, hoffset, hbefore⟩
    refine ⟨⟨u.getLast?.or c.before, c.offset + byteLength u, v ++ d.rest⟩, ⟨by simp [hrest], rfl, rfl⟩, rfl, ?_, ?_⟩
    · simp [hoffset, Nat.add_assoc]
    · simp [hbefore, Option.or_assoc]
  · rintro ⟨e, hu, hv⟩
    refine ⟨by simp [hu.rest, hv.rest], ?_, ?_⟩
    · simp [hv.offset, hu.offset, Nat.add_assoc]
    · simp [hv.before, hu.before, Option.or_assoc]

theorem Reads.trans (h : c.Reads u e) (h' : e.Reads v d) : c.Reads (u ++ v) d := reads_append.2 ⟨e, h, h'⟩

theorem reads_cons : c.Reads (x :: word) d ↔ ∃ e, c.Reads [x] e ∧ e.Reads word d := reads_append (u := [x])

theorem Reads.after (h : c.Reads (x :: word) d) : c.after = some x := by simp [Cursor.after, h.rest]

/-- Wherever a text goes on with a word, the word can be read. -/
theorem exists_reads (h : c.rest = word ++ post) : ∃ d, c.Reads word d ∧ d.rest = post :=
  ⟨⟨word.getLast?.or c.before, c.offset + byteLength word, post⟩, ⟨h, rfl, rfl⟩, rfl⟩

theorem Reads.eq (h : c.Reads word d) (h' : c.Reads word d') : d = d' := by
  have hrest : d.rest = d'.rest := List.append_cancel_left (h.rest.symm.trans h'.rest)
  have hoffset : d.offset = d'.offset := h.offset.trans h'.offset.symm
  have hbefore : d.before = d'.before := h.before.trans h'.before.symm
  cases d
  cases d'
  simp_all

/-- What is read to a place is all that stands before it. -/
theorem Reads.word_eq (h : c.Reads word d) (h' : c.Reads word' d) : word = word' :=
  List.append_cancel_right (h.rest.symm.trans h'.rest)

theorem leads_iff_reads : c.Leads d ↔ ∃ word, c.Reads word d := by
  constructor
  · intro h
    induction h with
    | refl => exact ⟨[], reads_nil.2 rfl⟩
    | tail _ hnext ih =>
      obtain ⟨word, hword⟩ := ih
      obtain ⟨x, hx⟩ := next?_eq_some_iff.1 hnext
      exact ⟨word ++ [x], hword.trans hx⟩
  · rintro ⟨word, h⟩
    induction word generalizing c with
    | nil =>
      obtain rfl := reads_nil.1 h
      exact .refl
    | cons x word ih =>
      obtain ⟨e, hx, hword⟩ := reads_cons.1 h
      exact (ih hword).head (next?_eq_some_iff.2 ⟨x, hx⟩)

theorem Reads.leads (h : c.Reads word d) : c.Leads d := leads_iff_reads.2 ⟨word, h⟩

/-- A word is stripped where it can be read. -/
theorem strip?_eq_some_iff : c.strip? word = some d ↔ c.Reads word d := by
  obtain ⟨before, offset, rest⟩ := c
  induction word generalizing before offset rest with
  | nil => simp [strip?, strip?.go, eq_comm]
  | cons w word ih =>
    cases rest with
    | nil =>
      constructor
      · intro h
        cases h
      · intro h
        simpa using h.rest
    | cons x rest =>
      have hx : ∀ e : Cursor, Reads ⟨before, offset, x :: rest⟩ [w] e ↔
          w = x ∧ e = ⟨some x, offset + x.utf8Size, rest⟩ := by
        intro e
        constructor
        · rintro ⟨hrest, hoffset, hbefore⟩
          cases e
          simp_all
        · rintro ⟨rfl, rfl⟩
          exact ⟨rfl, rfl, rfl⟩
      have hstrip : strip? (w :: word) ⟨before, offset, x :: rest⟩ =
          if w = x then strip? word ⟨some x, offset + x.utf8Size, rest⟩ else none := rfl
      rw [reads_cons, hstrip]
      by_cases hw : w = x
      · subst hw
        simp [hx, ih]
      · simp [hw, hx]

/-- At each offset there is one place only. -/
theorem Reaches.rest_eq (h : c.Reaches d) (ho : d.offset = c.offset) : d.rest = c.rest := by
  obtain ⟨mid, hrest, hoffset⟩ := h
  obtain rfl := byteLength_eq_zero.1 (by omega : byteLength mid = 0)
  exact hrest.symm

/-- Two places on the way from a cursor are in the order of their offsets. -/
theorem Leads.leads_of_le (h : c.Leads d) (h' : c.Leads e) (hle : d.offset ≤ e.offset) : d.Leads e := by
  induction h using Relation.ReflTransGen.head_induction_on with
  | refl => exact h'
  | head hnext hd ih =>
    rcases Relation.ReflTransGen.cases_head h' with rfl | ⟨f, hf, he⟩
    · have hlt := next?_lt hnext
      have hge := (Leads.reaches hd).le
      omega
    · rw [hnext] at hf
      obtain rfl := Option.some.inj hf
      exact ih he

/-- The places of a text are the ways to cut it in two. -/
theorem start_reads_iff {text : List Char} : (start text).Reads word d ↔
    text = word ++ d.rest ∧ d.offset = byteLength word ∧ d.before = word.getLast? := by
  constructor
  · rintro ⟨hrest, hoffset, hbefore⟩
    simp only [start, Nat.zero_add, Option.or_none] at hrest hoffset hbefore
    exact ⟨hrest, hoffset, hbefore⟩
  · rintro ⟨hrest, hoffset, hbefore⟩
    exact ⟨hrest, by simp [start, hoffset], by simp [start, hbefore]⟩

/-! ## The same place

Two cursors are at the same place if they are equal with what stands before them out of sight. -/

theorem alone_eq_iff : c.alone = d.alone ↔ c.offset = d.offset ∧ c.rest = d.rest := by
  simp [alone]

theorem Reaches.alone_eq (h : c.Reaches d) (ho : d.offset = c.offset) : d.alone = c.alone :=
  alone_eq_iff.2 ⟨ho, h.rest_eq ho⟩

/-- A step from one of two cursors at the same place consumes nothing if the same step from the other does not. -/
theorem offset_eq_congr {c' d' : Cursor} (h : c.alone = d.alone) (h' : c'.alone = d'.alone) :
    c'.offset = c.offset ↔ d'.offset = d.offset := by
  rw [(alone_eq_iff.1 h).1, (alone_eq_iff.1 h').1]

/-- Where a search goes on after a character does not depend on what stands before. -/
theorem next?_congr (h : c.alone = d.alone) : c.next? = d.next? := by
  obtain ⟨hoffset, hrest⟩ := alone_eq_iff.1 h
  simp only [next?, hoffset, hrest]

theorem dropWhile_congr (h : c.alone = d.alone) (p : Char → Bool) : (c.dropWhile p).alone = (d.dropWhile p).alone := by
  obtain ⟨hoffset, hrest⟩ := alone_eq_iff.1 h
  rw [alone_eq_iff, dropWhile_offset, dropWhile_offset, dropWhile_rest, dropWhile_rest, hoffset, hrest]
  exact ⟨rfl, rfl⟩

theorem strip?_congr (h : c.alone = d.alone) (word : List Char) :
    (c.strip? word).map alone = (d.strip? word).map alone := by
  obtain ⟨hoffset, hrest⟩ := alone_eq_iff.1 h
  cases word with
  | nil => simpa [strip?, strip?.go, alone] using ⟨hoffset, hrest⟩
  | cons w word =>
    -- from the second character on, the first one stands before
    rw [strip?, strip?, hoffset, hrest]
    cases d.rest <;> rfl

end PatternLint.Cursor
