import Mathlib.Logic.Relation
import PatternLint.Span
/-!
# Going forward in a text

`Reaches` says that one cursor lies at or after another in the same text, and `In` that a cursor is a place of a
given text. Whatever moves a cursor does so by `next?`, `dropWhile` or `strip?`, and each of them reaches the place
it gives. What stands before a cursor is left out of `Reaches`, because a terminal of a grammar does not see it;
`Leads` keeps it.
-/
namespace PatternLint

/-! ## Lengths in bytes -/

@[simp] theorem byteLength_nil : byteLength [] = 0 := rfl

@[simp] theorem byteLength_cons (x : Char) (xs : List Char) : byteLength (x :: xs) = x.utf8Size + byteLength xs := rfl

@[simp] theorem byteLength_append (a b : List Char) : byteLength (a ++ b) = byteLength a + byteLength b := by
  induction a with
  | nil => simp
  | cons x a ih => simp [ih, Nat.add_assoc]

theorem byteLength_eq_zero {a : List Char} : byteLength a = 0 ↔ a = [] := by
  cases a with
  | nil => simp
  | cons x a => simp [Nat.ne_of_gt (Char.utf8Size_pos x)]

/-- `n` is the offset of a place between two characters of the text, or of one of its ends. -/
def Boundary (text : List Char) (n : Nat) : Prop := ∃ pre, pre <+: text ∧ byteLength pre = n

/-- The second span comes after the first: it starts further on and not before the first ends, and it is not empty
where the first ends. -/
def Span.Precedes (a b : Span) : Prop :=
  a.start < b.start ∧ a.stop ≤ b.start ∧ (b.start = b.stop → a.stop < b.start)

/-- What is left of a text after its first `n` bytes. -/
def textFrom (text : List Char) (n : Nat) : List Char := (splitBytes n text).2

theorem splitBytes_go_append (pre post : List Char) :
    ∀ taken, splitBytes.go (byteLength pre) taken (pre ++ post) = splitBytes.go 0 (pre.reverse ++ taken) post := by
  induction pre with
  | nil => intro _; rfl
  | cons x pre ih =>
    intro taken
    simp only [byteLength_cons, List.cons_append, splitBytes.go, Nat.le_add_right, if_true, Nat.add_sub_cancel_left]
    rw [ih]
    simp

theorem textFrom_append (pre post : List Char) : textFrom (pre ++ post) (byteLength pre) = post := by
  rw [textFrom, splitBytes, splitBytes_go_append]
  cases post with
  | nil => rfl
  | cons x post => simp [splitBytes.go, Nat.ne_of_gt (Char.utf8Size_pos x)]

namespace Cursor

/-! ## One place after another -/

/-- The second cursor lies at or after the first in the same text. -/
def Reaches (c d : Cursor) : Prop := ∃ mid, c.rest = mid ++ d.rest ∧ d.offset = c.offset + byteLength mid

/-- The cursor is a place of the text. -/
def In (c : Cursor) (text : List Char) : Prop := (start text).Reaches c

/-- Reading on character by character comes from the first cursor to the second. -/
def Leads (c d : Cursor) : Prop := Relation.ReflTransGen (fun a b : Cursor => a.next? = some b) c d

variable {c d e : Cursor}

theorem Reaches.refl (c : Cursor) : c.Reaches c := ⟨[], rfl, rfl⟩

theorem Reaches.trans (h : c.Reaches d) (h' : d.Reaches e) : c.Reaches e := by
  obtain ⟨a, ha, ha'⟩ := h
  obtain ⟨b, hb, hb'⟩ := h'
  exact ⟨a ++ b, by rw [ha, hb, List.append_assoc], by rw [hb', ha', byteLength_append, Nat.add_assoc]⟩

theorem Reaches.le (h : c.Reaches d) : c.offset ≤ d.offset := by
  obtain ⟨mid, -, h⟩ := h
  omega

/-- A place further on has less text left. -/
theorem Reaches.length_lt (h : c.Reaches d) (ho : d.offset ≠ c.offset) : d.rest.length < c.rest.length := by
  obtain ⟨mid, hr, h⟩ := h
  have hm : mid ≠ [] := fun hm => ho (by simp [h, hm])
  have := List.length_pos_iff.2 hm
  rw [hr, List.length_append]
  omega

theorem next?_reaches (h : c.next? = some d) : c.Reaches d := by
  unfold next? at h
  split at h
  · cases h
  · next x xs hx =>
    cases h
    exact ⟨[x], by simp [hx], by simp⟩

theorem next?_lt (h : c.next? = some d) : c.offset < d.offset := by
  unfold next? at h
  split at h
  · cases h
  · next x xs hx =>
    cases h
    have := Char.utf8Size_pos x
    simp only
    omega

theorem Leads.reaches (h : c.Leads d) : c.Reaches d := by
  induction h with
  | refl => exact .refl _
  | tail _ hn ih => exact ih.trans (next?_reaches hn)

/-- Reading on comes to one place only at each offset. -/
theorem Leads.eq_of_offset (h : c.Leads d) (ho : d.offset = c.offset) : d = c := by
  rcases Relation.ReflTransGen.cases_head h with rfl | ⟨e, hn, he⟩
  · rfl
  · have := next?_lt hn
    have := (Leads.reaches he).le
    omega

/-! ## Places of a text -/

theorem start_in (text : List Char) : (start text).In text := .refl _

theorem In.reaches {text : List Char} (h : c.In text) (h' : c.Reaches d) : d.In text := Reaches.trans h h'

theorem In.textFrom_eq {text : List Char} (h : c.In text) : textFrom text c.offset = c.rest := by
  obtain ⟨mid, hr, ho⟩ := h
  simp only [start, Nat.zero_add] at hr ho
  rw [hr, ho, textFrom_append]

theorem In.boundary {text : List Char} (h : c.In text) : Boundary text c.offset := by
  obtain ⟨mid, hr, ho⟩ := h
  simp only [start, Nat.zero_add] at hr ho
  exact ⟨mid, ⟨c.rest, hr.symm⟩, ho.symm⟩

theorem In.le_length {text : List Char} (h : c.In text) : c.offset ≤ byteLength text := by
  obtain ⟨mid, hr, ho⟩ := h
  simp only [start, Nat.zero_add] at hr ho
  rw [hr, byteLength_append]
  omega

/-! ## The moves -/

theorem dropWhile_go_eq (p : Char → Bool) (xs : List Char) : ∀ (before : Option Char) (offset : Nat),
    (dropWhile.go p before offset xs).rest = xs.dropWhile p ∧
      (dropWhile.go p before offset xs).offset = offset + byteLength (xs.takeWhile p) := by
  induction xs with
  | nil => intro _ _; exact ⟨rfl, rfl⟩
  | cons x xs ih =>
    intro before offset
    by_cases hx : p x
    · simp [dropWhile.go, hx, ih, Nat.add_assoc]
    · simp [dropWhile.go, hx]

theorem dropWhile_rest (p : Char → Bool) (c : Cursor) : (c.dropWhile p).rest = c.rest.dropWhile p :=
  (dropWhile_go_eq p c.rest _ _).1

@[simp] theorem dropWhile_offset (p : Char → Bool) (c : Cursor) :
    (c.dropWhile p).offset = c.offset + byteLength (c.rest.takeWhile p) :=
  (dropWhile_go_eq p c.rest _ _).2

theorem dropWhile_reaches (p : Char → Bool) (c : Cursor) : c.Reaches (c.dropWhile p) :=
  ⟨c.rest.takeWhile p, by rw [dropWhile_rest, List.takeWhile_append_dropWhile],
    dropWhile_offset p c⟩

theorem strip?_go_reaches (word : List Char) : ∀ (before : Option Char) (offset : Nat) (rest : List Char),
    strip?.go before offset word rest = some d → Reaches ⟨before, offset, rest⟩ d := by
  induction word with
  | nil => intro before offset rest h; cases h; exact .refl _
  | cons w word ih =>
    intro before offset rest h
    cases rest with
    | nil => cases h
    | cons x rest =>
      simp only [strip?.go] at h
      split at h
      · obtain ⟨mid, hr, ho⟩ := ih _ _ _ h
        exact ⟨x :: mid, by simpa using hr, by simpa [Nat.add_assoc] using ho⟩
      · cases h

theorem strip?_reaches {word : List Char} (h : c.strip? word = some d) : c.Reaches d := strip?_go_reaches word _ _ _ h

theorem strip?_go_offset (word : List Char) : ∀ (before : Option Char) (offset : Nat) (rest : List Char),
    (strip?.go before offset word rest).map (·.offset) =
      if word.isPrefixOf rest then some (offset + byteLength word) else none := by
  induction word with
  | nil => intro _ _ _; rfl
  | cons w word ih =>
    intro before offset rest
    cases rest with
    | nil => rfl
    | cons x rest =>
      by_cases hw : w = x
      · subst hw
        simp [strip?.go, List.isPrefixOf, ih, Nat.add_assoc]
      · simp [strip?.go, List.isPrefixOf, hw]

/-- A word is stripped exactly where the text goes on with it. -/
theorem strip?_offset (word : List Char) (c : Cursor) :
    (c.strip? word).map (·.offset) = if word.isPrefixOf c.rest then some (c.offset + byteLength word) else none :=
  strip?_go_offset word _ _ _

theorem next?_offset (c : Cursor) : c.next?.map (·.offset) = c.rest.head?.map (c.offset + ·.utf8Size) := by
  unfold next?
  split <;> simp_all

end Cursor

end PatternLint
