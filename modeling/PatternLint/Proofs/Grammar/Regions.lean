import PatternLint.Proofs.Capture.Terminal
import PatternLint.Proofs.Text.Lines
import PatternLint.Proofs.Text.Reads
/-!
# Regions of a text

Patterns of several kinds divide a text from left to right: what a pattern matches at a place outside of all regions is
a region of its kind, and any other character stands alone. Where several patterns match, the order in which they are
tried decides. A grammar that ignores the patterns tries each of them once in a pass, and so takes the kinds in turn:
directly behind a region those declared after its own are tried first, and only then all of them. Main statement:
`Ignores.skip_crosses`, by which skipping goes from part to part of the text as it is divided in turn (`inTurn`), over
regions and blanks only, to a place where there is nothing to skip.
-/
namespace PatternLint

/-! ## A pattern at the beginning of a text -/

/-- What a pattern matches at the beginning of a text, and what is left of the text. -/
def leading? (pattern : String) (text : List Char) : Option (List Char × List Char) :=
  (Regex.compile {} pattern).toOption.bind fun p =>
    ((p.find? (.start text)).filter (·.start = 0)).map fun f => splitBytes f.stop.offset text

theorem leading?_append {pattern : String} {text word rest : List Char}
    (h : leading? pattern text = some (word, rest)) : text = word ++ rest := by
  obtain ⟨p, -, h⟩ := Option.bind_eq_some_iff.1 h
  obtain ⟨f, -, h⟩ := Option.map_eq_some_iff.1 h
  exact (append_of_splitBytes h).symm

/-- A terminal comes to the end of what its pattern matches at the beginning of the text that is left. -/
theorem leading?_eq {pattern : String} {p q : Regex.Program} (hp : Regex.compile {} pattern = .ok p)
    (hq : Grammar.Compiles pattern q) (c : Cursor) :
    leading? pattern c.rest = (Matcher.runTerminal q c).map fun d => splitBytes (d.offset - c.offset) c.rest := by
  obtain ⟨e, he, -, rfl⟩ := Regex.compile_ok_iff.1 hp
  obtain ⟨w, hw, -, -, rfl⟩ := hq.item (by rw [he]; exact nofun)
  obtain ⟨w', hw', -, rfl⟩ := (Regex.parse_ok_iff {}).1 he
  cases hw.symm.trans hw'
  rw [Grammar.enclosed, Regex.program_fenced, Matcher.runTerminal_fenced, Option.map_map, leading?, hp]
  simp [Except.toOption, Regex.Found.shift, Function.comp_def]

/-! ## Dividing a text -/

/-- A part of a text: a region of some kind, or a character outside of all regions. -/
inductive TextPart (κ : Type) where
  | region (kind : κ) (text : List Char)
  | char (x : Char)
deriving DecidableEq, Repr

namespace TextPart

variable {κ : Type}

def text : TextPart κ → List Char
  | region _ text => text
  | char x => [x]

/-- Whether the part may be skipped. -/
def idle : TextPart κ → Bool
  | region _ _ => true
  | char x => isBlank x

/-- The number of bytes of some parts. -/
def size (parts : List (TextPart κ)) : Nat := byteLength (parts.flatMap text)

@[simp] theorem size_nil : size ([] : List (TextPart κ)) = 0 := rfl

@[simp] theorem size_cons (p : TextPart κ) (parts : List (TextPart κ)) :
    size (p :: parts) = byteLength p.text + size parts := by
  simp [size]

@[simp] theorem size_append (a b : List (TextPart κ)) : size (a ++ b) = size a + size b := by simp [size]

end TextPart

section Divide
variable {κ : Type} (pattern : κ → String)

/-- The first of some kinds whose pattern matches at the beginning of a text, with what it matches and what is left. -/
def first? (kinds : List κ) (text : List Char) : Option (κ × List Char × List Char) :=
  kinds.findSome? fun k => (leading? (pattern k) text).map fun split => (k, split)

/-- Divides a text that stands directly behind a region of kind `last`, if there is one; `order` gives the order in
which the kinds are tried there. A part holds a character at least, so `budget` need not exceed the text. -/
def divideFrom (order : Option κ → List κ) (last : Option κ) (text : List Char) :
    (budget : List Char) → List (TextPart κ)
  | [] => []
  | _ :: budget =>
    match first? pattern (order last) text with
    | some (k, word, rest) => .region k word :: divideFrom order (some k) rest budget
    | none =>
      match text with
      | [] => []
      | x :: rest => .char x :: divideFrom order none rest budget

/-- The parts of a text. -/
def divide (order : Option κ → List κ) (text : List Char) : List (TextPart κ) := divideFrom pattern order none text text

variable {pattern}

theorem divideFrom_region {order : Option κ → List κ} {last : Option κ} {text word rest budget : List Char} {k : κ}
    {y : Char} (h : first? pattern (order last) text = some (k, word, rest)) :
    divideFrom pattern order last text (y :: budget) =
      .region k word :: divideFrom pattern order (some k) rest budget := by
  simp [divideFrom, h]

theorem divideFrom_char {order : Option κ → List κ} {last : Option κ} {rest budget : List Char} {x y : Char}
    (h : first? pattern (order last) (x :: rest) = none) :
    divideFrom pattern order last (x :: rest) (y :: budget) = .char x :: divideFrom pattern order none rest budget := by
  simp [divideFrom, h]

theorem first?_append (kinds kinds' : List κ) (text : List Char) :
    first? pattern (kinds ++ kinds') text = (first? pattern kinds text).or (first? pattern kinds' text) :=
  List.findSome?_append

theorem first?_eq_none {kinds : List κ} {text : List Char} :
    first? pattern kinds text = none ↔ ∀ k ∈ kinds, leading? (pattern k) text = none := by
  simp [first?]

theorem first?_eq_some {kinds : List κ} {text word rest : List Char} {k : κ}
    (h : first? pattern kinds text = some (k, word, rest)) :
    k ∈ kinds ∧ leading? (pattern k) text = some (word, rest) := by
  obtain ⟨k', hk', h⟩ := List.exists_of_findSome?_eq_some h
  obtain ⟨split, hsplit, h⟩ := Option.map_eq_some_iff.1 h
  cases h
  exact ⟨hk', hsplit⟩

end Divide

section Parts
variable {κ : Type} {pattern : κ → String} {kinds : List κ} {opens : Char → Bool} {order : Option κ → List κ}
  {last last' last'' : Option κ} {c d e : Cursor} {parts parts' : List (TextPart κ)} {text word rest : List Char}
  {k : κ}

/-- Whatever a pattern matches begins with a character that may begin a region. -/
def Opens (pattern : κ → String) (opens : Char → Bool) : Prop :=
  ∀ k text word rest, leading? (pattern k) text = some (word, rest) → ∃ x word', word = x :: word' ∧ opens x = true

theorem Opens.first?_eq_none (h : Opens pattern opens) {x : Char} (hx : opens x = false) (kinds : List κ) :
    first? pattern kinds (x :: rest) = none := by
  refine PatternLint.first?_eq_none.2 fun k hk => ?_
  cases hlead : leading? (pattern k) (x :: rest) with
  | none => rfl
  | some split =>
    obtain ⟨y, word', hword, hy⟩ := h k _ _ _ hlead
    have happend := leading?_append hlead
    rw [hword] at happend
    cases happend
    rw [hx] at hy
    cases hy

theorem Opens.length_lt (h : Opens pattern opens) (hfirst : first? pattern kinds text = some (k, word, rest)) :
    rest.length < text.length := by
  obtain ⟨-, hlead⟩ := first?_eq_some hfirst
  obtain ⟨x, word', rfl, -⟩ := h k _ _ _ hlead
  rw [leading?_append hlead, List.length_append, List.length_cons]
  omega

/-- The budget is never used up. -/
theorem Opens.divideFrom_eq (h : Opens pattern opens) (budget budget' : List Char) :
    ∀ {text : List Char} {last : Option κ}, text.length ≤ budget.length → text.length ≤ budget'.length →
      divideFrom pattern order last text budget = divideFrom pattern order last text budget' := by
  have hnil : ∀ (last : Option κ) (budget : List Char), divideFrom pattern order last [] budget = [] := by
    intro last budget
    cases budget with
    | nil => rfl
    | cons x budget =>
      rw [divideFrom]
      cases hfirst : first? pattern (order last) [] with
      | none => rfl
      | some found => exact absurd (h.length_lt hfirst) (Nat.not_lt_zero _)
  induction budget generalizing budget' with
  | nil =>
    intro text last hb _
    obtain rfl := List.length_eq_zero_iff.1 (Nat.le_zero.1 hb)
    rw [hnil, hnil]
  | cons y budget ih =>
    intro text last hb hb'
    cases budget' with
    | nil =>
      obtain rfl := List.length_eq_zero_iff.1 (Nat.le_zero.1 hb')
      rw [hnil, hnil]
    | cons y' budget' =>
      simp only [List.length_cons] at hb hb'
      cases hfirst : first? pattern (order last) text with
      | some found =>
        have hlt := h.length_lt hfirst
        rw [divideFrom_region hfirst, divideFrom_region hfirst, ih budget' (by omega) (by omega)]
      | none =>
        cases text with
        | nil => rw [hnil, hnil]
        | cons x rest =>
          simp only [List.length_cons] at hb hb'
          rw [divideFrom_char hfirst, divideFrom_char hfirst, ih budget' (by omega) (by omega)]

/-- Going on from the first place over the given parts leads to the second. -/
structure Crosses (pattern : κ → String) (order : Option κ → List κ) (last : Option κ) (c : Cursor)
    (parts : List (TextPart κ)) (last' : Option κ) (d : Cursor) : Prop where
  divided : divideFrom pattern order last c.rest c.rest = parts ++ divideFrom pattern order last' d.rest d.rest
  offset : d.offset = c.offset + TextPart.size parts

theorem Crosses.refl : Crosses pattern order last c [] last c := ⟨rfl, rfl⟩

theorem Crosses.trans (h : Crosses pattern order last c parts last' d)
    (h' : Crosses pattern order last' d parts' last'' e) : Crosses pattern order last c (parts ++ parts') last'' e where
  divided := by rw [h.divided, h'.divided, List.append_assoc]
  offset := by rw [h'.offset, h.offset, TextPart.size_append, Nat.add_assoc]

theorem Crosses.divide_eq (h : Crosses pattern order none c parts none d) :
    divide pattern order c.rest = parts ++ divide pattern order d.rest := h.divided

theorem Crosses.char {x : Char} (hfirst : first? pattern (order last) c.rest = none) (hx : c.rest = x :: d.rest)
    (ho : d.offset = c.offset + x.utf8Size) : Crosses pattern order last c [.char x] none d where
  divided := by
    rw [hx] at hfirst ⊢
    rw [divideFrom_char hfirst]
    rfl
  offset := by simp [ho, TextPart.text]

/-- Where no region begins it does not matter what stands before. -/
theorem Crosses.none (hfirst : ∀ last, first? pattern (order last) c.rest = none) :
    Crosses pattern order last c [] none c where
  divided := by
    cases hrest : c.rest with
    | nil => rfl
    | cons x rest =>
      rw [hrest] at hfirst
      rw [List.nil_append, divideFrom_char (hfirst _), divideFrom_char (hfirst _)]
  offset := rfl

namespace Opens

variable (h : Opens pattern opens)
include h

theorem crosses_region (hfirst : first? pattern (order last) c.rest = some (k, word, d.rest))
    (ho : d.offset = c.offset + byteLength word) : Crosses pattern order last c [.region k word] (some k) d where
  divided := by
    have hlt := h.length_lt hfirst
    obtain ⟨x, rest, hrest⟩ := List.exists_cons_of_length_pos (Nat.zero_lt_of_lt hlt)
    rw [hrest] at hfirst hlt ⊢
    simp only [List.length_cons] at hlt
    rw [divideFrom_region hfirst, h.divideFrom_eq rest d.rest (by omega) (Nat.le_refl _)]
    rfl
  offset := by simp [ho, TextPart.text]

/-- Characters that begin no region stand alone. -/
theorem crosses_chars (hword : ∀ x ∈ word, opens x = false) (hrest : c.rest = word ++ d.rest)
    (ho : d.offset = c.offset + byteLength word) :
    Crosses pattern order last c (word.map .char) (if word = [] then last else none) d := by
  induction word generalizing c last with
  | nil => exact ⟨by rw [hrest]; rfl, by simpa using ho⟩
  | cons x word ih =>
    have hx : opens x = false := hword x List.mem_cons_self
    let e : Cursor := ⟨some x, c.offset + x.utf8Size, word ++ d.rest⟩
    have hchar : Crosses pattern order last c [.char x] none e := by
      refine .char ?_ hrest rfl
      rw [hrest]
      exact h.first?_eq_none hx _
    have hchars : Crosses pattern order none e (word.map .char) (if word = [] then none else none) d :=
      ih (fun y hy => hword y (List.mem_cons_of_mem _ hy)) rfl (by simp [e, ho, Nat.add_assoc])
    rw [ite_self] at hchars
    exact hchar.trans hchars

/-- Where a division can be cut, so can the text. -/
theorem exists_crosses : ∀ {parts parts' : List (TextPart κ)} {last : Option κ} {c : Cursor},
    divideFrom pattern order last c.rest c.rest = parts ++ parts' →
      ∃ last' d, c.rest = parts.flatMap TextPart.text ++ d.rest ∧ Crosses pattern order last c parts last' d := by
  intro parts
  induction parts with
  | nil => intro parts' last c _; exact ⟨last, c, rfl, .refl⟩
  | cons p parts ih =>
    intro parts' last c hparts
    -- the first part, to a place from which the others go on
    obtain ⟨last', d, hd, hcross⟩ : ∃ last' d, c.rest = p.text ++ d.rest ∧
        Crosses pattern order last c [p] last' d := by
      cases hfirst : first? pattern (order last) c.rest with
      | some found =>
        obtain ⟨k, word, rest⟩ := found
        let d : Cursor := ⟨none, c.offset + byteLength word, rest⟩
        have hcross : Crosses pattern order last c [.region k word] (some k) d := h.crosses_region hfirst rfl
        obtain rfl : .region k word = p := by
          have hdivided := hcross.divided.symm.trans hparts
          exact (List.cons.inj hdivided).1
        exact ⟨_, d, leading?_append (first?_eq_some hfirst).2, hcross⟩
      | none =>
        cases hrest : c.rest with
        | nil =>
          rw [hrest] at hparts
          cases hparts
        | cons x rest =>
          let d : Cursor := ⟨none, c.offset + x.utf8Size, rest⟩
          have hcross : Crosses pattern order last c [.char x] none d := .char hfirst hrest rfl
          obtain rfl : .char x = p := by
            have hdivided := hcross.divided.symm.trans hparts
            exact (List.cons.inj hdivided).1
          exact ⟨_, d, rfl, hcross⟩
    have hothers : divideFrom pattern order last' d.rest d.rest = parts ++ parts' := by
      have hdivided := hcross.divided.symm.trans hparts
      exact (List.cons.inj hdivided).2
    obtain ⟨last'', e, he, hcross'⟩ := ih hothers
    refine ⟨last'', e, ?_, hcross.trans hcross'⟩
    rw [hd, he, List.flatMap_cons, List.append_assoc]

end Opens

end Parts

/-! ## Skipping regions -/

section Skip
variable {κ : Type} [DecidableEq κ]

/-- The order in which a grammar tries what it ignores: directly behind a region those kinds first that are declared
after its own. -/
def inTurn (kinds : List κ) : Option κ → List κ
  | none => kinds
  | some k => (kinds.dropWhile (· ≠ k)).tail ++ kinds

variable {kinds : List κ}

theorem mem_inTurn {last : Option κ} {k : κ} (h : k ∈ inTurn kinds last) : k ∈ kinds := by
  cases last with
  | none => exact h
  | some last =>
    rcases List.mem_append.1 h with h | h
    · exact (List.dropWhile_suffix _).subset (List.mem_of_mem_tail h)
    · exact h

theorem inTurn_suffix (hnodup : kinds.Nodup) {k : κ} {ks : List κ} (h : k :: ks <:+ kinds) :
    inTurn kinds (some k) = ks ++ kinds := by
  obtain ⟨pre, rfl⟩ := h
  have hpre : ∀ a ∈ pre, decide (a ≠ k) = true := by
    intro a ha
    rw [decide_eq_true_eq]
    rintro rfl
    exact (List.nodup_append.1 hnodup).2.2 a ha a List.mem_cons_self rfl
  rw [inTurn, List.dropWhile_append_of_pos hpre]
  simp

variable {m : Matcher} {pattern : κ → String} {opens : Char → Bool}

/-- The matcher skips blanks and regions of the given kinds, in the order in which these are declared. -/
structure Ignores (m : Matcher) (pattern : κ → String) (kinds : List κ) (opens : Char → Bool) : Prop where
  blanks : m.skipBlanks = true
  ignored : List.Forall₂ (fun k e => ∃ q, e = .terminal q ∧ Grammar.Compiles (pattern k) q) kinds m.ignored
  nodup : kinds.Nodup
  readable : ∀ k, ∃ p, Regex.compile {} (pattern k) = .ok p
  begins : Opens pattern opens
  visible : ∀ x, isBlank x = true → opens x = false

/-- No region begins at the place, and no blank stands there. -/
structure Settled (pattern : κ → String) (kinds : List κ) (c : Cursor) : Prop where
  outside : ∀ k ∈ kinds, leading? (pattern k) c.rest = none
  head : ∀ x ∈ c.rest.head?, isBlank x = false

/-- No region begins there, whatever stands before. -/
theorem Settled.crosses {c : Cursor} (hc : Settled pattern kinds c) (last : Option κ) :
    Crosses pattern (inTurn kinds) last c [] none c :=
  .none fun _ => first?_eq_none.2 fun k hk => hc.outside k (mem_inTurn hk)

namespace Ignores

variable (h : Ignores m pattern kinds opens) (levels : Nat) {last : Option κ} {c : Cursor} {s : Cursor × Bool}
include h

omit [DecidableEq κ] in
/-- One region is stepped over if its pattern matches. -/
theorem skipRegion_eq {k : κ} {q : Regex.Program} (hq : Grammar.Compiles (pattern k) q) (s : Cursor × Bool) :
    (leading? (pattern k) s.1.rest = none ∧ (m.skipRegion levels s (.terminal q)).1 = s.1) ∨
      ∃ word, leading? (pattern k) s.1.rest = some (word, (m.skipRegion levels s (.terminal q)).1.rest) ∧
        (m.skipRegion levels s (.terminal q)).1.offset = s.1.offset + byteLength word := by
  obtain ⟨p, hp⟩ := h.readable k
  have hrun : (m.skipRegion levels s (.terminal q)).1 = (Matcher.runTerminal q s.1).getD s.1 := by
    rw [Matcher.skipRegion, Matcher.parseBare, Matcher.parse_eq]
    rfl
  rw [hrun, leading?_eq hp hq]
  cases hd : Matcher.runTerminal q s.1 with
  | none => exact .inl ⟨rfl, rfl⟩
  | some d =>
    obtain ⟨word, hrest, ho⟩ := Matcher.runTerminal_reaches q _ _ hd
    refine .inr ⟨word, ?_, ho⟩
    simp [hrest, ho, splitBytes_append, splitBytes_zero]

/-- One pass over the ignored regions. While it is under way, the kinds it has still to try come first. -/
theorem foldl_skipRegion_crosses {ks : List κ} {es : List (Node m.size)}
    (hes : List.Forall₂ (fun k e => ∃ q, e = .terminal q ∧ Grammar.Compiles (pattern k) q) ks es)
    (hks : ks <:+ kinds) : ∀ (last : Option κ) (s : Cursor × Bool),
      first? pattern (inTurn kinds last) s.1.rest = first? pattern (ks ++ kinds) s.1.rest →
      ∃ gap last', Crosses pattern (inTurn kinds) last s.1 gap last' (es.foldl (m.skipRegion levels) s).1 ∧
        (∀ p ∈ gap, p.idle = true) ∧
        first? pattern (inTurn kinds last') (es.foldl (m.skipRegion levels) s).1.rest =
          first? pattern kinds (es.foldl (m.skipRegion levels) s).1.rest ∧
        ((es.foldl (m.skipRegion levels) s).1.offset = s.1.offset → (es.foldl (m.skipRegion levels) s).1 = s.1 ∧
          ∀ k ∈ ks, leading? (pattern k) s.1.rest = none) := by
  induction hes with
  | nil =>
    intro last s hturn
    exact ⟨[], last, .refl, nofun, hturn, fun _ => ⟨rfl, nofun⟩⟩
  | @cons k e ks es he hes ih =>
    intro last s hturn
    obtain ⟨q, rfl, hq⟩ := he
    have hks' : ks <:+ kinds := (List.suffix_cons k ks).trans hks
    rw [List.foldl_cons]
    rw [List.cons_append] at hturn
    rcases h.skipRegion_eq levels hq s with ⟨hnone, hstay⟩ | ⟨word, hlead, ho⟩
    · have hnext : first? pattern (k :: (ks ++ kinds)) s.1.rest = first? pattern (ks ++ kinds) s.1.rest := by
        simp [first?, hnone]
      obtain ⟨gap, last', hcross, hidle, hturn', hsame⟩ := ih hks' last (m.skipRegion levels s (.terminal q))
        (by rw [hstay, hturn, hnext])
      rw [hstay] at hcross hsame
      refine ⟨gap, last', hcross, hidle, hturn', fun heq => ?_⟩
      obtain ⟨hs, hall⟩ := hsame heq
      exact ⟨hs, List.forall_mem_cons.2 ⟨hnone, hall⟩⟩
    · have hfirst : first? pattern (inTurn kinds last) s.1.rest =
          some (k, word, (m.skipRegion levels s (.terminal q)).1.rest) := by
        rw [hturn]
        simp [first?, hlead]
      obtain ⟨gap, last', hcross, hidle, hturn', -⟩ := ih hks' (some k) (m.skipRegion levels s (.terminal q))
        (by rw [inTurn_suffix h.nodup hks])
      refine ⟨.region k word :: gap, last', (h.begins.crosses_region hfirst ho).trans hcross,
        List.forall_mem_cons.2 ⟨rfl, hidle⟩, hturn', fun heq => ?_⟩
      -- a region is not empty
      obtain ⟨x, word', rfl, -⟩ := h.begins k _ _ _ hlead
      have hle := (m.foldl_skipRegion_reaches levels es (m.skipRegion levels s (.terminal q))).le
      have hpos := x.utf8Size_pos
      rw [byteLength_cons] at ho
      omega

omit [DecidableEq κ] in
theorem dropWhile_crosses (order : Option κ → List κ) (last : Option κ) (c : Cursor) :
    Crosses pattern order last c ((c.rest.takeWhile isBlank).map .char)
      (if c.rest.takeWhile isBlank = [] then last else none) (c.dropWhile isBlank) := by
  refine h.begins.crosses_chars (fun x hx => h.visible x (List.mem_takeWhile_imp hx)) ?_ (Cursor.dropWhile_offset _ _)
  rw [Cursor.dropWhile_rest, List.takeWhile_append_dropWhile]

/-- A pass over blanks and ignored regions, begun where all kinds are to be tried. If it moves nothing, there is nothing
to skip. -/
theorem skipOnce_crosses (last : Option κ) (c : Cursor)
    (hturn : first? pattern (inTurn kinds last) c.rest = first? pattern kinds c.rest) :
    ∃ gap last', Crosses pattern (inTurn kinds) last c gap last' (m.skipOnce levels c).1 ∧
      (∀ p ∈ gap, p.idle = true) ∧
      first? pattern (inTurn kinds last') (m.skipOnce levels c).1.rest =
        first? pattern kinds (m.skipOnce levels c).1.rest ∧
      ((m.skipOnce levels c).1.offset = c.offset → Settled pattern kinds (m.skipOnce levels c).1) := by
  have hpass : m.skipOnce levels c = m.ignored.foldl (m.skipRegion levels) (c.dropWhile isBlank, false) := by
    rw [Matcher.skipOnce, Matcher.skipRegions_eq, if_pos h.blanks]
  have hstart : first? pattern (inTurn kinds (if c.rest.takeWhile isBlank = [] then last else none))
      (c.dropWhile isBlank).rest = first? pattern (kinds ++ kinds) (c.dropWhile isBlank).rest := by
    rw [first?_append, Option.or_self]
    split
    · next hnone =>
      have happend := List.takeWhile_append_dropWhile (p := isBlank) (l := c.rest)
      rw [hnone, List.nil_append] at happend
      rw [Cursor.dropWhile_rest, happend, hturn]
    · rfl
  obtain ⟨gap, last', hcross, hidle, hturn', hsame⟩ :=
    h.foldl_skipRegion_crosses levels h.ignored List.suffix_rfl _ (c.dropWhile isBlank, false) hstart
  rw [← hpass] at hcross hturn' hsame
  refine ⟨_ ++ gap, last', (h.dropWhile_crosses _ last c).trans hcross, ?_, hturn', fun heq => ?_⟩
  · intro p hp
    rcases List.mem_append.1 hp with hp | hp
    · obtain ⟨x, hx, rfl⟩ := List.mem_map.1 hp
      have hblank : isBlank x = true := List.mem_takeWhile_imp hx
      exact hblank
    · exact hidle p hp
  · have hle := (Cursor.dropWhile_reaches isBlank c).le
    have hle' := (m.foldl_skipRegion_reaches levels m.ignored (c.dropWhile isBlank, false)).le
    rw [← hpass] at hle'
    obtain ⟨hstay, hall⟩ := hsame (by simp only at hle' ⊢; omega)
    rw [hstay]
    refine ⟨hall, fun x hx => ?_⟩
    simp only [Cursor.dropWhile_rest] at hx
    simpa [Option.mem_def.1 hx] using List.head?_dropWhile_not isBlank c.rest

/-- Skipping goes over regions and blanks, to a place where there is nothing to skip. -/
theorem skip_crosses (c : Cursor) : ∃ gap, Crosses pattern (inTurn kinds) none c gap none (m.skip levels c).1 ∧
    (∀ p ∈ gap, p.idle = true) ∧ Settled pattern kinds (m.skip levels c).1 := by
  have hrun : ∀ {c : Cursor} {s : Cursor × Bool}, m.SkipsTo levels c s → ∀ last,
      first? pattern (inTurn kinds last) c.rest = first? pattern kinds c.rest →
      ∃ gap last', Crosses pattern (inTurn kinds) last c gap last' s.1 ∧ (∀ p ∈ gap, p.idle = true) ∧
        Settled pattern kinds s.1 := by
    intro c s hs
    induction hs with
    | @done c ho =>
      intro last hturn
      obtain ⟨gap, last', hcross, hidle, -, hsettled⟩ := h.skipOnce_crosses levels last c hturn
      exact ⟨gap, last', hcross, hidle, hsettled ho⟩
    | @more c d cut _ _ ih =>
      intro last hturn
      obtain ⟨gap, last', hcross, hidle, hturn', -⟩ := h.skipOnce_crosses levels last c hturn
      obtain ⟨gap', last'', hcross', hidle', hsettled⟩ := ih last' hturn'
      exact ⟨gap ++ gap', last'', hcross.trans hcross',
        fun p hp => (List.mem_append.1 hp).elim (hidle p) (hidle' p), hsettled⟩
  obtain ⟨gap, last, hcross, hidle, hsettled⟩ := hrun (m.skip_skipsTo levels c) none rfl
  have hnone := hcross.trans (hsettled.crosses last)
  rw [List.append_nil] at hnone
  exact ⟨gap, hnone, hidle, hsettled⟩

end Ignores

/-- A place where there is nothing to skip is the end of the text or stands before a character that is no blank. -/
theorem Settled.cases {c : Cursor} (hc : Settled pattern kinds c) :
    (c.rest = [] ∧ divide pattern (inTurn kinds) c.rest = []) ∨
      ∃ x d, c.Reads [x] d ∧ isBlank x = false ∧
        divide pattern (inTurn kinds) c.rest = .char x :: divide pattern (inTurn kinds) d.rest := by
  cases hrest : c.rest with
  | nil => exact .inl ⟨rfl, rfl⟩
  | cons x rest =>
    obtain ⟨d, hd, rfl⟩ := Cursor.exists_reads (show c.rest = [x] ++ rest from hrest)
    have hnone : first? pattern (inTurn kinds none) (x :: d.rest) = none :=
      first?_eq_none.2 fun k hk => hrest ▸ hc.outside k hk
    exact .inr ⟨x, d, hd, hc.head x (by rw [hrest]; rfl), divideFrom_char hnone⟩

/-- What is skipped are the parts up to the first that may not be. -/
theorem Ignores.skip_divide (h : Ignores m pattern kinds opens) (levels : Nat) (c : Cursor) :
    divide pattern (inTurn kinds) (m.skip levels c).1.rest =
      (divide pattern (inTurn kinds) c.rest).dropWhile TextPart.idle := by
  obtain ⟨gap, hcross, hidle, hsettled⟩ := h.skip_crosses levels c
  rw [hcross.divide_eq, List.dropWhile_append_of_pos hidle]
  rcases hsettled.cases with ⟨-, hnil⟩ | ⟨x, d, -, hx, hcons⟩
  · rw [hnil]
    rfl
  · rw [hcons, List.dropWhile_cons_of_neg (by simp [TextPart.idle, hx])]

/-- Where there is nothing to skip, nothing is. -/
theorem Settled.eq_nil {last : Option κ} {c d : Cursor} {gap parts : List (TextPart κ)}
    (hc : Settled pattern kinds c) (hcross : Crosses pattern (inTurn kinds) none c (gap ++ parts) last d)
    (hidle : ∀ p ∈ gap, p.idle = true) : gap = [] := by
  cases gap with
  | nil => rfl
  | cons p gap =>
    have hp : p.idle = true := hidle p List.mem_cons_self
    have hdivided : divide pattern (inTurn kinds) c.rest = _ := hcross.divided
    rcases hc.cases with ⟨-, hnil⟩ | ⟨x, d, -, hx, hcons⟩
    · rw [hnil] at hdivided
      cases hdivided
    · rw [hcons, List.cons_append, List.cons_append, List.cons.injEq] at hdivided
      rw [← hdivided.1, TextPart.idle, hx] at hp
      cases hp

theorem Ignores.skip_rest (h : Ignores m pattern kinds opens) (levels : Nat) {c : Cursor}
    (hc : Settled pattern kinds c) : (m.skip levels c).1.rest = c.rest := by
  obtain ⟨gap, hcross, hidle, -⟩ := h.skip_crosses levels c
  rw [← List.append_nil gap] at hcross
  obtain rfl := hc.eq_nil hcross hidle
  exact (m.skip_reaches levels c).rest_eq hcross.offset

end Skip

end PatternLint
