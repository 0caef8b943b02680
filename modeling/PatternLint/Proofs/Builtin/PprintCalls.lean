import PatternLint.Proofs.Grammar.Brackets
import PatternLint.Proofs.Grammar.Coverage
import PatternLint.Proofs.Regex.Occurrences
import PatternLint.Rule.Builtin
/-!
# Reported calls, and the comments and strings around them

The rule for calls of `pprint` steps over comments and strings, of which there are five kinds (`Inert`). Main statement:
`Builtin.pprintUsage_reports_calls`. What is reported are the calls outside of comments and strings, if these are taken
in turn: directly behind one of them the kinds declared after its own come first. So a string in three quotes directly
behind another string may be taken for an empty string and a quote, and what stands in it is reported
(`Builtin.driftingText_reports_region`). In a text where this does not occur (`Builtin.Steady`) they are also the calls
outside of comments and strings if the kind declared first is taken everywhere.
-/
namespace PatternLint

/-! ## The beginning of a match -/

namespace Regex

/-- A word with which everything the expression matches begins. -/
def opening : Regex → List Char
  | literal word => word
  | seq r _ => r.opening
  | _ => []

theorem MatchesFrom.opening {r : Regex} {c d : Cursor} (h : r.MatchesFrom c d) :
    ∃ e, c.Reads r.opening e ∧ e.Leads d := by
  induction r generalizing d with
  | literal word => exact ⟨d, h, .refl⟩
  | seq r s ihr _ =>
    obtain ⟨f, hr, hs⟩ := h
    obtain ⟨e, he, hf⟩ := ihr hr
    exact ⟨e, he, hf.trans hs.leads⟩
  | _ => exact ⟨c, Cursor.reads_nil.2 rfl, h.leads⟩

end Regex

theorem opening_isPrefix_of_leading? {pattern : String} {r : Regex} {text word rest : List Char}
    (hr : Regex.parse {} pattern.toList = .ok r) (h : leading? pattern text = some (word, rest)) :
    r.opening <+: word := by
  obtain ⟨p, hp, h⟩ := Option.bind_eq_some_iff.1 h
  obtain ⟨f, hf, hsplit⟩ := Option.map_eq_some_iff.1 h
  obtain ⟨hfind, hstart⟩ := Option.filter_eq_some_iff.1 hf
  obtain ⟨p, hcompile, rfl⟩ := toOption_map_ok (f := id) (by simpa using hp)
  obtain ⟨r', hr', rfl⟩ := Regex.compile_ok hcompile
  cases hr.symm.trans hr'
  obtain ⟨s, hs, hoffset, hmatch⟩ := Regex.find?_matches hfind
  obtain rfl := hs.eq_of_offset (hoffset.trans (of_decide_eq_true hstart))
  obtain ⟨e, he, hstop⟩ := hmatch.opening
  obtain ⟨v, hv⟩ := Cursor.leads_iff_reads.1 hstop
  obtain ⟨htext, hbytes, -⟩ := Cursor.start_reads_iff.1 (he.trans hv)
  rw [htext, hbytes, splitBytes_append _ _ (Nat.le_refl _), Nat.sub_self, splitBytes_zero] at hsplit
  cases hsplit
  exact ⟨v, by simp⟩

/-- Where the start expression fails after it was cut off, the place is given up. -/
theorem Matcher.Begins.abandoned {m : Matcher} {levels : Nat} {text : List Char} {q : Cursor}
    (h : m.Begins levels text q) (hfail : m.tried levels (m.skip levels q).1 = none)
    (hcut : (m.parseSkipping levels m.start (m.skip levels q).1).cutOff = true) :
    (m.skip levels q).1.offset ∈ (m.findAll levels text).abandoned := by
  rw [findAll_eq]
  refine List.mem_filterMap.2 ⟨m.round levels q, begins_iff.1 h, ?_⟩
  have hresult : (m.round levels q).attempt.result = none := hfail
  have hcutOff : (m.round levels q).attempt.cutOff = true := hcut
  rw [Round.abandoned?, hresult, hcutOff]
  rfl

namespace Builtin

/-! ## Comments and strings -/

/-- Text in which no call is looked for. -/
inductive Inert where
  | comment
  | tripleDouble
  | tripleSingle
  | double
  | single
deriving DecidableEq, Repr

namespace Inert

/-- All kinds in the order in which they are declared. -/
def all : List Inert := [comment, tripleDouble, tripleSingle, double, single]

def pattern : Inert → String
  | comment => "#[^\\n]*"
  | tripleDouble => "\"\"\"(?s:.*?)\"\"\""
  | tripleSingle => "'''(?s:.*?)'''"
  | double => "\"(?:[^\"\\\\\\n]|\\\\.)*\""
  | single => "'(?:[^'\\\\\\n]|\\\\.)*'"

/-- How the text begins. -/
def opening : Inert → List Char
  | comment => ['#']
  | tripleDouble => ['"', '"', '"']
  | tripleSingle => ['\'', '\'', '\'']
  | double => ['"']
  | single => ['\'']

/-- Whether the character may begin such a text. -/
def opens (x : Char) : Bool := x = '#' || x = '"' || x = '\''

theorem exists_parse (k : Inert) : ∃ r, Regex.parse {} k.pattern.toList = .ok r ∧ r.opening = k.opening := by
  refine toOption_map_ok ?_
  cases k <;> decide +kernel

theorem exists_compile (k : Inert) : ∃ p, Regex.compile {} k.pattern = .ok p := by
  have h : (Regex.compile {} k.pattern).toOption.map (fun _ => ()) = some () := by cases k <;> decide +kernel
  obtain ⟨p, hp, -⟩ := toOption_map_ok h
  exact ⟨p, hp⟩

theorem opening_isPrefix {k : Inert} {text word rest : List Char} (h : leading? k.pattern text = some (word, rest)) :
    k.opening <+: word := by
  obtain ⟨r, hr, hopening⟩ := k.exists_parse
  rw [← hopening]
  exact opening_isPrefix_of_leading? hr h

theorem opens_pattern : Opens pattern opens := by
  intro k text word rest h
  have hopening := opening_isPrefix h
  obtain ⟨x, word', hk, hx⟩ : ∃ x word', k.opening = x :: word' ∧ opens x = true := by
    cases k <;> exact ⟨_, _, rfl, by decide⟩
  obtain ⟨v, rfl⟩ := hopening
  exact ⟨x, word' ++ v, by rw [hk]; rfl, hx⟩

theorem opens_name : ∀ x ∈ "pprint".toList, opens x = false := by simp [opens]

theorem opens_eq_false_of_isBlank {x : Char} (hx : isBlank x = true) : opens x = false := by
  rw [← Bool.not_eq_true]
  intro hopens
  simp only [opens, Bool.or_eq_true, decide_eq_true_eq] at hopens
  rcases hopens with (rfl | rfl) | rfl <;> exact absurd hx (by decide)

end Inert

/-! ## What is reported -/

/-- The parts of a text, where of several patterns that match the one declared first is taken. -/
def declaredParts (text : List Char) : List (TextPart Inert) := divide Inert.pattern (fun _ => Inert.all) text

/-- The parts of a text, where directly behind a region the patterns declared after its own are tried first. -/
def partsInTurn (text : List Char) : List (TextPart Inert) := divide Inert.pattern (inTurn Inert.all) text

/-- The offset lies in no region, nor is it where one begins. -/
def Outside (parts : List (TextPart Inert)) (n : Nat) : Prop :=
  ∀ before kind text after, parts = before ++ .region kind text :: after →
    n < TextPart.size before ∨ TextPart.size before + byteLength text ≤ n

/-- The span is a call: the name outside of regions, then blanks and regions up to a parenthesis, and all up to the
parenthesis that closes it. -/
def IsCall (parts : List (TextPart Inert)) (span : Span) : Prop :=
  ∃ before call after, parts = before ++ (call ++ after) ∧
    span = ⟨TextPart.size before, TextPart.size before + TextPart.size call⟩ ∧
    ∃ gap body, call = "pprint".toList.map .char ++ (gap ++ .char '(' :: body) ∧ (∀ p ∈ gap, p.idle = true) ∧
      closing? 1 (body ++ after) = some after

/-- What is found are the calls among the parts. Each span begins outside of regions and is a call; and each call is one
of them, unless it begins inside of one or is given up. -/
structure ReportsCalls (parts : List (TextPart Inert)) (found : Matches) : Prop where
  outside : ∀ s ∈ found.spans, Outside parts s.start
  calls : ∀ s ∈ found.spans, IsCall parts s
  complete : ∀ s, IsCall parts s → s ∈ found.spans ∨ s.start ∈ found.abandoned ∨
    ∃ t ∈ found.spans, t.start < s.start ∧ s.start < t.stop

theorem outside_of_char {parts before after : List (TextPart Inert)} {x : Char}
    (h : parts = before ++ .char x :: after) : Outside parts (TextPart.size before) := by
  rintro before' kind text after' h'
  rw [h] at h'
  rcases List.append_eq_append_iff.1 h' with ⟨mid, rfl, hmid⟩ | ⟨mid, rfl, hmid⟩
  · cases mid with
    | nil => cases hmid
    | cons p mid =>
      obtain rfl := (List.cons.inj hmid).1
      have hpos := x.utf8Size_pos
      left
      simp [TextPart.text]
      omega
  · cases mid with
    | nil => cases hmid
    | cons p mid =>
      obtain rfl := (List.cons.inj hmid).1
      right
      simp [TextPart.text]

/-- A part that begins between two places is one of those between them. -/
theorem mem_of_append_eq {before after pre gap rest : List (TextPart Inert)} {x : Char}
    (h : before ++ .char x :: after = pre ++ (gap ++ rest)) (hle : TextPart.size pre ≤ TextPart.size before)
    (hlt : TextPart.size before < TextPart.size pre + TextPart.size gap) : .char x ∈ gap := by
  rcases List.append_eq_append_iff.1 h with ⟨mid, rfl, hmid⟩ | ⟨mid, rfl, hmid⟩
  · cases mid with
    | nil =>
      cases gap with
      | nil => simp at hlt
      | cons p gap =>
        obtain rfl := (List.cons.inj hmid).1
        exact List.mem_cons_self
    | cons p mid =>
      obtain rfl := (List.cons.inj hmid).1
      have hpos := x.utf8Size_pos
      simp [TextPart.text] at hle
      omega
  · rw [TextPart.size_append] at hlt
    rcases List.append_eq_append_iff.1 hmid with ⟨mid', rfl, -⟩ | ⟨mid', rfl, hmid'⟩
    · rw [TextPart.size_append] at hlt
      omega
    · cases mid' with
      | nil => simp at hlt
      | cons p mid' =>
        obtain rfl := (List.cons.inj hmid').1
        exact List.mem_append_right _ List.mem_cons_self

theorem IsCall.outside {parts : List (TextPart Inert)} {span : Span} (h : IsCall parts span) :
    Outside parts span.start := by
  obtain ⟨before, call, after, hparts, rfl, gap, body, rfl, -, -⟩ := h
  exact outside_of_char hparts

/-! ## The grammar -/

/-- What the grammar is made into. -/
structure FindsCalls (m : Matcher) (i : Fin m.size) : Prop where
  ignores : Ignores m Inert.pattern Inert.all Inert.opens
  start : m.start = .seq (.literal "pprint".toList) (.rule i)
  call : m.rules.get i = .blockBody i ['('] [')']

theorem findsCalls_of_compile {m : Matcher} (hm : pprintGrammar.compile = .ok m) : ∃ i, FindsCalls m i := by
  obtain ⟨start, rules, ignored, rfl, hstart, hrules, hignored, -⟩ := Grammar.compile_ok hm
  cases hstart with
  | @seq _ _ word call hword hcall =>
    cases hword
    cases hcall with
    | @rule _ i hi =>
      obtain ⟨e, hget, hlookup⟩ := Grammar.lookup_of_finIdxOf? hi
      cases hlookup
      obtain ⟨i', hi', hbody⟩ := (hrules i _ _ hget).eq_blockBody
      cases Option.some.inj (hi.symm.trans hi')
      refine ⟨i, ⟨rfl, ?_, by decide, Inert.exists_compile, Inert.opens_pattern,
        fun _ => Inert.opens_eq_false_of_isBlank⟩, rfl, hbody⟩
      have hkinds : pprintGrammar.ignored = Inert.all.map (.terminal ·.pattern) := rfl
      rw [hkinds, List.forall₂_map_left_iff] at hignored
      refine hignored.imp fun k node hnode => ?_
      cases hnode with
      | terminal hq => exact ⟨_, rfl, hq⟩

namespace FindsCalls

variable {m : Matcher} {i : Fin m.size} (h : FindsCalls m i) {levels : Nat} {text : List Char} {c d q : Cursor}
include h

/-- Where the start expression succeeds, a call stands. -/
theorem tried_crosses (hc : Settled Inert.pattern Inert.all c) (hd : m.tried levels c = some d) :
    ∃ parts, Bracketed parts ∧
      Crosses Inert.pattern (inTurn Inert.all) none c ("pprint".toList.map .char ++ parts) none d := by
  rw [Matcher.tried, Matcher.parseSkipping, Matcher.parse_eq, h.start] at hd
  rcases Expr.parse_seq (.literal "pprint".toList) (.rule i) c with ⟨hnone, heq⟩ | ⟨e, he, heq⟩
  · rw [heq, hnone] at hd
    cases hd
  · rw [heq, Attempt.after_result] at hd
    obtain ⟨gap, hidle, hname⟩ := h.ignores.literal_crosses Inert.opens_name he
    obtain ⟨parts, hcall, hparts⟩ := h.ignores.call_crosses rfl rfl h.call hd
    obtain rfl := hc.eq_nil hname hidle
    exact ⟨parts, hparts, hname.trans hcall⟩

/-- Each round of a search begins where a part of the text does. -/
theorem begins_crosses (hq : m.Begins levels text q) :
    ∃ parts, Crosses Inert.pattern (inTurn Inert.all) none (.start text) parts none q := by
  induction hq with
  | start => exact ⟨[], .refl⟩
  | @behind q e _ he _ ih =>
    obtain ⟨parts, hparts⟩ := ih
    obtain ⟨gap, hgap, -, hsettled⟩ := h.ignores.skip_crosses levels q
    obtain ⟨call, -, hcall⟩ := h.tried_crosses hsettled he
    exact ⟨_, (hparts.trans hgap).trans hcall⟩
  | onward _ _ hd ih =>
    obtain ⟨parts, hparts⟩ := ih
    obtain ⟨gap, x, -, -, hnext⟩ := h.ignores.next_crosses hd
    exact ⟨_, hparts.trans hnext⟩

theorem isCall_of_mem {span : Span} (hspan : span ∈ (m.findAll levels text).spans) :
    IsCall (partsInTurn text) span := by
  rw [Matcher.findAll_eq] at hspan
  obtain ⟨r, hr, e, he, rfl⟩ := Round.mem_spansOf _ hspan
  obtain ⟨-, hround⟩ := m.mem_rounds levels hr
  rw [hround] at he hr ⊢
  obtain ⟨before, hbefore⟩ := h.begins_crosses (Matcher.begins_iff.2 hr)
  obtain ⟨gap, hgap, -, hsettled⟩ := h.ignores.skip_crosses levels r.place
  obtain ⟨_, ⟨gap', body, rfl, hidle, hcloses⟩, hcall⟩ := h.tried_crosses hsettled he
  have hstart := hbefore.trans hgap
  have hoffset : (m.skip levels r.place).1.offset = TextPart.size (before ++ gap) := by
    simpa [Cursor.start] using hstart.offset
  refine ⟨before ++ gap, _, partsInTurn e.rest, ?_, ?_, gap', body, rfl, hidle, hcloses.zero _⟩
  · rw [← List.append_assoc]
    exact (hstart.trans hcall).divided
  · rw [← hoffset, ← hcall.offset]
    rfl

/-- Where a call stands, the start expression succeeds with its end, or it is cut off. -/
theorem tried_of_call (hc : Settled Inert.pattern Inert.all c) {gap body after : List (TextPart Inert)}
    (hparts : partsInTurn c.rest = "pprint".toList.map .char ++ (gap ++ .char '(' :: (body ++ after)))
    (hidle : ∀ p ∈ gap, p.idle = true) (hclosing : closing? 1 (body ++ after) = some after) :
    (∃ e, m.tried levels c = some e ∧
      e.offset = c.offset + TextPart.size ("pprint".toList.map .char ++ (gap ++ .char '(' :: body))) ∨
      (m.tried levels c = none ∧ (m.parseSkipping levels m.start c).cutOff = true) := by
  cases he : m.tried levels c with
  | some e =>
    obtain ⟨_, ⟨gap', body', rfl, hidle', hcloses⟩, hcross⟩ := h.tried_crosses hc he
    have hsame := hcross.divide_eq.symm.trans hparts
    simp only [List.append_assoc, List.cons_append] at hsame
    have hcall := bracketed_unique (List.append_cancel_left hsame) hidle' hidle (hcloses.zero _) hclosing
    exact .inl ⟨e, rfl, hcall ▸ hcross.offset⟩
  | none =>
    obtain ⟨e, hstrip, hrest⟩ := h.ignores.exists_strip hc Inert.opens_name hparts
    rw [Matcher.tried, Matcher.parseSkipping, Matcher.parse_eq, h.start] at he
    rw [Matcher.parseSkipping, Matcher.parse_eq, h.start]
    rcases Expr.parse_seq (.literal "pprint".toList) (.rule i) c with ⟨hnone, -⟩ | ⟨e', he', heq⟩
    · cases hstrip.symm.trans hnone
    · cases hstrip.symm.trans he'
      rw [heq, Attempt.after_result, ← Matcher.parse_eq] at he
      rw [heq, Attempt.after_cutOff, Bool.or_eq_true, ← Matcher.parse_eq]
      have hcut : (m.parse (m.lead true levels) levels (.rule i) e).cutOff = true :=
        h.ignores.cutOff_of_bracketed h.call hrest hidle hclosing he
      exact .inr ⟨rfl, .inr hcut⟩

/-- A call does not begin where something is skipped. -/
theorem not_skipped {before call after : List (TextPart Inert)} (hq : m.Begins levels text q)
    (hparts : partsInTurn text = before ++ (call ++ after)) (hcall : "pprint".toList.map .char <+: call)
    (hle : q.offset ≤ TextPart.size before) :
    (m.skip levels q).1.offset ≤ TextPart.size before := by
  obtain ⟨name, rfl⟩ := hcall
  obtain ⟨pre, hpre⟩ := h.begins_crosses hq
  obtain ⟨gap, hgap, hidle, -⟩ := h.ignores.skip_crosses levels q
  have hoffset : q.offset = TextPart.size pre := by simpa [Cursor.start] using hpre.offset
  by_contra hlt
  have hsame : before ++ ("pprint".toList.map .char ++ name ++ after) =
      pre ++ (gap ++ partsInTurn (m.skip levels q).1.rest) := by
    rw [← hparts, ← List.append_assoc]
    exact (hpre.trans hgap).divided
  have hmem : TextPart.char 'p' ∈ gap := by
    refine mem_of_append_eq hsame (by omega) ?_
    rw [← hoffset, ← hgap.offset]
    omega
  cases hidle _ hmem

/-- Each call is reported, unless it stands inside a reported one or is given up. -/
theorem reported_of_isCall {span : Span} (hcall : IsCall (partsInTurn text) span) :
    span ∈ (m.findAll levels text).spans ∨ span.start ∈ (m.findAll levels text).abandoned ∨
      ∃ s ∈ (m.findAll levels text).spans, s.start < span.start ∧ span.start < s.stop := by
  obtain ⟨before, _, after, hparts, rfl, gap, body, rfl, hidle, hclosing⟩ := hcall
  obtain ⟨last, d, hrest, hbefore⟩ := h.ignores.begins.exists_crosses (c := .start text) hparts
  have hoffset : d.offset = TextPart.size before := by simpa [Cursor.start] using hbefore.offset
  obtain ⟨q, hq, hqd, hnext⟩ := m.exists_begins levels (⟨_, hrest, hbefore.offset⟩ : d.In text)
  rcases Matcher.place_cases hqd hnext with hlt | heq | ⟨e, he, hgt, hlt⟩
  · have hle := h.not_skipped hq hparts (List.prefix_append _ _) (hoffset ▸ hqd.le)
    omega
  · -- the round tries the start expression where the call stands
    obtain ⟨-, -, -, hsettled⟩ := h.ignores.skip_crosses levels q
    have hsame := (hqd.of_le (m.skip_reaches levels q) (Nat.le_of_eq heq)).rest_eq heq.symm
    have hcall : partsInTurn (m.skip levels q).1.rest =
        "pprint".toList.map .char ++ (gap ++ .char '(' :: (body ++ after)) := by
      have hdivided := (hsettled.crosses last).divided
      rw [hsame, List.append_cancel_left (hbefore.divided.symm.trans hparts)] at hdivided
      simpa [partsInTurn, divide, hsame] using hdivided.symm
    rcases h.tried_of_call hsettled hcall hidle hclosing with ⟨e, he, ho⟩ | ⟨hfail, hcut⟩
    · rcases hq.reported he with hs | ⟨hempty, -⟩
      · rw [ho, ← heq, hoffset] at hs
        exact .inl hs
      · have hpos := Char.utf8Size_pos 'p'
        simp [TextPart.text] at ho
        omega
    · refine .inr (.inl ?_)
      rw [← hoffset, heq]
      exact hq.abandoned hfail hcut
  · rcases hq.reported he with hs | ⟨hempty, -⟩
    · exact .inr (.inr ⟨_, hs, by simpa [← hoffset] using hgt, by simpa [← hoffset] using hlt⟩)
    · omega

end FindsCalls

/-! ## Strings directly behind strings -/

/-- Directly behind a string of the first kind, one of the second is taken for another kind: of those declared after the
first, one begins as the second does. -/
def Inert.drifts : Inert → Inert → Bool
  | tripleDouble, tripleDouble | tripleSingle, tripleDouble | tripleSingle, tripleSingle | double, tripleSingle => true
  | _, _ => false

/-- The second part is a region that the first makes be taken for another. -/
def drifts : TextPart Inert → TextPart Inert → Bool
  | .region i _, .region j _ => i.drifts j
  | _, _ => false

/-- No region stands directly behind one that makes it be taken for another. -/
def Steady (parts : List (TextPart Inert)) : Prop := parts.IsChain fun p q => drifts p q = false

instance (parts : List (TextPart Inert)) : Decidable (Steady parts) := inferInstanceAs (Decidable (List.IsChain _ _))

theorem Inert.exists_split (i : Inert) : ∃ pre ks, all = pre ++ ks ∧ inTurn all (some i) = ks ++ all ∧
    ∀ j ∈ pre, ∀ k ∈ ks, j.opening <+: k.opening ∨ k.opening <+: j.opening → i.drifts j = true := by
  cases i with
  | comment => exact ⟨[comment], [tripleDouble, tripleSingle, double, single], rfl, rfl, by decide⟩
  | tripleDouble => exact ⟨[comment, tripleDouble], [tripleSingle, double, single], rfl, rfl, by decide⟩
  | tripleSingle => exact ⟨[comment, tripleDouble, tripleSingle], [double, single], rfl, rfl, by decide⟩
  | double => exact ⟨[comment, tripleDouble, tripleSingle, double], [single], rfl, rfl, by decide⟩
  | single => exact ⟨all, [], rfl, rfl, by decide⟩

/-- Two patterns that match at the same place begin alike. -/
theorem Inert.openings_comparable {j k : Inert} {text : List Char} {split split' : List Char × List Char}
    (hj : leading? j.pattern text = some split) (hk : leading? k.pattern text = some split') :
    j.opening <+: k.opening ∨ k.opening <+: j.opening := by
  have hopening : ∀ {k : Inert} {split}, leading? k.pattern text = some split → k.opening <+: text := by
    intro k split h
    rw [leading?_append h]
    exact (opening_isPrefix h).trans (List.prefix_append _ _)
  exact List.prefix_or_prefix_of_prefix (hopening hj) (hopening hk)

theorem Inert.first?_inTurn {i : Inert} {text : List Char}
    (h : ∀ j split, first? pattern all text = some (j, split) → i.drifts j = false) :
    first? pattern (inTurn all (some i)) text = first? pattern all text := by
  obtain ⟨pre, ks, hall, hturn, hdrifts⟩ := i.exists_split
  have hfirst : first? pattern all text = (first? pattern pre text).or (first? pattern ks text) := by
    rw [hall, first?_append]
  rw [hturn, first?_append, hfirst]
  cases hpre : first? pattern pre text with
  | none => simp
  | some found =>
    cases hks : first? pattern ks text with
    | none => simp
    | some found' =>
      obtain ⟨hj, hlead⟩ := first?_eq_some hpre
      obtain ⟨hk, hlead'⟩ := first?_eq_some hks
      have htrue := hdrifts _ hj _ hk (openings_comparable hlead hlead')
      have hfalse := h found.1 found.2 (by rw [hfirst, hpre]; rfl)
      rw [hfalse] at htrue
      cases htrue

/-- By the budget, with the part before the text at hand. -/
theorem divideFrom_inTurn (budget : List Char) : ∀ {prev : TextPart Inert} {last : Option Inert} {text : List Char},
    (∀ i ∈ last, ∃ word, prev = .region i word) →
    Steady (prev :: divideFrom Inert.pattern (fun _ => Inert.all) last text budget) →
    divideFrom Inert.pattern (inTurn Inert.all) last text budget =
      divideFrom Inert.pattern (fun _ => Inert.all) last text budget := by
  induction budget with
  | nil => intro prev last text _ _; rfl
  | cons y budget ih =>
    intro prev last text hprev hsteady
    have hsame : first? Inert.pattern (inTurn Inert.all last) text = first? Inert.pattern Inert.all text := by
      cases last with
      | none => rfl
      | some i =>
        refine Inert.first?_inTurn fun j split hj => ?_
        obtain ⟨word, rfl⟩ := hprev i rfl
        rw [divideFrom_region hj] at hsteady
        exact (List.isChain_cons_cons.1 hsteady).1
    cases hfirst : first? Inert.pattern Inert.all text with
    | some found =>
      rw [divideFrom_region hfirst] at hsteady
      rw [divideFrom_region (hsame.trans hfirst), divideFrom_region hfirst,
        ih (fun i hi => ⟨found.2.1, by cases hi; rfl⟩) (List.isChain_cons_cons.1 hsteady).2]
    | none =>
      cases text with
      | nil => simp [divideFrom, hfirst, hsame]
      | cons x rest =>
        rw [divideFrom_char hfirst] at hsteady
        have hrest : Steady (.char x :: divideFrom Inert.pattern (fun _ => Inert.all) none rest budget) :=
          (List.isChain_cons_cons.1 hsteady).2
        rw [divideFrom_char (hsame.trans hfirst), divideFrom_char hfirst, ih (by simp) hrest]

theorem Steady.partsInTurn_eq {text : List Char} (h : Steady (declaredParts text)) :
    partsInTurn text = declaredParts text := by
  have hbehind : Steady (.char ' ' :: declaredParts text) := List.isChain_cons.2 ⟨fun _ _ => rfl, h⟩
  exact divideFrom_inTurn text (by simp) hbehind

/-- The rule reports the calls outside of comments and strings, if directly behind one of these the kinds are tried
first that are declared after its own. In a text where no string is taken for another for that reason, these are also
the calls outside of comments and strings if the kind declared first is taken everywhere. -/
theorem pprintUsage_reports_calls (severity : Severity) : ∃ capture f, (pprintUsage severity).capture = some capture ∧
    capture.compile = .ok f ∧ ∀ text : List Char, ReportsCalls (partsInTurn text) (f.findAll text) ∧
      (Steady (declaredParts text) → ReportsCalls (declaredParts text) (f.findAll text)) := by
  have hready : pprintGrammar.compile.toOption.map (fun _ => ()) = some () := by decide +kernel
  obtain ⟨m, hm, -⟩ := toOption_map_ok hready
  obtain ⟨i, hi⟩ := findsCalls_of_compile hm
  refine ⟨.grammar pprintGrammar, .grammar m, rfl, by rw [Capture.compile, hm]; rfl, fun text => ?_⟩
  have hreports : ReportsCalls (partsInTurn text) (m.findAll Matcher.maxNesting text) :=
    ⟨fun s hs => (hi.isCall_of_mem hs).outside, fun s hs => hi.isCall_of_mem hs, fun s hs => hi.reported_of_isCall hs⟩
  refine ⟨hreports, fun hsteady => ?_⟩
  rw [hsteady.partsInTurn_eq] at hreports
  exact hreports

/-- A string in three quotes directly behind one in single quotes, and a call with a string behind them. -/
def steadyText : List Char := "''\"\"\"pprint()\"\"\"pprint (\")\")#".toList

/-- The call behind the strings is reported, up to the parenthesis outside of its string. -/
theorem steadyText_reports_calls : ∃ capture f, (pprintUsage .warning).capture = some capture ∧
    capture.compile = .ok f ∧ Steady (declaredParts steadyText) ∧ f.findAll steadyText = ⟨[⟨16, 28⟩], []⟩ ∧
      ReportsCalls (declaredParts steadyText) ⟨[⟨16, 28⟩], []⟩ := by
  obtain ⟨capture, f, hcapture, hf, hreports⟩ := pprintUsage_reports_calls .warning
  have hsteady : Steady (declaredParts steadyText) := by decide +kernel
  have hfound : (Capture.grammar pprintGrammar).compile.toOption.map (·.findAll steadyText) =
      some ⟨[⟨16, 28⟩], []⟩ := by decide +kernel
  obtain ⟨f', hf', hfound⟩ := toOption_map_ok hfound
  cases hcapture
  cases hf.symm.trans hf'
  exact ⟨_, f, rfl, hf, hsteady, hfound, hfound ▸ (hreports steadyText).2 hsteady⟩

/-- A string in three quotes directly behind one in double quotes. -/
def driftingText : List Char := "\"\"'''\npprint()'''".toList

/-- The string in three quotes is taken for an empty one and a quote, and the call in it is reported. -/
theorem driftingText_reports_region : ∃ capture f, (pprintUsage .warning).capture = some capture ∧
    capture.compile = .ok f ∧ f.findAll driftingText = ⟨[⟨6, 14⟩], []⟩ ∧
      declaredParts driftingText =
        [.region .double "\"\"".toList, .region .tripleSingle "'''\npprint()'''".toList] ∧
      ¬Outside (declaredParts driftingText) 6 := by
  have hfound : (Capture.grammar pprintGrammar).compile.toOption.map (·.findAll driftingText) =
      some ⟨[⟨6, 14⟩], []⟩ := by decide +kernel
  have hparts : declaredParts driftingText =
      [.region .double "\"\"".toList, .region .tripleSingle "'''\npprint()'''".toList] := by decide +kernel
  obtain ⟨f, hf, hfound⟩ := toOption_map_ok hfound
  refine ⟨_, f, rfl, hf, hfound, hparts, fun houtside => ?_⟩
  have hregion := houtside [.region .double "\"\"".toList] .tripleSingle "'''\npprint()'''".toList [] hparts
  revert hregion
  decide

end Builtin

end PatternLint
