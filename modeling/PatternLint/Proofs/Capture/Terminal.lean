import PatternLint.Proofs.Capture.Agreement
import PatternLint.Proofs.Grammar.Verdict
/-!
# What a terminal means

A terminal is a pattern put into a group after an assertion that the text starts, and it sees the text from the place
on where it is tried. Main statement: `Grammar.terminal_meaning`. A terminal can be used exactly if its pattern can be
read by itself and stays within the limits with the group around it. It then matches what the pattern matches at the
beginning of the text that is left; a pattern that does not look back matches that at the same place of the whole text.
-/
namespace PatternLint

theorem Grammar.anchoredPattern_toList (pattern : String) :
    (anchoredPattern pattern).toList = "\\A(?:".toList ++ (pattern.toList ++ [')']) := by
  rw [anchoredPattern, String.toList_append, String.toList_append, List.append_assoc]
  rfl

namespace Grammar

variable {pattern : String}

/-- The pattern with the group and the assertion around it. -/
def enclosed (w : Regex.Item) : Regex := .concat [.assertion .textStart, w.regex]

/-- The pattern of a terminal that can be used can be read by itself. -/
theorem Compiles.item {q : Regex.Program} (h : Compiles pattern q)
    (hopened : Regex.parse {} pattern.toList ≠ .error .unopenedGroup) :
    ∃ w, Regex.readPattern {} pattern.toList = .ok w ∧ w.depth + 2 ≤ Regex.maxDepth ∧ (enclosed w).fits = true ∧
      q = (enclosed w).program := by
  obtain ⟨e', he', hfits, rfl⟩ := Regex.compile_ok_iff.1 h
  rw [anchoredPattern_toList] at he'
  obtain ⟨w', hw', hdepth, rfl⟩ := (Regex.parse_ok_iff {}).1 he'
  rcases Regex.readPattern_released hw' with herror | ⟨w, hw⟩
  · rw [Regex.parse_eq, herror] at hopened
    exact absurd rfl hopened
  · rcases Regex.readPattern_enclosed hw with ⟨-, herror⟩ | ⟨-, hok⟩
    · cases herror.symm.trans hw'
    · cases hok.symm.trans hw'
      exact ⟨w, hw, hdepth, hfits, rfl⟩

/-- A terminal can be used exactly if its pattern can be read by itself and stays within the limits with the group
around it. -/
theorem exists_compiles_iff (hopened : Regex.parse {} pattern.toList ≠ .error .unopenedGroup)
    (hcomment : ¬((∃ e, Regex.parse {} pattern.toList = .ok e) ∧
      ∃ e, Regex.parse {} (pattern.toList ++ [')']) = .ok e)) :
    (∃ q, Compiles pattern q) ↔ ∃ w, Regex.readPattern {} pattern.toList = .ok w ∧ w.depth + 2 ≤ Regex.maxDepth ∧
      (enclosed w).fits = true := by
  constructor
  · rintro ⟨q, hq⟩
    obtain ⟨w, hw, hdepth, hfits, -⟩ := hq.item hopened
    exact ⟨w, hw, hdepth, hfits⟩
  · rintro ⟨w, hw, hdepth, hfits⟩
    have hle : w.depth ≤ Regex.maxDepth := Nat.le_of_add_right_le hdepth
    rcases Regex.readPattern_enclosed hw with ⟨hself, -⟩ | ⟨-, hok⟩
    · refine absurd ⟨⟨w.regex, ?_⟩, w.regex, ?_⟩ hcomment
      · exact (Regex.parse_ok_iff {}).2 ⟨w, hw, hle, rfl⟩
      · exact (Regex.parse_ok_iff {}).2 ⟨w, hself, hle, rfl⟩
    · refine ⟨(enclosed w).program, Regex.compile_ok_iff.2 ⟨enclosed w, ?_, hfits, rfl⟩⟩
      rw [anchoredPattern_toList]
      exact (Regex.parse_ok_iff {}).2 ⟨_, hok, hdepth, rfl⟩

/-- All that may stand in the way of making the grammar ready is one pattern among its terminals. -/
structure DependsOn (g : Grammar) (pattern : String) : Prop where
  terminal : ∃ part, .terminal part pattern ∈ g.leaves
  others : ∀ leaf ∈ g.leaves, (∃ part, leaf = .terminal part pattern) ∨ g.Resolves leaf
  calls : ∀ name, ¬Relation.TransGen g.CallsFirst name name

theorem DependsOn.compile_iff {g : Grammar} (h : g.DependsOn pattern) :
    (∃ m, g.compile = .ok m) ↔ ∃ q, Compiles pattern q := by
  rw [compile_ok_iff]
  constructor
  · rintro ⟨hall, -⟩
    obtain ⟨part, hmem⟩ := h.terminal
    exact hall _ hmem
  · intro hq
    refine ⟨fun leaf hleaf => ?_, h.calls⟩
    rcases h.others leaf hleaf with ⟨part, rfl⟩ | hres
    · exact hq
    · exact hres

/-- A pattern as the start expression, and nothing else. -/
theorem dependsOn_start (pattern : String) : DependsOn { start := .terminal pattern } pattern where
  terminal := ⟨startName, List.mem_singleton.2 rfl⟩
  others leaf hleaf := .inl ⟨startName, List.mem_singleton.1 hleaf⟩
  calls name hcycle := by
    obtain ⟨_, ⟨_, hlookup, _⟩, _⟩ := Relation.TransGen.head'_iff.1 hcycle
    cases hlookup

end Grammar

/-! ## Matching -/

/-- A terminal matches what its pattern matches at the beginning of what is left of the text. -/
theorem Matcher.runTerminal_fenced (p : Regex.Program) (c : Cursor) : runTerminal p.fenced c =
    ((p.find? (.start c.rest)).filter (·.start = 0)).map fun f => (f.shift c.offset).stop := by
  rw [runTerminal_eq, Regex.Program.find?_fenced _ rfl, Regex.Program.find?_pinned _ rfl]
  rfl

namespace Matcher

variable (m : Matcher) (skipping : Bool) (limit levels : Nat) {text : List Char} {c d : Cursor} {n : Nat}

theorem parse_terminal (q : Regex.Program) (c : Cursor) :
    (m.parse (m.lead skipping limit) levels (.terminal q) c).result = runTerminal q (m.lead skipping limit c).1 := by
  rw [parse_eq]
  rfl

/-- The terminal ends where its pattern ends on what is left of the text. -/
theorem parse_terminal_iff (p : Regex.Program) (hc : c.In text) :
    (m.parse (m.lead skipping limit) levels (.terminal p.fenced) c).result.map (·.offset) = some n ↔
      ∃ f, p.find? (.start (textFrom text (m.lead skipping limit c).1.offset)) = some f ∧ f.start = 0 ∧
        (m.lead skipping limit c).1.offset + f.stop.offset = n := by
  have hin := hc.reaches (m.lead_reaches skipping limit c)
  rw [parse_terminal, runTerminal_fenced, hin.textFrom_eq, Option.map_map]
  simp [Option.filter_eq_some_iff, Regex.Found.shift, and_assoc]

/-- The terminal of a pattern that does not look back ends where the pattern ends in the whole text. -/
theorem parse_terminal_iff_of_not_looksBack {e : Regex} (hback : e.looksBack = false) (hc : c.In text)
    (hd : (Cursor.start text).Leads d) (ho : d.offset = (m.lead skipping limit c).1.offset) :
    (m.parse (m.lead skipping limit) levels (.terminal e.program.fenced) c).result.map (·.offset) = some n ↔
      ∃ f, e.program.find? d = some f ∧ f.start = d.offset ∧ f.stop.offset = n := by
  have hin := hc.reaches (m.lead_reaches skipping limit c)
  have hrest : d.rest = (m.lead skipping limit c).1.rest := by
    rw [← hin.textFrom_eq, ← ho]
    exact (Cursor.In.textFrom_eq hd.reaches).symm
  have hpins := pins_program hback d (m.lead skipping limit c).1 (Cursor.alone_eq_iff.2 ⟨ho, hrest⟩)
  rw [Regex.program_fenced] at hpins
  have hoffset := congrArg (Option.map Cursor.offset) hpins
  rw [Option.map_map, Option.map_map] at hoffset
  rw [parse_terminal]
  change Option.map (Cursor.offset ∘ Cursor.alone) _ = _ ↔ _
  rw [hoffset]
  simp [Option.filter_eq_some_iff, and_assoc, Cursor.alone]

end Matcher

namespace Grammar

/-- A pattern that closes no group it did not open, and that does not end in a comment which would swallow a parenthesis
after it, means as a terminal what it means by itself on the text from the place on. -/
theorem terminal_meaning (pattern : String) (hopened : Regex.parse {} pattern.toList ≠ .error .unopenedGroup)
    (hcomment : ¬((∃ e, Regex.parse {} pattern.toList = .ok e) ∧
      ∃ e, Regex.parse {} (pattern.toList ++ [')']) = .ok e)) :
    (∀ g : Grammar, g.DependsOn pattern → ((∃ m, g.compile = .ok m) ↔
      ∃ w, Regex.readPattern {} pattern.toList = .ok w ∧ w.depth + 2 ≤ Regex.maxDepth ∧ (enclosed w).fits = true)) ∧
    ∀ q, Compiles pattern q → ∃ e, Regex.parse {} pattern.toList = .ok e ∧
      ∀ (m : Matcher) (skipping : Bool) (limit levels : Nat) (text : List Char) (c : Cursor) (n : Nat), c.In text →
        ((m.parse (m.lead skipping limit) levels (.terminal q) c).result.map (·.offset) = some n ↔
          ∃ f, e.program.find? (.start (textFrom text (m.lead skipping limit c).1.offset)) = some f ∧ f.start = 0 ∧
            (m.lead skipping limit c).1.offset + f.stop.offset = n) ∧
        (e.looksBack = false → ∀ d : Cursor, (Cursor.start text).Leads d →
          d.offset = (m.lead skipping limit c).1.offset →
            ((m.parse (m.lead skipping limit) levels (.terminal q) c).result.map (·.offset) = some n ↔
              ∃ f, e.program.find? d = some f ∧ f.start = d.offset ∧ f.stop.offset = n)) := by
  refine ⟨fun g hg => hg.compile_iff.trans (exists_compiles_iff hopened hcomment), fun q hq => ?_⟩
  obtain ⟨w, hw, hdepth, -, rfl⟩ := hq.item hopened
  have hparse : Regex.parse {} pattern.toList = .ok w.regex :=
    (Regex.parse_ok_iff {}).2 ⟨w, hw, Nat.le_of_add_right_le hdepth, rfl⟩
  refine ⟨w.regex, hparse, fun m skipping limit levels text c n hc => ?_⟩
  rw [enclosed, Regex.program_fenced]
  refine ⟨m.parse_terminal_iff skipping limit levels w.regex.program hc, fun hback d hd ho => ?_⟩
  exact m.parse_terminal_iff_of_not_looksBack skipping limit levels hback hc hd ho

/-- The first alternative is not the leftmost, and the comment holds a parenthesis and ends before the pattern does. -/
def alternatives : String := "(?x) b | ab # or )\n"

theorem alternatives_meaning : Regex.parse {} alternatives.toList ≠ .error .unopenedGroup ∧
    ¬((∃ e, Regex.parse {} alternatives.toList = .ok e) ∧ ∃ e, Regex.parse {} (alternatives.toList ++ [')']) = .ok e) ∧
      DependsOn { start := .terminal alternatives } alternatives ∧
        ∃ m q, Grammar.compile { start := .terminal alternatives } = .ok m ∧ Compiles alternatives q ∧
          (m.parse (m.lead true 0) 0 (.terminal q) ⟨some 'x', 1, ['a', 'b']⟩).result.map (·.offset) = some 3 := by
  have hclosed : Regex.parse {} (alternatives.toList ++ [')']) = .error .unopenedGroup :=
    fault?_eq_some.1 (by decide +kernel)
  have hopened : Regex.parse {} alternatives.toList ≠ .error .unopenedGroup :=
    fun h => absurd (fault?_eq_some.2 h) (by decide +kernel)
  have hcomment : ¬((∃ e, Regex.parse {} alternatives.toList = .ok e) ∧
      ∃ e, Regex.parse {} (alternatives.toList ++ [')']) = .ok e) := by
    rintro ⟨-, e, he⟩
    cases hclosed.symm.trans he
  have hread : (Regex.readPattern {} alternatives.toList).toOption.map
      (fun w => decide (w.depth + 2 ≤ Regex.maxDepth) && (enclosed w).fits) = some true := by decide +kernel
  have hfind : (Regex.parse {} alternatives.toList).toOption.map (fun e =>
      (e.program.find? (.start ['a', 'b'])).map fun f => (f.start, f.stop.offset)) = some (some (0, 2)) := by
    decide +kernel
  have hdepends := dependsOn_start alternatives
  obtain ⟨hcompile, hends⟩ := terminal_meaning alternatives hopened hcomment
  obtain ⟨w, hw, hlimits⟩ := toOption_map_ok hread
  rw [Bool.and_eq_true, decide_eq_true_eq] at hlimits
  obtain ⟨m, hm⟩ := (hcompile _ hdepends).2 ⟨w, hw, hlimits⟩
  obtain ⟨q, hq, hterminal⟩ := compile_terminal_ok hm
  obtain ⟨e, he, hends⟩ := hends q hq
  obtain ⟨e', he', hfind⟩ := toOption_map_ok hfind
  cases he.symm.trans he'
  obtain ⟨f, hf, hspan⟩ := Option.map_eq_some_iff.1 hfind
  obtain ⟨hstart, hstop⟩ := Prod.mk.inj hspan
  refine ⟨hopened, hcomment, hdepends, m, q, hm, hq, ?_⟩
  have hin : (⟨some 'x', 1, ['a', 'b']⟩ : Cursor).In ['x', 'a', 'b'] := ⟨['x'], rfl, rfl⟩
  have hlead : m.lead true 0 ⟨some 'x', 1, ['a', 'b']⟩ = (⟨some 'x', 1, ['a', 'b']⟩, false) := hterminal.skip_eq
  refine (hends m true 0 0 ['x', 'a', 'b'] _ 3 hin).1.2 ⟨f, ?_, hstart, ?_⟩
  · rw [hlead]
    exact hf
  · rw [hlead, hstop]

/-- A letter in nearly as many groups as a pattern may have around it. -/
def deepLetter : List Char := (List.replicate 249 "(?:".toList).flatten ++ 'a' :: List.replicate 249 ')'

/-- What a terminal does not share with its pattern. An assertion does not see what stands before the place, a pattern
that by itself closes a group too many may be a terminal, and one that ends in a comment or nests as deeply as it may is
none. -/
theorem terminal_differs :
    ((Grammar.compile { start := .terminal "^a" }).toOption.map (·.findAll Matcher.maxNesting ['a', 'a']) =
        some ⟨[⟨0, 1⟩, ⟨1, 2⟩], []⟩ ∧
      (Regex.compile {} "^a").toOption.map (fun p => (p.find? ⟨some 'a', 1, ['a']⟩).isSome) = some false) ∧
    ((Grammar.compile { start := .terminal "a)|(?:b" }).toOption.map (·.findAll Matcher.maxNesting ['x', 'b']) =
        some ⟨[⟨0, 2⟩], []⟩ ∧
      fault? (Regex.compile {} "a)|(?:b") = some .unopenedGroup) ∧
    (fault? (Grammar.compile { start := .terminal "(?x)a#" }) = some (.terminal startName "(?x)a#" .unclosedGroup) ∧
      (Regex.compile {} "(?x)a#").toOption.map (fun p => (p.findAll ['a']).map Regex.Found.span) = some [⟨0, 1⟩]) ∧
    ((¬∃ m, Grammar.compile { start := .terminal (.ofList deepLetter) } = .ok m) ∧
      ∃ p, Regex.compile {} (.ofList deepLetter) = .ok p) := by
  have hletter : (String.ofList deepLetter).toList = deepLetter := String.toList_ofList
  refine ⟨by decide +kernel, by decide +kernel, by decide +kernel, ?_, ?_⟩
  · rintro ⟨m, hm⟩
    obtain ⟨q, hq, -⟩ := compile_terminal_ok hm
    obtain ⟨e, he, -⟩ := Regex.compile_ok hq
    have hdeep : fault? (Regex.parse {} ("\\A(?:".toList ++ (deepLetter ++ [')']))) = some .nestedTooDeeply := by
      decide +kernel
    rw [anchoredPattern_toList, hletter] at he
    rw [he] at hdeep
    cases hdeep
  · have hfits : (Regex.parse {} deepLetter).toOption.map Regex.fits = some true := by decide +kernel
    obtain ⟨e, he, hfits⟩ := toOption_map_ok hfits
    rw [← hletter] at he
    exact ⟨e.program, Regex.compile_ok_iff.2 ⟨e, he, hfits, rfl⟩⟩

end Grammar

end PatternLint
