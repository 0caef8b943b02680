import PatternLint.Proofs.FileFilter.Select
/-!
# Globs for a whole directory

A glob that ends in `/**` is tried in two ways, by its units and by the directory before its end. Where the directory
has no wildcards, either way accepts the paths that begin with it and a slash. Main statement: `parse_subtree`, that
such a glob is valid and covers just what lies below the directory, so that to exclude it takes away all of that and
nothing beside it.
-/
namespace PatternLint.Glob

/-- A directory that can stand before the `/**` of a glob and mean itself: it has no wildcards, does not begin at the
current directory and does not end in a slash. -/
structure IsDirectory (dir : String) : Prop where
  ne_empty : dir ≠ ""
  no_wildcard : ∀ c ∈ dir.toList, c ≠ '*' ∧ c ≠ '?' ∧ c ≠ '['
  ne_here : dir ≠ "."
  not_from_here : ¬['.', '/'] <+: dir.toList
  no_last_slash : dir.toList.getLast? ≠ some '/'

/-! ## Reading -/

theorem readFrom_char {c : Char} (h : c ≠ '*' ∧ c ≠ '?' ∧ c ≠ '[') (position : Nat) (afterSlash : Bool)
    (tokens : List Token) (rest : List Char) (x : Char) (budget : List Char) :
    readFrom position afterSlash tokens (c :: rest) (x :: budget) =
      readFrom (position + 1) (c = '/') (.char c :: tokens) rest budget := by
  obtain ⟨hstar, hquestion, hbracket⟩ := h
  rw [readFrom] <;> simp [hstar, hquestion, hbracket]

/-- Characters other than wildcards stand for themselves. -/
theorem readFrom_chars {cs : List Char} (h : ∀ c ∈ cs, c ≠ '*' ∧ c ≠ '?' ∧ c ≠ '[') (position : Nat)
    (afterSlash : Bool) (tokens : List Token) (rest budget : List Char) :
    ∃ afterSlash', readFrom position afterSlash tokens (cs ++ rest) (cs ++ budget) =
      readFrom (position + cs.length) afterSlash' ((cs.map .char).reverse ++ tokens) rest budget := by
  induction cs generalizing position afterSlash tokens with
  | nil => exact ⟨afterSlash, rfl⟩
  | cons c cs ih =>
    obtain ⟨afterSlash', hrest⟩ :=
      ih (fun d hd => h d (List.mem_cons_of_mem c hd)) (position + 1) (c = '/') (.char c :: tokens)
    refine ⟨afterSlash', ?_⟩
    rw [List.cons_append, List.cons_append, readFrom_char (h c List.mem_cons_self), hrest]
    simp [Nat.add_assoc, Nat.add_comm 1]

theorem read_subtree {dir : List Char} (h : ∀ c ∈ dir, c ≠ '*' ∧ c ≠ '?' ∧ c ≠ '[') :
    read (dir ++ ['/', '*', '*']) = .ok (dir.map .char ++ [.char '/', .components]) := by
  obtain ⟨afterSlash, hdir⟩ := readFrom_chars h 0 true [] ['/', '*', '*'] ['/', '*', '*']
  rw [read, hdir, readFrom_char (by decide)]
  simp [readFrom, addComponents]

/-! ## Matching -/

theorem matchTokens_char (c x : Char) (ts : List Token) (text : List Char) :
    matchTokens (.char c :: ts) (x :: text) = if x = c then matchTokens ts text else .mismatch := by
  rw [matchTokens] <;> simp [Token.accepts]

theorem matchTokens_chars (cs : List Char) (ts : List Token) (text : List Char) :
    matchTokens (cs.map .char ++ ts) text = .matched ↔ ∃ rest, text = cs ++ rest ∧ matchTokens ts rest = .matched := by
  induction cs generalizing text with
  | nil => simp
  | cons c cs ih =>
    cases text with
    | nil => simp [matchTokens]
    | cons x text =>
      rw [List.map_cons, List.cons_append, matchTokens_char]
      split
      · rename_i heq
        simp [heq, ih]
      · rename_i hne
        simp [hne]

/-- A run of components at the end of a glob takes all that is left. -/
theorem matchTokens_components (text : List Char) : matchTokens [.components] text = .matched := by
  have hstretch : ∀ text, stretch true (matchTokens []) text = .matched := by
    intro text
    induction text with
    | nil => rfl
    | cons c text ih =>
      by_cases hc : c = '/'
      · cases text with
        | nil => simp [stretch, hc, matchTokens]
        | cons d text => simpa [stretch, hc, matchTokens] using ih
      · simpa [stretch, hc] using ih
  cases text with
  | nil => rfl
  | cons c text => simpa [matchTokens] using hstretch (c :: text)

/-! ## Directories -/

namespace IsDirectory

variable {dir : String}

theorem dropHere_eq (h : IsDirectory dir) (rest : List Char) :
    Path.dropHere (dir.toList ++ '/' :: rest) = dir.toList ++ '/' :: rest := by
  have hempty : dir.toList ≠ [] := fun heq => h.ne_empty (String.toList_eq_nil_iff.1 heq)
  have hhere : dir.toList ≠ ['.'] := fun heq => h.ne_here (String.toList_inj.1 heq)
  have hfrom := h.not_from_here
  generalize dir.toList = cs at hempty hhere hfrom
  unfold Path.dropHere
  split
  · rename_i more heq
    cases cs with
    | nil => exact absurd rfl hempty
    | cons c cs =>
      cases cs with
      | nil => simp_all
      | cons d cs => simp_all
  · rfl

theorem subtree?_eq (h : IsDirectory dir) {g : Glob} (hg : g.text = dir.toList ++ ['/', '*', '*']) :
    g.subtree? = some dir.toList := by
  have hreverse : dir.toList.reverse.dropWhile (· = '/') = dir.toList.reverse := by
    cases hlast : dir.toList.reverse with
    | nil => rfl
    | cons c cs =>
      have hc : c ≠ '/' := by
        rintro rfl
        apply h.no_last_slash
        rw [← List.head?_reverse, hlast]
        rfl
      simp [hc]
  rw [subtree?, hg, List.reverse_append]
  simp [hreverse]

/-- The glob of a directory has the text and the units that one would expect. -/
theorem exists_parse (h : IsDirectory dir) : ∃ g, parse (dir ++ "/**") = .ok g ∧
    g.text = dir.toList ++ ['/', '*', '*'] ∧ g.tokens = dir.toList.map .char ++ [.char '/', .components] := by
  have hempty : (dir ++ "/**").isEmpty = false := by simp
  have htext : (dir ++ "/**").toList = dir.toList ++ ['/', '*', '*'] := by simp
  refine ⟨⟨dir ++ "/**", _, _⟩, ?_, rfl, rfl⟩
  simp only [parse, hempty, Bool.false_eq_true, if_false, htext, h.dropHere_eq, read_subtree h.no_wildcard]

/-- Both ways to try the glob of a directory say whether the path begins with it and a slash. -/
theorem accepts_iff (h : IsDirectory dir) {g : Glob} (htext : g.text = dir.toList ++ ['/', '*', '*'])
    (htokens : g.tokens = dir.toList.map .char ++ [.char '/', .components]) (path : String) :
    g.accepts path ↔ (dir ++ "/").toList <+: (Path.slashed path).toList := by
  have hname : g.byName = false := by simp [byName, htext]
  have hunits : matchTokens g.tokens (Path.slashed path).toList = .matched ↔
      (dir ++ "/").toList <+: (Path.slashed path).toList := by
    have htokens' : g.tokens = (dir.toList ++ ['/']).map .char ++ [.components] := by simp [htokens]
    rw [htokens', matchTokens_chars]
    constructor
    · rintro ⟨rest, hpath, -⟩
      exact ⟨rest, by simp [hpath]⟩
    · rintro ⟨rest, hpath⟩
      exact ⟨rest, by simp [← hpath], matchTokens_components rest⟩
  have hbelow : below dir.toList (Path.slashed path).toList ↔ (dir ++ "/").toList <+: (Path.slashed path).toList := by
    simp [below]
  rw [accepts, hname, h.subtree?_eq htext]
  simp only [Bool.false_eq_true, if_false, Bool.or_eq_true, decide_eq_true_eq, Option.any_some, hunits, hbelow, or_self]

end IsDirectory

/-- The glob of a directory is valid and matches the paths that begin with the directory and a slash. To exclude it
takes away these and no others: what lies below the directory, at any depth, and nothing whose name only begins like
it. -/
theorem parse_subtree {dir : String} (h : IsDirectory dir) : ∃ g, parse (dir ++ "/**") = .ok g ∧
    (∀ path, g.accepts path ↔ (dir ++ "/").toList <+: (Path.slashed path).toList) ∧
    (∀ included path, FileFilter.accepts ⟨included, [g]⟩ path ↔
      (∃ i ∈ included, i.accepts path) ∧ ¬(dir ++ "/").toList <+: (Path.slashed path).toList) ∧
    (∀ path rest, Path.slashed path = dir ++ "/" ++ rest → g.accepts path) ∧
    ∀ path rest, Path.slashed path = dir ++ rest → ¬['/'] <+: rest.toList → ¬g.accepts path := by
  obtain ⟨g, hparse, htext, htokens⟩ := h.exists_parse
  have haccepts := h.accepts_iff htext htokens
  refine ⟨g, hparse, haccepts, ?_, ?_, ?_⟩
  · intro included path
    rw [FileFilter.accepts_iff, ← haccepts]
    simp
  · intro path rest hpath
    rw [haccepts, hpath]
    simp
  · intro path rest hpath hrest
    rw [haccepts, hpath]
    simpa using hrest

/-- The directory of a repository is covered with what lies below it, but not the files that begin like it. -/
theorem repository_subtree : IsDirectory ".git" ∧ ∃ g, parse ".git/**" = .ok g ∧ g.accepts "./.git/hooks/é.sample" ∧
    g.accepts ".git/" ∧ ¬g.accepts ".gitignore" ∧ ¬g.accepts ".git" ∧ ¬g.accepts "a/.git/b" := by
  have h : IsDirectory ".git" := ⟨by decide, by simp, by decide, by decide, by decide⟩
  obtain ⟨g, hparse, haccepts, -⟩ := parse_subtree h
  refine ⟨h, g, hparse, ?_⟩
  simp only [haccepts]
  decide

end PatternLint.Glob
