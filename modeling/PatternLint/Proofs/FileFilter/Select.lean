import Mathlib.Data.List.Sort
import PatternLint.FileFilter
import PatternLint.Proofs.Grammar.Compile
import PatternLint.Proofs.Sorting
/-!
# Which files a filter selects

Everything about a path but its spelling is decided by its slashed text: whether it is chosen, where it stands, and
whether it repeats another one. `FileFilter.Selects` says what the selected paths are, in these terms, and
`Selects.unique` that there is one such list only. Main statement: `select_exact`, that `select` gives this list. That the
order of the candidates matters for spellings alone, and that a selection is not changed by selecting from it again,
follow from what the list is.
-/
namespace PatternLint

/-! ## Chosen paths -/

theorem Glob.accepts_congr (g : Glob) {a b : String} (h : Path.slashed a = Path.slashed b) :
    g.accepts a = g.accepts b := by
  unfold accepts
  rw [h]

namespace FileFilter

variable (f : FileFilter) {paths candidates candidates' selected selected' : List String} {p : String}

theorem accepts_congr {a b : String} (h : Path.slashed a = Path.slashed b) : f.accepts a = f.accepts b := by
  unfold accepts
  simp only [fun g : Glob => g.accepts_congr h]

theorem accepts_iff (path : String) :
    f.accepts path ↔ (∃ g ∈ f.included, g.accepts path) ∧ ∀ g ∈ f.excluded, g.accepts path = false := by
  simp [accepts]

/-! ## Neighbours with the same text -/

theorem dropRepeatsAfter_sublist (last : String) (paths : List String) :
    (dropRepeatsAfter last paths).Sublist paths := by
  fun_induction dropRepeatsAfter last paths with
  | case1 last => exact .refl _
  | case2 last a paths _ ih => exact ih.cons a
  | case3 last a paths _ ih => exact ih.cons_cons a

theorem dropRepeats_sublist (paths : List String) : (dropRepeats paths).Sublist paths := by
  cases paths with
  | nil => exact .refl _
  | cons a paths => exact (dropRepeatsAfter_sublist a paths).cons_cons a

theorem exists_mem_dropRepeatsAfter {last : String} (h : p ∈ last :: paths) :
    ∃ q ∈ last :: dropRepeatsAfter last paths, Path.slashed q = Path.slashed p := by
  fun_induction dropRepeatsAfter last paths with
  | case1 last => exact ⟨p, h, rfl⟩
  | case2 last a paths hsame ih =>
    obtain rfl | rfl | h : p = last ∨ p = a ∨ p ∈ paths := by simpa using h
    · exact ih (by simp)
    · exact ⟨last, by simp, hsame⟩
    · exact ih (by simp [h])
  | case3 last a paths _ ih =>
    rcases List.mem_cons.1 h with rfl | h
    · exact ⟨p, by simp, rfl⟩
    · obtain ⟨q, hq, hqp⟩ := ih h
      exact ⟨q, List.mem_cons_of_mem _ hq, hqp⟩

theorem exists_mem_dropRepeats (h : p ∈ paths) : ∃ q ∈ dropRepeats paths, Path.slashed q = Path.slashed p := by
  cases paths with
  | nil => simp at h
  | cons a paths => exact exists_mem_dropRepeatsAfter h

/-- The paths come in the order of their texts. -/
abbrev Ascending (paths : List String) : Prop := paths.Pairwise fun a b => Path.slashed a ≤ Path.slashed b

/-- In a sorted list all texts that repeat are dropped, as they are neighbours. -/
theorem dropRepeatsAfter_increasing {last : String} (h : Ascending (last :: paths)) :
    (last :: dropRepeatsAfter last paths).Pairwise fun a b => Path.slashed a < Path.slashed b := by
  fun_induction dropRepeatsAfter last paths with
  | case1 last => exact List.pairwise_singleton _ last
  | case2 last a paths _ ih => exact ih (h.sublist ((List.sublist_cons_self a paths).cons_cons last))
  | case3 last a paths hne ih =>
    rw [Ascending, List.pairwise_cons] at h
    have hlt : Path.slashed last < Path.slashed a :=
      String.not_le.1 fun hle => hne (String.le_antisymm (h.1 a (by simp)) hle)
    refine List.pairwise_cons.2 ⟨fun q hq => ?_, ih h.2⟩
    rcases List.mem_cons.1 hq with rfl | hq
    · exact hlt
    · exact String.lt_trans hlt ((List.pairwise_cons.1 (ih h.2)).1 q hq)

theorem dropRepeats_increasing (h : Ascending paths) :
    (dropRepeats paths).Pairwise fun a b => Path.slashed a < Path.slashed b := by
  cases paths with
  | nil => exact .nil
  | cons a paths => exact dropRepeatsAfter_increasing h

/-- Of a sorted list the first path of each text is kept. -/
theorem find?_of_mem_dropRepeatsAfter {last : String} (h : Ascending (last :: paths))
    (hp : p ∈ last :: dropRepeatsAfter last paths) :
    (last :: paths).find? (Path.slashed · = Path.slashed p) = some p := by
  fun_induction dropRepeatsAfter last paths with
  | case1 last =>
    obtain rfl := List.mem_singleton.1 hp
    simp
  | case2 last a paths hsame ih =>
    -- the dropped path has the text of the one before it, so that it is never found first
    have ih := ih (h.sublist ((List.sublist_cons_self a paths).cons_cons last)) hp
    by_cases hlast : Path.slashed last = Path.slashed p
    · simpa [hlast] using ih
    · simpa [hlast, hsame ▸ hlast] using ih
  | case3 last a paths hne ih =>
    rcases List.mem_cons.1 hp with rfl | hp
    · simp
    · have hlast : Path.slashed last ≠ Path.slashed p := by
        have hlt := (List.pairwise_cons.1 (dropRepeatsAfter_increasing h)).1 p (by simpa [dropRepeatsAfter, hne] using hp)
        exact fun heq => String.lt_irrefl _ (heq ▸ hlt)
      rw [List.find?_cons_of_neg (by simpa using hlast)]
      exact ih (List.pairwise_cons.1 h).2 hp

theorem find?_of_mem_dropRepeats (h : Ascending paths) (hp : p ∈ dropRepeats paths) :
    paths.find? (Path.slashed · = Path.slashed p) = some p := by
  cases paths with
  | nil => simp [dropRepeats] at hp
  | cons a paths => exact find?_of_mem_dropRepeatsAfter h hp

/-! ## Sorting by text -/

theorem totalLE_slashed : TotalLE fun a b => decide (Path.slashed a ≤ Path.slashed b) where
  trans a b c hab hbc := by
    simp only [decide_eq_true_eq] at *
    exact String.le_trans hab hbc
  total a b := by simpa using String.le_total (Path.slashed a) (Path.slashed b)

theorem ascending_mergeSort (paths : List String) :
    Ascending (paths.mergeSort fun a b => decide (Path.slashed a ≤ Path.slashed b)) := by
  simpa using totalLE_slashed.pairwise_mergeSort paths

/-- The first path of a text is the first one after sorting, too. -/
theorem find?_mergeSort (paths : List String) (p : String) :
    (paths.mergeSort fun a b => decide (Path.slashed a ≤ Path.slashed b)).find? (Path.slashed · = Path.slashed p) =
      paths.find? (Path.slashed · = Path.slashed p) := by
  have htied : TotalLE.tied (fun a b => decide (Path.slashed a ≤ Path.slashed b)) p =
      fun q => decide (Path.slashed q = Path.slashed p) := by
    funext q
    rw [Bool.eq_iff_iff]
    simp only [TotalLE.tied, Bool.and_eq_true, decide_eq_true_eq]
    exact ⟨fun h => String.le_antisymm h.2 h.1, fun h => by simp [h]⟩
  have hfilter := totalLE_slashed.filter_tied_mergeSort p paths
  rw [htied] at hfilter
  rw [← List.head?_filter, hfilter, List.head?_filter]

/-! ## Selections -/

theorem mem_of_mem_select (h : p ∈ f.select candidates) : p ∈ candidates ∧ f.accepts p := by
  simpa using (dropRepeats_sublist _).subset h

/-- Of each accepted candidate the text is selected, if not the spelling. -/
theorem exists_mem_select (h : p ∈ candidates) (ha : f.accepts p) :
    ∃ q ∈ f.select candidates, Path.slashed q = Path.slashed p :=
  exists_mem_dropRepeats (by simp [h, ha])

/-- The selected paths have the texts of the candidates that match a glob to include and none to exclude, in increasing
order, and each is spelled like the first candidate of its text. -/
structure Selects (candidates selected : List String) : Prop where
  increasing : selected.Pairwise fun a b => Path.slashed a < Path.slashed b
  text_iff : ∀ text, text ∈ selected.map Path.slashed ↔ ∃ c ∈ candidates, Path.slashed c = text ∧
    (∃ g ∈ f.included, g.accepts c) ∧ ∀ g ∈ f.excluded, g.accepts c = false
  first : ∀ p ∈ selected, candidates.find? (Path.slashed · = Path.slashed p) = some p

theorem select_increasing (candidates : List String) :
    (f.select candidates).Pairwise fun a b => Path.slashed a < Path.slashed b :=
  dropRepeats_increasing (ascending_mergeSort _)

/-- The selected paths have different texts. -/
theorem select_nodup (candidates : List String) : ((f.select candidates).map Path.slashed).Nodup :=
  (List.pairwise_map.2 (f.select_increasing candidates)).nodup

theorem find?_of_mem_select (h : p ∈ f.select candidates) :
    candidates.find? (Path.slashed · = Path.slashed p) = some p := by
  have hfirst := find?_of_mem_dropRepeats (ascending_mergeSort _) h
  rw [find?_mergeSort, List.find?_filter] at hfirst
  -- candidates that are not accepted have another text
  have hclass : ∀ q, (f.accepts q ∧ decide (Path.slashed q = Path.slashed p)) ↔ Path.slashed q = Path.slashed p := by
    intro q
    rw [decide_eq_true_eq, and_iff_right_iff_imp]
    intro heq
    rw [f.accepts_congr heq]
    exact (f.mem_of_mem_select h).2
  simpa only [hclass] using hfirst

theorem select_selects (candidates : List String) : f.Selects candidates (f.select candidates) where
  increasing := f.select_increasing candidates
  text_iff text := by
    simp only [List.mem_map, ← accepts_iff]
    constructor
    · rintro ⟨p, hp, rfl⟩
      obtain ⟨hmem, haccepts⟩ := f.mem_of_mem_select hp
      exact ⟨p, hmem, rfl, haccepts⟩
    · rintro ⟨c, hc, rfl, haccepts⟩
      exact f.exists_mem_select hc haccepts
  first _ hp := f.find?_of_mem_select hp

theorem find?_of_increasing (h : paths.Pairwise fun a b => Path.slashed a < Path.slashed b) (hp : p ∈ paths) :
    paths.find? (Path.slashed · = Path.slashed p) = some p := by
  induction h with
  | nil => simp at hp
  | @cons a paths ha _ ih =>
    rcases List.mem_cons.1 hp with rfl | hp
    · simp
    · have hne : Path.slashed a ≠ Path.slashed p := fun heq => String.lt_irrefl _ (heq ▸ ha p hp)
      rw [List.find?_cons_of_neg (by simpa using hne)]
      exact ih hp

namespace Selects

variable {f}

/-- The texts depend on what the candidates are, not on their order or number. -/
theorem texts_eq (hmem : ∀ c, c ∈ candidates ↔ c ∈ candidates') (h : f.Selects candidates selected)
    (h' : f.Selects candidates' selected') : selected.map Path.slashed = selected'.map Path.slashed := by
  refine List.Pairwise.eq_of_mem_iff (List.pairwise_map.2 h.increasing) (List.pairwise_map.2 h'.increasing) fun text => ?_
  simp only [h.text_iff, h'.text_iff, hmem]

/-- The texts and the candidates give the spellings. -/
theorem eq_filterMap (h : f.Selects candidates selected) : selected =
    (selected.map Path.slashed).filterMap fun text => candidates.find? (Path.slashed · = text) := by
  calc selected = selected.filterMap some := List.filterMap_some.symm
    _ = selected.filterMap fun p => candidates.find? (Path.slashed · = Path.slashed p) :=
      List.filterMap_congr fun p hp => (h.first p hp).symm
    _ = _ := by rw [List.filterMap_map, Function.comp_def]

theorem unique (h : f.Selects candidates selected) (h' : f.Selects candidates selected') : selected = selected' := by
  rw [h.eq_filterMap, h'.eq_filterMap, h.texts_eq (fun _ => Iff.rfl) h']

/-- What is selected is also what is selected from it. -/
theorem self (h : f.Selects candidates selected) : f.Selects selected selected where
  increasing := h.increasing
  text_iff text := by
    simp only [List.mem_map, ← accepts_iff]
    constructor
    · rintro ⟨p, hp, rfl⟩
      obtain ⟨c, -, hcp, hchosen⟩ := (h.text_iff _).1 (List.mem_map_of_mem hp)
      rw [← accepts_iff, f.accepts_congr hcp] at hchosen
      exact ⟨p, hp, rfl, hchosen⟩
    · rintro ⟨p, hp, htext, -⟩
      exact ⟨p, hp, htext⟩
  first _ hp := find?_of_increasing h.increasing hp

end Selects

/-- A filter selects the chosen texts in increasing order, each in its first spelling. In another order the same
candidates give the same texts, and what is selected from a selection is the selection. -/
theorem select_exact (candidates : List String) : f.Selects candidates (f.select candidates) ∧
    (∀ candidates', candidates'.Perm candidates →
      (f.select candidates').map Path.slashed = (f.select candidates).map Path.slashed) ∧
    f.select (f.select candidates) = f.select candidates := by
  have hselects := f.select_selects candidates
  refine ⟨hselects, fun candidates' hperm => ?_, (f.select_selects _).unique hselects.self⟩
  exact (f.select_selects candidates').texts_eq (fun _ => hperm.mem_iff) hselects

/-- Python files, one of them a test and one under three spellings that have the same text. -/
def pythonFiles : List String := ["b.py", "a\\z.py", "test_b.py", "./a/z.py", "a.py", "a/z.py"]

theorem python_select_exact : ∃ f, parse ["*.py"] ["test_*.py"] = .ok f ∧
    f.select pythonFiles = ["a.py", "a\\z.py", "b.py"] ∧ f.Selects pythonFiles ["a.py", "a\\z.py", "b.py"] ∧
    pythonFiles.reverse.Perm pythonFiles ∧
    (f.select pythonFiles.reverse).map Path.slashed = ["a.py", "a/z.py", "b.py"] ∧
    f.select ["a.py", "a\\z.py", "b.py"] = ["a.py", "a\\z.py", "b.py"] := by
  have h : (parse ["*.py"] ["test_*.py"]).toOption.map (·.select pythonFiles) =
      some ["a.py", "a\\z.py", "b.py"] := by
    simp only [select, totalLE_slashed.mergeSort_eq_insertSort]
    decide +kernel
  obtain ⟨f, hf, hselect⟩ := toOption_map_ok h
  have hperm : pythonFiles.reverse.Perm pythonFiles := List.reverse_perm _
  have htexts : (f.select pythonFiles.reverse).map Path.slashed = ["a.py", "a/z.py", "b.py"] := by
    rw [(f.select_exact pythonFiles).2.1 _ hperm, hselect]
    decide +kernel
  obtain ⟨hselects, -, hagain⟩ := f.select_exact pythonFiles
  rw [hselect] at hselects hagain
  exact ⟨f, hf, hselect, hselects, hperm, htexts, hagain⟩

end FileFilter

end PatternLint
