import Mathlib.Data.List.Pairwise
import Mathlib.Data.List.Perm.Basic
import PatternLint.Proofs.FileFilter.Select
import PatternLint.Proofs.Grammar.Compile
import PatternLint.Proofs.Path.Order
import PatternLint.Scan.Plan
/-!
# What a plan holds

A rule selects its files by their slashed text, a plan joins them by their components, and the two readings of a path
need not agree. `make_increasing` and `rules_eq` say what holds in any case: a path has one task at most, and a rule
stands in it once for each text that the rule selected for the path. Where the two readings agree on the candidates,
each rule stands in the one task of each of its files exactly once. Otherwise a path whose text is that of another path
can be lost, and a path with two texts is scanned twice.
-/
namespace PatternLint

/-! ## Lists with keys -/

section Keys

variable {α β κ : Type} [DecidableEq κ] {key : α → κ} {l : List α}

theorem filter_key_of_nodup (h : (l.map key).Nodup) {a : α} (ha : a ∈ l) : l.filter (key · = key a) = [a] := by
  have hn : (l.filter (key · = key a)).Nodup := (List.Nodup.of_map _ h).filter _
  refine List.perm_singleton.1 ((List.perm_ext_iff_of_nodup hn (List.nodup_singleton a)).2 fun b => ?_)
  simp only [List.mem_filter, decide_eq_true_eq, List.mem_singleton]
  constructor
  · rintro ⟨hb, hk⟩
    exact List.inj_on_of_nodup_map h hb ha hk
  · rintro rfl
    exact ⟨ha, rfl⟩

/-- Where every element brings things of its own key, those of one key come from the elements of that key. -/
theorem filter_flatMap_key {f : α → List β} {of : β → κ} (h : ∀ a ∈ l, ∀ b ∈ f a, of b = key a) (k : κ) :
    (l.flatMap f).filter (of · = k) = (l.filter (key · = k)).flatMap f := by
  induction l with
  | nil => rfl
  | cons a l ih =>
    have ih := ih fun b hb => h b (by simp [hb])
    rw [List.flatMap_cons, List.filter_append, ih, List.filter_cons]
    by_cases hk : key a = k
    · rw [List.filter_eq_self.2 fun b hb => by simpa [hk] using h a (by simp) b hb]
      simp [hk]
    · rw [List.filter_eq_nil_iff.2 fun b hb => by simpa [h a (by simp) b hb] using hk]
      simp [hk]

end Keys

/-! ## Tasks -/

namespace Path

theorem totalLE_compare : TotalLE fun a b => (Path.compare a b).isLE :=
  (TotalLE.of_cmp compareComponents).comap components

end Path

namespace Plan

/-- The rules of a task, each with the key of the task. -/
def pairs (e : List Component × Task) : List (List Component × Rule) := e.2.rules.map (e.1, ·)

variable {s : Selection} {l : List Selection} {e : List Component × Task} {g : List (List Component × Task)}

theorem mem_join (h : e ∈ join s g) : (e.1 = s.key ∧ e.2.path = s.path ∧ e.2.rules ≠ []) ∨ e ∈ g := by
  cases g with
  | nil =>
    obtain rfl : e = (s.key, ⟨s.path, [s.rule]⟩) := by simpa [join] using h
    exact .inl ⟨rfl, rfl, by simp⟩
  | cons head ts =>
    obtain ⟨key, t⟩ := head
    rw [join] at h
    split at h <;> rcases List.mem_cons.1 h with rfl | h
    · exact .inl ⟨‹_›, rfl, by simp⟩
    · exact .inr (by simp [h])
    · exact .inl ⟨rfl, rfl, by simp⟩
    · exact .inr h

/-- Every task has rules and the key and path of a selection. -/
theorem mem_foldr_join (h : e ∈ l.foldr join []) : e.2.rules ≠ [] ∧ ∃ s ∈ l, s.key = e.1 ∧ s.path = e.2.path := by
  induction l with
  | nil => simp at h
  | cons s l ih =>
    rcases mem_join h with ⟨hkey, hpath, hrules⟩ | h
    · exact ⟨hrules, s, by simp, hkey.symm, hpath.symm⟩
    · obtain ⟨hrules, s', hs', hs⟩ := ih h
      exact ⟨hrules, s', by simp [hs'], hs⟩

theorem flatMap_pairs_join : (join s g).flatMap pairs = (s.key, s.rule) :: g.flatMap pairs := by
  cases g with
  | nil => rfl
  | cons head ts =>
    obtain ⟨key, t⟩ := head
    rw [join]
    split
    · subst key
      simp [pairs]
    · simp [pairs]

/-- Joining loses no selection and adds none. -/
theorem flatMap_pairs_foldr_join (l : List Selection) :
    (l.foldr join []).flatMap pairs = l.map fun s => (s.key, s.rule) := by
  induction l with
  | nil => rfl
  | cons s l ih => rw [List.foldr_cons, flatMap_pairs_join, ih, List.map_cons]

/-- The selections of one key, once sorted, make one task. -/
theorem foldr_join_increasing (h : l.Pairwise fun a b => (Path.compareComponents a.key b.key).isLE) :
    (l.foldr join []).Pairwise fun e e' => Path.compareComponents e.1 e'.1 = .lt := by
  induction l with
  | nil => exact .nil
  | cons s l ih =>
    rw [List.pairwise_cons] at h
    have ih := ih h.2
    have hle : ∀ e ∈ l.foldr join [], (Path.compareComponents s.key e.1).isLE := by
      intro e he
      obtain ⟨-, s', hs', hkey, -⟩ := mem_foldr_join he
      exact hkey ▸ h.1 s' hs'
    rw [List.foldr_cons]
    cases hg : l.foldr join [] with
    | nil => simp [join]
    | cons head ts =>
      obtain ⟨key, t⟩ := head
      rw [hg] at ih hle
      rw [join]
      split
      · exact List.pairwise_cons.2 (List.pairwise_cons.1 ih)
      · rename_i hne
        have hlt : Path.compareComponents s.key key = .lt := by
          have hle := hle (key, t) (by simp)
          cases hc : Path.compareComponents s.key key with
          | lt => rfl
          | eq => exact (hne (Std.LawfulEqCmp.eq_of_compare hc).symm).elim
          | gt => simp [hc] at hle
        refine List.pairwise_cons.2 ⟨fun e he => ?_, ih⟩
        rcases List.mem_cons.1 he with rfl | he
        · exact hlt
        · exact Std.TransCmp.lt_trans hlt ((List.pairwise_cons.1 ih).1 e he)

variable (rules : List Rule) (candidates : List String)

/-- The selections in the order of the plan. -/
def sorted : List Selection :=
  (selections rules candidates).mergeSort fun a b => (Path.compareComponents a.key b.key).isLE

theorem make_eq : make rules candidates = ((sorted rules candidates).foldr join []).map (·.2) := rfl

theorem totalLE_key : TotalLE fun a b : Selection => (Path.compareComponents a.key b.key).isLE :=
  (TotalLE.of_cmp Path.compareComponents).comap Selection.key

theorem sorted_foldr_increasing : ((sorted rules candidates).foldr join []).Pairwise fun e e' =>
    Path.compareComponents e.1 e'.1 = .lt :=
  foldr_join_increasing (totalLE_key.pairwise_mergeSort _)

theorem keys_nodup : (((sorted rules candidates).foldr join []).map (·.1)).Nodup := by
  refine List.pairwise_map.2 ((sorted_foldr_increasing rules candidates).imp fun {e e'} hlt heq => ?_)
  rw [heq, Path.compareComponents_self] at hlt
  cases hlt

/-- A plan in a form that can be computed with. -/
theorem make_eq_insertSort : make rules candidates =
    ((insertSort (fun a b : Selection => (Path.compareComponents a.key b.key).isLE) (rules.flatMap fun r =>
      (FileFilter.dropRepeats (insertSort (fun a b => decide (Path.slashed a ≤ Path.slashed b))
        (candidates.filter r.accepts))).map fun path => ⟨Path.components path, path, r⟩)).foldr join []).map (·.2) := by
  simp only [make, selections, Rule.select, FileFilter.select, totalLE_key.mergeSort_eq_insertSort,
    FileFilter.totalLE_slashed.mergeSort_eq_insertSort]
  rfl

variable {rules candidates} {t : Task} {r : Rule} {p : String}

theorem mem_sorted : s ∈ sorted rules candidates ↔
    ∃ r ∈ rules, ∃ p ∈ r.select candidates, ⟨Path.components p, p, r⟩ = s := by
  simp [sorted, selections]

theorem key_eq (h : e ∈ (sorted rules candidates).foldr join []) : e.1 = Path.components e.2.path := by
  obtain ⟨-, s, hs, hkey, hpath⟩ := mem_foldr_join h
  obtain ⟨r, -, p, -, rfl⟩ := mem_sorted.1 hs
  rw [← hkey, ← hpath]

/-- A task with its key is found among the joined selections. -/
theorem mem_make (h : t ∈ make rules candidates) :
    (Path.components t.path, t) ∈ (sorted rules candidates).foldr join [] := by
  rw [make_eq] at h
  obtain ⟨e, he, rfl⟩ := List.mem_map.1 h
  rw [← key_eq he]
  exact he

/-- No two tasks are for one path, and tasks come in the order of their paths. -/
theorem make_increasing (rules : List Rule) (candidates : List String) :
    (make rules candidates).Pairwise fun t u => Path.compare t.path u.path = .lt := by
  rw [make_eq, List.pairwise_map]
  refine (sorted_foldr_increasing rules candidates).imp_of_mem fun {e e'} he he' hlt => ?_
  rw [Path.compare, ← key_eq he, ← key_eq he']
  exact hlt

theorem components_nodup (rules : List Rule) (candidates : List String) :
    ((make rules candidates).map fun t => Path.components t.path).Nodup := by
  have hkeys : ((sorted rules candidates).foldr join []).map (·.1) =
      (make rules candidates).map fun t => Path.components t.path := by
    rw [make_eq, List.map_map]
    exact List.map_congr_left fun e he => key_eq he
  exact hkeys ▸ keys_nodup rules candidates

theorem rules_ne_nil (h : t ∈ make rules candidates) : t.rules ≠ [] := (mem_foldr_join (mem_make h)).1

theorem path_mem (h : t ∈ make rules candidates) : t.path ∈ candidates := by
  obtain ⟨-, s, hs, -, hpath⟩ := mem_foldr_join (mem_make h)
  obtain ⟨r, -, p, hp, rfl⟩ := mem_sorted.1 hs
  exact hpath ▸ (r.filter.mem_of_mem_select hp).1

/-- Every path that a rule selects has a task. -/
theorem exists_task (hr : r ∈ rules) (hp : p ∈ r.select candidates) :
    ∃ t ∈ make rules candidates, Path.same t.path p := by
  have hs : (Path.components p, r) ∈ (sorted rules candidates).map fun s => (s.key, s.rule) :=
    List.mem_map.2 ⟨_, mem_sorted.2 ⟨r, hr, p, hp, rfl⟩, rfl⟩
  rw [← flatMap_pairs_foldr_join] at hs
  obtain ⟨e, he, hpair⟩ := List.mem_flatMap.1 hs
  obtain ⟨_, -, heq⟩ := List.mem_map.1 hpair
  refine ⟨e.2, List.mem_map.2 ⟨e, he, rfl⟩, Path.same_iff.2 ?_⟩
  rw [← key_eq he, (Prod.mk.inj heq).1]

/-- The selections of one path come in the order of the rules. -/
theorem filter_sorted (k : List Component) :
    (sorted rules candidates).filter (·.key = k) = (selections rules candidates).filter (·.key = k) := by
  rw [sorted, totalLE_key.filter_mergeSort]
  refine List.mergeSort_of_pairwise (List.pairwise_of_forall_mem_list fun a ha b hb => ?_)
  simp only [List.mem_filter, decide_eq_true_eq] at ha hb
  rw [ha.2, hb.2, Path.compareComponents_self]
  rfl

/-- The rules of a task come in their order, each as often as it selected the path under different texts. -/
theorem rules_eq (h : t ∈ make rules candidates) :
    t.rules = rules.flatMap fun r => List.replicate ((r.select candidates).countP (Path.same t.path)) r := by
  let k := Path.components t.path
  have hown := filter_key_of_nodup (keys_nodup rules candidates) (mem_make h)
  -- the pairs of key `k`, read off the task on the one hand and off the selections on the other
  have hpairs : t.rules.map (k, ·) =
      ((selections rules candidates).filter (·.key = k)).map fun s => (s.key, s.rule) := by
    calc t.rules.map (k, ·)
      _ = (((sorted rules candidates).foldr join []).filter (·.1 = k)).flatMap pairs := by
        rw [hown]
        simp [pairs, k]
      _ = (((sorted rules candidates).foldr join []).flatMap pairs).filter (·.1 = k) := by
        refine (filter_flatMap_key (fun e _ b hb => ?_) k).symm
        obtain ⟨r, -, rfl⟩ := List.mem_map.1 hb
        rfl
      _ = ((sorted rules candidates).filter (·.key = k)).map fun s => (s.key, s.rule) := by
        rw [flatMap_pairs_foldr_join, List.filter_map]
        rfl
      _ = _ := by rw [filter_sorted]
  have hrules := congrArg (List.map Prod.snd) hpairs
  simp only [List.map_map, Function.comp_def, List.map_id'] at hrules
  rw [hrules, selections, List.filter_flatMap, List.map_flatMap]
  refine List.flatMap_congr fun r _ => ?_
  have hsame : ∀ p ∈ r.select candidates, Path.same t.path p = decide (Path.components p = k) := by
    intro p _
    rw [Bool.eq_iff_iff, Path.same_iff, decide_eq_true_eq, eq_comm]
  rw [List.filter_map, List.map_map, List.countP_eq_length_filter, List.filter_congr hsame]
  exact List.map_const'

/-! ## Each file and rule once -/

/-- On these paths the two readings agree: they have the same text exactly if they have the same components. -/
def Agree (paths : List String) : Prop :=
  ∀ a ∈ paths, ∀ b ∈ paths, Path.slashed a = Path.slashed b ↔ Path.same a b

theorem countP_select (r : Rule) (h : Agree candidates) (hp : p ∈ candidates) :
    (r.select candidates).countP (Path.same p) = if r.accepts p then 1 else 0 := by
  have hsame : ∀ q ∈ r.select candidates, (Path.same p q ↔ (Path.slashed q == Path.slashed p)) := by
    intro q hq
    rw [← h p hp q (r.filter.mem_of_mem_select hq).1, beq_iff_eq, eq_comm]
  have hnodup : ((r.select candidates).map Path.slashed).Nodup := r.filter.select_nodup candidates
  have hmem : Path.slashed p ∈ (r.select candidates).map Path.slashed ↔ r.accepts p := by
    rw [List.mem_map]
    constructor
    · rintro ⟨q, hq, heq⟩
      have := (r.filter.mem_of_mem_select hq).2
      rwa [r.filter.accepts_congr heq] at this
    · exact r.filter.exists_mem_select hp
  rw [List.countP_congr hsame]
  have hcount := hnodup.count (a := Path.slashed p)
  rw [List.count, List.countP_map] at hcount
  rw [← if_congr hmem rfl rfl, ← hcount]
  rfl

/-- Where the two readings agree, the task of a path has the rules that accept the path, in their order. -/
theorem rules_eq_filter (h : Agree candidates) (ht : t ∈ make rules candidates) :
    t.rules = rules.filter (·.accepts t.path) := by
  have hone : ∀ l : List Rule, (l.flatMap fun r => List.replicate (if r.accepts t.path then 1 else 0) r) =
      l.filter (·.accepts t.path) := by
    intro l
    induction l with
    | nil => rfl
    | cons r l ih =>
      rw [List.flatMap_cons, ih, List.filter_cons]
      split <;> rfl
  rw [rules_eq ht, ← hone]
  exact List.flatMap_congr fun r _ => by rw [countP_select r h (path_mem ht)]

/-- Whether a rule has to look at a path: it accepts a candidate that names it. -/
def wanted (candidates : List String) (p : String) (r : Rule) : Bool :=
  candidates.any fun c => Path.same c p && r.accepts c

/-- Every path that a rule has to look at has one task, and the rules of the task are those, each once. -/
def EachOnce (rules : List Rule) (candidates : List String) : Prop :=
  ∀ p, (∃ r ∈ rules, wanted candidates p r) →
    ∃ t, (make rules candidates).filter (Path.same p ·.path) = [t] ∧ t.rules = rules.filter (wanted candidates p)

theorem wanted_eq_accepts (h : Agree candidates) {c : String} (hc : c ∈ candidates) (hcp : Path.same c p) (r : Rule) :
    wanted candidates p r = r.accepts c := by
  rw [Bool.eq_iff_iff, wanted, List.any_eq_true]
  simp only [Bool.and_eq_true]
  constructor
  · rintro ⟨d, hd, hdp, haccepts⟩
    have hcd : Path.same d c := Path.same_trans hdp (Path.same_symm hcp)
    rwa [Rule.accepts, r.filter.accepts_congr ((h d hd c hc).2 hcd)] at haccepts
  · exact fun haccepts => ⟨c, hc, hcp, haccepts⟩

/-- The tasks of a path, if there are any, are one. -/
theorem filter_same (ht : t ∈ make rules candidates) (hp : Path.same p t.path) :
    (make rules candidates).filter (Path.same p ·.path) = [t] := by
  rw [← filter_key_of_nodup (components_nodup rules candidates) ht]
  refine List.filter_congr fun u _ => ?_
  rw [Bool.eq_iff_iff, Path.same_iff, decide_eq_true_eq, Path.same_iff.1 hp, eq_comm]

/-- A plan has one task at most for a path, with the rules that selected the path in their order, once for each text that
they selected it under; every selected path has its task. Where texts and components agree on the candidates, every
path that a rule has to look at has one task, with each such rule once. -/
theorem make_eachOnce (rules : List Rule) (candidates : List String) :
    (make rules candidates).Pairwise (fun t u => Path.compare t.path u.path = .lt) ∧
    (∀ t ∈ make rules candidates, t.path ∈ candidates ∧ t.rules ≠ [] ∧
      t.rules = rules.flatMap fun r => List.replicate ((r.select candidates).countP (Path.same t.path)) r) ∧
    (∀ r ∈ rules, ∀ p ∈ r.select candidates, ∃ t ∈ make rules candidates, Path.same t.path p) ∧
    (Agree candidates → EachOnce rules candidates) := by
  refine ⟨make_increasing rules candidates, fun t ht => ⟨path_mem ht, rules_ne_nil ht, rules_eq ht⟩,
    fun r hr p hp => exists_task hr hp, fun hagree p ⟨r, hr, hwanted⟩ => ?_⟩
  obtain ⟨c, hc, hcp⟩ := List.any_eq_true.1 hwanted
  rw [Bool.and_eq_true] at hcp
  obtain ⟨q, hq, hqc⟩ := r.filter.exists_mem_select hc hcp.2
  obtain ⟨t, ht, htq⟩ := exists_task hr hq
  -- the task is that of the selected spelling, which names the same file
  have hqc : Path.same q c := (hagree q (r.filter.mem_of_mem_select hq).1 c hc).1 hqc
  have htp : Path.same t.path p := Path.same_trans htq (Path.same_trans hqc hcp.1)
  refine ⟨t, filter_same ht (Path.same_symm htp), ?_⟩
  rw [rules_eq_filter hagree ht]
  exact List.filter_congr fun r _ => (wanted_eq_accepts hagree (path_mem ht) htp r).symm

/-- Looks for notes in every file. -/
def todo : RuleDefinition where
  name := "todo"
  description := "TODO left in code"
  capture := some (.pattern "TODO" {})
  severity := some .warning
  included := ["*"]

/-- A repeated candidate is planned once, a directory before the file that its name begins. -/
theorem todo_eachOnce : ∃ r, todo.check = .ok r ∧ Agree ["b.py", "a/z.py", "a.py", "b.py"] ∧
    EachOnce [r] ["b.py", "a/z.py", "a.py", "b.py"] ∧
    (make [r] ["b.py", "a/z.py", "a.py", "b.py"]).map (fun t => (t.path, t.rules.length)) =
      [("a/z.py", 1), ("a.py", 1), ("b.py", 1)] := by
  have h : (todo.check.toOption.map fun r => (make [r] ["b.py", "a/z.py", "a.py", "b.py"]).map fun t =>
      (t.path, t.rules.length)) = some [("a/z.py", 1), ("a.py", 1), ("b.py", 1)] := by
    simp only [make_eq_insertSort]
    decide +kernel
  obtain ⟨r, hr, hplan⟩ := toOption_map_ok h
  have hagree : Agree ["b.py", "a/z.py", "a.py", "b.py"] := by
    unfold Agree
    decide +kernel
  exact ⟨r, hr, hagree, (make_eachOnce [r] _).2.2.2 hagree, hplan⟩

theorem EachOnce.map_length (h : EachOnce [r] candidates) (hp : wanted candidates p r) :
    ((make [r] candidates).filter (Path.same p ·.path)).map (·.rules.length) = [1] := by
  obtain ⟨t, ht, hrules⟩ := h p ⟨r, by simp, hp⟩
  simp [ht, hrules, hp]

/-- A file under two spellings with different texts is scanned twice by one rule, and of two files whose texts differ by
the kind of their slashes one is not scanned at all. -/
theorem todo_not_eachOnce : ∃ r, todo.check = .ok r ∧
    ¬EachOnce [r] ["a/b", "a//b"] ∧ ¬EachOnce [r] ["a/b", "a\\b"] := by
  have h : (todo.check.toOption.map fun r =>
      ((wanted ["a/b", "a//b"] "a/b" r, wanted ["a/b", "a\\b"] "a\\b" r),
        ((make [r] ["a/b", "a//b"]).filter (Path.same "a/b" ·.path)).map (·.rules.length),
        ((make [r] ["a/b", "a\\b"]).filter (Path.same "a\\b" ·.path)).map (·.rules.length))) =
      some ((true, true), [2], []) := by
    simp only [make_eq_insertSort]
    decide +kernel
  obtain ⟨r, hr, heq⟩ := toOption_map_ok h
  simp only [Prod.mk.injEq] at heq
  obtain ⟨⟨hdouble, hlost⟩, htwo, hnone⟩ := heq
  refine ⟨r, hr, fun honce => ?_, fun honce => ?_⟩
  · have := honce.map_length hdouble
    rw [htwo] at this
    cases this
  · have := honce.map_length hlost
    rw [hnone] at this
    cases this

/-! ## Distinct candidates -/

/-- No two of the paths have the same components or the same text. -/
def Distinct (paths : List String) : Prop :=
  paths.Pairwise fun a b => ¬Path.same a b ∧ Path.slashed a ≠ Path.slashed b

namespace Distinct

variable {paths : List String} {a b : String} (h : Distinct paths)

include h

theorem filter (q : String → Bool) : Distinct (paths.filter q) := h.sublist List.filter_sublist

theorem perm {paths' : List String} (hp : paths'.Perm paths) : Distinct paths' :=
  (hp.pairwise_iff fun hab => ⟨fun hba => hab.1 (Path.same_symm hba), hab.2.symm⟩).2 h

theorem nodup : paths.Nodup := h.imp fun hab heq => hab.2 (congrArg _ heq)

theorem ne (ha : a ∈ paths) (hb : b ∈ paths) (hne : a ≠ b) : ¬Path.same a b ∧ Path.slashed a ≠ Path.slashed b := by
  have hsymm : Std.Symm fun a b => ¬Path.same a b ∧ Path.slashed a ≠ Path.slashed b :=
    ⟨fun a b hab => ⟨fun hba => hab.1 (Path.same_symm hba), hab.2.symm⟩⟩
  exact List.Pairwise.forall h ha hb hne

theorem eq_of_same (ha : a ∈ paths) (hb : b ∈ paths) (hab : Path.same a b) : a = b :=
  by_contra fun hne => (h.ne ha hb hne).1 hab

theorem eq_of_slashed (ha : a ∈ paths) (hb : b ∈ paths) (hab : Path.slashed a = Path.slashed b) : a = b :=
  by_contra fun hne => (h.ne ha hb hne).2 hab

theorem agree : Agree paths := by
  intro a ha b hb
  constructor
  · intro hab
    obtain rfl := h.eq_of_slashed ha hb hab
    exact Path.same_iff.2 rfl
  · intro hab
    rw [h.eq_of_same ha hb hab]

end Distinct

/-- The task of a path with all rules that accept it. -/
def taskOf (rules : List Rule) (p : String) : Task := ⟨p, rules.filter (·.accepts p)⟩

theorem mem_make_iff (h : Distinct candidates) :
    t ∈ make rules candidates ↔ ∃ p ∈ candidates.filter (fun p => rules.any (·.accepts p)), taskOf rules p = t := by
  constructor
  · intro ht
    have hrules := rules_eq_filter h.agree ht
    obtain ⟨r, hr⟩ := List.exists_mem_of_ne_nil _ (rules_ne_nil ht)
    rw [hrules, List.mem_filter] at hr
    refine ⟨t.path, List.mem_filter.2 ⟨path_mem ht, List.any_eq_true.2 ⟨r, hr.1, hr.2⟩⟩, ?_⟩
    rw [taskOf, ← hrules]
  · rintro ⟨p, hp, rfl⟩
    rw [List.mem_filter, List.any_eq_true] at hp
    obtain ⟨hp, r, hr, haccepts⟩ := hp
    obtain ⟨q, hq, hqp⟩ := r.filter.exists_mem_select hp haccepts
    obtain rfl := h.eq_of_slashed (r.filter.mem_of_mem_select hq).1 hp hqp
    obtain ⟨t, ht, htp⟩ := exists_task hr hq
    obtain rfl := h.eq_of_same (path_mem ht) hp htp
    rw [taskOf, ← rules_eq_filter h.agree ht]
    exact ht

/-- The plan of distinct candidates: those that a rule accepts, in the order of their components, each with the rules
that accept it. -/
theorem make_eq_of_distinct (h : Distinct candidates) : make rules candidates =
    ((candidates.filter fun p => rules.any (·.accepts p)).mergeSort fun a b => (Path.compare a b).isLE).map
      (taskOf rules) := by
  have hleft : (make rules candidates).Pairwise fun t u => (Path.compare t.path u.path).isLE :=
    (make_increasing rules candidates).imp fun hlt => by simp [hlt]
  have hright : (((candidates.filter fun p => rules.any (·.accepts p)).mergeSort fun a b =>
      (Path.compare a b).isLE).map (taskOf rules)).Pairwise fun t u => (Path.compare t.path u.path).isLE :=
    List.pairwise_map.2 (Path.totalLE_compare.pairwise_mergeSort _)
  -- two sorted lists of the same tasks, no two of which have the same components
  refine List.Perm.eq_of_pairwise (fun t u ht hu htu hut => ?_) hleft hright ?_
  · obtain ⟨p, hp, rfl⟩ := (mem_make_iff h).1 ht
    obtain ⟨q, hq, rfl⟩ := List.mem_map.1 hu
    rw [List.mem_mergeSort] at hq
    have hpq : Path.compareComponents (Path.components p) (Path.components q) = .eq :=
      Std.OrientedCmp.isLE_antisymm htu hut
    rw [(h.filter _).eq_of_same hp hq (Path.same_iff.2 (Std.LawfulEqCmp.eq_of_compare hpq))]
  · refine (List.perm_ext_iff_of_nodup ?_ ?_).2 fun t => ?_
    · exact (components_nodup rules candidates).of_map _
    · refine List.Nodup.map (fun p q hpq => congrArg Task.path hpq) ?_
      exact (List.mergeSort_perm _ _).nodup_iff.2 (h.filter _).nodup
    · rw [mem_make_iff h, List.mem_map]
      simp only [List.mem_mergeSort]

theorem make_filter (h : Distinct candidates) (q : String → Bool) :
    make rules (candidates.filter q) = (make rules candidates).filter (q ·.path) := by
  rw [make_eq_of_distinct h, make_eq_of_distinct (h.filter q), List.filter_map, List.filter_comm,
    ← Path.totalLE_compare.filter_mergeSort]
  rfl

/-- What the rules of a plan bring together is what they bring for each candidate that they accept. -/
theorem flatMap_make_perm {β : Type} (h : Distinct candidates) (f : String → Rule → List β) :
    ((make rules candidates).flatMap fun t => t.rules.flatMap (f t.path)).Perm
      (candidates.flatMap fun p => (rules.filter (·.accepts p)).flatMap (f p)) := by
  -- candidates that no rule accepts bring nothing
  have hnone : ∀ l : List String, (l.filter fun p => rules.any (·.accepts p)).flatMap (fun p =>
      (rules.filter (·.accepts p)).flatMap (f p)) = l.flatMap fun p => (rules.filter (·.accepts p)).flatMap (f p) := by
    intro l
    induction l with
    | nil => rfl
    | cons p l ih =>
      rw [List.filter_cons]
      split
      · rw [List.flatMap_cons, List.flatMap_cons, ih]
      · rename_i hp
        rw [List.flatMap_cons, ih, List.filter_eq_nil_iff.2 (by simpa using hp), List.flatMap_nil, List.nil_append]
  rw [make_eq_of_distinct h, List.flatMap_map, ← hnone candidates]
  exact (List.mergeSort_perm _ _).flatMap fun p _ => .refl _

end Plan

end PatternLint
