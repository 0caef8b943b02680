import Mathlib.Logic.Relation
import PatternLint.Proofs.Path.Order
/-!
# Spellings of a path

A path may be spelled with more slashes and dots than it needs. `Shortens` has the four ways to leave one out, and two
spellings are `Respelled` if such steps lead from one to the other. Every path has a shortest spelling, which only its
components decide. Main statement: two spellings have the same components exactly if they are respelled
(`components_eq_iff`), and the order of paths by components tells apart just those that are not.
-/
namespace PatternLint.Path

/-- A slash or a dot is left out: one of two slashes, a dot between slashes, a slash at the end, a dot behind the last
slash. The slash that begins a path stays, and so does a dot that begins it. -/
inductive Shortens : List Char → List Char → Prop where
  | slash (pre post : List Char) : Shortens (pre ++ '/' :: '/' :: post) (pre ++ '/' :: post)
  | dot (pre post : List Char) : Shortens (pre ++ '/' :: '.' :: '/' :: post) (pre ++ '/' :: post)
  | lastSlash {pre : List Char} (h : pre ≠ []) : Shortens (pre ++ ['/']) pre
  | lastDot (pre : List Char) : Shortens (pre ++ ['/', '.']) (pre ++ ['/'])

/-- Two spellings differ in slashes and dots only that may be left out. -/
def Respelled (a b : String) : Prop := Relation.EqvGen Shortens a.toList b.toList

/-! ## Pieces -/

theorem splitPieces_go_eq (piece cs : List Char) : splitPieces.go (· = '/') piece cs =
    (cs.splitOn '/').modifyHead (piece.reverse ++ ·) := by
  induction cs generalizing piece with
  | nil => simp [splitPieces.go]
  | cons c cs ih =>
    rw [splitPieces.go, List.splitOn_cons_eq_if_modifyHead]
    by_cases hc : c = '/'
    · simp only [hc, decide_true, if_true, ih]
      cases hpieces : cs.splitOn '/' <;> simp
    · simp only [hc, decide_false, ih]
      cases hpieces : cs.splitOn '/' <;> simp [hc]

theorem splitPieces_eq (cs : List Char) : splitPieces (· = '/') cs = cs.splitOn '/' := by
  rw [splitPieces, splitPieces_go_eq]
  cases cs.splitOn '/' <;> rfl

/-- The component that a path has because of how it begins. -/
def opening (cs : List Char) : List Component :=
  match (cs.splitOn '/').headD [] with
  | [] => [.root]
  | ['.'] => [.here]
  | _ => []

/-- The components of the pieces of a path. -/
def inner (cs : List Char) : List Component := (cs.splitOn '/').filterMap pieceComponent?

theorem opening_append (pre rest : List Char) : opening (pre ++ '/' :: rest) = opening pre := by
  unfold opening
  rw [List.splitOn_append_cons_self]
  cases hpieces : pre.splitOn '/' with
  | nil => exact absurd hpieces (List.splitOn_ne_nil '/' pre)
  | cons piece pieces => rfl

theorem inner_append (pre rest : List Char) : inner (pre ++ '/' :: rest) = inner pre ++ inner rest := by
  rw [inner, List.splitOn_append_cons_self, List.filterMap_append]
  rfl

theorem components_eq {path : String} (h : path.toList ≠ []) :
    components path = opening path.toList ++ inner path.toList := by
  unfold components opening inner
  simp only [splitPieces_eq]
  cases hpieces : path.toList.splitOn '/' with
  | nil => exact absurd hpieces (List.splitOn_ne_nil '/' _)
  | cons piece pieces =>
    -- a path that is not empty has a second piece behind an empty first one
    have hmore : piece = [] → pieces ≠ [] := by
      rintro rfl rfl
      have hjoin : ['/'].intercalate (path.toList.splitOn '/') = path.toList := List.intercalate_splitOn '/'
      rw [hpieces] at hjoin
      exact h hjoin.symm
    simp only [List.headD_cons]
    split
    · rename_i heq
      obtain ⟨rfl, -⟩ := List.cons.inj heq
      rfl
    · rename_i heq
      obtain ⟨rfl, -⟩ := List.cons.inj heq
      rfl
    · rename_i hroot hhere
      split
      · obtain ⟨next, more, rfl⟩ := List.exists_cons_of_ne_nil (hmore rfl)
        exact absurd rfl (hroot next more)
      · exact absurd rfl (hhere pieces)
      · rfl

theorem Shortens.ne_nil {a b : List Char} (h : Shortens a b) : a ≠ [] ∧ b ≠ [] := by
  cases h with
  | lastSlash h => exact ⟨by simp, h⟩
  | _ => simp

/-- What is left out is no component. -/
theorem Shortens.components_eq {a b : List Char} (h : Shortens a b) : opening a = opening b ∧ inner a = inner b := by
  have hnil : inner [] = [] := rfl
  have hdot : inner ['.'] = [] := rfl
  cases h with
  | slash pre post =>
    rw [opening_append, opening_append, inner_append, inner_append, ← List.nil_append ('/' :: post), inner_append]
    exact ⟨rfl, rfl⟩
  | dot pre post =>
    rw [opening_append, opening_append, inner_append, inner_append, ← List.singleton_append, inner_append, hdot]
    exact ⟨rfl, rfl⟩
  | @lastSlash pre _ =>
    rw [opening_append, inner_append, hnil, List.append_nil]
    exact ⟨rfl, rfl⟩
  | lastDot pre =>
    rw [opening_append, opening_append, inner_append, inner_append, hdot, hnil]
    exact ⟨rfl, rfl⟩

theorem components_of_respelled {a b : String} (h : Respelled a b) : components a = components b := by
  have hkept : a.toList = b.toList ∨ (a.toList ≠ [] ∧ b.toList ≠ []) ∧ opening a.toList = opening b.toList ∧
      inner a.toList = inner b.toList := by
    unfold Respelled at h
    generalize a.toList = as, b.toList = bs at h
    induction h with
    | rel as bs h => exact .inr ⟨h.ne_nil, h.components_eq⟩
    | refl as => exact .inl rfl
    | symm as bs _ ih => grind
    | trans as bs cs _ _ ih₁ ih₂ => grind
  rcases hkept with heq | ⟨⟨ha, hb⟩, hopening, hinner⟩
  · rw [String.toList_inj.1 heq]
  · rw [Path.components_eq ha, Path.components_eq hb, hopening, hinner]

/-! ## The shortest spelling -/

/-- The characters of a component. -/
def spelling : Component → List Char
  | .root => []
  | .here => ['.']
  | .parent => ['.', '.']
  | .name s => s.toList

theorem pieceComponent?_eq_none {piece : List Char} (h : pieceComponent? piece = none) : piece = [] ∨ piece = ['.'] := by
  unfold pieceComponent? at h
  split at h <;> simp_all

theorem spelling_of_pieceComponent? {piece : List Char} {k : Component} (h : pieceComponent? piece = some k) :
    spelling k = piece := by
  unfold pieceComponent? at h
  split at h
  · cases h
  · cases h
  · obtain rfl := Option.some.inj h
    rfl
  · obtain rfl := Option.some.inj h
    exact String.toList_ofList

theorem ne_root_of_pieceComponent? {piece : List Char} {k : Component} (h : pieceComponent? piece = some k) :
    k ≠ .root := by
  rintro rfl
  unfold pieceComponent? at h
  split at h <;> cases h

theorem opening_eq_nil {cs piece : List Char} {pieces : List (List Char)} {k : Component}
    (h : cs.splitOn '/' = piece :: pieces) (hpiece : pieceComponent? piece = some k) : opening cs = [] := by
  unfold opening
  rw [h, List.headD_cons]
  split
  · cases hpiece
  · cases hpiece
  · rfl

/-- Pieces, each behind a slash. -/
def slashes (pieces : List (List Char)) : List Char := pieces.flatMap ('/' :: ·)

/-- The shortest spelling of a path with the given components. -/
def shortest : List Component → List Char
  | [] => []
  | [.root] => ['/']
  | .root :: k :: ks => slashes ((k :: ks).map spelling)
  | k :: ks => spelling k ++ slashes (ks.map spelling)

theorem shortest_cons {k : Component} (h : k ≠ .root) (ks : List Component) :
    shortest (k :: ks) = spelling k ++ slashes (ks.map spelling) := by
  cases k with
  | root => exact absurd rfl h
  | _ => rfl

theorem slashes_cons (piece : List Char) (pieces : List (List Char)) :
    slashes (piece :: pieces) = '/' :: piece ++ slashes pieces := List.flatMap_cons

theorem append_slashes_of_splitOn {cs piece : List Char} {pieces : List (List Char)}
    (h : cs.splitOn '/' = piece :: pieces) : cs = piece ++ slashes pieces := by
  have hjoin : ∀ (piece : List Char) (pieces : List (List Char)),
      ['/'].intercalate (piece :: pieces) = piece ++ slashes pieces := by
    intro piece pieces
    induction pieces generalizing piece with
    | nil => simp [slashes]
    | cons next pieces ih =>
      rw [List.intercalate_cons_cons, ih, slashes_cons]
      simp
  rw [← hjoin, ← h, List.intercalate_splitOn]

/-- A piece without a component is left out, unless the path would have nothing else. -/
theorem drop_piece {piece : List Char} (h : pieceComponent? piece = none) {pre : List Char} {pieces : List (List Char)}
    (hmore : pre ≠ [] ∨ pieces ≠ []) :
    Relation.EqvGen Shortens (pre ++ slashes (piece :: pieces)) (pre ++ slashes pieces) := by
  rw [slashes_cons]
  cases pieces with
  | nil =>
    have hpre : pre ≠ [] := by simpa using hmore
    rcases pieceComponent?_eq_none h with rfl | rfl
    · simpa [slashes] using Relation.EqvGen.rel _ _ (Shortens.lastSlash hpre)
    · have hslash := Relation.EqvGen.rel _ _ (Shortens.lastSlash hpre)
      simpa [slashes] using (Relation.EqvGen.rel _ _ (Shortens.lastDot pre)).trans _ _ _ hslash
  | cons next pieces =>
    rw [slashes_cons]
    rcases pieceComponent?_eq_none h with rfl | rfl
    · exact .rel _ _ (.slash pre (next ++ slashes pieces))
    · exact .rel _ _ (.dot pre (next ++ slashes pieces))

/-- Behind a beginning that is not empty only the pieces with components need be kept. -/
theorem keep_pieces {pre : List Char} (hpre : pre ≠ []) (pieces : List (List Char)) :
    Relation.EqvGen Shortens (pre ++ slashes pieces)
      (pre ++ slashes ((pieces.filterMap pieceComponent?).map spelling)) := by
  induction pieces generalizing pre with
  | nil => exact .refl _
  | cons piece pieces ih =>
    cases hpiece : pieceComponent? piece with
    | none =>
      rw [List.filterMap_cons_none hpiece]
      exact (drop_piece hpiece (.inl hpre)).trans _ _ _ (ih hpre)
    | some k =>
      rw [List.filterMap_cons_some hpiece, List.map_cons, slashes_cons, slashes_cons, spelling_of_pieceComponent? hpiece,
        ← List.append_assoc, ← List.append_assoc]
      exact ih (by simp)

/-- The same behind the slash that begins a path, which is kept in any case. -/
theorem keep_pieces_of_root {pieces : List (List Char)} (h : pieces ≠ []) :
    Relation.EqvGen Shortens (slashes pieces) (shortest (.root :: pieces.filterMap pieceComponent?)) := by
  induction pieces with
  | nil => exact absurd rfl h
  | cons piece pieces ih =>
    cases hpiece : pieceComponent? piece with
    | some k =>
      rw [List.filterMap_cons_some hpiece, shortest, List.map_cons, slashes_cons, slashes_cons,
        spelling_of_pieceComponent? hpiece]
      exact keep_pieces (by simp) pieces
    | none =>
      rw [List.filterMap_cons_none hpiece]
      cases pieces with
      | nil =>
        rcases pieceComponent?_eq_none hpiece with rfl | rfl
        · exact .refl _
        · exact .rel _ _ (.lastDot [])
      | cons next pieces =>
        have hne : next :: pieces ≠ [] := List.cons_ne_nil next pieces
        have hdrop : Relation.EqvGen Shortens ([] ++ slashes (piece :: next :: pieces)) ([] ++ slashes (next :: pieces)) :=
          drop_piece hpiece (.inr hne)
        exact hdrop.trans _ _ _ (ih hne)

/-- Every path can be brought to the shortest spelling of its components. -/
theorem shortest_components (path : String) :
    Relation.EqvGen Shortens path.toList (shortest (components path)) := by
  by_cases hpath : path.toList = []
  · obtain rfl := String.toList_eq_nil_iff.1 hpath
    exact .refl _
  · rw [components_eq hpath]
    generalize path.toList = cs at hpath
    cases hpieces : cs.splitOn '/' with
    | nil => exact absurd hpieces (List.splitOn_ne_nil '/' cs)
    | cons piece pieces =>
      have hcs := append_slashes_of_splitOn hpieces
      cases hpiece : pieceComponent? piece with
      | none =>
        rw [opening, inner, hpieces, List.filterMap_cons_none hpiece]
        rcases pieceComponent?_eq_none hpiece with rfl | rfl
        · have hne : pieces ≠ [] := by
            rintro rfl
            exact hpath hcs
          rw [hcs]
          exact keep_pieces_of_root hne
        · rw [hcs]
          exact keep_pieces (by simp) pieces
      | some k =>
        have hne : piece ≠ [] := by
          rintro rfl
          cases hpiece
        rw [opening_eq_nil hpieces hpiece, List.nil_append, inner, hpieces, List.filterMap_cons_some hpiece,
          shortest_cons (ne_root_of_pieceComponent? hpiece), spelling_of_pieceComponent? hpiece, hcs]
        exact keep_pieces hne pieces

/-- Two spellings have the same components exactly if they differ in slashes and dots only that may be left out. -/
theorem components_eq_iff {a b : String} : components a = components b ↔ Respelled a b := by
  constructor
  · intro h
    have hb := shortest_components b
    rw [← h] at hb
    exact (shortest_components a).trans _ _ _ (hb.symm _ _)
  · exact components_of_respelled

/-! ## The order of paths -/

/-- The kinds of components come in this order: the root, the dot, the two dots, names. Names come in the order of
their texts. -/
def Precedes (a b : Component) : Prop :=
  a.rank < b.rank ∨ ∃ s t, a = .name s ∧ b = .name t ∧ s < t

/-- Paths come in the order of dictionaries, component by component. -/
def Before (a b : String) : Prop := List.Lex Precedes (components a) (components b)

theorem compare_component_eq_lt_iff {a b : Component} : a.compare b = .lt ↔ Precedes a b := by
  have hnames : ∀ s t : String, Ord.compare s t = .lt ↔ s < t := fun _ _ => compareOfLessAndEq_eq_lt
  cases a <;> cases b <;> simp [Component.compare, Component.rank, Precedes, Nat.compare_eq_lt, hnames]

theorem compareComponents_eq_lt_iff {as bs : List Component} :
    compareComponents as bs = .lt ↔ List.Lex Precedes as bs := by
  induction as generalizing bs with
  | nil => cases bs <;> simp [compareComponents]
  | cons a as ih =>
    cases bs with
    | nil => simp [compareComponents]
    | cons b bs =>
      rw [compareComponents, Ordering.then_eq_lt, compare_component_eq_lt_iff, Std.LawfulEqCmp.compare_eq_iff_eq, ih,
        List.cons_lex_cons_iff]

theorem compare_eq_lt_iff {a b : String} : compare a b = .lt ↔ Before a b := compareComponents_eq_lt_iff

theorem compare_eq_gt_iff {a b : String} : compare a b = .gt ↔ Before b a := by
  rw [← compare_eq_lt_iff, compare, compare, Std.OrientedCmp.gt_iff_lt]

theorem compare_eq_eq_iff {a b : String} : compare a b = .eq ↔ components a = components b := by
  rw [compare]
  exact Std.LawfulEqCmp.compare_eq_iff_eq

theorem Before.trans {a b c : String} (hab : Before a b) (hbc : Before b c) : Before a c := by
  rw [← compare_eq_lt_iff, compare] at *
  exact Std.TransCmp.lt_trans hab hbc

end PatternLint.Path
