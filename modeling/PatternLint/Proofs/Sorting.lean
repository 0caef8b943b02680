import Mathlib.Data.List.Sort
/-!
# Stable sorting

What the sorting of plans and reports can be relied on for. `mergeSort_cons` says where one more element goes: behind
all that come strictly before it, in front of all others. From it follow the three facts that the scan needs: sorting
a part of a list gives a part of the sorted list (`mergeSort_sublist`), sorting and filtering can be exchanged
(`filter_mergeSort`), and the sorted list depends only on how elements of equal rank follow each other
(`mergeSort_congr`).
-/
namespace PatternLint

variable {α : Type} {le : α → α → Bool} {xs ys : List α}

/-- A comparison that can be sorted by: elements may be of equal rank, but any two can be compared. -/
structure TotalLE (le : α → α → Bool) : Prop where
  trans : ∀ a b c, le a b → le b c → le a c
  total : ∀ a b, le a b || le b a

/-- Sorts by putting one element after the other in its place. -/
def insertSort (le : α → α → Bool) : List α → List α
  | [] => []
  | a :: l => (insertSort le l).filter (!le a ·) ++ a :: (insertSort le l).filter (le a ·)

namespace TotalLE

theorem of_cmp (cmp : α → α → Ordering) [Std.TransCmp cmp] : TotalLE fun a b => (cmp a b).isLE where
  trans _ _ _ := Std.TransCmp.isLE_trans
  total a b := by
    have hswap : cmp b a = (cmp a b).swap := Std.OrientedCmp.eq_swap
    rw [hswap]
    cases cmp a b <;> rfl

theorem comap {β : Type} {le : β → β → Bool} (h : TotalLE le) (f : α → β) : TotalLE fun a b => le (f a) (f b) :=
  ⟨fun a b c => h.trans (f a) (f b) (f c), fun a b => h.total (f a) (f b)⟩

/-- The elements of the same rank as `a`. -/
def tied (le : α → α → Bool) (a b : α) : Bool := le a b && le b a

variable (h : TotalLE le)

include h

theorem refl (a : α) : le a a := by simpa using h.total a a

theorem pairwise_mergeSort (l : List α) : (l.mergeSort le).Pairwise (le · ·) := List.pairwise_mergeSort h.trans h.total l

/-- An element cuts a sorted list in two: all that have a lower rank, and all others behind them. A new first element
of the list is sorted in between. -/
theorem mergeSort_cut (a : α) (l : List α) :
    l.mergeSort le = (l.mergeSort le).filter (!le a ·) ++ (l.mergeSort le).filter (le a ·) ∧
    (a :: l).mergeSort le = (l.mergeSort le).filter (!le a ·) ++ a :: (l.mergeSort le).filter (le a ·) := by
  obtain ⟨l₁, l₂, hcons, hl, hlow⟩ := List.mergeSort_cons h.trans h.total a l
  have hsorted := h.pairwise_mergeSort (a :: l)
  rw [hcons] at hsorted
  have hhigh : ∀ b ∈ l₂, le a b := (List.pairwise_cons.1 (List.pairwise_append.1 hsorted).2.1).1
  have h₁ : (l.mergeSort le).filter (!le a ·) = l₁ := by
    rw [hl, List.filter_append, List.filter_eq_self.2 hlow, List.filter_eq_nil_iff.2, List.append_nil]
    simpa using hhigh
  have h₂ : (l.mergeSort le).filter (le a ·) = l₂ := by
    rw [hl, List.filter_append, List.filter_eq_self.2 hhigh, List.filter_eq_nil_iff.2, List.nil_append]
    simpa using hlow
  rw [h₁, h₂]
  exact ⟨hl, hcons⟩

/-- A new first element is sorted behind all elements of lower rank, in front of all others. -/
theorem mergeSort_cons (a : α) (l : List α) : (a :: l).mergeSort le =
    (l.mergeSort le).filter (!le a ·) ++ a :: (l.mergeSort le).filter (le a ·) := (h.mergeSort_cut a l).2

/-- The stable sort computes what `insertSort` does. -/
theorem mergeSort_eq_insertSort (l : List α) : l.mergeSort le = insertSort le l := by
  induction l with
  | nil => simp [insertSort]
  | cons a l ih => rw [h.mergeSort_cons, ih, insertSort]

/-- A part of a list, sorted, is a part of the sorted list. -/
theorem mergeSort_sublist (hs : ys.Sublist xs) : (ys.mergeSort le).Sublist (xs.mergeSort le) := by
  induction hs with
  | slnil => exact .refl _
  | @cons ys xs a _ ih =>
    -- the element that is left out stands at the cut
    obtain ⟨hcut, hcons⟩ := h.mergeSort_cut a xs
    rw [hcut] at ih
    rw [hcons]
    exact ih.trans ((List.Sublist.refl _).append (List.sublist_cons_self a _))
  | @cons_cons ys xs a _ ih =>
    rw [h.mergeSort_cons a ys, h.mergeSort_cons a xs]
    exact (ih.filter _).append ((ih.filter _).cons_cons a)

/-- To sort and to filter can be exchanged. -/
theorem filter_mergeSort (p : α → Bool) (l : List α) : (l.mergeSort le).filter p = (l.filter p).mergeSort le := by
  induction l with
  | nil => simp
  | cons a l ih =>
    have hswap : ∀ q : α → Bool, ((l.mergeSort le).filter q).filter p = ((l.filter p).mergeSort le).filter q := by
      intro q
      rw [← ih, List.filter_filter, List.filter_filter]
      simp only [Bool.and_comm]
    rw [h.mergeSort_cons, List.filter_append, List.filter_cons, List.filter_cons, hswap, hswap]
    split
    · rw [h.mergeSort_cons]
    · exact (h.mergeSort_cut a (l.filter p)).1.symm

/-- Elements of equal rank stay as they were. -/
theorem filter_tied_mergeSort (a : α) (l : List α) : (l.mergeSort le).filter (tied le a) = l.filter (tied le a) := by
  rw [h.filter_mergeSort]
  refine List.mergeSort_of_pairwise (List.pairwise_of_forall_mem_list fun b hb c hc => ?_)
  simp only [List.mem_filter, tied, Bool.and_eq_true] at hb hc
  exact h.trans b a c hb.2.2 hc.2.1

theorem mem_iff_of_filter_tied (heq : ∀ a, xs.filter (tied le a) = ys.filter (tied le a)) (a : α) :
    a ∈ xs ↔ a ∈ ys := by
  have : a ∈ xs.filter (tied le a) ↔ a ∈ ys.filter (tied le a) := by rw [heq a]
  simpa [tied, h.refl a] using this

/-- A sorted list is known from how its elements of equal rank follow each other. -/
theorem eq_of_filter_tied (hx : xs.Pairwise (le · ·)) (hy : ys.Pairwise (le · ·))
    (heq : ∀ a, xs.filter (tied le a) = ys.filter (tied le a)) : xs = ys := by
  have hmem := h.mem_iff_of_filter_tied heq
  induction xs generalizing ys with
  | nil => exact (List.eq_nil_iff_forall_not_mem.2 fun a ha => by simpa using (hmem a).2 ha).symm
  | cons x xs ih =>
    cases ys with
    | nil => simpa using (hmem x).1 (by simp)
    | cons y ys =>
      rw [List.pairwise_cons] at hx hy
      -- the first elements have the same rank, as each is found in the other list
      have hxy : le x y := by
        rcases List.mem_cons.1 ((hmem y).2 (by simp)) with rfl | hm
        · exact h.refl y
        · exact hx.1 y hm
      have hyx : le y x := by
        rcases List.mem_cons.1 ((hmem x).1 (by simp)) with rfl | hm
        · exact h.refl x
        · exact hy.1 x hm
      have hhead := heq x
      rw [List.filter_cons_of_pos (by simp [tied, h.refl x]),
        List.filter_cons_of_pos (by simp [tied, hxy, hyx])] at hhead
      obtain rfl : x = y := (List.cons.inj hhead).1
      have htail : ∀ a, xs.filter (tied le a) = ys.filter (tied le a) := by
        intro a
        have := heq a
        rw [List.filter_cons, List.filter_cons] at this
        split at this
        · exact (List.cons.inj this).2
        · exact this
      rw [ih hx.2 hy.2 htail (h.mem_iff_of_filter_tied htail)]

/-- Two lists are sorted alike if elements of equal rank follow each other alike in both. -/
theorem mergeSort_congr (heq : ∀ a, xs.filter (tied le a) = ys.filter (tied le a)) :
    xs.mergeSort le = ys.mergeSort le := by
  refine h.eq_of_filter_tied (h.pairwise_mergeSort xs) (h.pairwise_mergeSort ys) fun a => ?_
  rw [h.filter_tied_mergeSort, h.filter_tied_mergeSort, heq a]

end TotalLE

end PatternLint
