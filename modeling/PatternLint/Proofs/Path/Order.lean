import PatternLint.Complaint
import PatternLint.Proofs.Sorting
/-!
# Orders of paths and complaints

The order of path components is a linear order: it tells any two different lists of components apart. The order of
complaints is not, as complaints of one rule about one place are of equal rank; but those of two rules or of two
slashed paths never are (`order_eq_iff`).
-/
namespace PatternLint

namespace Component

/-- The text of a name; the other components have none. -/
def text : Component → String
  | name s => s
  | _ => ""

theorem compare_eq_lex : compare = compareLex (compareOn rank) (compareOn text) := by
  funext a b
  cases a <;> cases b <;> rfl

instance : Std.TransCmp compare := by
  rw [compare_eq_lex]
  infer_instance

instance : Std.LawfulEqCmp compare where
  eq_of_compare {a b} h := by
    cases a <;> cases b <;> simp_all [compare, rank]

end Component

namespace Path

theorem compareComponents_eq_lex : compareComponents = List.compareLex Component.compare := by
  funext as bs
  induction as generalizing bs with
  | nil => cases bs <;> rfl
  | cons a as ih =>
    cases bs with
    | nil => rfl
    | cons b bs => rw [compareComponents, List.compareLex_cons_cons, ih]

instance : Std.TransCmp compareComponents := by
  rw [compareComponents_eq_lex]
  infer_instance

instance : Std.LawfulEqCmp compareComponents := by
  rw [compareComponents_eq_lex]
  infer_instance

theorem compareComponents_self (k : List Component) : compareComponents k k = .eq := Std.ReflCmp.compare_self

section Same

variable {a b c : String}

theorem same_iff : same a b ↔ components a = components b := by simp [same]

theorem same_symm (h : same a b) : same b a := same_iff.2 (same_iff.1 h).symm

theorem same_trans (hab : same a b) (hbc : same b c) : same a c := same_iff.2 ((same_iff.1 hab).trans (same_iff.1 hbc))

end Same

end Path

namespace Complaint

instance : Std.TransCmp order :=
  inferInstanceAs (Std.TransCmp (compareLex (compareOn fun c : Complaint => Path.slashed c.path)
    (compareLex (compareOn fun c => c.location.firstLine)
      (compareLex (compareOn fun c => c.location.column) (compareOn fun c => c.rule)))))

theorem totalLE_order : TotalLE fun a b : Complaint => (a.order b).isLE := .of_cmp order

/-- Complaints are of equal rank if their slashed paths, their lines and columns and their rules are the same. -/
theorem order_eq_iff {a b : Complaint} : a.order b = .eq ↔ Path.slashed a.path = Path.slashed b.path ∧
    a.location.firstLine = b.location.firstLine ∧ a.location.column = b.location.column ∧ a.rule = b.rule := by
  simp only [order, Ordering.then_eq_eq, Std.LawfulEqCmp.compare_eq_iff_eq]

theorem tied_order_eq (a : Complaint) :
    TotalLE.tied (fun a b : Complaint => (a.order b).isLE) a = fun b => decide (a.order b = .eq) := by
  funext b
  have hswap : b.order a = (a.order b).swap := Std.OrientedCmp.eq_swap
  rw [TotalLE.tied, hswap]
  cases a.order b <;> rfl

theorem tied_order {a b : Complaint} (h : TotalLE.tied (fun a b : Complaint => (a.order b).isLE) a b) :
    Path.slashed b.path = Path.slashed a.path ∧ b.rule = a.rule := by
  simp only [tied_order_eq, decide_eq_true_eq, order_eq_iff] at h
  obtain ⟨hpath, -, -, hrule⟩ := h
  exact ⟨hpath.symm, hrule.symm⟩

end Complaint

end PatternLint
