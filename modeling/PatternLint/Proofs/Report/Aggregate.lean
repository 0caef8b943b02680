import PatternLint.Proofs.Path.Order
import PatternLint.Report.Text
/-!
# Complaints put together

A result is made of a list of complaints by sorting and counting them. `Aggregates` says what a result has to be for
given complaints, and `Aggregates.unique` that nothing is left open by it. Main statement: `aggregate_exact`, that
`aggregate` gives this result, that a second time it changes nothing, and that the report of it tells by its exit code
whether a complaint was critical.
-/
namespace PatternLint

/-- A comparison by which any two things have a rank. Different things may have the same. -/
structure TotalPreorder {α : Type} (cmp : α → α → Ordering) : Prop where
  refl : ∀ a, cmp a a = .eq
  swap : ∀ a b, cmp b a = (cmp a b).swap
  total : ∀ a b, (cmp a b).isLE ∨ (cmp b a).isLE
  trans : ∀ a b c, (cmp a b).isLE → (cmp b c).isLE → (cmp a c).isLE

theorem TotalPreorder.of_transCmp {α : Type} (cmp : α → α → Ordering) [Std.TransCmp cmp] : TotalPreorder cmp where
  refl _ := Std.ReflCmp.compare_self
  swap _ _ := Std.OrientedCmp.eq_swap
  total a b := by simpa using (TotalLE.of_cmp cmp).total a b
  trans := (TotalLE.of_cmp cmp).trans

/-- What is no warning is critical. -/
theorem Complaint.countP_severity (cs : List Complaint) :
    cs.countP (·.severity = .warning) + cs.countP (·.severity = .critical) = cs.length := by
  rw [List.length_eq_countP_add_countP (p := fun c : Complaint => decide (c.severity = .warning))]
  congr 1
  refine List.countP_congr fun c _ => ?_
  cases c.severity <;> simp

namespace ScanResult

variable {cs : List Complaint} {r r' : ScanResult}

/-- The result has the given complaints, each as often as it was given. They are sorted, those of one rank are as they
were given, and all are counted. Nothing is said of files. -/
structure Aggregates (r : ScanResult) (cs : List Complaint) : Prop where
  perm : r.complaints.Perm cs
  sorted : r.complaints.Pairwise fun a b => (a.order b).isLE
  stable : ∀ a : Complaint, r.complaints.filter (a.order · = .eq) = cs.filter (a.order · = .eq)
  total : r.total = cs.length
  warnings : r.warnings = cs.countP (·.severity = .warning)
  criticals : r.criticals = cs.countP (·.severity = .critical)
  sum : r.warnings + r.criticals = r.total
  filesScanned : r.filesScanned = 0
  interrupted : r.interrupted = false

namespace Aggregates

/-- There is one result only for given complaints. -/
theorem unique (h : r.Aggregates cs) (h' : r'.Aggregates cs) : r = r' := by
  have hcomplaints : r.complaints = r'.complaints := by
    refine Complaint.totalLE_order.eq_of_filter_tied h.sorted h'.sorted fun a => ?_
    rw [Complaint.tied_order_eq, h.stable, h'.stable]
  cases r
  cases r'
  simp only [ScanResult.mk.injEq]
  exact ⟨hcomplaints, h.total.trans h'.total.symm, h.warnings.trans h'.warnings.symm,
    h.criticals.trans h'.criticals.symm, h.filesScanned.trans h'.filesScanned.symm,
    h.interrupted.trans h'.interrupted.symm⟩

/-- A result is also that of its own complaints. -/
theorem self (h : r.Aggregates cs) : r.Aggregates r.complaints where
  perm := .refl _
  sorted := h.sorted
  stable _ := rfl
  total := h.total.trans h.perm.length_eq.symm
  warnings := h.warnings.trans (h.perm.countP_eq _).symm
  criticals := h.criticals.trans (h.perm.countP_eq _).symm
  sum := h.sum
  filesScanned := h.filesScanned
  interrupted := h.interrupted

/-- The exit code of a report depends on the complaints alone, whatever the style is. -/
theorem exitCode_eq (h : r.Aggregates cs) (t : Theme) :
    (Report.ofResult t r).exitCode = if ∃ c ∈ cs, c.severity = .critical then 1 else 0 := by
  have hcritical : r.hasCriticals ↔ ∃ c ∈ cs, c.severity = .critical := by
    rw [hasCriticals, decide_eq_true_eq, h.criticals, List.countP_pos_iff]
    simp
  simp only [Report.ofResult, ExitStatus.ofResult, hcritical]
  split <;> rfl

end Aggregates

theorem aggregate_aggregates (cs : List Complaint) : (aggregate cs).Aggregates cs := by
  have hperm : (aggregate cs).complaints.Perm cs := List.mergeSort_perm _ _
  have hcount := Complaint.countP_severity (aggregate cs).complaints
  -- what is counted is the sorted list, and the critical ones are what the warnings leave of it
  have hcriticals : (aggregate cs).criticals = (aggregate cs).complaints.countP (·.severity = .critical) :=
    Nat.sub_eq_of_eq_add' hcount.symm
  exact {
    perm := hperm
    sorted := Complaint.totalLE_order.pairwise_mergeSort cs
    stable a := by
      have hstable := Complaint.totalLE_order.filter_tied_mergeSort a cs
      rwa [Complaint.tied_order_eq] at hstable
    total := hperm.length_eq
    warnings := hperm.countP_eq _
    criticals := hcriticals.trans (hperm.countP_eq _)
    sum := by rw [hcriticals]; exact hcount
    filesScanned := rfl
    interrupted := rfl }

theorem aggregate_idem (cs : List Complaint) : aggregate (aggregate cs).complaints = aggregate cs :=
  (aggregate_aggregates _).unique (aggregate_aggregates cs).self

/-- Complaints are ranked by their slashed path, line, column and rule. What `aggregate` makes of a list of them has
each of them in its place by rank, in the given order within one rank, and counts them by severity; it changes nothing
the second time; and every report of it has exit code 1 if one of the complaints is critical, else 0. -/
theorem aggregate_exact (cs : List Complaint) : TotalPreorder Complaint.order ∧
    (∀ a b : Complaint, a.order b = .eq ↔ Path.slashed a.path = Path.slashed b.path ∧
      a.location.firstLine = b.location.firstLine ∧ a.location.column = b.location.column ∧ a.rule = b.rule) ∧
    (aggregate cs).Aggregates cs ∧
    aggregate (aggregate cs).complaints = aggregate cs ∧
    ∀ t : Theme, (Report.ofResult t (aggregate cs)).exitCode = if ∃ c ∈ cs, c.severity = .critical then 1 else 0 :=
  ⟨.of_transCmp Complaint.order, fun _ _ => Complaint.order_eq_iff, aggregate_aggregates cs, aggregate_idem cs,
    (aggregate_aggregates cs).exitCode_eq⟩

end ScanResult

end PatternLint
