import PatternLint.Proofs.Grammar.Compile
import PatternLint.Rule.Definition
/-!
# Checked definitions

`RuleDefinition.faults` lists everything that is wrong with a definition, in the order in which it is looked for. The
check fails with the first of these faults (`fault?_check`), and a definition is valid if it has none of them.
`RuleDefinition.Makes` says part by part which rule a definition is made into.
-/
namespace PatternLint

section Except
variable {ε ε' α β : Type}

/-- What is tried next matters only if nothing failed so far. -/
theorem fault?_bind {x : Except ε α} {f : α → Except ε β} {next : Option ε}
    (h : ∀ a, x = .ok a → fault? (f a) = next) : fault? (x >>= f) = (fault? x).or next := by
  cases x with
  | error e => rfl
  | ok a => exact h a rfl

theorem fault?_throw (e : ε) : fault? (throw e : Except ε α) = some e := rfl

theorem fault?_throw_bind (e : ε) (f : α → Except ε β) : fault? (throw e >>= f) = some e := rfl

theorem fault?_mapError (f : ε → ε') (x : Except ε α) : fault? (x.mapError f) = (fault? x).map f := by
  cases x <;> rfl

theorem mapError_ok {f : ε → ε'} {x : Except ε α} {a : α} (h : x.mapError f = .ok a) : x = .ok a := by
  cases x with
  | error e => cases h
  | ok b => exact congrArg _ (Except.ok.inj h)

end Except

namespace RuleDefinition

variable {d : RuleDefinition}

/-! ## Valid definitions -/

/-- Nothing that a rule needs is missing, and all globs and the capture can be read. -/
structure Valid (d : RuleDefinition) : Prop where
  name : ∃ c ∈ d.name.toList, isBlank c = false
  description : ∃ c ∈ d.description.toList, isBlank c = false
  capture : ∃ capture, d.capture = some capture ∧ ∃ finder, capture.compile = .ok finder
  severity : ∃ severity, d.severity = some severity
  included : d.included ≠ []
  globs : ∀ pattern ∈ d.included ++ d.excluded, ∃ glob, Glob.parse pattern = .ok glob

/-- The faults of some globs of a definition. -/
def globFaults (d : RuleDefinition) (globs : List String) : List LoadError :=
  globs.filterMap fun pattern => (fault? (Glob.parse pattern)).map (.invalidGlob d.name)

/-- What is wrong with a definition apart from its name. -/
def partFaults (d : RuleDefinition) : List LoadError :=
  (if allBlank d.description then [.missingField d.name "description"] else []) ++
  (if d.capture.isNone then [.missingField d.name "capture"] else []) ++
  (if d.severity.isNone then [.missingField d.name "severity"] else []) ++
  (if d.included.isEmpty then [.emptyGlobs d.name] else []) ++
  d.globFaults d.included ++
  d.globFaults d.excluded ++
  ((d.capture.bind fun capture => fault? capture.compile).map (LoadError.invalidPattern d.name)).toList

/-- Everything that is wrong with a definition, which is called by its place where it has no name. -/
def faults (d : RuleDefinition) (place : String) : List LoadError :=
  (if allBlank d.name then [.missingField place "name"] else []) ++ d.partFaults

theorem globFaults_eq_nil {globs : List String} :
    d.globFaults globs = [] ↔ ∀ pattern ∈ globs, ∃ glob, Glob.parse pattern = .ok glob := by
  simp [globFaults, fault?_eq_none]

theorem allBlank_eq_false {s : String} : allBlank s = false ↔ ∃ c ∈ s.toList, isBlank c = false := by
  simp [allBlank]

theorem faults_eq_nil (place : String) : d.faults place = [] ↔ d.Valid := by
  simp only [faults, partFaults, List.append_eq_nil_iff, ite_eq_right_iff, reduceCtorEq, imp_false, Bool.not_eq_true,
    allBlank_eq_false, globFaults_eq_nil]
  constructor
  · rintro ⟨hname, ⟨⟨⟨⟨⟨hdescription, hcapture⟩, hseverity⟩, hempty⟩, hincluded⟩, hexcluded⟩, hcompile⟩
    obtain ⟨capture, hcapture⟩ := Option.isSome_iff_exists.1 (Option.isNone_eq_false_iff.1 hcapture)
    refine ⟨hname, hdescription, ⟨capture, hcapture, ?_⟩, ?_, ?_, List.forall_mem_append.2 ⟨hincluded, hexcluded⟩⟩
    · simpa [hcapture, fault?_eq_none] using hcompile
    · exact Option.isSome_iff_exists.1 (Option.isNone_eq_false_iff.1 hseverity)
    · simpa using hempty
  · intro h
    obtain ⟨capture, hcapture, finder, hfinder⟩ := h.capture
    obtain ⟨severity, hseverity⟩ := h.severity
    obtain ⟨hincluded, hexcluded⟩ := List.forall_mem_append.1 h.globs
    refine ⟨h.name, ⟨⟨⟨⟨⟨h.description, ?_⟩, ?_⟩, ?_⟩, hincluded⟩, hexcluded⟩, ?_⟩
    · simp [hcapture]
    · simp [hseverity]
    · simpa using h.included
    · simp [hcapture, hfinder, fault?]

/-! ## The rule of a definition -/

/-- The rule is the one that the definition describes, with the given severity in place of its own. -/
structure Makes (d : RuleDefinition) (setSeverity : Option Severity) (r : Rule) : Prop where
  name : r.info.name = d.name
  description : r.info.description = d.description
  ownSeverity : d.severity = some r.info.ownSeverity
  setSeverity : r.info.setSeverity = setSeverity
  help : r.info.help = d.help
  included : List.Forall₂ (fun pattern glob => Glob.parse pattern = .ok glob) d.included r.filter.included
  excluded : List.Forall₂ (fun pattern glob => Glob.parse pattern = .ok glob) d.excluded r.filter.excluded
  finder : ∃ capture, d.capture = some capture ∧ capture.compile = .ok r.finder
  hook : r.hook = d.hook

/-- What is left to do once all parts are there. -/
theorem check_of_parts {capture : Capture} {severity : Severity} (hname : allBlank d.name = false)
    (hdescription : allBlank d.description = false) (hcapture : d.capture = some capture)
    (hseverity : d.severity = some severity) (hincluded : d.included ≠ []) : d.check = (do
      let included ← (Glob.parseAll d.included).mapError (.invalidGlob d.name)
      let excluded ← (Glob.parseAll d.excluded).mapError (.invalidGlob d.name)
      let finder ← capture.compile.mapError (.invalidPattern d.name)
      pure {
        info := { name := d.name, description := d.description, ownSeverity := severity, help := d.help }
        filter := ⟨included, excluded⟩
        finder
        hook := d.hook }) := by
  simp [check, hname, hdescription, hcapture, hseverity, hincluded]

theorem fault?_parseAll (d : RuleDefinition) (globs : List String) :
    fault? ((Glob.parseAll globs).mapError (LoadError.invalidGlob d.name)) = (d.globFaults globs).head? := by
  rw [fault?_mapError, Glob.parseAll, fault?_mapM, globFaults, List.head?_filterMap, List.map_findSome?]
  rfl

/-- The check fails with the first of the faults, and only if there is one. -/
theorem fault?_check (d : RuleDefinition) : fault? d.check = (d.faults "<unnamed>").head? := by
  rcases Bool.eq_false_or_eq_true (allBlank d.name) with hname | hname
  · simp [check, faults, hname, fault?_throw_bind]
  rcases Bool.eq_false_or_eq_true (allBlank d.description) with hdescription | hdescription
  · simp [check, faults, partFaults, hname, hdescription, fault?_throw_bind]
  rcases hcapture : d.capture with _ | capture
  · simp [check, faults, partFaults, hname, hdescription, hcapture, fault?_throw]
  rcases hseverity : d.severity with _ | severity
  · simp [check, faults, partFaults, hname, hdescription, hcapture, hseverity, fault?_throw]
  by_cases hincluded : d.included = []
  · simp [check, faults, partFaults, hname, hdescription, hcapture, hseverity, hincluded, fault?_throw_bind]
  have hfaults : d.faults "<unnamed>" = d.globFaults d.included ++ (d.globFaults d.excluded ++
      ((fault? capture.compile).map (LoadError.invalidPattern d.name)).toList) := by
    simp [faults, partFaults, hname, hdescription, hcapture, hseverity, hincluded]
  rw [check_of_parts hname hdescription hcapture hseverity hincluded, hfaults, List.head?_append, List.head?_append,
    ← fault?_parseAll, ← fault?_parseAll, Option.head?_toList, ← fault?_mapError]
  refine fault?_bind fun included _ => fault?_bind fun excluded _ => ?_
  rw [bind_pure_comp, fault?_map]

theorem check_makes {r : Rule} (h : d.check = .ok r) : d.Makes none r := by
  have hvalid : d.Valid := by
    rw [← faults_eq_nil "<unnamed>", ← List.head?_eq_none_iff, ← fault?_check, fault?_eq_none]
    exact ⟨r, h⟩
  obtain ⟨capture, hcapture, -⟩ := hvalid.capture
  obtain ⟨severity, hseverity⟩ := hvalid.severity
  rw [check_of_parts (allBlank_eq_false.2 hvalid.name) (allBlank_eq_false.2 hvalid.description) hcapture hseverity
    hvalid.included] at h
  obtain ⟨included, hincluded, h⟩ := bind_ok h
  obtain ⟨excluded, hexcluded, h⟩ := bind_ok h
  obtain ⟨finder, hfinder, h⟩ := bind_ok h
  obtain rfl := Except.ok.inj h
  exact ⟨rfl, rfl, hseverity, rfl, rfl, mapM_ok _ (mapError_ok hincluded), mapM_ok _ (mapError_ok hexcluded),
    ⟨capture, hcapture, mapError_ok hfinder⟩, rfl⟩

/-- A definition describes one rule. -/
theorem Makes.unique {setSeverity : Option Severity} {r r' : Rule} (h : d.Makes setSeverity r)
    (h' : d.Makes setSeverity r') : r = r' := by
  have hglobs : Relator.RightUnique fun pattern glob => Glob.parse pattern = .ok glob :=
    fun _ _ _ ha hb => Except.ok.inj (ha.symm.trans hb)
  obtain ⟨⟨name, description, own, set, help⟩, ⟨included, excluded⟩, finder, hook⟩ := r
  obtain ⟨⟨name', description', own', set', help'⟩, ⟨included', excluded'⟩, finder', hook'⟩ := r'
  obtain ⟨capture, hcapture, hfinder⟩ := h.finder
  obtain ⟨capture', hcapture', hfinder'⟩ := h'.finder
  obtain rfl := Option.some.inj (hcapture.symm.trans hcapture')
  obtain rfl : finder = finder' := Except.ok.inj (hfinder.symm.trans hfinder')
  obtain rfl : own = own' := Option.some.inj (h.ownSeverity.symm.trans h'.ownSeverity)
  obtain rfl : included = included' := hglobs.forall₂ h.included h'.included
  obtain rfl : excluded = excluded' := hglobs.forall₂ h.excluded h'.excluded
  obtain rfl : name = name' := h.name.trans h'.name.symm
  obtain rfl : description = description' := h.description.trans h'.description.symm
  obtain rfl : set = set' := h.setSeverity.trans h'.setSeverity.symm
  obtain rfl : help = help' := h.help.trans h'.help.symm
  obtain rfl : hook = hook' := h.hook.trans h'.hook.symm
  rfl

end RuleDefinition

end PatternLint
