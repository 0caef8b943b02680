import Mathlib.Data.List.Induction
import Mathlib.Data.List.Nodup
import PatternLint.Proofs.Rule.Definition
import PatternLint.Rule.Set
/-!
# Loaded rules

What the settings make of a rule is said by their entries (`Settings.PutsOff`, `Settings.Gives`). Sources are taken in
item by item, and the first item with a fault decides (`Loading.FirstFault`); `Decides.addItem` is the step and
`decides_addSources` the whole run. Main statements: `RuleSet.load_ok_iff`, by which the rules that are loaded are those
of the definitions that the settings do not put off, in the order of the sources, and `RuleSet.load_error_iff`, which
says what comes out otherwise. So the rules of a loaded set have different names, and their hooks are those of their
definitions, whatever the settings say.
-/
namespace PatternLint

/-! ## Entries of the settings -/

namespace Settings

variable {settings : Settings} {name : String} {entry : RuleSettings} {severity severity' : Option Severity}

/-- The entry that the settings have for a rule, the first one under its name. -/
def Entry (settings : Settings) (name : String) (entry : RuleSettings) : Prop :=
  ∃ before after, settings.rules = before ++ (name, entry) :: after ∧ ∀ other ∈ before, other.1 ≠ name

/-- The entry of the rule sets it off. -/
def PutsOff (settings : Settings) (name : String) : Prop := ∃ entry, settings.Entry name entry ∧ entry.enabled = some false

/-- The severity that the entry of the rule has for it, none if there is no entry. -/
def Gives (settings : Settings) (name : String) (severity : Option Severity) : Prop :=
  ∀ s, severity = some s ↔ ∃ entry, settings.Entry name entry ∧ entry.severity = some s

theorem lookup_eq_some_iff : settings.rules.lookup name = some entry ↔ settings.Entry name entry := by
  rw [List.lookup_eq_some_iff]
  simp only [Entry, bne_iff_ne, ne_comm]

theorem isEnabled_eq_false_iff : settings.isEnabled name = false ↔ settings.PutsOff name := by
  simp only [PutsOff, ← lookup_eq_some_iff, isEnabled]
  cases settings.rules.lookup name with
  | none => simp
  | some entry => cases h : entry.enabled <;> simp [h]

instance (settings : Settings) (name : String) : Decidable (settings.PutsOff name) :=
  decidable_of_iff _ isEnabled_eq_false_iff

theorem isEnabled_iff : settings.isEnabled name = true ↔ ¬settings.PutsOff name := by
  rw [← isEnabled_eq_false_iff, Bool.not_eq_false]

theorem gives_severityOf? (settings : Settings) (name : String) : settings.Gives name (settings.severityOf? name) := by
  intro s
  simp only [severityOf?, Option.bind_eq_some_iff, lookup_eq_some_iff]

theorem Gives.eq (h : settings.Gives name severity) (h' : settings.Gives name severity') : severity = severity' :=
  Option.ext fun s => (h s).trans (h' s).symm

end Settings

/-- The rule that a definition is made into under some settings. -/
def RuleDefinition.MakesUnder (settings : Settings) (d : RuleDefinition) (r : Rule) : Prop :=
  ∃ severity, settings.Gives d.name severity ∧ d.Makes severity r

theorem RuleDefinition.MakesUnder.unique {settings : Settings} {d : RuleDefinition} {r r' : Rule}
    (h : d.MakesUnder settings r) (h' : d.MakesUnder settings r') : r = r' := by
  obtain ⟨severity, hgives, hr⟩ := h
  obtain ⟨severity', hgives', hr'⟩ := h'
  obtain rfl := hgives.eq hgives'
  exact hr.unique hr'

namespace Loading

/-! ## Taking definitions in -/

section Definition
variable {settings : Settings} {source : String} {index : Nat} {d : RuleDefinition} {l l' : Loading}

/-- What is wrong with a definition itself comes before a name that was seen already. -/
theorem fault?_addDefinition : fault? (addDefinition settings source index d l) =
    (d.faults s!"[{index}] in {source}").head?.or
      ((l.origins.lookup d.name).map (LoadError.duplicateName d.name · source)) := by
  rcases Bool.eq_false_or_eq_true (allBlank d.name) with hname | hname
  · simp [addDefinition, RuleDefinition.faults, hname, fault?_throw_bind]
  have hfaults : (d.faults s!"[{index}] in {source}").head? = fault? d.check := by
    rw [RuleDefinition.fault?_check, RuleDefinition.faults, RuleDefinition.faults, hname]
    rfl
  rw [hfaults, addDefinition, hname]
  refine fault?_bind fun r hr => ?_
  have hr : r.name = d.name := (RuleDefinition.check_makes hr).name
  rw [hr]
  rcases l.origins.lookup d.name with _ | first
  · cases settings.isEnabled d.name <;> rfl
  · rfl

/-- A definition that is taken in has a name that was not seen before, which is seen from then on; its rule comes first,
unless the settings put it off. -/
theorem addDefinition_ok (h : addDefinition settings source index d l = .ok l') :
    ∃ r, d.MakesUnder settings r ∧ l.origins.lookup d.name = none ∧ l'.origins = (d.name, source) :: l.origins ∧
      l'.rules = if settings.PutsOff d.name then l.rules else r :: l.rules := by
  unfold addDefinition at h
  split at h
  · cases h
  · simp only at h
    obtain ⟨r, hr, h⟩ := bind_ok h
    have hr := RuleDefinition.check_makes hr
    have hname : r.name = d.name := hr.name
    rw [hname] at h
    split at h
    · cases h
    · rename_i hnew
      have hnone : l.origins.lookup d.name = none := Option.eq_none_iff_forall_ne_some.2 hnew
      let r' : Rule := { r with info := { r.info with setSeverity := settings.severityOf? d.name } }
      refine ⟨r', ⟨_, settings.gives_severityOf? d.name, { hr with setSeverity := rfl }⟩, hnone, ?_⟩
      split at h
      · rename_i hon
        obtain rfl := Except.ok.inj h
        exact ⟨rfl, (if_neg (Settings.isEnabled_iff.1 hon)).symm⟩
      · rename_i hoff
        obtain rfl := Except.ok.inj h
        exact ⟨rfl, (if_pos (Settings.isEnabled_eq_false_iff.1 (Bool.eq_false_iff.2 hoff))).symm⟩

end Definition

/-! ## Items and their faults -/

/-- What is taken in at once: a definition at its place, or a source whose definitions cannot be had. -/
inductive Item where
  | failed (reason : LoadError)
  | entry (source : String) (index : Nat) (d : RuleDefinition)

namespace Item

def definition? : Item → Option RuleDefinition
  | failed _ => none
  | entry _ _ d => some d

/-- The source of a definition of that name. -/
def origin? (name : String) : Item → Option String
  | failed _ => none
  | entry source _ d => if d.name = name then some source else none

/-- Everything that is wrong with an item after some others. -/
def faults (before : List Item) : Item → List LoadError
  | failed reason => [reason]
  | entry source index d => d.faults s!"[{index}] in {source}" ++
      (before.filterMap (origin? d.name)).map (LoadError.duplicateName d.name · source)

end Item

/-- No item has a fault, each seen after those before it. -/
def Faultless (items : List Item) : Prop := ∀ before item, before ++ [item] <+: items → item.faults before = []

/-- The first fault of the first item that has one. -/
def FirstFault (items : List Item) (e : LoadError) : Prop :=
  ∃ before item, before ++ [item] <+: items ∧ Faultless before ∧ (item.faults before).head? = some e

theorem FirstFault.not_faultless {items : List Item} {e : LoadError} (h : FirstFault items e) : ¬Faultless items := by
  obtain ⟨before, item, hitem, -, he⟩ := h
  intro hf
  rw [hf before item hitem] at he
  cases he

section Concat
variable {items before : List Item} {item i : Item}

theorem concat_prefix_concat_iff :
    before ++ [i] <+: items ++ [item] ↔ (before = items ∧ i = item) ∨ before ++ [i] <+: items := by
  rw [List.prefix_concat_iff, List.append_singleton_inj]

theorem faultless_concat : Faultless (items ++ [item]) ↔ Faultless items ∧ item.faults items = [] := by
  simp only [Faultless, concat_prefix_concat_iff]
  constructor
  · intro h
    exact ⟨fun before i hi => h before i (.inr hi), h items item (.inl ⟨rfl, rfl⟩)⟩
  · rintro ⟨h, hitem⟩ before i (⟨rfl, rfl⟩ | hi)
    · exact hitem
    · exact h before i hi

theorem firstFault_concat {e : LoadError} :
    FirstFault (items ++ [item]) e ↔ FirstFault items e ∨ Faultless items ∧ (item.faults items).head? = some e := by
  simp only [FirstFault, concat_prefix_concat_iff]
  constructor
  · rintro ⟨before, i, ⟨rfl, rfl⟩ | hi, hbefore, he⟩
    · exact .inr ⟨hbefore, he⟩
    · exact .inl ⟨before, i, hi, hbefore, he⟩
  · rintro (⟨before, i, hi, hbefore, he⟩ | ⟨hitems, he⟩)
    · exact ⟨before, i, .inr hi, hbefore, he⟩
    · exact ⟨items, item, .inl ⟨rfl, rfl⟩, hitems, he⟩

end Concat

theorem origins_eq_nil {items : List Item} {name : String} : items.filterMap (Item.origin? name) = [] ↔
    name ∉ (items.filterMap Item.definition?).map RuleDefinition.name := by
  have horigin : ∀ item : Item, item.origin? name = none ↔ ∀ d, item.definition? = some d → d.name ≠ name := by
    intro item
    cases item <;> simp [Item.origin?, Item.definition?]
  simp only [List.filterMap_eq_nil_iff, horigin, List.mem_map, List.mem_filterMap]
  grind

theorem faultless_iff (items : List Item) : Faultless items ↔ (∀ reason, .failed reason ∉ items) ∧
    (∀ d ∈ items.filterMap Item.definition?, d.Valid) ∧
    ((items.filterMap Item.definition?).map RuleDefinition.name).Nodup := by
  induction items using List.reverseRecOn with
  | nil => simp [Faultless]
  | append_singleton items item ih =>
    rw [faultless_concat, ih]
    cases item with
    | failed reason =>
      simp only [Item.faults, List.cons_ne_nil, and_false, false_iff]
      rintro ⟨hreadable, -⟩
      exact hreadable reason (by simp)
    | entry source index d =>
      have hdefinitions : (items ++ [Item.entry source index d]).filterMap Item.definition? =
          items.filterMap Item.definition? ++ [d] := List.filterMap_append
      rw [hdefinitions, List.map_append, List.map_singleton, List.forall_mem_append, List.nodup_append_comm,
        List.singleton_append, List.nodup_cons, ← origins_eq_nil, Item.faults, List.append_eq_nil_iff,
        RuleDefinition.faults_eq_nil, List.map_eq_nil_iff, List.forall_mem_singleton]
      simp only [List.mem_append, List.mem_singleton, reduceCtorEq, or_false]
      tauto

/-! ## Taking items in -/

def addItem (settings : Settings) (l : Loading) : Item → Except LoadError Loading
  | .failed reason => .error reason
  | .entry source index d => l.addDefinition settings source index d

/-- What holds after some items: all their names were seen, and the rules that are on are there. -/
structure Holds (settings : Settings) (items : List Item) (l : Loading) : Prop where
  origins : ∀ name, l.origins.lookup name = items.findSome? (Item.origin? name)
  rules : List.Forall₂ (RuleDefinition.MakesUnder settings)
    ((items.filterMap Item.definition?).filter fun d => ¬settings.PutsOff d.name) l.rules.reverse

variable {settings : Settings} {items : List Item} {item : Item} {l l' : Loading}

theorem Holds.fault?_addItem (h : l.Holds settings items) (item : Item) :
    fault? (l.addItem settings item) = (item.faults items).head? := by
  cases item with
  | failed reason => rfl
  | entry source index d =>
    rw [addItem, fault?_addDefinition, h.origins, Item.faults, List.head?_append, List.head?_map, List.head?_filterMap]

theorem Holds.addItem (h : l.Holds settings items) (ha : l.addItem settings item = .ok l') :
    l'.Holds settings (items ++ [item]) := by
  cases item with
  | failed reason => cases ha
  | entry source index d =>
    obtain ⟨r, hr, hnew, horigins, hrules⟩ := addDefinition_ok ha
    refine ⟨fun name => ?_, ?_⟩
    · rw [horigins, List.lookup_cons, h.origins, List.findSome?_append, List.findSome?_singleton, Item.origin?]
      by_cases hname : d.name = name
      · -- the name is new, so no earlier item has it
        subst hname
        rw [← h.origins, hnew, beq_self_eq_true, if_pos rfl, Option.none_or]
      · rw [beq_eq_false_iff_ne.2 (Ne.symm hname), if_neg hname, Option.or_none]
    · rw [hrules, List.filterMap_append, List.filter_append]
      by_cases hoff : settings.PutsOff d.name
      · simpa [Item.definition?, hoff] using h.rules
      · simpa [Item.definition?, hoff] using List.rel_append h.rules (.cons hr .nil)

/-- What comes of some items: the first fault, or all of them are taken in. -/
structure Decides (settings : Settings) (items : List Item) (x : Except LoadError Loading) : Prop where
  fault : ∀ e, x = .error e ↔ FirstFault items e
  faultless : (∃ l, x = .ok l) ↔ Faultless items
  holds : ∀ l, x = .ok l → l.Holds settings items

theorem Decides.addItem {x : Except LoadError Loading} (h : Decides settings items x) (item : Item) :
    Decides settings (items ++ [item]) (x >>= fun l => l.addItem settings item) := by
  cases x with
  | error e =>
    have hfaulty : ¬Faultless items := ((h.fault e).1 rfl).not_faultless
    refine ⟨fun e' => ?_, ?_, ?_⟩
    · rw [firstFault_concat, ← h.fault, or_iff_left fun hf => hfaulty hf.1]
      rfl
    · rw [faultless_concat, iff_false_right fun hf => hfaulty hf.1]
      rintro ⟨l, ⟨⟩⟩
    · rintro l ⟨⟩
  | ok l =>
    have hl : l.Holds settings items := h.holds l rfl
    have hf : Faultless items := h.faultless.1 ⟨l, rfl⟩
    refine ⟨fun e => ?_, ?_, fun l' hl' => hl.addItem hl'⟩
    · have hfirst : ¬FirstFault items e := by
        intro he
        cases (h.fault e).2 he
      rw [firstFault_concat, or_iff_right hfirst, and_iff_right hf, ← hl.fault?_addItem, fault?_eq_some]
      rfl
    · rw [faultless_concat, and_iff_right hf, ← List.head?_eq_none_iff, ← hl.fault?_addItem, fault?_eq_none]
      rfl

theorem decides_foldlM (settings : Settings) (items : List Item) :
    Decides settings items (items.foldlM (Loading.addItem settings) {}) := by
  -- an item is judged by those before it, so that one is added at the end
  induction items using List.reverseRecOn with
  | nil =>
    have hnone : ∀ before item, ¬before ++ [item] <+: ([] : List Item) := by simp
    refine ⟨fun e => iff_of_false ?_ ?_, iff_of_true ⟨_, rfl⟩ ?_, ?_⟩
    · rintro ⟨⟩
    · rintro ⟨before, item, hitem, -⟩
      exact hnone before item hitem
    · exact fun before item hitem => (hnone before item hitem).elim
    · rintro l ⟨⟩
      exact ⟨fun _ => rfl, .nil⟩
  | append_singleton items item ih =>
    simp only [List.foldlM_append, List.foldlM_cons, List.foldlM_nil, bind_pure]
    exact ih.addItem item

end Loading

/-! ## Taking sources in -/

namespace RuleSource

/-- The definitions of a source, none if they cannot be had. -/
def found (s : RuleSource) : List RuleDefinition := s.definitions.toOption.getD []

def items (s : RuleSource) : List Loading.Item :=
  match s.definitions with
  | .error reason => [.failed reason]
  | .ok ds => ds.zipIdx.map fun p => .entry s.name p.2 p.1

theorem filterMap_items (s : RuleSource) : s.items.filterMap Loading.Item.definition? = s.found := by
  rw [items, found]
  rcases s.definitions with reason | ds
  · rfl
  · simp [Function.comp_def, Loading.Item.definition?, Except.toOption]

theorem failed_not_mem_items (s : RuleSource) :
    (∀ reason, .failed reason ∉ s.items) ↔ ∃ ds, s.definitions = .ok ds := by
  rw [items]
  rcases s.definitions with reason | ds <;> simp

end RuleSource

namespace Loading

theorem addDefinitions_eq (settings : Settings) (source : String) (index : Nat) (ds : List RuleDefinition) (l : Loading) :
    addDefinitions settings source index ds l =
      ((ds.zipIdx index).map fun p => Item.entry source p.2 p.1).foldlM (addItem settings) l := by
  induction ds generalizing index l with
  | nil => rfl
  | cons d ds ih =>
    rw [List.zipIdx_cons, List.map_cons, List.foldlM_cons]
    exact bind_congr fun l => ih (index + 1) l

theorem addSources_eq (settings : Settings) (sources : List RuleSource) (l : Loading) :
    addSources settings sources l = (sources.flatMap RuleSource.items).foldlM (addItem settings) l := by
  induction sources generalizing l with
  | nil => rfl
  | cons s ss ih =>
    rw [List.flatMap_cons, List.foldlM_append, addSources, RuleSource.items]
    rcases s.definitions with reason | ds
    · rfl
    · rw [← addDefinitions_eq]
      exact bind_congr fun l => ih l

theorem decides_addSources (settings : Settings) (sources : List RuleSource) :
    Decides settings (sources.flatMap RuleSource.items) (addSources settings sources {}) := by
  rw [addSources_eq]
  exact decides_foldlM settings _

end Loading

/-! ## Loaded sets -/

namespace RuleSet

variable {sources : List RuleSource} {settings : Settings} {s s' : RuleSet} {names : List String}

/-- No two rules of the set have one name. -/
def NamesDiffer (s : RuleSet) : Prop := (s.rules.map Rule.name).Nodup

/-- The definitions of all sources. -/
def definitions (sources : List RuleSource) : List RuleDefinition := sources.flatMap RuleSource.found

/-- The definitions that the settings do not put off. -/
def enabled (sources : List RuleSource) (settings : Settings) : List RuleDefinition :=
  (definitions sources).filter fun d => ¬settings.PutsOff d.name

/-- The rules of the set are those of the definitions, one by one, with the severities that the settings give them. -/
def MadeFrom (settings : Settings) (ds : List RuleDefinition) (s : RuleSet) : Prop :=
  List.Forall₂ (RuleDefinition.MakesUnder settings) ds s.rules

/-- All definitions can be had and are valid, also those that are off, no two have one name, and one is on. -/
structure Loadable (sources : List RuleSource) (settings : Settings) : Prop where
  readable : ∀ source ∈ sources, ∃ ds, source.definitions = .ok ds
  valid : ∀ d ∈ definitions sources, d.Valid
  distinct : ((definitions sources).map RuleDefinition.name).Nodup
  someEnabled : ∃ d ∈ definitions sources, ¬settings.PutsOff d.name

theorem filterMap_items (sources : List RuleSource) :
    (sources.flatMap RuleSource.items).filterMap Loading.Item.definition? = definitions sources := by
  simp only [List.filterMap_flatMap, RuleSource.filterMap_items, definitions]

theorem failed_not_mem_items (sources : List RuleSource) :
    (∀ reason, .failed reason ∉ sources.flatMap RuleSource.items) ↔
      ∀ source ∈ sources, ∃ ds, source.definitions = .ok ds := by
  simp only [List.mem_flatMap, not_exists, not_and, ← RuleSource.failed_not_mem_items]
  exact ⟨fun h source hs reason => h reason source hs, fun h reason source hs => h source hs reason⟩

theorem loadable_iff : Loadable sources settings ↔
    Loading.Faultless (sources.flatMap RuleSource.items) ∧ enabled sources settings ≠ [] := by
  rw [Loading.faultless_iff, filterMap_items, failed_not_mem_items, enabled, ne_eq, List.filter_eq_nil_iff]
  simp only [decide_eq_true_eq]
  constructor
  · rintro ⟨hreadable, hvalid, hdistinct, d, hd, hon⟩
    exact ⟨⟨hreadable, hvalid, hdistinct⟩, fun hoff => hoff d hd hon⟩
  · rintro ⟨⟨hreadable, hvalid, hdistinct⟩, hon⟩
    push Not at hon
    exact ⟨hreadable, hvalid, hdistinct, hon⟩

theorem MadeFrom.unique {ds : List RuleDefinition} (h : s.MadeFrom settings ds) (h' : s'.MadeFrom settings ds) :
    s = s' := by
  have hmakes : Relator.RightUnique (RuleDefinition.MakesUnder settings) := fun _ _ _ hr hr' => hr.unique hr'
  have hrules : s.rules = s'.rules := hmakes.forall₂ h h'
  cases s
  cases s'
  exact congrArg RuleSet.mk hrules

theorem MadeFrom.names_eq {ds : List RuleDefinition} (h : s.MadeFrom settings ds) :
    s.rules.map Rule.name = ds.map RuleDefinition.name := by
  have hnames : List.Forall₂ (fun r d => r.name = d.name) s.rules ds := by
    refine h.flip.imp ?_
    rintro r d ⟨severity, -, hr⟩
    exact hr.name
  rwa [← List.forall₂_eq_eq_eq, List.forall₂_map_left_iff, List.forall₂_map_right_iff]

theorem load_of_error {e : LoadError} (h : Loading.addSources settings sources {} = .error e) :
    (load sources settings).2 = .error e := by
  rw [load, h]

section Taken
variable {l : Loading} (h : Loading.addSources settings sources {} = .ok l)
include h

theorem load_of_ok :
    (load sources settings).2 = if l.rules.isEmpty then .error .emptyRuleSet else .ok ⟨l.rules.reverse⟩ := by
  rw [load, h]
  simp only
  split <;> rfl

theorem madeFrom_of_addSources : MadeFrom settings (enabled sources settings) ⟨l.rules.reverse⟩ := by
  have hrules := ((Loading.decides_addSources settings sources).holds l h).rules
  rwa [filterMap_items] at hrules

theorem enabled_eq_nil_iff : enabled sources settings = [] ↔ l.rules.isEmpty := by
  have hlength := (madeFrom_of_addSources h).length_eq
  rw [← List.length_eq_zero_iff, hlength, List.length_reverse, List.length_eq_zero_iff, List.isEmpty_iff]

end Taken

theorem load_ok_iff : (load sources settings).2 = .ok s ↔
    Loadable sources settings ∧ s.MadeFrom settings (enabled sources settings) := by
  have hd := Loading.decides_addSources settings sources
  rw [loadable_iff, ← hd.faultless]
  cases h : Loading.addSources settings sources {} with
  | error e =>
    rw [load_of_error h]
    simp
  | ok l =>
    have hmade := madeFrom_of_addSources h
    rw [load_of_ok h, ne_eq, enabled_eq_nil_iff h]
    split <;> rename_i hrules
    · simp [hrules]
    · rw [and_iff_right ⟨⟨l, rfl⟩, hrules⟩, Except.ok.injEq]
      exact ⟨fun hs => hs ▸ hmade, hmade.unique⟩

theorem load_error_iff {e : LoadError} : (load sources settings).2 = .error e ↔
    Loading.FirstFault (sources.flatMap RuleSource.items) e ∨
      Loading.Faultless (sources.flatMap RuleSource.items) ∧ enabled sources settings = [] ∧ e = .emptyRuleSet := by
  have hd := Loading.decides_addSources settings sources
  rw [← hd.faultless, ← hd.fault]
  cases h : Loading.addSources settings sources {} with
  | error e =>
    rw [load_of_error h]
    simp
  | ok l =>
    rw [load_of_ok h, enabled_eq_nil_iff h]
    split <;> rename_i hrules
    · simp [hrules, eq_comm]
    · simp [hrules]

theorem namesDiffer_of_load (h : (load sources settings).2 = .ok s) : s.NamesDiffer := by
  obtain ⟨hload, hmade⟩ := load_ok_iff.1 h
  rw [NamesDiffer, hmade.names_eq]
  exact hload.distinct.sublist (List.filter_sublist.map _)

/-- Every loaded rule has the hook of a definition of the sources. -/
theorem hook_of_load (h : (load sources settings).2 = .ok s) {r : Rule} (hr : r ∈ s.rules) :
    ∃ source ∈ sources, ∃ ds, source.definitions = .ok ds ∧ ∃ d ∈ ds, r.hook = d.hook := by
  obtain ⟨hload, hmade⟩ := load_ok_iff.1 h
  obtain ⟨d, hd, severity, -, hmakes⟩ := exists_of_forall₂ hmade.flip hr
  obtain ⟨source, hsource, hfound⟩ := List.mem_flatMap.1 (List.mem_of_mem_filter hd)
  obtain ⟨ds, hds⟩ := hload.readable source hsource
  rw [RuleSource.found, hds] at hfound
  exact ⟨source, hsource, ds, hds, d, hfound, hmakes.hook⟩

/-! ## Rules picked by name -/

theorem isNone_get? (s : RuleSet) (name : String) :
    (s.get? name).isNone = decide (name ∉ s.rules.map Rule.name) := by
  rw [get?, Bool.eq_iff_iff]
  simp

theorem find?_not_mem_eq_none {known : List String} : names.find? (· ∉ known) = none ↔ names ⊆ known := by
  simp only [List.find?_eq_none, decide_eq_true_eq, not_not]
  rfl

theorem only_of_unknown {name : String} (h : names.find? (· ∉ s.rules.map Rule.name) = some name) :
    s.only names = .error (.unknownRule name) := by
  simp only [only, isNone_get?, h]

theorem only_of_known (h : names ⊆ s.rules.map Rule.name) : s.only names =
    if names = [] then .error .emptyRuleSet else .ok ⟨s.rules.filter fun r => names.contains r.name⟩ := by
  have hfind : names.find? (· ∉ s.rules.map Rule.name) = none := find?_not_mem_eq_none.2 h
  simp only [only, isNone_get?, hfind]
  congr 1
  rw [List.isEmpty_iff, List.filter_eq_nil_iff, eq_iff_iff]
  constructor
  · intro hnone
    refine List.eq_nil_iff_forall_not_mem.2 fun name hname => ?_
    obtain ⟨r, hr, rfl⟩ := List.mem_map.1 (h hname)
    exact hnone r hr (List.contains_iff_mem.2 hname)
  · rintro rfl
    simp

theorem only_ok_iff : s.only names = .ok s' ↔
    names ≠ [] ∧ names ⊆ s.rules.map Rule.name ∧ s' = ⟨s.rules.filter fun r => names.contains r.name⟩ := by
  cases hfind : names.find? (· ∉ s.rules.map Rule.name) with
  | none =>
    have hknown := find?_not_mem_eq_none.1 hfind
    rw [only_of_known hknown]
    split <;> rename_i hnames
    · simp [hnames]
    · simp [hnames, hknown, eq_comm]
  | some name =>
    rw [only_of_unknown hfind]
    have hname : name ∉ s.rules.map Rule.name := by simpa using List.find?_some hfind
    simp only [reduceCtorEq, false_iff]
    rintro ⟨-, hknown, -⟩
    exact hname (hknown (List.mem_of_find?_eq_some hfind))

theorem only_error_iff {e : LoadError} : s.only names = .error e ↔ names = [] ∧ e = .emptyRuleSet ∨
    (names.find? (· ∉ s.rules.map Rule.name)).map LoadError.unknownRule = some e := by
  cases hfind : names.find? (· ∉ s.rules.map Rule.name) with
  | none =>
    have hknown := find?_not_mem_eq_none.1 hfind
    rw [only_of_known hknown]
    split <;> rename_i hnames
    · simp [hnames, eq_comm]
    · simp [hnames]
  | some name =>
    have hnames : names ≠ [] := List.ne_nil_of_mem (List.mem_of_find?_eq_some hfind)
    rw [only_of_unknown hfind]
    simp [hnames]

theorem MadeFrom.filter {ds : List RuleDefinition} (h : s.MadeFrom settings ds) (names : List String) :
    MadeFrom settings (ds.filter fun d => names.contains d.name) ⟨s.rules.filter fun r => names.contains r.name⟩ := by
  refine List.rel_filter ?_ h
  rintro d r ⟨severity, -, hr⟩
  have hname : r.name = d.name := hr.name
  simp only [hname]

/-- What loading comes to. It succeeds exactly for sources that are loadable, and then gives the rules of the definitions
that the settings do not put off, with the severities that the settings give, from which those of given names can be
picked. It fails with the first fault of the first item that has one, or because nothing is on where there is no fault. -/
theorem load_exact (sources : List RuleSource) (settings : Settings) :
    ((∃ s, (load sources settings).2 = .ok s) ↔ Loadable sources settings) ∧
    (∀ s, (load sources settings).2 = .ok s ↔
      Loadable sources settings ∧ s.MadeFrom settings (enabled sources settings)) ∧
    (∀ e, (load sources settings).2 = .error e ↔
      Loading.FirstFault (sources.flatMap RuleSource.items) e ∨
        Loading.Faultless (sources.flatMap RuleSource.items) ∧ enabled sources settings = [] ∧ e = .emptyRuleSet) ∧
    ∀ s, (load sources settings).2 = .ok s → ∀ names : List String,
      (∀ s', s.only names = .ok s' ↔
        names ≠ [] ∧ names ⊆ (enabled sources settings).map RuleDefinition.name ∧
          s'.MadeFrom settings ((enabled sources settings).filter fun d => names.contains d.name)) ∧
      (∀ e, s.only names = .error e ↔ names = [] ∧ e = .emptyRuleSet ∨
        (names.find? (· ∉ (enabled sources settings).map RuleDefinition.name)).map LoadError.unknownRule = some e) := by
  refine ⟨⟨?_, fun h => ?_⟩, fun s => load_ok_iff, fun e => load_error_iff, fun s hs names => ?_⟩
  · rintro ⟨s, hs⟩
    exact (load_ok_iff.1 hs).1
  · obtain ⟨hfaultless, hon⟩ := loadable_iff.1 h
    cases hload : (load sources settings).2 with
    | ok s => exact ⟨s, rfl⟩
    | error e =>
      rcases load_error_iff.1 hload with hfirst | ⟨-, hoff, -⟩
      · exact (hfirst.not_faultless hfaultless).elim
      · exact (hon hoff).elim
  · have hmade := (load_ok_iff.1 hs).2
    rw [← hmade.names_eq]
    refine ⟨fun s' => ?_, fun e => only_error_iff⟩
    rw [only_ok_iff]
    refine and_congr_right fun _ => and_congr_right fun _ => ⟨?_, fun hs' => hs'.unique (hmade.filter names)⟩
    rintro rfl
    exact hmade.filter names

/-- Looks for a word in every file. -/
def leftOver (word : String) : RuleDefinition where
  name := word
  description := "left over"
  capture := some (.pattern word {})
  severity := some .warning
  included := ["*"]

/-- Three of them from one source. -/
def leftOvers : List RuleSource := [inlineSource [leftOver "todo", leftOver "print", leftOver "fixme"]]

/-- Puts one rule off, gives another one a severity, and leaves a third one as it is. -/
def tuned : Settings where
  rules := [("todo", { enabled := some false }), ("print", { severity := some .critical }),
    ("fixme", { enabled := some true })]

/-- The rule that was put off is not loaded and cannot be picked, and only the severity of the second is another one. -/
theorem tuned_load_exact : ∃ s, (load leftOvers tuned).2 = .ok s ∧
    tuned.PutsOff "todo" ∧ tuned.Gives "print" (some .critical) ∧ tuned.Gives "fixme" none ∧
    s.MadeFrom tuned [leftOver "print", leftOver "fixme"] ∧
    s.rules.map (fun r => (r.name, r.info.setSeverity)) = [("print", some .critical), ("fixme", none)] ∧
    s.only ["todo"] = .error (.unknownRule "todo") ∧ ∃ s', s.only ["fixme"] = .ok s' := by
  have h : ((load leftOvers tuned).2.toOption.map fun s => s.rules.map fun r => (r.name, r.info.setSeverity)) =
      some [("print", some .critical), ("fixme", none)] := by
    decide +kernel
  obtain ⟨s, hload, hrules⟩ := toOption_map_ok h
  obtain ⟨-, hok, -, hpick⟩ := load_exact leftOvers tuned
  have henabled : enabled leftOvers tuned = [leftOver "print", leftOver "fixme"] := rfl
  have hmade := ((hok s).1 hload).2
  rw [henabled] at hmade hpick
  refine ⟨s, hload, by decide, tuned.gives_severityOf? "print", tuned.gives_severityOf? "fixme", hmade, hrules, ?_, ?_⟩
  · exact ((hpick s hload ["todo"]).2 _).2 (.inr (by decide))
  · exact ⟨_, ((hpick s hload ["fixme"]).1 _).2 ⟨by decide, by decide, hmade.filter ["fixme"]⟩⟩

/-- A definition that is off takes its name all the same. -/
example :
    let todo : RuleDefinition := {
      name := "todo", description := "left over", capture := some (.pattern "TODO" {}), severity := some .warning,
      included := ["*"] }
    fault? (load [⟨"first", .ok [todo]⟩, ⟨"second", .ok [todo]⟩] { rules := [("todo", { enabled := some false })] }).2 =
      some (.duplicateName "todo" "first" "second") := by
  decide +kernel

end RuleSet

end PatternLint
