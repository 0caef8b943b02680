import Mathlib.Data.List.Forall2
import Mathlib.Data.List.Nodup
import Mathlib.Logic.Relation
import PatternLint.Report.Json
/-!
# Reading back the JSON report

A scan result whose numbers fit into 64 bits is read back from its JSON value as it was. What is read does not
depend on how the value spells its records: keys may be reordered, unknown keys may be added, and a key that is left
out may be written with what it stands for. A record is described by its fields; two spellings of it are joined by
single respellings, and reading is shown to be blind to each of them.
-/
namespace PatternLint

namespace Json

/-! ## Spellings of a record -/

/-- A field of a record, with the spellings that its value may have and what it stands for where it is left out. -/
structure RecordField where
  name : String
  Alike : Json → Json → Prop
  absent : Option Json

/-- A field that has to be there and whose value is spelled in one way. -/
def RecordField.plain (name : String) : RecordField := ⟨name, Eq, none⟩

/-- One change to the spelling of a record. -/
inductive Respells (fields : List RecordField) : List (String × Json) → List (String × Json) → Prop
  | reorder {es es' : List (String × Json)} : (es.map Prod.fst).Nodup → es.Perm es' → Respells fields es es'
  | unknown {es : List (String × Json)} (key : String) (value : Json) :
      key ∉ fields.map RecordField.name → Respells fields es ((key, value) :: es)
  | absent {es : List (String × Json)} (f : RecordField) (value : Json) :
      f ∈ fields → f.absent = some value → f.name ∉ es.map Prod.fst → Respells fields es ((f.name, value) :: es)
  | inside (es es' : List (String × Json)) (f : RecordField) {v w : Json} :
      f ∈ fields → f.Alike v w → Respells fields (es ++ (f.name, v) :: es') (es ++ (f.name, w) :: es')

/-- Two spellings of one record. -/
inductive AlikeRecord (fields : List RecordField) : Json → Json → Prop
  | refl (v : Json) : AlikeRecord fields v v
  | object {es es' : List (String × Json)} :
      Relation.EqvGen (Respells fields) es es' → AlikeRecord fields (object es) (object es')

theorem AlikeRecord.respell {fields : List RecordField} {v : Json} {es es' : List (String × Json)}
    (h : AlikeRecord fields v (.object es)) (h' : Respells fields es es') : AlikeRecord fields v (.object es') := by
  cases h with
  | refl => exact .object (.rel _ _ h')
  | object h => exact .object (h.trans _ _ _ (.rel _ _ h'))

theorem AlikeRecord.unspell {fields : List RecordField} {v : Json} {es es' : List (String × Json)}
    (h : AlikeRecord fields v (.object es)) (h' : Respells fields es' es) : AlikeRecord fields v (.object es') := by
  cases h with
  | refl => exact .object ((Relation.EqvGen.rel _ _ h').symm _ _)
  | object h => exact .object (h.trans _ _ _ ((Relation.EqvGen.rel _ _ h').symm _ _))

/-- Two lists with items that are spellings of each other. -/
inductive AlikeList (R : Json → Json → Prop) : Json → Json → Prop
  | refl (v : Json) : AlikeList R v v
  | array {vs ws : List Json} : List.Forall₂ R vs ws → AlikeList R (array vs) (array ws)

/-- What is read does not depend on the spelling. -/
def BlindTo {α : Type} (read : Json → Option α) (R : Json → Json → Prop) : Prop :=
  ∀ ⦃v w⦄, R v w → read v = read w

/-- Reading the field does not tell spellings of its value apart, nor its absence from what it stands for. -/
structure RecordField.ReadBy {α : Type} (f : RecordField) (read : Option Json → Option α) : Prop where
  value : ∀ v w, f.Alike v w → read (some v) = read (some w)
  absent : ∀ v, f.absent = some v → read none = read (some v)

/-- No reader of the fields tells the two records apart. -/
def Indistinct (fields : List RecordField) (get get' : String → Option Json) : Prop :=
  ∀ f ∈ fields, ∀ (α : Type) (read : Option Json → Option α), f.ReadBy read → read (get f.name) = read (get' f.name)

namespace Indistinct

variable {fields : List RecordField} {get get' : String → Option Json}

theorem plain (h : Indistinct fields get get') (name : String) (hf : .plain name ∈ fields) : get name = get' name :=
  h _ hf Json id ⟨fun _ _ hvw => congrArg some hvw, fun _ h => nomatch h⟩

theorem nested {α : Type} (h : Indistinct fields get get') (name : String) {R : Json → Json → Prop}
    (hf : ⟨name, R, none⟩ ∈ fields) {read : Json → Option α} (hread : BlindTo read R) :
    (get name).bind read = (get' name).bind read :=
  h _ hf α (·.bind read) ⟨fun _ _ hvw => hread hvw, fun _ h => nomatch h⟩

theorem optional {α : Type} (h : Indistinct fields get get') (name : String) (value : Json)
    (hf : ⟨name, Eq, some value⟩ ∈ fields) (read : Option Json → Option α) (hread : read none = read (some value)) :
    read (get name) = read (get' name) := by
  refine h _ hf α read ⟨?_, ?_⟩
  · rintro v w rfl
    rfl
  · rintro v ⟨⟩
    exact hread

end Indistinct

/-! ## What a respelling does to a look-up -/

theorem lookup_cons_of_ne {name key : String} (h : name ≠ key) (value : Json) (es : List (String × Json)) :
    ((key, value) :: es).lookup name = es.lookup name := by
  rw [List.lookup_cons, beq_eq_false_iff_ne.2 h]

theorem lookup_perm {es es' : List (String × Json)} (hes : (es.map Prod.fst).Nodup) (h : es.Perm es')
    (name : String) : es.lookup name = es'.lookup name := by
  induction h with
  | nil => rfl
  | cons e _ ih =>
    obtain ⟨key, value⟩ := e
    rw [List.lookup_cons, List.lookup_cons, ih (List.nodup_cons.1 hes).2]
  | swap e e' es =>
    obtain ⟨key, value⟩ := e
    obtain ⟨key', value'⟩ := e'
    have hne : key' ≠ key := fun h => (List.nodup_cons.1 hes).1 (by simp [h])
    by_cases hkey : name = key
    · subst hkey
      rw [lookup_cons_of_ne hne.symm, List.lookup_cons_self, List.lookup_cons_self]
    · rw [List.lookup_cons, lookup_cons_of_ne hkey, lookup_cons_of_ne hkey, List.lookup_cons]
  | trans h _ ih ih' => exact (ih hes).trans (ih' ((h.map Prod.fst).nodup_iff.1 hes))

theorem lookup_of_not_mem {es : List (String × Json)} {name : String} (h : name ∉ es.map Prod.fst) :
    es.lookup name = none := by
  rw [List.lookup_eq_none_iff]
  intro e he
  have hne : name ≠ e.1 := fun h' => h (h' ▸ List.mem_map_of_mem he)
  simpa using hne

theorem Respells.indistinct {fields : List RecordField} (hfields : (fields.map RecordField.name).Nodup)
    {es es' : List (String × Json)} (h : Respells fields es es') :
    Indistinct fields (es.lookup ·) (es'.lookup ·) := by
  intro g hg α read hread
  show read (es.lookup g.name) = read (es'.lookup g.name)
  -- A field is told by its name.
  have same : ∀ f ∈ fields, g.name = f.name → g = f := fun f hf hn => List.inj_on_of_nodup_map hfields hg hf hn
  cases h with
  | reorder hes h => rw [lookup_perm hes h]
  | unknown key value hkey =>
    have hne : g.name ≠ key := fun h => hkey (h ▸ List.mem_map_of_mem hg)
    rw [lookup_cons_of_ne hne]
  | absent f value hf hvalue hes =>
    by_cases hn : g.name = f.name
    · obtain rfl := same f hf hn
      rw [lookup_of_not_mem hes, List.lookup_cons_self]
      exact hread.absent value hvalue
    · rw [lookup_cons_of_ne hn]
  | @inside es es' f v w hf hvw =>
    rw [List.lookup_append, List.lookup_append]
    by_cases hn : g.name = f.name
    · obtain rfl := same f hf hn
      rw [List.lookup_cons_self, List.lookup_cons_self]
      cases es.lookup g.name with
      | some _ => rfl
      | none => exact hread.value v w hvw
    · rw [lookup_cons_of_ne hn, lookup_cons_of_ne hn]

/-- Whatever is made of the fields of a record, it is the same for two spellings of it. -/
theorem blindTo_alikeRecord {α : Type} {fields : List RecordField} (hfields : (fields.map RecordField.name).Nodup)
    (names : List String) (optional : Nat) {build : (String → Option Json) → Option α}
    (hbuild : ∀ get get', Indistinct fields get get' → build get = build get') :
    BlindTo (fun v => (v.record? names optional).bind build) (AlikeRecord fields) := by
  intro v w h
  cases h with
  | refl => rfl
  | object h =>
    refine hbuild _ _ fun f hf α read hread => ?_
    induction h with
    | rel _ _ h => exact h.indistinct hfields f hf α read hread
    | refl => rfl
    | symm _ _ _ ih => exact ih.symm
    | trans _ _ _ _ _ ih ih' => exact ih.trans ih'

theorem blindTo_alikeList {α : Type} {R : Json → Json → Prop} {read : Json → Option α} (hread : BlindTo read R) :
    BlindTo (list? read) (AlikeList R) := by
  intro v w h
  cases h with
  | refl => rfl
  | array h =>
    simp only [list?]
    induction h with
    | nil => rfl
    | cons hvw _ ih => rw [List.mapM_cons, List.mapM_cons, hread hvw, ih]

end Json

open Json

/-! ## The records of the report -/

def Span.fields : List RecordField := ["start", "end"].map RecordField.plain

def SourceLine.fields : List RecordField := ["number", "text"].map RecordField.plain

def Location.fields : List RecordField :=
  ["first_line", "last_line", "column"].map RecordField.plain ++
    [⟨"lines", AlikeList (AlikeRecord SourceLine.fields), none⟩, ⟨"caret", Eq, some .null⟩]

def Complaint.fields : List RecordField :=
  ["rule", "severity", "path", "message"].map RecordField.plain ++
    [⟨"span", AlikeRecord Span.fields, none⟩, ⟨"help", Eq, some .null⟩,
      ⟨"location", AlikeRecord Location.fields, none⟩]

def ScanResult.fields : List RecordField :=
  ["total", "warnings", "criticals", "files_scanned"].map RecordField.plain ++
    [⟨"complaints", AlikeList (AlikeRecord Complaint.fields), none⟩, ⟨"interrupted", Eq, some (.bool false)⟩]

theorem Span.ofJson?_blindTo : BlindTo Span.ofJson? (AlikeRecord Span.fields) := by
  refine blindTo_alikeRecord (by decide) _ _ fun get get' h => ?_
  rw [h.plain "start" (by simp [fields]), h.plain "end" (by simp [fields])]

theorem SourceLine.ofJson?_blindTo : BlindTo SourceLine.ofJson? (AlikeRecord SourceLine.fields) := by
  refine blindTo_alikeRecord (by decide) _ _ fun get get' h => ?_
  rw [h.plain "number" (by simp [fields]), h.plain "text" (by simp [fields])]

theorem Location.ofJson?_blindTo : BlindTo Location.ofJson? (AlikeRecord Location.fields) := by
  refine blindTo_alikeRecord (by decide) _ _ fun get get' h => ?_
  have hlines := h.nested "lines" (by simp [fields]) (blindTo_alikeList SourceLine.ofJson?_blindTo)
  have hcaret := h.optional "caret" .null (by simp [fields]) (optional? string?) rfl
  simp only [h.plain "first_line" (by simp [fields]), h.plain "last_line" (by simp [fields]),
    h.plain "column" (by simp [fields]), hcaret, Option.bind_eq_bind, ← Option.bind_assoc, hlines]

theorem Complaint.ofJson?_blindTo : BlindTo Complaint.ofJson? (AlikeRecord Complaint.fields) := by
  refine blindTo_alikeRecord (by decide) _ _ fun get get' h => ?_
  have hspan := h.nested "span" (by simp [fields]) Span.ofJson?_blindTo
  have hlocation := h.nested "location" (by simp [fields]) Location.ofJson?_blindTo
  have hhelp := h.optional "help" .null (by simp [fields]) (optional? string?) rfl
  simp only [h.plain "rule" (by simp [fields]), h.plain "severity" (by simp [fields]),
    h.plain "path" (by simp [fields]), h.plain "message" (by simp [fields]), hhelp, Option.bind_eq_bind,
    ← Option.bind_assoc, hspan, hlocation]

theorem ScanResult.ofJson?_blindTo : BlindTo ScanResult.ofJson? (AlikeRecord ScanResult.fields) := by
  refine blindTo_alikeRecord (by decide) _ _ fun get get' h => ?_
  have hcomplaints := h.nested "complaints" (by simp [fields]) (blindTo_alikeList Complaint.ofJson?_blindTo)
  have hinterrupted := h.optional "interrupted" (.bool false) (by simp [fields]) (·.elim (some false) bool?) rfl
  simp only [h.plain "total" (by simp [fields]), h.plain "warnings" (by simp [fields]),
    h.plain "criticals" (by simp [fields]), h.plain "files_scanned" (by simp [fields]), hinterrupted,
    Option.bind_eq_bind, ← Option.bind_assoc, hcomplaints]

/-! ## Reading what was written -/

/-- A step that gives back one value, if it gives one. -/
theorem bind_eq_some_iff_of {α β : Type} {x : Option α} {a : α} {P : Prop} (h : ∀ b, x = some b ↔ P ∧ a = b)
    {f : α → Option β} {y : β} : x.bind f = some y ↔ P ∧ f a = some y := by
  rw [Option.bind_eq_some_iff]
  constructor
  · rintro ⟨b, hx, hy⟩
    obtain ⟨hp, rfl⟩ := (h b).1 hx
    exact ⟨hp, hy⟩
  · rintro ⟨hp, hy⟩
    exact ⟨a, (h a).2 ⟨hp, rfl⟩, hy⟩

theorem Json.natural?_eq_some_iff (n m : Nat) : natural? (.number n) = some m ↔ n < UInt64.size ∧ n = m := by
  show (if n < UInt64.size then some n else none) = some m ↔ _
  rw [Option.ite_none_right_eq_some, Option.some.injEq]

theorem Json.list?_map_eq_some_iff {α : Type} {toJson : α → Json} {ofJson? : Json → Option α} {Fits : α → Prop}
    (h : ∀ x y, ofJson? (toJson x) = some y ↔ Fits x ∧ x = y) (xs ys : List α) :
    (array (xs.map toJson)).list? ofJson? = some ys ↔ (∀ x ∈ xs, Fits x) ∧ xs = ys := by
  simp only [list?]
  induction xs generalizing ys with
  | nil => simp [eq_comm]
  | cons x xs ih =>
    simp only [List.map_cons, List.mapM_cons, Option.bind_eq_bind, Option.bind_eq_some_iff, h, ih]
    constructor
    · rintro ⟨_, ⟨hx, rfl⟩, _, ⟨hxs, rfl⟩, ⟨⟩⟩
      exact ⟨List.forall_mem_cons.2 ⟨hx, hxs⟩, rfl⟩
    · rintro ⟨hall, rfl⟩
      obtain ⟨hx, hxs⟩ := List.forall_mem_cons.1 hall
      exact ⟨x, ⟨hx, rfl⟩, xs, ⟨hxs, rfl⟩, rfl⟩

/-! All numbers of a report fit into 64 bits. -/

def Span.Bounded (s : Span) : Prop := s.start < UInt64.size ∧ s.stop < UInt64.size

def SourceLine.Bounded (l : SourceLine) : Prop := l.number < UInt64.size

def Location.Bounded (l : Location) : Prop :=
  l.firstLine < UInt64.size ∧ l.lastLine < UInt64.size ∧ l.column < UInt64.size ∧ ∀ line ∈ l.lines, line.Bounded

def Complaint.Bounded (c : Complaint) : Prop := c.span.Bounded ∧ c.location.Bounded

def ScanResult.Bounded (r : ScanResult) : Prop :=
  (∀ c ∈ r.complaints, c.Bounded) ∧ r.total < UInt64.size ∧ r.warnings < UInt64.size ∧ r.criticals < UInt64.size ∧
    r.filesScanned < UInt64.size

theorem Span.ofJson?_toJson (s t : Span) : Span.ofJson? s.toJson = some t ↔ s.Bounded ∧ s = t := by
  have hread : Span.ofJson? s.toJson = (natural? (.number s.start)).bind fun start =>
      (natural? (.number s.stop)).bind fun stop => some ⟨start, stop⟩ := rfl
  rw [hread, bind_eq_some_iff_of (natural?_eq_some_iff _), bind_eq_some_iff_of (natural?_eq_some_iff _),
    Option.some.injEq, Span.Bounded, and_assoc]

theorem SourceLine.ofJson?_toJson (l m : SourceLine) : SourceLine.ofJson? l.toJson = some m ↔ l.Bounded ∧ l = m := by
  have hread : SourceLine.ofJson? l.toJson = (natural? (.number l.number)).bind fun number =>
      some { l with number } := rfl
  rw [hread, bind_eq_some_iff_of (natural?_eq_some_iff _), Option.some.injEq, SourceLine.Bounded]

theorem Location.ofJson?_toJson (l m : Location) : Location.ofJson? l.toJson = some m ↔ l.Bounded ∧ l = m := by
  have hread : Location.ofJson? l.toJson = (natural? (.number l.firstLine)).bind fun firstLine =>
      (natural? (.number l.lastLine)).bind fun lastLine => (natural? (.number l.column)).bind fun column =>
        ((array (l.lines.map SourceLine.toJson)).list? SourceLine.ofJson?).bind fun lines =>
          some { l with firstLine, lastLine, column, lines } := by
    obtain ⟨firstLine, lastLine, column, lines, caret⟩ := l
    cases caret <;> rfl
  rw [hread, bind_eq_some_iff_of (natural?_eq_some_iff _), bind_eq_some_iff_of (natural?_eq_some_iff _),
    bind_eq_some_iff_of (natural?_eq_some_iff _),
    bind_eq_some_iff_of (list?_map_eq_some_iff SourceLine.ofJson?_toJson _), Option.some.injEq]
  simp only [Location.Bounded, and_assoc]

theorem Complaint.ofJson?_toJson (c d : Complaint) : Complaint.ofJson? c.toJson = some d ↔ c.Bounded ∧ c = d := by
  have hread : Complaint.ofJson? c.toJson = (Span.ofJson? c.span.toJson).bind fun span =>
      (Location.ofJson? c.location.toJson).bind fun location => some { c with span, location } := by
    obtain ⟨rule, severity, path, span, message, help, location⟩ := c
    cases severity <;> cases help <;> rfl
  rw [hread, bind_eq_some_iff_of (Span.ofJson?_toJson _), bind_eq_some_iff_of (Location.ofJson?_toJson _),
    Option.some.injEq, Complaint.Bounded, and_assoc]

theorem ScanResult.ofJson?_toJson (r s : ScanResult) : ScanResult.ofJson? r.toJson = some s ↔ r.Bounded ∧ r = s := by
  have hread : ScanResult.ofJson? r.toJson =
      ((array (r.complaints.map Complaint.toJson)).list? Complaint.ofJson?).bind fun complaints =>
        (natural? (.number r.total)).bind fun total => (natural? (.number r.warnings)).bind fun warnings =>
          (natural? (.number r.criticals)).bind fun criticals =>
            (natural? (.number r.filesScanned)).bind fun filesScanned =>
              some { r with complaints, total, warnings, criticals, filesScanned } := rfl
  rw [hread, bind_eq_some_iff_of (list?_map_eq_some_iff Complaint.ofJson?_toJson _),
    bind_eq_some_iff_of (natural?_eq_some_iff _), bind_eq_some_iff_of (natural?_eq_some_iff _),
    bind_eq_some_iff_of (natural?_eq_some_iff _), bind_eq_some_iff_of (natural?_eq_some_iff _), Option.some.injEq]
  simp only [ScanResult.Bounded, and_assoc]

/-! ## Fields that may be left out -/

theorem Json.optional?_eq_some_none_iff (v : Option Json) :
    optional? string? v = some none ↔ v = none ∨ v = some .null := by
  rcases v with _ | (_ | _ | _ | _ | _ | _ | _) <;> simp [optional?]

theorem Json.elim_bool?_eq_some_false_iff (v : Option Json) :
    v.elim (some false) bool? = some false ↔ v = none ∨ v = some (.bool false) := by
  rcases v with _ | (_ | _ | _ | _ | _ | _ | _) <;> simp [bool?]

/-- A field that is read is followed by what reads the next ones. -/
theorem exists_of_read {α β γ : Type} {x : Option α} {f : α → Option β} {g : β → Option γ} {z : γ}
    (h : (x >>= fun a => f a >>= g) = some z) : ∃ b, g b = some z := by
  obtain ⟨_, -, h⟩ := Option.bind_eq_some_iff.1 h
  obtain ⟨b, -, h⟩ := Option.bind_eq_some_iff.1 h
  exact ⟨b, h⟩

theorem Complaint.help_eq_none_iff {es : List (String × Json)} {c : Complaint}
    (h : Complaint.ofJson? (.object es) = some c) :
    c.help = none ↔ es.lookup "help" = none ∨ es.lookup "help" = some .null := by
  have hhelp : optional? string? (es.lookup "help") = some c.help := by
    obtain ⟨_, h⟩ := exists_of_read h
    obtain ⟨_, h⟩ := exists_of_read h
    obtain ⟨_, h⟩ := exists_of_read h
    obtain ⟨_, h⟩ := exists_of_read h
    obtain ⟨_, h⟩ := exists_of_read h
    obtain ⟨help, hhelp, h⟩ := Option.bind_eq_some_iff.1 h
    obtain ⟨_, h⟩ := exists_of_read h
    cases h
    exact hhelp
  rw [← optional?_eq_some_none_iff, hhelp, Option.some.injEq]

theorem Location.caret_eq_none_iff {es : List (String × Json)} {l : Location}
    (h : Location.ofJson? (.object es) = some l) :
    l.caret = none ↔ es.lookup "caret" = none ∨ es.lookup "caret" = some .null := by
  have hcaret : optional? string? (es.lookup "caret") = some l.caret := by
    obtain ⟨_, h⟩ := exists_of_read h
    obtain ⟨_, h⟩ := exists_of_read h
    obtain ⟨_, h⟩ := exists_of_read h
    obtain ⟨_, h⟩ := exists_of_read h
    obtain ⟨caret, hcaret, h⟩ := Option.bind_eq_some_iff.1 h
    cases h
    exact hcaret
  rw [← optional?_eq_some_none_iff, hcaret, Option.some.injEq]

theorem ScanResult.interrupted_eq_false_iff {es : List (String × Json)} {r : ScanResult}
    (h : ScanResult.ofJson? (.object es) = some r) :
    r.interrupted = false ↔ es.lookup "interrupted" = none ∨ es.lookup "interrupted" = some (.bool false) := by
  have hinterrupted : (es.lookup "interrupted").elim (some false) bool? = some r.interrupted := by
    obtain ⟨_, h⟩ := exists_of_read h
    obtain ⟨_, h⟩ := exists_of_read h
    obtain ⟨_, h⟩ := exists_of_read h
    obtain ⟨_, h⟩ := exists_of_read h
    obtain ⟨_, h⟩ := exists_of_read h
    obtain ⟨interrupted, hinterrupted, h⟩ := Option.bind_eq_some_iff.1 h
    cases h
    exact hinterrupted
  rw [← elim_bool?_eq_some_false_iff, hinterrupted, Option.some.injEq]

/-- The report loses nothing: from each spelling of a written result that result is read, and a number that takes
more than 64 bits is the only reason why a written result cannot be read. The spelling of records has no part in what
is read of any value. -/
theorem ScanResult.json_lossless :
    (∀ r v, r.Bounded → AlikeRecord ScanResult.fields r.toJson v → ScanResult.ofJson? v = some r) ∧
    (∀ r s : ScanResult, ScanResult.ofJson? r.toJson = some s ↔ r.Bounded ∧ r = s) ∧
    (∀ v w, AlikeRecord ScanResult.fields v w → ScanResult.ofJson? v = ScanResult.ofJson? w) ∧
    (∀ es c, Complaint.ofJson? (.object es) = some c →
      (c.help = none ↔ es.lookup "help" = none ∨ es.lookup "help" = some .null)) ∧
    (∀ es l, Location.ofJson? (.object es) = some l →
      (l.caret = none ↔ es.lookup "caret" = none ∨ es.lookup "caret" = some .null)) ∧
    ∀ es r, ScanResult.ofJson? (.object es) = some r →
      (r.interrupted = false ↔ es.lookup "interrupted" = none ∨ es.lookup "interrupted" = some (.bool false)) := by
  refine ⟨fun r v hr h => ?_, ofJson?_toJson, fun _ _ h => ofJson?_blindTo h, fun _ _ => Complaint.help_eq_none_iff,
    fun _ _ => Location.caret_eq_none_iff, fun _ _ => interrupted_eq_false_iff⟩
  rw [← ofJson?_blindTo h]
  exact (ofJson?_toJson r r).2 ⟨hr, rfl⟩

/-! A result with two complaints, and a value for it that other hands wrote: keys were moved, some were added, and
those were dropped that may be. -/

def ScanResult.reviewed : ScanResult where
  complaints :=
    [⟨"todo", .warning, "ü/a.py", ⟨0, 4⟩, "TODO", none, ⟨1, 1, 1, [⟨1, "TODO"⟩], some "^^^^"⟩⟩,
      ⟨"gap", .critical, "b.py", ⟨2, 9⟩, "", some "", ⟨1, 3, 3, [⟨1, "a"⟩, ⟨3, ""⟩], none⟩⟩]
  total := 2
  warnings := 1
  criticals := 1
  filesScanned := 3

def ScanResult.rewritten : Json :=
  .object [("version", .fraction), ("criticals", .number 1), ("files_scanned", .number 3), ("complaints", .array
    [.object [("help", .null), ("rule", .string "todo"), ("severity", .string "warning"), ("path", .string "ü/a.py"),
      ("span", .object [("end", .number 4), ("start", .number 0)]), ("message", .string "TODO"),
      ("location", .object [("first_line", .number 1), ("last_line", .number 1), ("column", .number 1),
        ("lines", .array [.object [("number", .number 1), ("text", .string "TODO")]]), ("caret", .string "^^^^")])],
    .object [("rule", .string "gap"), ("severity", .string "critical"), ("path", .string "b.py"),
      ("span", .object [("start", .number 2), ("end", .number 9)]), ("message", .string ""), ("help", .string ""),
      ("location", .object [("first_line", .number 1), ("last_line", .number 3), ("column", .number 3),
        ("lines", .array [.object [("number", .number 1), ("text", .string "a")],
          .object [("number", .number 3), ("text", .string "")]])])]]),
    ("total", .number 2), ("warnings", .number 1)]

theorem ScanResult.reviewed_bounded : ScanResult.reviewed.Bounded := by
  simp [reviewed, Bounded, Complaint.Bounded, Span.Bounded, Location.Bounded, SourceLine.Bounded, UInt64.size]

theorem ScanResult.rewritten_alike : AlikeRecord ScanResult.fields reviewed.toJson rewritten := by
  have span : AlikeRecord Span.fields (Span.toJson ⟨0, 4⟩) (.object [("end", .number 4), ("start", .number 0)]) :=
    (AlikeRecord.refl (Span.toJson ⟨0, 4⟩)).respell (.reorder (by decide) (.swap _ _ _))
  have todo : AlikeRecord Complaint.fields _ _ :=
    ((AlikeRecord.refl _).respell
      (.absent ⟨"help", Eq, some .null⟩ .null (by simp [Complaint.fields]) rfl (by decide))).respell
      (.inside [("help", .null), ("rule", .string "todo"), ("severity", .string "warning"), ("path", .string "ü/a.py")]
        [("message", .string "TODO"), ("location", Location.toJson ⟨1, 1, 1, [⟨1, "TODO"⟩], some "^^^^"⟩)]
        ⟨"span", _, none⟩ (by simp [Complaint.fields]) span)
  have location : AlikeRecord Location.fields (Location.toJson ⟨1, 3, 3, [⟨1, "a"⟩, ⟨3, ""⟩], none⟩) _ :=
    ((AlikeRecord.refl _).respell (.reorder (by decide) (List.perm_append_singleton _ [_, _, _, _]))).unspell
      (.absent ⟨"caret", Eq, some .null⟩ .null (by simp [Location.fields]) rfl (by decide))
  have gap : AlikeRecord Complaint.fields _ _ := (AlikeRecord.refl _).respell
    (.inside [("rule", .string "gap"), ("severity", .string "critical"), ("path", .string "b.py"),
      ("span", Span.toJson ⟨2, 9⟩), ("message", .string ""), ("help", .string "")] [] ⟨"location", _, none⟩
        (by simp [Complaint.fields]) location)
  have complaints : AlikeList (AlikeRecord Complaint.fields) _ _ := .array (.cons todo (.cons gap .nil))
  have inner : AlikeRecord fields _ _ := (AlikeRecord.refl _).respell (.inside [] [("total", .number 2),
    ("warnings", .number 1), ("criticals", .number 1), ("files_scanned", .number 3), ("interrupted", .bool false)]
    ⟨"complaints", _, none⟩ (by simp [fields]) complaints)
  have dropped := (inner.respell (.reorder (by decide) (List.perm_append_singleton _ [_, _, _, _, _]))).unspell
    (.absent ⟨"interrupted", Eq, some (.bool false)⟩ (.bool false) (by simp [fields]) rfl (by decide))
  have moved (a b c d e : String × Json) : ([a, b, c] ++ [d, e]).Perm ([d, e] ++ [a, b, c]) := List.perm_append_comm
  exact (dropped.respell (.reorder (by decide) (moved ..))).respell (.unknown "version" .fraction (by decide))

theorem ScanResult.rewritten_lossless : ScanResult.reviewed.Bounded ∧
    AlikeRecord ScanResult.fields reviewed.toJson rewritten ∧ ScanResult.ofJson? rewritten = some reviewed :=
  ⟨reviewed_bounded, rewritten_alike, json_lossless.1 reviewed rewritten reviewed_bounded rewritten_alike⟩

end PatternLint
