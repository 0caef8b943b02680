import PatternLint.FileStore
import PatternLint.Proofs.Path.Spelling
import PatternLint.Proofs.Text.Utf8
/-!
# What a store holds after a history of writes

The entry of a path has the spelling of the first write with its components and the content of the last one
(`entryAt?_written`). All else follows from that and from the order of the entries, which every write keeps. Main
statement: `serve_holds`, that a store answers every question by the writes made so far, and that the order it relies on
is a total order of paths up to their spelling.
-/
namespace PatternLint

/-- What is asked of a store. -/
inductive Request where
  | file (path text : String)
  | bytes (path : String) (content : List UInt8)
  | candidates
  | read (path : String)

/-- The path and the content that a request writes. -/
def Request.write? : Request → Option (String × List UInt8)
  | file path text => some (path, Utf8.encode text)
  | bytes path content => some (path, content)
  | candidates | read _ => none

namespace FileStore

/-- The store after a request. -/
def serve (s : FileStore) : Request → FileStore
  | .file path text => s.insert path (Utf8.encode text)
  | .bytes path content => s.insert path content
  | .candidates | .read _ => s

/-- What a store says of the files that were written to it, the earliest first. -/
structure Holds (s : FileStore) (writes : List (String × List UInt8)) : Prop where
  increasing : s.candidates.Pairwise Path.Before
  one_for_each : ∀ w ∈ writes, ∃! path, path ∈ s.candidates ∧ Path.components path = Path.components w.1
  first_spelling : ∀ path, path ∈ s.candidates ↔ ∃ earlier content later,
    writes = earlier ++ (path, content) :: later ∧ ∀ w ∈ earlier, Path.components w.1 ≠ Path.components path
  not_found : ∀ path, s.read path = .error (.notFound path) ↔ ∀ w ∈ writes, Path.components w.1 ≠ Path.components path
  last_content : ∀ path earlier spelled content later, writes = earlier ++ (spelled, content) :: later →
    Path.components spelled = Path.components path → (∀ w ∈ later, Path.components w.1 ≠ Path.components path) →
    (∀ text, s.read path = .ok text ↔ bytesOf text = content) ∧
    ((∃ e, s.read path = .error (.invalidData e)) ↔ ∀ text, bytesOf text ≠ content)

/-! ## One write -/

/-- The entries are in the order of their paths. -/
abbrev Sorted (entries : List (String × List UInt8)) : Prop := entries.Pairwise fun e f => Path.Before e.1 f.1

variable {entries : List (String × List UInt8)} {path q : String} {content : List UInt8}

theorem mem_put {e : String × List UInt8} (h : e ∈ put path content entries) :
    e.1 = path ∨ e.1 ∈ entries.map (·.1) := by
  fun_induction put path content entries with
  | case1 => simp_all
  | case2 p old entries _ =>
    rcases List.mem_cons.1 h with rfl | h
    · exact .inl rfl
    · exact .inr (List.mem_map_of_mem h)
  | case3 p old entries _ =>
    rcases List.mem_cons.1 h with rfl | h
    · exact .inr (by simp)
    · exact .inr (List.mem_map_of_mem (List.mem_cons_of_mem _ h))
  | case4 p old entries _ ih =>
    rcases List.mem_cons.1 h with rfl | h
    · exact .inr (by simp)
    · exact (ih h).imp_right (List.mem_cons_of_mem p)

theorem sorted_put (h : Sorted entries) (path : String) (content : List UInt8) : Sorted (put path content entries) := by
  fun_induction put path content entries with
  | case1 => exact List.pairwise_singleton _ _
  | case2 p old entries hlt =>
    have hbefore := Path.compare_eq_lt_iff.1 hlt
    refine List.pairwise_cons.2 ⟨fun e he => ?_, h⟩
    rcases List.mem_cons.1 he with rfl | he
    · exact hbefore
    · exact hbefore.trans ((List.pairwise_cons.1 h).1 e he)
  | case3 p old entries _ => exact List.pairwise_cons.2 (List.pairwise_cons.1 h)
  | case4 p old entries hgt ih =>
    obtain ⟨hfirst, hrest⟩ := List.pairwise_cons.1 h
    refine List.pairwise_cons.2 ⟨fun e he => ?_, ih hrest⟩
    rcases mem_put he with heq | hmem
    · rw [heq]
      exact Path.compare_eq_gt_iff.1 hgt
    · obtain ⟨f, hf, heq⟩ := List.mem_map.1 hmem
      rw [← heq]
      exact hfirst f hf

/-- The entry of a path, under whatever spelling it has there. -/
def entryAt? (entries : List (String × List UInt8)) (path : String) : Option (String × List UInt8) :=
  entries.find? fun e => Path.same e.1 path

theorem entryAt?_congr (h : Path.same path q) (entries : List (String × List UInt8)) :
    entryAt? entries path = entryAt? entries q := by
  have hsame : ∀ p, Path.same p path = Path.same p q := by
    intro p
    rw [Bool.eq_iff_iff, Path.same_iff, Path.same_iff, Path.same_iff.1 h]
  simp only [entryAt?, hsame]

theorem entryAt?_cons (p : String) (old : List UInt8) (entries : List (String × List UInt8)) :
    entryAt? ((p, old) :: entries) q = if Path.same p q then some (p, old) else entryAt? entries q := by
  rw [entryAt?, List.find?_cons]
  cases Path.same p q <;> rfl

theorem not_same_of_before (h : Path.Before path q) : ¬Path.same path q := by
  intro hsame
  rw [← Path.compare_eq_lt_iff, Path.compare_eq_eq_iff.2 (Path.same_iff.1 hsame)] at h
  cases h

theorem entryAt?_eq_none_of_before (h : ∀ e ∈ entries, Path.Before path e.1) : entryAt? entries path = none :=
  List.find?_eq_none.2 fun e he hsame => not_same_of_before (h e he) (Path.same_symm hsame)

/-- A write gives its path the content, under the spelling that is there already, and leaves all others alone. -/
theorem entryAt?_put (h : Sorted entries) (path : String) (content : List UInt8) (q : String) :
    entryAt? (put path content entries) q =
      if Path.same path q then some (((entryAt? entries path).map (·.1)).getD path, content) else entryAt? entries q := by
  fun_induction put path content entries with
  | case1 => exact entryAt?_cons path content []
  | case2 p old entries hlt =>
    have hbefore := Path.compare_eq_lt_iff.1 hlt
    have hnone : entryAt? ((p, old) :: entries) path = none := by
      apply entryAt?_eq_none_of_before
      intro e he
      rcases List.mem_cons.1 he with rfl | he
      · exact hbefore
      · exact hbefore.trans ((List.pairwise_cons.1 h).1 e he)
    rw [entryAt?_cons, hnone]
    rfl
  | case3 p old entries heq =>
    have hsame : Path.same path p := Path.same_iff.2 (Path.compare_eq_eq_iff.1 heq)
    have hp : Path.same p q = Path.same path q := by
      rw [Bool.eq_iff_iff, Path.same_iff, Path.same_iff, Path.same_iff.1 hsame]
    rw [entryAt?_cons, entryAt?_cons, entryAt?_cons, if_pos (Path.same_symm hsame), hp]
    split <;> rfl
  | case4 p old entries hgt ih =>
    have hnot : ¬Path.same p path := not_same_of_before (Path.compare_eq_gt_iff.1 hgt)
    rw [entryAt?_cons, entryAt?_cons, entryAt?_cons, if_neg hnot, ih (List.pairwise_cons.1 h).2]
    by_cases hq : Path.same path q
    · have hpq : ¬Path.same p q := fun hpq => hnot (Path.same_trans hpq (Path.same_symm hq))
      simp only [if_neg hpq, if_pos hq]
    · simp only [if_neg hq]

/-! ## All writes -/

/-- The store after some writes. -/
def written (writes : List (String × List UInt8)) : FileStore := writes.foldl (fun s w => s.insert w.1 w.2) {}

theorem foldl_serve (requests : List Request) :
    requests.foldl serve {} = written (requests.filterMap Request.write?) := by
  induction requests using List.reverseRecOn with
  | nil => rfl
  | append_singleton requests r ih =>
    rw [List.foldl_append, ih, written, written, List.filterMap_append, List.foldl_append]
    cases r <;> rfl

variable {writes : List (String × List UInt8)}

theorem entries_written_concat (w : String × List UInt8) :
    (written (writes ++ [w])).entries = put w.1 w.2 (written writes).entries := by
  rw [written, List.foldl_append]
  rfl

theorem sorted_written (writes : List (String × List UInt8)) : Sorted (written writes).entries := by
  induction writes using List.reverseRecOn with
  | nil => exact .nil
  | append_singleton writes w ih =>
    rw [entries_written_concat]
    exact sorted_put ih w.1 w.2

theorem find?_reverse_isSome {w : String × List UInt8} (h : (writes.find? fun w => Path.same w.1 q) = some w) :
    ∃ last, (writes.reverse.find? fun w => Path.same w.1 q) = some last := by
  have hsame : Path.same w.1 q := by simpa using List.find?_some h
  exact Option.isSome_iff_exists.1
    (List.find?_isSome.2 ⟨w, List.mem_reverse.2 (List.mem_of_find?_eq_some h), hsame⟩)

/-- The entry of a path has the spelling of its first write and the content of its last one. -/
theorem entryAt?_written (writes : List (String × List UInt8)) (q : String) :
    entryAt? (written writes).entries q = (writes.find? fun w => Path.same w.1 q).bind fun first =>
      (writes.reverse.find? fun w => Path.same w.1 q).map fun last => (first.1, last.2) := by
  induction writes using List.reverseRecOn with
  | nil => rfl
  | append_singleton writes w ih =>
    rw [entries_written_concat, entryAt?_put (sorted_written writes), List.find?_append, List.reverse_append]
    by_cases hw : Path.same w.1 q
    · rw [if_pos hw, entryAt?_congr hw, ih]
      cases hfirst : writes.find? fun w => Path.same w.1 q with
      | none => simp [hw]
      | some first =>
        obtain ⟨last, hlast⟩ := find?_reverse_isSome hfirst
        simp [hw, hlast]
    · rw [if_neg hw, ih]
      simp [hw]

theorem exists_entryAt? {first : String × List UInt8} (h : (writes.find? fun w => Path.same w.1 q) = some first) :
    ∃ last, (writes.reverse.find? fun w => Path.same w.1 q) = some last ∧
      entryAt? (written writes).entries q = some (first.1, last.2) := by
  obtain ⟨last, hlast⟩ := find?_reverse_isSome h
  refine ⟨last, hlast, ?_⟩
  rw [entryAt?_written, h, hlast]
  rfl

/-! ## Questions -/

/-- The entry of a path is the only one with its components. -/
theorem entryAt?_eq_some_iff (h : Sorted entries) {e : String × List UInt8} :
    entryAt? entries q = some e ↔ e ∈ entries ∧ Path.same e.1 q := by
  induction entries with
  | nil => simp [entryAt?]
  | cons f entries ih =>
    obtain ⟨hfirst, hrest⟩ := List.pairwise_cons.1 h
    obtain ⟨p, old⟩ := f
    rw [entryAt?_cons]
    by_cases hp : Path.same p q
    · rw [if_pos hp, List.mem_cons]
      constructor
      · rintro ⟨⟩
        exact ⟨.inl rfl, hp⟩
      · rintro ⟨rfl | he, hq⟩
        · rfl
        · exact absurd (Path.same_trans hp (Path.same_symm hq)) (not_same_of_before (hfirst e he))
    · rw [if_neg hp, ih hrest, List.mem_cons]
      constructor
      · exact fun ⟨he, hq⟩ => ⟨.inr he, hq⟩
      · rintro ⟨rfl | he, hq⟩
        · exact absurd hq hp
        · exact ⟨he, hq⟩

theorem mem_candidates_iff : q ∈ (written writes).candidates ↔
    ∃ content, (writes.find? fun w => Path.same w.1 q) = some (q, content) := by
  constructor
  · intro h
    obtain ⟨e, he, rfl⟩ := List.mem_map.1 h
    have hentry := (entryAt?_eq_some_iff (sorted_written writes)).2 ⟨he, Path.same_iff.2 rfl⟩
    rw [entryAt?_written] at hentry
    obtain ⟨first, hfirst, hentry⟩ := Option.bind_eq_some_iff.1 hentry
    obtain ⟨last, -, rfl⟩ := Option.map_eq_some_iff.1 hentry
    exact ⟨first.2, hfirst⟩
  · rintro ⟨content, hfirst⟩
    obtain ⟨last, -, hentry⟩ := exists_entryAt? hfirst
    exact List.mem_map.2 ⟨_, ((entryAt?_eq_some_iff (sorted_written writes)).1 hentry).1, rfl⟩

theorem increasing_written (writes : List (String × List UInt8)) :
    (written writes).candidates.Pairwise Path.Before :=
  List.pairwise_map.2 (sorted_written writes)

/-- Every file that was written has one candidate. -/
theorem existsUnique_candidate {w : String × List UInt8} (h : w ∈ writes) :
    ∃! path, path ∈ (written writes).candidates ∧ Path.components path = Path.components w.1 := by
  have hsome : (writes.find? fun v => Path.same v.1 w.1).isSome :=
    List.find?_isSome.2 ⟨w, h, Path.same_iff.2 rfl⟩
  obtain ⟨first, hfirst⟩ := Option.isSome_iff_exists.1 hsome
  obtain ⟨last, -, hentry⟩ := exists_entryAt? hfirst
  obtain ⟨hmem, hsame⟩ := (entryAt?_eq_some_iff (sorted_written writes)).1 hentry
  refine ⟨first.1, ⟨List.mem_map.2 ⟨_, hmem, rfl⟩, Path.same_iff.1 hsame⟩, ?_⟩
  rintro path ⟨hmem', hsame'⟩
  obtain ⟨e, he, rfl⟩ := List.mem_map.1 hmem'
  have hboth := (entryAt?_eq_some_iff (sorted_written writes)).2 ⟨he, Path.same_iff.2 hsame'⟩
  rw [← Option.some.inj (hentry.symm.trans hboth)]

theorem read_of_none {s : FileStore} (h : entryAt? s.entries path = none) : s.read path = .error (.notFound path) := by
  rw [read, get?, ← entryAt?, h]
  rfl

theorem read_of_some {s : FileStore} {e : String × List UInt8} (h : entryAt? s.entries path = some e) :
    s.read path = (Utf8.decode e.2).mapError .invalidData := by
  rw [read, get?, ← entryAt?, h]
  rfl

theorem read_eq_notFound_iff (path : String) : (written writes).read path = .error (.notFound path) ↔
    ∀ w ∈ writes, Path.components w.1 ≠ Path.components path := by
  cases hfirst : writes.find? fun w => Path.same w.1 path with
  | none =>
    have hentry : entryAt? (written writes).entries path = none := by rw [entryAt?_written, hfirst]; rfl
    refine iff_of_true (read_of_none hentry) fun w hw hsame => ?_
    exact List.find?_eq_none.1 hfirst w hw (Path.same_iff.2 hsame)
  | some first =>
    obtain ⟨last, -, hentry⟩ := exists_entryAt? hfirst
    refine iff_of_false ?_ fun h => ?_
    · rw [read_of_some hentry]
      cases Utf8.decode last.2 <;> simp [Except.mapError]
    · have hsame : Path.same first.1 path := by simpa using List.find?_some hfirst
      exact h first (List.mem_of_find?_eq_some hfirst) (Path.same_iff.1 hsame)

/-- A file is read as the text that its last content is the bytes of, if there is one. -/
theorem read_last {earlier later : List (String × List UInt8)} {spelled : String}
    (hsame : Path.components spelled = Path.components path)
    (hlater : ∀ w ∈ later, Path.components w.1 ≠ Path.components path) :
    (written (earlier ++ (spelled, content) :: later)).read path = (Utf8.decode content).mapError .invalidData := by
  have hlast : ((earlier ++ (spelled, content) :: later).reverse.find? fun w => Path.same w.1 path) =
      some (spelled, content) := by
    have hnone : (later.reverse.find? fun w => Path.same w.1 path) = none := by
      refine List.find?_eq_none.2 fun w hw h => ?_
      exact hlater w (List.mem_reverse.1 hw) (Path.same_iff.1 h)
    simp [hnone, Path.same_iff.2 hsame]
  have hsome : ((earlier ++ (spelled, content) :: later).find? fun w => Path.same w.1 path).isSome :=
    List.find?_isSome.2 ⟨(spelled, content), by simp, Path.same_iff.2 hsame⟩
  obtain ⟨first, hfirst⟩ := Option.isSome_iff_exists.1 hsome
  obtain ⟨last, hlast', hentry⟩ := exists_entryAt? hfirst
  rw [read_of_some hentry, ← Option.some.inj (hlast.symm.trans hlast')]

theorem mapError_decode_eq_ok_iff {text : List Char} :
    (Utf8.decode content).mapError ReadError.invalidData = .ok text ↔ bytesOf text = content := by
  rw [← Utf8.decode_eq_ok_iff]
  cases Utf8.decode content <;> simp [Except.mapError]

theorem mapError_decode_eq_error_iff :
    (∃ e, (Utf8.decode content).mapError ReadError.invalidData = .error (.invalidData e)) ↔
      ∀ text, bytesOf text ≠ content := by
  rw [← Utf8.decode_eq_error_iff]
  cases Utf8.decode content <;> simp [Except.mapError]

theorem written_holds (writes : List (String × List UInt8)) : (written writes).Holds writes where
  increasing := increasing_written writes
  one_for_each w hw := existsUnique_candidate hw
  first_spelling path := by
    rw [mem_candidates_iff]
    constructor
    · rintro ⟨content, h⟩
      obtain ⟨-, earlier, later, rfl, hearlier⟩ := List.find?_eq_some_iff_append.1 h
      refine ⟨earlier, content, later, rfl, fun w hw hsame => ?_⟩
      simpa [Path.same_iff.2 hsame] using hearlier w hw
    · rintro ⟨earlier, content, later, rfl, hearlier⟩
      refine ⟨content, List.find?_eq_some_iff_append.2 ⟨Path.same_iff.2 rfl, earlier, later, rfl, fun w hw => ?_⟩⟩
      have hnot : ¬Path.same w.1 path := fun h => hearlier w hw (Path.same_iff.1 h)
      simpa using hnot
  not_found path := read_eq_notFound_iff path
  last_content path earlier spelled content later hwrites hsame hlater := by
    subst hwrites
    rw [read_last hsame hlater]
    exact ⟨fun text => mapError_decode_eq_ok_iff, mapError_decode_eq_error_iff⟩

/-- A text that was written is read back, under every spelling of its path, until the path is written again. -/
theorem read_text {requests earlier later : List Request} {spelled text : String}
    (hrequests : requests = earlier ++ .file spelled text :: later)
    (hsame : Path.components spelled = Path.components path)
    (hlater : ∀ w ∈ later.filterMap Request.write?, Path.components w.1 ≠ Path.components path) :
    (requests.foldl serve {}).read path = .ok text.toList := by
  have hwrites : requests.filterMap Request.write? =
      earlier.filterMap Request.write? ++ (spelled, Utf8.encode text) :: later.filterMap Request.write? := by
    rw [hrequests, List.filterMap_append]
    rfl
  rw [foldl_serve, hwrites, read_last hsame hlater, mapError_decode_eq_ok_iff, Utf8.encode_eq_bytesOf]

/-- Whatever is asked of a store, it answers by the writes made so far. Its candidates are in the order of paths, each
path once and as it was first spelled; a read gives the text of the last content, and fails if that is not UTF-8 or if
there is none. The order is a total order of paths, in which two spellings of one path, and they alone, are equal. -/
theorem serve_holds (requests : List Request) :
    (requests.foldl serve {}).Holds (requests.filterMap Request.write?) ∧
    (∀ earlier spelled text later path, requests = earlier ++ .file spelled text :: later →
      Path.components spelled = Path.components path →
      (∀ w ∈ later.filterMap Request.write?, Path.components w.1 ≠ Path.components path) →
      (requests.foldl serve {}).read path = .ok text.toList) ∧
    (∀ a b, (Path.compare a b = .lt ↔ Path.Before a b) ∧ (Path.compare a b = .gt ↔ Path.Before b a) ∧
      (Path.compare a b = .eq ↔ Path.components a = Path.components b) ∧
      (Path.components a = Path.components b ↔ Path.Respelled a b)) ∧
    IsTrans String Path.Before := by
  refine ⟨?_, fun _ _ _ _ _ => read_text, fun a b => ?_, ⟨fun a b c hab hbc => hab.trans hbc⟩⟩
  · rw [foldl_serve]
    exact written_holds _
  · exact ⟨Path.compare_eq_lt_iff, Path.compare_eq_gt_iff, Path.compare_eq_eq_iff, Path.components_eq_iff⟩

/-- A path that is written under three spellings, between reads and another path with a leading dot, is one file with
the first spelling and the last content. -/
theorem spellings_serve_holds : ∃ requests : List Request,
    requests = [.bytes "a//b" [0xff], .read "a/b", .file "./a/b" "x", .file "a/b/." "é", .candidates] ∧
    (requests.foldl serve {}).candidates = ["./a/b", "a//b"] ∧
    (requests.foldl serve {}).Holds (requests.filterMap Request.write?) ∧
    (requests.foldl serve {}).read "a/./b/" = .ok ['é'] := by
  have h := serve_holds [.bytes "a//b" [0xff], .read "a/b", .file "./a/b" "x", .file "a/b/." "é", .candidates]
  refine ⟨_, rfl, by decide +kernel, h.1, ?_⟩
  exact h.2.1 [.bytes "a//b" [0xff], .read "a/b", .file "./a/b" "x"] "a/b/." "é" [.candidates] "a/./b/" rfl
    (by decide +kernel) (by simp [Request.write?])

end FileStore

end PatternLint
