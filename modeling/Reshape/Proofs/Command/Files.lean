import Mathlib.Algebra.GroupWithZero.Nat
import Reshape.Command
import Reshape.Proofs.Outcome
import Reshape.Proofs.Plan.Assembly

/-!
# Mapping files

What becomes of the documents of data files, one after the other. A list is mapped record by record
and any other document as one record; the first record, and the first file, that fails ends it all.
Each stage is inverted exactly. What the mapping of one record makes of it is taken as it is.
-/
namespace Reshape.Command

open Report (Format Writer)

/-- Load and map the document of a file. -/
def mapFile (documents : Documents) (mapper : Mapper) (path : String) : Except Failure Value :=
  documents path >>= mapDocument mapper path

/-- What a document is mapped to: a list to the list of what becomes of its items, each at its place,
and anything else to what becomes of it. -/
structure MapsTo (mapper : Mapper) (document mapped : Value) : Prop where
  list : ∀ items, document = .list items → ∃ results, mapped = .list results ∧
    items.length = results.length ∧ ∀ i (hi : i < items.length) (hr : i < results.length),
      (mapper.apply items[i]).outcome = .ok results[i]
  single : (∀ items, document ≠ .list items) → (mapper.apply document).outcome = .ok mapped

variable {documents : Documents} {mapper : Mapper} {path : String}

section Record

theorem mapRecords_eq_ok {index : Nat} {records results : List Value} :
    mapRecords mapper path index records = .ok results ↔
      List.Forall₂ (fun record result => (mapper.apply record).outcome = .ok result) records
        results := by
  induction records generalizing index results with
  | nil =>
    constructor
    · intro h; cases h; exact .nil
    · intro h; cases h; rfl
  | cons record rest ih =>
    simp only [mapRecords, Outcome.bind_eq_ok, Outcome.mapError_eq_ok, ih]
    constructor
    · rintro ⟨mapped, hm, others, ho, h⟩
      cases h
      exact .cons hm ho
    · intro h
      cases h with
      | cons head tail => exact ⟨_, head, _, tail, rfl⟩

/-- A list fails with the first record that does, by its index. -/
theorem mapRecords_eq_error {index : Nat} {records : List Value} {failure : Failure} :
    mapRecords mapper path index records = .error failure ↔
      ∃ front record back e, records = front ++ record :: back ∧
        (∀ earlier ∈ front, ∃ result, (mapper.apply earlier).outcome = .ok result) ∧
        (mapper.apply record).outcome = .error e ∧
        failure = .record path (index + front.length) e := by
  induction records generalizing index with
  | nil =>
    constructor
    · intro h; cases h
    · rintro ⟨front, record, back, e, h, -⟩
      simp at h
  | cons first rest ih =>
    -- The rest of the list is counted from one further, which makes up for the record in front.
    simp only [mapRecords, Outcome.bind_eq_error, Outcome.mapError_eq_error, Outcome.mapError_eq_ok,
      ih]
    constructor
    · rintro (⟨e, he, rfl⟩ | ⟨mapped, hm, ⟨front, record, back, e, rfl, hb, he, rfl⟩ | ⟨_, _, h⟩⟩)
      · exact ⟨[], first, rest, e, rfl, List.forall_mem_nil _, he, rfl⟩
      · refine ⟨first :: front, record, back, e, rfl,
          List.forall_mem_cons.mpr ⟨⟨mapped, hm⟩, hb⟩, he, ?_⟩
        rw [List.length_cons, Nat.add_assoc, Nat.add_comm 1]
      · cases h
    · rintro ⟨front, record, back, e, hsplit, hb, he, rfl⟩
      cases front with
      | nil =>
        cases hsplit
        exact Or.inl ⟨e, he, rfl⟩
      | cons _ front =>
        cases hsplit
        obtain ⟨⟨mapped, hm⟩, hb⟩ := List.forall_mem_cons.mp hb
        refine Or.inr ⟨mapped, hm, Or.inl ⟨front, record, back, e, rfl, hb, he, ?_⟩⟩
        rw [List.length_cons, Nat.add_assoc, Nat.add_comm 1]

end Record

section Document

theorem mapDocument_of_not_list {document : Value} (h : ∀ items, document ≠ .list items) :
    mapDocument mapper path document = (mapper.apply document).outcome.mapError Failure.mapping := by
  cases document with
  | list items => exact absurd rfl (h items)
  | _ => rfl

theorem mapDocument_eq_ok {document mapped : Value} :
    mapDocument mapper path document = .ok mapped ↔ MapsTo mapper document mapped := by
  by_cases hl : ∃ items, document = .list items
  · obtain ⟨items, rfl⟩ := hl
    simp only [mapDocument, Outcome.bind_eq_ok, mapRecords_eq_ok, List.forall₂_iff_get]
    constructor
    · rintro ⟨results, hr, h⟩
      cases h
      refine ⟨fun _ hi => ?_, fun hn => absurd rfl (hn items)⟩
      cases hi
      exact ⟨results, rfl, hr⟩
    · intro h
      obtain ⟨results, rfl, hr⟩ := h.list items rfl
      exact ⟨results, hr, rfl⟩
  · have hn : ∀ items, document ≠ .list items := not_exists.mp hl
    rw [mapDocument_of_not_list hn, Outcome.mapError_eq_ok]
    exact ⟨fun h => ⟨fun items hi => absurd hi (hn items), fun _ => h⟩, fun h => h.single hn⟩

/-- A list fails with its first record that does, and any other document as a whole. -/
theorem mapDocument_eq_error {document : Value} {failure : Failure} :
    mapDocument mapper path document = .error failure ↔
      (∃ front record back e, document = .list (front ++ record :: back) ∧
        (∀ earlier ∈ front, ∃ result, (mapper.apply earlier).outcome = .ok result) ∧
        (mapper.apply record).outcome = .error e ∧ failure = .record path front.length e) ∨
      (∀ items, document ≠ .list items) ∧
        ∃ e, (mapper.apply document).outcome = .error e ∧ failure = .mapping e := by
  by_cases hl : ∃ items, document = .list items
  · obtain ⟨items, rfl⟩ := hl
    have hm : mapDocument mapper path (.list items) =
        Value.list <$> mapRecords mapper path 0 items := bind_pure_comp _ _
    rw [hm, Outcome.map_eq_error, mapRecords_eq_error]
    constructor
    · rintro ⟨front, record, back, e, rfl, hb, he, rfl⟩
      exact Or.inl ⟨front, record, back, e, rfl, hb, he, by rw [Nat.zero_add]⟩
    · rintro (⟨front, record, back, e, hsplit, hb, he, rfl⟩ | ⟨hn, -⟩)
      · cases hsplit
        exact ⟨front, record, back, e, rfl, hb, he, by rw [Nat.zero_add]⟩
      · exact absurd rfl (hn items)
  · have hn : ∀ items, document ≠ .list items := not_exists.mp hl
    rw [mapDocument_of_not_list hn, Outcome.mapError_eq_error]
    constructor
    · rintro ⟨e, he, rfl⟩
      exact Or.inr ⟨hn, e, he, rfl⟩
    · rintro (⟨front, record, back, _, h, -⟩ | ⟨-, e, he, rfl⟩)
      · exact absurd h (hn _)
      · exact ⟨e, he, rfl⟩

/-- What becomes of a record is an object. -/
theorem exists_object {data made : Value} (h : (mapper.apply data).outcome = .ok made) :
    ∃ fields, made = .object fields := by
  rw [Mapper.apply] at h
  cases hp : mapper.plan? with
  | none =>
    rw [hp] at h
    cases h
  | some plan =>
    rw [hp] at h
    simp only [Level.outcome_apply, Outcome.map_eq_ok] at h
    obtain ⟨fields, -, rfl⟩ := h
    exact ⟨fields, rfl⟩

/-- A document holds as many records as what it is mapped to. -/
theorem MapsTo.recordCount_eq {document mapped : Value} (h : MapsTo mapper document mapped) :
    recordCount mapped = recordCount document := by
  by_cases hl : ∃ items, document = .list items
  · obtain ⟨items, rfl⟩ := hl
    obtain ⟨results, rfl, hlen, -⟩ := h.list items rfl
    exact hlen.symm
  · have hn : ∀ items, document ≠ .list items := not_exists.mp hl
    obtain ⟨fields, rfl⟩ := exists_object (h.single hn)
    cases document with
    | list items => exact absurd rfl (hn items)
    | _ => rfl

end Document

theorem mapFile_eq_ok {mapped : Value} :
    mapFile documents mapper path = .ok mapped ↔
      ∃ document, documents path = .ok document ∧ MapsTo mapper document mapped := by
  simp only [mapFile, Outcome.bind_eq_ok, mapDocument_eq_ok]

section Loop

variable {writer : Writer}

/-- A file whose document was loaded and mapped. -/
structure Mapped where
  path : String
  document : Value
  result : Value

/-- The document is the one of the file, and the result is what it is mapped to. -/
structure Mapped.Of (documents : Documents) (mapper : Mapper) (file : Mapped) : Prop where
  loaded : documents file.path = .ok file.document
  mapped : MapsTo mapper file.document file.result

theorem Mapped.Of.mapFile {file : Mapped} (h : file.Of documents mapper) :
    mapFile documents mapper file.path = .ok file.result :=
  mapFile_eq_ok.mpr ⟨file.document, h.loaded, h.mapped⟩

theorem exists_mapped {result : Value} (h : mapFile documents mapper path = .ok result) :
    ∃ file : Mapped, file.Of documents mapper ∧ file.path = path ∧ file.result = result := by
  obtain ⟨document, hd, hm⟩ := mapFile_eq_ok.mp h
  exact ⟨⟨path, document, result⟩, ⟨hd, hm⟩, rfl, rfl⟩

/-- Files are mapped one after the other, and their records are counted. -/
theorem outcome_mapFiles (data : List String) :
    (mapFiles documents mapper writer data).outcome =
      (fun results => (results.map recordCount).sum) <$>
        data.mapM (mapFile documents mapper) := by
  induction data with
  | nil => rfl
  | cons path rest ih =>
    rw [mapFiles, List.mapM_cons, mapFile]
    simp only [Journal.outcome_bind, Journal.outcome_lift, Journal.outcome_note, Outcome.ok_bind, ih]
    cases documents path with
    | error e => rfl
    | ok document =>
      simp only [Outcome.ok_bind]
      cases mapDocument mapper path document with
      | error e => rfl
      | ok result =>
        cases rest.mapM (mapFile documents mapper) <;> rfl

variable {files : List Mapped} {failure : Failure}

theorem mapM_mapped (each : ∀ file ∈ files, file.Of documents mapper) :
    (files.map (·.path)).mapM (mapFile documents mapper) = .ok (files.map (·.result)) := by
  rw [Outcome.mapM_eq_ok, List.forall₂_map_left_iff, List.forall₂_map_right_iff, List.forall₂_same]
  exact fun file hf => (each file hf).mapFile

theorem mapM_failed (each : ∀ file ∈ files, file.Of documents mapper)
    (h : mapFile documents mapper path = .error failure) (rest : List String) :
    (files.map (·.path) ++ path :: rest).mapM (mapFile documents mapper) = .error failure := by
  refine Outcome.mapM_eq_error.mpr ⟨files.map (·.path), path, rest, rfl, fun earlier he => ?_, h⟩
  obtain ⟨file, hf, rfl⟩ := List.mem_map.mp he
  exact ⟨file.result, (each file hf).mapFile⟩

theorem outcome_mapFiles_mapped (each : ∀ file ∈ files, file.Of documents mapper) :
    (mapFiles documents mapper writer (files.map (·.path))).outcome =
      .ok (files.map fun file => recordCount file.document).sum := by
  have hcount : files.map (fun file => recordCount file.result) =
      files.map fun file => recordCount file.document :=
    List.map_congr_left fun file hf => (each file hf).mapped.recordCount_eq
  rw [outcome_mapFiles, mapM_mapped each, ← hcount]
  change Except.ok ((files.map Mapped.result).map recordCount).sum = _
  rw [List.map_map]
  rfl

theorem outcome_mapFiles_failed (each : ∀ file ∈ files, file.Of documents mapper)
    (h : mapFile documents mapper path = .error failure) (rest : List String) :
    (mapFiles documents mapper writer (files.map (·.path) ++ path :: rest)).outcome =
      .error failure := by
  rw [outcome_mapFiles, mapM_failed each h]
  rfl

/-- What is written for files that are mapped stands before what is written for those behind. -/
theorem entries_mapFiles (each : ∀ file ∈ files, file.Of documents mapper) (rest : List String) :
    (mapFiles documents mapper writer (files.map (·.path) ++ rest)).entries =
      (files.flatMap fun file => [writer.title file.path, writer.data file.result]) ++
        (mapFiles documents mapper writer rest).entries := by
  induction files with
  | nil => rfl
  | cons file files ih =>
    obtain ⟨head, tail⟩ := List.forall_mem_cons.mp each
    have hm : mapDocument mapper file.path file.document = .ok file.result :=
      mapDocument_eq_ok.mpr head.mapped
    rw [List.map_cons, List.cons_append, mapFiles]
    simp [Journal.entries_bind, head.loaded, hm, ih tail]

theorem entries_mapFiles_mapped (each : ∀ file ∈ files, file.Of documents mapper) :
    (mapFiles documents mapper writer (files.map (·.path))).entries =
      files.flatMap fun file => [writer.title file.path, writer.data file.result] := by
  rw [← List.append_nil (files.map _), entries_mapFiles each]
  exact List.append_nil _

/-- Nothing is written for a file that fails, nor for any behind it. -/
theorem entries_mapFiles_failed (h : mapFile documents mapper path = .error failure)
    (rest : List String) :
    (mapFiles documents mapper writer (path :: rest)).entries = [] := by
  rw [mapFile, Outcome.bind_eq_error] at h
  rw [mapFiles]
  rcases h with h | ⟨document, hd, h⟩
  · simp [Journal.entries_bind, h]
  · simp [Journal.entries_bind, hd, h]

/-- Either all files are mapped, or those before the first one that fails. -/
theorem exists_mapped_files (documents : Documents) (mapper : Mapper) (data : List String) :
    ∃ files : List Mapped, (∀ file ∈ files, file.Of documents mapper) ∧
      (data = files.map (·.path) ∨ ∃ path rest failure,
        data = files.map (·.path) ++ path :: rest ∧
          mapFile documents mapper path = .error failure) := by
  induction data with
  | nil => exact ⟨[], List.forall_mem_nil _, Or.inl rfl⟩
  | cons path rest ih =>
    cases hm : mapFile documents mapper path with
    | error failure => exact ⟨[], List.forall_mem_nil _, Or.inr ⟨path, rest, failure, rfl, hm⟩⟩
    | ok result =>
      obtain ⟨file, hf, rfl, rfl⟩ := exists_mapped hm
      obtain ⟨files, each, h⟩ := ih
      refine ⟨file :: files, List.forall_mem_cons.mpr ⟨hf, each⟩, ?_⟩
      rcases h with rfl | ⟨path, rest, failure, rfl, hfail⟩
      · exact Or.inl rfl
      · exact Or.inr ⟨path, rest, failure, rfl, hfail⟩

theorem exists_mapped_of_mapM {data : List String} {results : List Value}
    (h : data.mapM (mapFile documents mapper) = .ok results) :
    ∃ files : List Mapped, (∀ file ∈ files, file.Of documents mapper) ∧
      files.map (·.path) = data := by
  obtain ⟨files, each, rfl | ⟨path, rest, failure, rfl, hf⟩⟩ :=
    exists_mapped_files documents mapper data
  · exact ⟨files, each, rfl⟩
  · rw [mapM_failed each hf] at h
    cases h

end Loop

section Run

variable {settings : Settings} {writer : Writer} {paths : MappingPaths} {origin : Option String}
  {data : List String}

theorem outcome_run_apply (documents : Documents) (settings : Settings) (writer : Writer)
    (paths : MappingPaths) (origin : Option String) (data : List String) :
    (run documents settings writer (.apply paths origin data)).outcome =
      compile documents settings origin paths >>= fun mapper =>
        (fun _ => ()) <$> data.mapM (mapFile documents mapper) := by
  simp only [run, Journal.outcome_bind, Journal.outcome_note, Journal.outcome_lift, Outcome.ok_bind,
    outcome_mapFiles]
  cases compile documents settings origin paths with
  | error e => rfl
  | ok mapper =>
    simp only [Outcome.ok_bind]
    cases data.mapM (mapFile documents mapper) <;> rfl

theorem entries_run_of_mapped (hc : compile documents settings origin paths = .ok mapper)
    {records : Nat}
    (h : (mapFiles documents mapper writer data).outcome = .ok records) :
    (run documents settings writer (.apply paths origin data)).entries =
      writer.info s!"Compiling {paths.definition}" ::
        ((mapFiles documents mapper writer data).entries ++
          [writer.success s!"✓ Mapped {records} record(s) from {data.length} file(s)"]) := by
  rw [run, Journal.entries_bind_ok (Journal.outcome_note _), Journal.entries_bind_ok hc,
    Journal.entries_bind_ok h]
  rfl

theorem entries_run_of_failed (hc : compile documents settings origin paths = .ok mapper)
    {failure : Failure}
    (h : (mapFiles documents mapper writer data).outcome = .error failure) :
    (run documents settings writer (.apply paths origin data)).entries =
      writer.info s!"Compiling {paths.definition}" ::
        (mapFiles documents mapper writer data).entries := by
  rw [run, Journal.entries_bind_ok (Journal.outcome_note _), Journal.entries_bind_ok hc,
    Journal.entries_bind_error h]
  rfl

end Run

section Port

def portPaths : MappingPaths := ⟨"port.json", "data.json", "result.json"⟩

def portSchema (field : String) : Value :=
  .object [("properties", .object [(field, .object [("type", .text "string")])])]

/-- Ports have the code of a country, which is mapped to its name. -/
def portDocuments : Documents
  | "port.json" => .ok (.object [("country", .object [("source", .text "code"),
      ("lookup", .object [("fr", .text "France"), ("pt", .text "Portugal")])])])
  | "data.json" => .ok (portSchema "code")
  | "result.json" => .ok (portSchema "country")
  | "ports.json" => .ok (.list [.object [("code", .text "fr")], .object [("code", .text "pt")]])
  | "coast.json" => .ok (.list [.object [("code", .text "fr")], .object [("code", .text "xx")],
      .object []])
  | "port-1.json" => .ok (.object [("code", .text "pt")])
  | path => .error (.fileNotFound path)

def portSettings : Settings := ⟨.default, .empty, ⟨none, none⟩⟩

/-- What is written for some data files. -/
def portRun (format : Format) (data : List String) : Written Unit :=
  run portDocuments portSettings ⟨format, false, false⟩ (.apply portPaths none data)

end Port

end Reshape.Command
