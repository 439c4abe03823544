import Reshape.Proofs.Command.Files

/-!
# What mapping files writes

Exactly what a run over data files writes where it shows no colors: the mapped documents in the order
of the files, up to the first file that fails. Only human readers who did not ask for quiet get
more, a line that announces the compilation, a title over each document, and a line that counts
records and files once none of them failed.
-/
namespace Reshape

open Report (Format Writer)

/-- The text of a document: without the blanks behind it, and with one line break. -/
def Report.Format.documentText (format : Format) (value : Value) : String :=
  Text.trimEnd Text.isWhiteSpace (format.dataText value) ++ "\n"

namespace Command

/-- Counts the records as they were before they were mapped. -/
def summary (files : List Mapped) : String :=
  "✓ Mapped " ++ toString (files.map fun file => recordCount file.document).sum ++
    " record(s) from " ++ toString files.length ++ " file(s)\n"

/-- The text is the one of these files, with this ending for human readers. -/
structure Transcribes (writer : Writer) (paths : MappingPaths) (files : List Mapped)
    (ending text : String) : Prop where
  bare : writer.format ≠ .human ∨ writer.quiet = true →
    text = String.join (files.map fun file => writer.format.documentText file.result)
  told : writer.format = .human → writer.quiet = false →
    text = "INFO: Compiling " ++ paths.definition ++ "\n" ++
      String.join (files.map fun file =>
        "\n=== " ++ file.path ++ " ===\n" ++ Format.human.documentText file.result) ++ ending

variable {documents : Documents} {settings : Settings} {writer : Writer} {paths : MappingPaths}
  {origin : Option String} {mapper : Mapper}

section Message

theorem speaks_eq_true_iff :
    writer.speaks = true ↔ writer.format = .human ∧ writer.quiet = false := by
  simp [Writer.speaks, and_comm]

theorem info_of_plain (plain : writer.color = false) (message : String) :
    writer.info message = if writer.speaks then "INFO: " ++ message ++ "\n" else "" := by
  cases hs : writer.speaks <;> simp [Writer.info, hs, plain, Writer.line]

theorem success_of_plain (plain : writer.color = false) (message : String) :
    writer.success message = if writer.speaks then message ++ "\n" else "" := by
  cases hs : writer.speaks <;> simp [Writer.success, hs, plain, Writer.line]

theorem title_of_plain (plain : writer.color = false) (text : String) :
    writer.title text = if writer.speaks then "\n=== " ++ text ++ " ===\n" else "" := by
  have front : "\n=== " = "\n" ++ "=== " := rfl
  have back : " ===\n" = " ===" ++ "\n" := rfl
  rw [front, back]
  cases hs : writer.speaks with
  | false => simp [Writer.title, hs]
  | true =>
    simp only [Writer.title, hs, plain, Writer.line, String.append_assoc]
    rfl

end Message

section Run

theorem join_flatMap {α : Type} (pieces : α → List String) (as : List α) :
    String.join (as.flatMap pieces) = String.join (as.map fun a => String.join (pieces a)) := by
  induction as with
  | nil => rfl
  | cons a as ih => rw [List.flatMap_cons, String.join_append, ih, List.map_cons, String.join_cons]

/-- What is written for mapped files and then by something else that human readers get to see. -/
theorem transcribes_entries (plain : writer.color = false) (files : List Mapped)
    {message ending : String} {last : List String} (hm : message = "Compiling " ++ paths.definition)
    (hlast : String.join last = if writer.speaks then ending else "") :
    Transcribes writer paths files ending
      (String.join (writer.info message ::
        ((files.flatMap fun file => [writer.title file.path, writer.data file.result]) ++ last))) := by
  rw [String.join_cons, String.join_append, join_flatMap, hlast, info_of_plain plain, hm]
  simp only [title_of_plain plain, String.join_cons, String.join_nil, String.append_empty]
  constructor
  -- A writer that does not speak leaves nothing but the documents of all that is joined.
  · intro h
    have hs : writer.speaks = false := by
      rw [Bool.eq_false_iff, Ne, speaks_eq_true_iff]
      rintro ⟨hf, hq⟩
      rcases h with h | h
      · exact h hf
      · rw [hq] at h
        cases h
    simp only [hs, Bool.false_eq_true, ↓reduceIte, String.empty_append, String.append_empty]
    rfl
  · intro hf hq
    have hs : writer.speaks = true := speaks_eq_true_iff.mpr ⟨hf, hq⟩
    simp only [hs, ↓reduceIte, String.append_assoc]
    rw [← hf]
    rfl

variable {files : List Mapped}

theorem transcribes_of_mapped (hc : compile documents settings origin paths = .ok mapper)
    (plain : writer.color = false) (each : ∀ file ∈ files, file.Of documents mapper) :
    Transcribes writer paths files (summary files) (String.join
      (run documents settings writer (.apply paths origin (files.map (·.path)))).entries) := by
  rw [entries_run_of_mapped hc (outcome_mapFiles_mapped each), entries_mapFiles_mapped each,
    List.length_map]
  refine transcribes_entries plain files rfl ?_
  rw [success_of_plain plain, String.join_cons, String.join_nil, String.append_empty]
  cases writer.speaks with
  | false => rfl
  | true =>
    have back : " file(s)\n" = " file(s)" ++ "\n" := rfl
    rw [summary, back]
    simp only [↓reduceIte, String.append_assoc]
    rfl

theorem transcribes_of_failed (hc : compile documents settings origin paths = .ok mapper)
    (plain : writer.color = false) (each : ∀ file ∈ files, file.Of documents mapper)
    {path : String} {failure : Failure} (hf : mapFile documents mapper path = .error failure)
    (rest : List String) :
    Transcribes writer paths files "" (String.join
      (run documents settings writer
        (.apply paths origin (files.map (·.path) ++ path :: rest))).entries) := by
  rw [entries_run_of_failed hc (outcome_mapFiles_failed each hf rest), entries_mapFiles each,
    entries_mapFiles_failed hf]
  exact transcribes_entries plain files rfl (ite_self "").symm

end Run

/-- Either every file is mapped and the text ends in the count, or the text breaks off before the
first file that cannot be loaded or mapped. -/
theorem apply_transcript (hc : compile documents settings origin paths = .ok mapper)
    (plain : writer.color = false) (data : List String) :
    ∃ files : List Mapped, (∀ file ∈ files, file.Of documents mapper) ∧
      ((data = files.map (·.path) ∧
          (run documents settings writer (.apply paths origin data)).outcome = .ok () ∧
          Transcribes writer paths files (summary files)
            (String.join (run documents settings writer (.apply paths origin data)).entries)) ∨
        ∃ path rest failure, data = files.map (·.path) ++ path :: rest ∧
          mapFile documents mapper path = .error failure ∧
          (run documents settings writer (.apply paths origin data)).outcome = .error failure ∧
          Transcribes writer paths files ""
            (String.join (run documents settings writer (.apply paths origin data)).entries)) := by
  obtain ⟨files, each, h⟩ := exists_mapped_files documents mapper data
  refine ⟨files, each, ?_⟩
  rcases h with rfl | ⟨path, rest, failure, rfl, hf⟩
  · refine Or.inl ⟨rfl, ?_, transcribes_of_mapped hc plain each⟩
    rw [outcome_run_apply, hc, Outcome.ok_bind, mapM_mapped each]
    rfl
  · refine Or.inr ⟨path, rest, failure, rfl, hf, ?_, transcribes_of_failed hc plain each hf rest⟩
    rw [outcome_run_apply, hc, Outcome.ok_bind, mapM_failed each hf]
    rfl

section Port

/-- Both files are mapped; a lost one between them leaves only the text of the first. -/
theorem apply_transcript_port :
    (∃ files : List Mapped, files.map (·.path) = ["ports.json", "port-1.json"] ∧
      (portRun .human ["ports.json", "port-1.json"]).outcome = .ok () ∧
      Transcribes ⟨.human, false, false⟩ portPaths files (summary files)
        (String.join (portRun .human ["ports.json", "port-1.json"]).entries)) ∧
    ∃ (files : List Mapped) (path : String) (rest : List String),
      ["ports.json", "lost.json", "port-1.json"] = files.map (·.path) ++ path :: rest ∧
      (portRun .yaml ["ports.json", "lost.json", "port-1.json"]).outcome =
        .error (.fileNotFound "lost.json") ∧
      Transcribes ⟨.yaml, false, false⟩ portPaths files ""
        (String.join (portRun .yaml ["ports.json", "lost.json", "port-1.json"]).entries) := by
  obtain ⟨mapper, hc⟩ : ∃ mapper, compile portDocuments portSettings none portPaths = .ok mapper :=
    ⟨_, rfl⟩
  have hmapped : (portRun .human ["ports.json", "port-1.json"]).outcome = .ok () := rfl
  have hlost : (portRun .yaml ["ports.json", "lost.json", "port-1.json"]).outcome =
    .error (.fileNotFound "lost.json") := rfl
  constructor
  · obtain ⟨files, -, h⟩ :=
      @apply_transcript _ _ ⟨.human, false, false⟩ _ _ _ hc rfl ["ports.json", "port-1.json"]
    rcases h with ⟨hall, -, ht⟩ | ⟨_, _, _, -, -, ho, -⟩
    · exact ⟨files, hall.symm, hmapped, ht⟩
    · cases hmapped.symm.trans ho
  · obtain ⟨files, -, h⟩ :=
      @apply_transcript _ _ ⟨.yaml, false, false⟩ _ _ _ hc rfl
        ["ports.json", "lost.json", "port-1.json"]
    rcases h with ⟨-, ho, -⟩ | ⟨path, rest, _, hsplit, -, -, ht⟩
    · cases hlost.symm.trans ho
    · exact ⟨files, path, rest, hsplit, hlost, ht⟩

example : String.join (portRun .yaml ["ports.json", "port-1.json"]).entries =
    "- country: France\n- country: Portugal\ncountry: Portugal\n" := by decide +kernel

end Port

end Command
end Reshape
