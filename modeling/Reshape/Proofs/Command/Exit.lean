import Reshape.Program
import Reshape.Proofs.Command.Files
import Reshape.Proofs.Mapper

/-!
# Exit codes

The first stage that fails decides how a command ends. The documents of the definition and of both
schemas are loaded, they are compiled, and then each data file is loaded and mapped in turn. The
failures and their exit codes are said by stage, without the commands, and the commands end in
exactly these. What a compilation or the mapping of a record fails in is taken as it is.
-/
namespace Reshape

/-- The failures of loading a document, with their exit codes. -/
inductive Failure.LoadsWith : Failure → Nat → Prop where
  | fileNotFound (path : String) : LoadsWith (.fileNotFound path) 3
  | io (message : String) : LoadsWith (.io message) 1
  | invalidFormat (path expected message : String) :
      LoadsWith (.invalidFormat path expected message) 4

theorem Failure.LoadsWith.exitCode_eq {failure : Failure} {code : Nat}
    (h : failure.LoadsWith code) : failure.exitCode = code := by
  cases h <;> rfl

/-- A document that is not there is missing, unreadable or malformed. -/
def Documents.Loads (documents : Documents) : Prop :=
  ∀ path failure, documents path = .error failure → ∃ code, failure.LoadsWith code

theorem Documents.Loads.loadsWith {documents : Documents} (loads : documents.Loads) {path : String}
    {failure : Failure} (h : documents path = .error failure) :
    failure.LoadsWith failure.exitCode := by
  obtain ⟨code, hl⟩ := loads path failure h
  rw [hl.exitCode_eq]
  exact hl

theorem Files.loads_document (files : Files) : Documents.Loads files.document := by
  intro path failure h
  rw [Files.document, Outcome.bind_eq_error] at h
  rcases h with h | ⟨content, -, h⟩
  · rw [Files.read] at h
    split at h
    · cases h
      exact ⟨3, .fileNotFound path⟩
    · cases h
      exact ⟨1, .io _⟩
    · cases h
  · rw [Files.parseDocument] at h
    split at h
    · obtain ⟨e, -, rfl⟩ := Outcome.mapError_eq_error.mp h
      exact ⟨4, .invalidFormat _ _ _⟩
    · obtain ⟨e, -, rfl⟩ := Outcome.mapError_eq_error.mp h
      exact ⟨4, .invalidFormat _ _ _⟩

theorem Failure.exitCode_ne_zero (failure : Failure) : failure.exitCode ≠ 0 := by
  cases failure <;> exact nofun

namespace Command

open Report (Writer)

/-- The code that the program exits with. -/
def exitCode : Except Failure Unit → Nat
  | .ok () => 0
  | .error failure => failure.exitCode

theorem exitCode_eq_zero_iff {outcome : Except Failure Unit} :
    exitCode outcome = 0 ↔ outcome = .ok () := by
  cases outcome with
  | ok _ => exact ⟨fun _ => rfl, fun _ => rfl⟩
  | error failure =>
    constructor
    · intro h
      exact absurd h failure.exitCode_ne_zero
    · intro h
      cases h

theorem exitCode_outcome {invocation : Invocation} {s : Surroundings} {settings : Settings}
    (h : invocation.settings s = .ok settings) :
    (invocation.outcome s).exitCode = exitCode
      (invocation.command.run s.files.document settings (invocation.writer s)).outcome := by
  have hr : (invocation.run s).outcome =
      (invocation.command.run s.files.document settings (invocation.writer s)).outcome := by
    rw [Invocation.run, h, Journal.outcome_bind]
    rfl
  rw [Invocation.outcome]
  simp only [hr]
  cases (invocation.command.run s.files.document settings (invocation.writer s)).outcome <;> rfl

/-- The documents are there, and a mapper of this configuration compiles them. -/
def SetsUp (documents : Documents) (lookups : LookupTables) (config : Mapper.Config)
    (paths : MappingPaths) (mapper : Mapper) : Prop :=
  ∃ definition inputSchema outputSchema, documents paths.definition = .ok definition ∧
    documents paths.inputSchema = .ok inputSchema ∧
    documents paths.outputSchema = .ok outputSchema ∧
    ((Mapper.new config Registry.builtins.resolver lookups.resolver).compile definition inputSchema
      outputSchema).outcome = .ok mapper

/-- The first failure before any data file, and its exit code. A compilation fails alike whatever the
configuration of the mapper is. -/
inductive SetupFails (documents : Documents) (lookups : LookupTables) (paths : MappingPaths) :
    Failure → Nat → Prop where
  | definition {failure : Failure} {code : Nat} (failed : documents paths.definition = .error failure)
      (loading : failure.LoadsWith code) : SetupFails documents lookups paths failure code
  | inputSchema {definition : Value} {failure : Failure} {code : Nat}
      (loaded : documents paths.definition = .ok definition)
      (failed : documents paths.inputSchema = .error failure) (loading : failure.LoadsWith code) :
      SetupFails documents lookups paths failure code
  | outputSchema {definition inputSchema : Value} {failure : Failure} {code : Nat}
      (loaded : documents paths.definition = .ok definition)
      (loadedInput : documents paths.inputSchema = .ok inputSchema)
      (failed : documents paths.outputSchema = .error failure) (loading : failure.LoadsWith code) :
      SetupFails documents lookups paths failure code
  | compilation {definition inputSchema outputSchema : Value} {e : Error}
      (loaded : documents paths.definition = .ok definition)
      (loadedInput : documents paths.inputSchema = .ok inputSchema)
      (loadedOutput : documents paths.outputSchema = .ok outputSchema)
      (failed : ∀ config, ((Mapper.new config Registry.builtins.resolver lookups.resolver).compile
        definition inputSchema outputSchema).outcome = .error e) :
      SetupFails documents lookups paths (.mapping e) 2

/-- The failure of a data file, and its exit code. -/
inductive FileFails (documents : Documents) (mapper : Mapper) (path : String) :
    Failure → Nat → Prop where
  | loading {failure : Failure} {code : Nat} (failed : documents path = .error failure)
      (loading : failure.LoadsWith code) : FileFails documents mapper path failure code
  | single {document : Value} {e : Error} (loaded : documents path = .ok document)
      (single : ∀ items, document ≠ .list items)
      (failed : (mapper.apply document).outcome = .error e) :
      FileFails documents mapper path (.mapping e) 2
  | record {front back : List Value} {record : Value} {e : Error}
      (loaded : documents path = .ok (.list (front ++ record :: back)))
      (earlier : ∀ item ∈ front, ∃ result, (mapper.apply item).outcome = .ok result)
      (failed : (mapper.apply record).outcome = .error e) :
      FileFails documents mapper path (.record path front.length e) 6

/-- The first failure of all, and its exit code. -/
inductive ApplyFails (documents : Documents) (settings : Settings) (origin : Option String)
    (paths : MappingPaths) (data : List String) : Failure → Nat → Prop where
  | setup {failure : Failure} {code : Nat}
      (failed : SetupFails documents settings.lookups paths failure code) :
      ApplyFails documents settings origin paths data failure code
  | file {mapper : Mapper} {before after : List String} {path : String} {failure : Failure}
      {code : Nat}
      (ready : SetsUp documents settings.lookups (settings.mapperConfig origin) paths mapper)
      (split : data = before ++ path :: after)
      (earlier : ∀ file ∈ before, ∃ document mapped, documents file = .ok document ∧
        MapsTo mapper document mapped)
      (failed : FileFails documents mapper path failure code) :
      ApplyFails documents settings origin paths data failure code

variable {documents : Documents} {settings : Settings} {writer : Writer} {paths : MappingPaths}
  {origin : Option String} {mapper : Mapper} {failure : Failure} {code : Nat}

section Setup

variable {definition inputSchema outputSchema : Value} {functions lookups : Resolver}

/-- The configuration of a mapper has no part in how a compilation fails. -/
theorem compile_error_of_config {config : Mapper.Config} {e : Error}
    (h : ((Mapper.new config functions lookups).compile definition inputSchema
      outputSchema).outcome = .error e) (other : Mapper.Config) :
    ((Mapper.new other functions lookups).compile definition inputSchema outputSchema).outcome =
      .error e := by
  rw [Mapper.compile_eq_error] at h ⊢
  cases h with
  | definition malformed => exact .definition malformed
  | inputSchema read malformed => exact .inputSchema read malformed
  | outputSchema read readInput malformed => exact .outputSchema read readInput malformed
  | building read readInput readOutput fault => exact .building read readInput readOutput fault

theorem compile_ok_of_config {config : Mapper.Config}
    (h : ((Mapper.new config functions lookups).compile definition inputSchema
      outputSchema).outcome = .ok mapper) (other : Mapper.Config) :
    ∃ mapper', ((Mapper.new other functions lookups).compile definition inputSchema
      outputSchema).outcome = .ok mapper' := by
  cases ho : ((Mapper.new other functions lookups).compile definition inputSchema
      outputSchema).outcome with
  | ok mapper' => exact ⟨mapper', rfl⟩
  | error e =>
    rw [compile_error_of_config ho config] at h
    cases h

theorem compile_eq_ok :
    compile documents settings origin paths = .ok mapper ↔
      SetsUp documents settings.lookups (settings.mapperConfig origin) paths mapper := by
  simp only [compile, SetsUp, Outcome.bind_eq_ok, Outcome.mapError_eq_ok, exists_and_left]

theorem SetsUp.of_config {lookups : LookupTables} {config : Mapper.Config}
    (h : SetsUp documents lookups config paths mapper) (other : Mapper.Config) :
    ∃ mapper', SetsUp documents lookups other paths mapper' := by
  obtain ⟨definition, inputSchema, outputSchema, hd, hi, ho, hc⟩ := h
  obtain ⟨mapper', hc'⟩ := compile_ok_of_config hc other
  exact ⟨mapper', definition, inputSchema, outputSchema, hd, hi, ho, hc'⟩

theorem SetsUp.exists_plan {lookups : LookupTables} {config : Mapper.Config}
    (h : SetsUp documents lookups config paths mapper) : ∃ plan, mapper.plan? = some plan := by
  obtain ⟨definition, inputSchema, outputSchema, -, -, -, hc⟩ := h
  obtain ⟨parsed, input, output, plan, -, -, -, -, rfl⟩ := Mapper.compile_eq_ok.mp hc
  exact ⟨plan, rfl⟩

theorem setupFails_iff (loads : documents.Loads) :
    compile documents settings origin paths = .error failure ∧ failure.exitCode = code ↔
      SetupFails documents settings.lookups paths failure code := by
  simp only [compile, Outcome.bind_eq_error, Outcome.mapError_eq_error]
  constructor
  · rintro ⟨h | ⟨_, hd, h | ⟨_, hi, h | ⟨_, ho, e, he, rfl⟩⟩⟩, rfl⟩
    · exact .definition h (loads.loadsWith h)
    · exact .inputSchema hd h (loads.loadsWith h)
    · exact .outputSchema hd hi h (loads.loadsWith h)
    · exact .compilation hd hi ho (compile_error_of_config he)
  · intro h
    cases h with
    | definition failed loading => exact ⟨Or.inl failed, loading.exitCode_eq⟩
    | inputSchema loaded failed loading =>
      exact ⟨Or.inr ⟨_, loaded, Or.inl failed⟩, loading.exitCode_eq⟩
    | outputSchema loaded loadedInput failed loading =>
      exact ⟨Or.inr ⟨_, loaded, Or.inr ⟨_, loadedInput, Or.inl failed⟩⟩, loading.exitCode_eq⟩
    | compilation loaded loadedInput loadedOutput failed =>
      exact ⟨Or.inr ⟨_, loaded, Or.inr ⟨_, loadedInput, Or.inr ⟨_, loadedOutput, _, failed _, rfl⟩⟩⟩,
        rfl⟩

end Setup

theorem fileFails_iff (loads : documents.Loads) {path : String} :
    mapFile documents mapper path = .error failure ∧ failure.exitCode = code ↔
      FileFails documents mapper path failure code := by
  simp only [mapFile, Outcome.bind_eq_error, mapDocument_eq_error]
  constructor
  · rintro ⟨h | ⟨document, hd, ⟨front, record, back, e, rfl, hb, he, rfl⟩ | ⟨hn, e, he, rfl⟩⟩, rfl⟩
    · exact .loading h (loads.loadsWith h)
    · exact .record hd hb he
    · exact .single hd hn he
  · intro h
    cases h with
    | loading failed loading => exact ⟨Or.inl failed, loading.exitCode_eq⟩
    | single loaded single failed =>
      exact ⟨Or.inr ⟨_, loaded, Or.inr ⟨single, _, failed, rfl⟩⟩, rfl⟩
    | record loaded earlier failed =>
      exact ⟨Or.inr ⟨_, loaded, Or.inl ⟨_, _, _, _, rfl, earlier, failed, rfl⟩⟩, rfl⟩

theorem outcome_run_check (documents : Documents) (settings : Settings) (writer : Writer)
    (paths : MappingPaths) :
    (run documents settings writer (.check paths)).outcome =
      (fun _ => ()) <$> compile documents settings none paths := by
  simp only [run, Journal.outcome_bind, Journal.outcome_note, Journal.outcome_lift, Outcome.ok_bind]
  cases hc : compile documents settings none paths with
  | error e => rfl
  | ok mapper =>
    obtain ⟨plan, hp⟩ := (compile_eq_ok.mp hc).exists_plan
    rw [Outcome.ok_bind, hp]
    rfl

theorem applyFails_iff (loads : documents.Loads) {data : List String} :
    (run documents settings writer (.apply paths origin data)).outcome = .error failure ∧
        failure.exitCode = code ↔
      ApplyFails documents settings origin paths data failure code := by
  simp only [outcome_run_apply, Outcome.bind_eq_error, Outcome.map_eq_error, Outcome.mapM_eq_error]
  constructor
  · rintro ⟨h | ⟨mapper, hc, before, path, after, hsplit, hb, hf⟩, hcode⟩
    · exact .setup ((setupFails_iff loads).mp ⟨h, hcode⟩)
    · refine .file (compile_eq_ok.mp hc) hsplit (fun earlier he => ?_)
        ((fileFails_iff loads).mp ⟨hf, hcode⟩)
      obtain ⟨mapped, hm⟩ := hb earlier he
      obtain ⟨document, hd, hm⟩ := mapFile_eq_ok.mp hm
      exact ⟨document, mapped, hd, hm⟩
  · intro h
    cases h with
    | setup failed =>
      obtain ⟨h, hcode⟩ := (setupFails_iff loads).mpr failed
      exact ⟨Or.inl h, hcode⟩
    | file ready split earlier failed =>
      obtain ⟨hf, hcode⟩ := (fileFails_iff loads).mpr failed
      refine ⟨Or.inr ⟨_, compile_eq_ok.mpr ready, _, _, _, split, fun file he => ?_, hf⟩, hcode⟩
      obtain ⟨document, mapped, hd, hm⟩ := earlier file he
      exact ⟨mapped, mapFile_eq_ok.mpr ⟨document, hd, hm⟩⟩

theorem exists_outcome_run_check_iff (config : Mapper.Config) :
    (run documents settings writer (.check paths)).outcome = .ok () ↔
      ∃ mapper, SetsUp documents settings.lookups config paths mapper := by
  simp only [outcome_run_check, Outcome.map_eq_ok, compile_eq_ok, and_true]
  constructor
  · rintro ⟨mapper, h⟩
    exact h.of_config config
  · rintro ⟨mapper, h⟩
    exact h.of_config _

/-- Success leaves every document mapped and written. -/
theorem outcome_run_apply_eq_ok {data : List String} :
    (run documents settings writer (.apply paths origin data)).outcome = .ok () ↔
      ∃ mapper, SetsUp documents settings.lookups (settings.mapperConfig origin) paths mapper ∧
        ∀ path ∈ data, ∃ document mapped, documents path = .ok document ∧
          MapsTo mapper document mapped ∧
          writer.data mapped ∈
            (run documents settings writer (.apply paths origin data)).entries := by
  simp only [outcome_run_apply, Outcome.bind_eq_ok, Outcome.map_eq_ok, compile_eq_ok, and_true]
  constructor
  · rintro ⟨mapper, ready, results, hm⟩
    -- The files are taken with their documents and results, which is what was written for them.
    obtain ⟨files, each, rfl⟩ := exists_mapped_of_mapM hm
    refine ⟨mapper, ready, fun path hp => ?_⟩
    obtain ⟨file, hf, rfl⟩ := List.mem_map.mp hp
    refine ⟨file.document, file.result, (each file hf).loaded, (each file hf).mapped, ?_⟩
    rw [entries_run_of_mapped (compile_eq_ok.mpr ready) (outcome_mapFiles_mapped each),
      entries_mapFiles_mapped each]
    have hw : writer.data file.result ∈ [writer.title file.path, writer.data file.result] :=
      List.mem_cons_of_mem _ List.mem_cons_self
    exact List.mem_cons_of_mem _ (List.mem_append_left _ (List.mem_flatMap.mpr ⟨file, hf, hw⟩))
  · rintro ⟨mapper, ready, each⟩
    refine ⟨mapper, ready, ?_⟩
    cases hm : data.mapM (mapFile documents mapper) with
    | ok results => exact ⟨results, rfl⟩
    | error failure =>
      -- A file that fails is one of those that are mapped.
      obtain ⟨before, path, after, rfl, -, hf⟩ := Outcome.mapM_eq_error.mp hm
      obtain ⟨document, mapped, hd, hm, -⟩ := each path (by simp)
      rw [mapFile_eq_ok.mpr ⟨document, hd, hm⟩] at hf
      cases hf

/-- The first stage that fails names the exit code of the command that maps files, and if none fails
the code is zero and each document is mapped and written. The command that only checks ends alike in
the stages before the first data file, and with zero where these succeed, whatever the configuration
of the mapper is. -/
theorem exit_of_first_failure (loads : documents.Loads) (settings : Settings) (writer : Writer)
    (paths : MappingPaths) (origin : Option String) (data : List String) :
    (∀ failure code,
      (run documents settings writer (.apply paths origin data)).outcome = .error failure ∧
        failure.exitCode = code ↔ ApplyFails documents settings origin paths data failure code) ∧
    (exitCode (run documents settings writer (.apply paths origin data)).outcome = 0 ↔
      ∃ mapper, SetsUp documents settings.lookups (settings.mapperConfig origin) paths mapper ∧
        ∀ path ∈ data, ∃ document mapped, documents path = .ok document ∧
          MapsTo mapper document mapped ∧
          writer.data mapped ∈
            (run documents settings writer (.apply paths origin data)).entries) ∧
    (∀ failure code,
      (run documents settings writer (.check paths)).outcome = .error failure ∧
        failure.exitCode = code ↔ SetupFails documents settings.lookups paths failure code) ∧
    (∀ failure code, SetupFails documents settings.lookups paths failure code →
      (run documents settings writer (.check paths)).outcome =
        (run documents settings writer (.apply paths origin data)).outcome) ∧
    ∀ config, exitCode (run documents settings writer (.check paths)).outcome = 0 ↔
      ∃ mapper, SetsUp documents settings.lookups config paths mapper := by
  refine ⟨fun failure code => applyFails_iff loads, ?_, fun failure code => ?_,
    fun failure code failed => ?_, fun config => ?_⟩
  · rw [exitCode_eq_zero_iff]
    exact outcome_run_apply_eq_ok
  · rw [outcome_run_check, Outcome.map_eq_error]
    exact setupFails_iff loads
  · have hc : compile documents settings none paths = .error failure :=
      ((setupFails_iff loads).mpr failed).1
    rw [outcome_run_check, hc, ((applyFails_iff loads).mpr (.setup failed)).1]
    rfl
  · rw [exitCode_eq_zero_iff]
    exact exists_outcome_run_check_iff config

section Port

theorem loads_portDocuments : Documents.Loads portDocuments := by
  intro path failure h
  unfold portDocuments at h
  split at h <;> cases h
  exact ⟨3, .fileNotFound path⟩

/-- The second record of the second file fails, and the check does not see it. -/
theorem exit_of_first_failure_port :
    Documents.Loads portDocuments ∧
    ApplyFails portDocuments portSettings none portPaths
      ["ports.json", "coast.json", "lost.json"]
      (.record "coast.json" 1 (.unknownLookupValue "xx" "country")) 6 ∧
    exitCode (run portDocuments portSettings ⟨.json, false, false⟩ (.check portPaths)).outcome = 0 ∧
    ∃ mapper, SetsUp portDocuments portSettings.lookups ⟨"harbour", true⟩ portPaths mapper := by
  obtain ⟨hfail, -, -, -, hcheck⟩ := exit_of_first_failure loads_portDocuments portSettings
    ⟨.json, false, false⟩ portPaths none ["ports.json", "coast.json", "lost.json"]
  have hzero : exitCode
      (run portDocuments portSettings ⟨.json, false, false⟩ (.check portPaths)).outcome = 0 := rfl
  exact ⟨loads_portDocuments, (hfail _ _).mp ⟨rfl, rfl⟩, hzero, (hcheck _).mp hzero⟩

end Port

end Command
end Reshape
