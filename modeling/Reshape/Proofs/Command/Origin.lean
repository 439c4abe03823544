import Reshape.Proofs.Command.Exit
import Reshape.Proofs.Plan.Relabelling

/-!
# Where the origin comes from

The command line, the environment and a settings file may each give an origin, with different rules
for an empty text. What a run of the program writes is followed from these layers to the elements of
nested arrays, and a second run, whose layers give what they like, is compared with the first. How a
settings file is read is taken as it is, and so are the journals of compilations.
-/
namespace Reshape

/-- The origin that counts of those that the command line, the environment and a settings file give:
the first one that is given, where an empty one of the environment is not. -/
def originOf (argument environment file : Option String) : String :=
  ((argument.or (environment.filter fun text => text ≠ "")).or file).getD "mapper"

theorem Files.read_eq_ok {files : Files} {path text : String} :
    files.read path = .ok text ↔ files path = .text text := by
  unfold Files.read
  split <;> simp_all

namespace Settings

/-- What a settings file says; nothing if there is none. -/
inductive Says (files : Files) : Option String → Option Value → Prop where
  | nothing : Says files none none
  | file {path text : String} {content : Value} (found : files path = .text text)
      (parsed : readContent path text = .ok content) : Says files (some path) (some content)

def ofContent (content : Option Value) : Settings := (content.map ofForm).getD default

/-- The origin in the section of the mapper. -/
def originIn? (content : Option Value) : Option String :=
  content.bind fun value => (value.get? "mapper").bind fun mapper => mapper.textPart? "origin"

theorem origin_ofContent (content : Option Value) :
    (ofContent content).mapper.origin = (originIn? content).getD "mapper" := by
  cases content with
  | none => rfl
  | some value =>
    simp only [ofContent, ofForm, originIn?, Option.map_some, Option.getD_some, Option.bind_some]
    cases value.get? "mapper" <;> rfl

theorem origin_overrideOrigin (settings : Settings) (environment : Option String) :
    (settings.overrideOrigin environment).mapper.origin =
      (environment.filter fun text => text ≠ "").getD settings.mapper.origin := by
  cases environment with
  | none => rfl
  | some text =>
    by_cases h : text = ""
    · simp [overrideOrigin, Option.filter, h]
    · simp [overrideOrigin, Option.filter, h]

@[simp] theorem lookups_overrideOrigin (settings : Settings) (environment : Option String) :
    (settings.overrideOrigin environment).lookups = settings.lookups := by
  unfold overrideOrigin
  split
  · split <;> rfl
  · rfl

theorem origin_mapperConfig (content : Option Value) (environment argument : Option String) :
    (((ofContent content).overrideOrigin environment).mapperConfig argument).origin =
      originOf argument environment (originIn? content) := by
  cases argument with
  | some text => rfl
  | none =>
    have ho := origin_overrideOrigin (ofContent content) environment
    rw [origin_ofContent] at ho
    rw [mapperConfig, ho, originOf, Option.none_or]
    cases environment.filter fun text => text ≠ "" <;> rfl

theorem load_eq_ok {files : Files} {path environment : Option String} {settings : Settings} :
    load files path environment = .ok settings ↔
      ∃ content, Says files path content ∧
        settings = (ofContent content).overrideOrigin environment := by
  cases path with
  | none =>
    constructor
    · intro h
      cases h
      exact ⟨none, .nothing, rfl⟩
    · rintro ⟨content, ⟨⟩, rfl⟩
      rfl
  | some path =>
    simp only [load, parse, Outcome.bind_eq_ok, Outcome.map_eq_ok, Files.read_eq_ok]
    constructor
    · rintro ⟨text, found, _, ⟨content, parsed, rfl⟩, h⟩
      cases h
      exact ⟨some content, .file found parsed, rfl⟩
    · rintro ⟨_, said, rfl⟩
      cases said with
      | file found parsed => exact ⟨_, found, _, ⟨_, parsed, rfl⟩, rfl⟩

end Settings

section Elements

/-- An array of a plan, at any depth, has this element for a record. -/
def Level.Builds (plan : Level) (record : Value) (origin : String) (element : Value) : Prop :=
  ∃ node ∈ plan.preorder, ∃ levels items, node.strategy = .nestedArray levels ∧
    (node.result record origin).outcome = .ok (.list items) ∧ element ∈ items

/-- An object whose only entry under the key of the origin is this origin. -/
def Carries (origin : String) (element : Value) : Prop :=
  ∃ fields : Fields, element = .object fields ∧ fields.keys.Nodup ∧
    fields.get? originKey = some (.text origin)

/-- Two results are objects that differ in the origin of the elements of nested arrays only. -/
def Level.Relabels (plan : Level) (origin origin' : String) (made made' : Value) : Prop :=
  ∃ fields fields', made = .object fields ∧ made' = .object fields' ∧
    Relabelled origin origin' plan fields fields'

/-- What a plan makes of a record under an origin. All elements that it builds carry the origin, and
so do those that stand in the result. -/
structure Level.Labels (plan : Level) (origin : String) (record made : Value) : Prop where
  applied : (plan.apply record origin).outcome = .ok made
  carried : ∀ element, plan.Builds record origin element → Carries origin element
  placed : plan.Relabels origin origin made made

variable {plan : Level} {origin origin' : String} {record element made : Value}

theorem carries_of_mem_survivors {outputs : List Fields}
    (distinct : ∀ fields ∈ outputs, fields.keys.Nodup) (h : element ∈ survivors origin outputs) :
    Carries origin element := by
  obtain ⟨fields, hf, rfl⟩ := List.mem_map.mp h
  have hd : fields.keys.Nodup := distinct fields (List.mem_of_mem_filter hf)
  refine ⟨_, rfl, Fields.nodup_insert hd, ?_⟩
  rw [Fields.get?_insert, if_pos rfl]

theorem Level.Builds.carries (h : plan.Builds record origin element) : Carries origin element := by
  obtain ⟨node, -, levels, items, array, made, hm⟩ := h
  rw [Node.outcome_result, array, outcome_result_nestedArray, Outcome.map_eq_ok] at made
  obtain ⟨outputs, ho, hi⟩ := made
  obtain rfl : survivors origin outputs = items := Value.list.inj hi
  refine carries_of_mem_survivors (fun fields hf => ?_) hm
  obtain ⟨level, -, hl⟩ := Outcome.exists_member_of_result ho hf
  exact nodup_output hl

theorem Level.exists_relabels (h : (plan.apply record origin).outcome = .ok made)
    (origin' : String) : ∃ made', (plan.apply record origin').outcome = .ok made' ∧
      plan.Relabels origin origin' made made' := by
  have hr := @Level.output_relabelled origin origin' record plan
  rw [Level.outcome_apply, Outcome.map_eq_ok] at h
  obtain ⟨fields, hf, rfl⟩ := h
  rw [hf] at hr
  rw [Level.outcome_apply]
  generalize (plan.output record origin').outcome = other at hr
  cases hr with
  | ok related => exact ⟨_, rfl, fields, _, rfl, rfl, related⟩

theorem Level.labels_iff :
    plan.Labels origin record made ↔ (plan.apply record origin).outcome = .ok made := by
  refine ⟨Level.Labels.applied, fun h => ⟨h, fun _ hb => hb.carries, ?_⟩⟩
  obtain ⟨made', h', related⟩ := Level.exists_relabels h origin
  rw [h] at h'
  cases h'
  exact related

end Elements

/-- Two documents are related record by record: lists item by item, and others as a whole. -/
inductive ByRecord (R : Value → Value → Prop) : Value → Value → Prop where
  | list {records results : List Value} (each : List.Forall₂ R records results) :
      ByRecord R (.list records) (.list results)
  | single {record result : Value} (single : ∀ items, record ≠ .list items)
      (related : R record result) : ByRecord R record result

theorem ByRecord.exists_relabels {plan : Level} {origin : String} {document result : Value}
    (h : ByRecord (plan.Labels origin) document result) (origin' : String) :
    ∃ result', ByRecord (plan.Labels origin') document result' ∧
      ByRecord (plan.Relabels origin origin') result result' := by
  cases h with
  | @list records results each =>
    have hr : ∃ results', List.Forall₂ (plan.Labels origin') records results' ∧
        List.Forall₂ (plan.Relabels origin origin') results results' := by
      induction each with
      | nil => exact ⟨[], .nil, .nil⟩
      | cons head _ ih =>
        obtain ⟨made', hm, hd⟩ := Level.exists_relabels head.applied origin'
        obtain ⟨results', hms, hds⟩ := ih
        exact ⟨made' :: results', .cons (Level.labels_iff.mpr hm) hms, .cons hd hds⟩
    obtain ⟨results', hm, hd⟩ := hr
    exact ⟨.list results', .list hm, .list hd⟩
  | single hn related =>
    obtain ⟨made', hm, hd⟩ := Level.exists_relabels related.applied origin'
    refine ⟨made', .single hn (Level.labels_iff.mpr hm), .single (fun items hi => ?_) hd⟩
    obtain ⟨fields, _, hf, -⟩ := hd
    rw [hf] at hi
    cases hi

namespace Command

open Report (Writer)

/-- The documents of a mapping are compiled to a plan. Nothing but the tables of the settings has a
part in this. -/
def Plans (documents : Documents) (lookups : LookupTables) (paths : MappingPaths) (plan : Level) :
    Prop :=
  ∃ definition inputSchema outputSchema, documents paths.definition = .ok definition ∧
    documents paths.inputSchema = .ok inputSchema ∧
    documents paths.outputSchema = .ok outputSchema ∧
    ∃ parsed input output, Definition.ofValue definition = .ok parsed ∧
      Fragment.Reads inputSchema input ∧ Fragment.Reads outputSchema output ∧
      (Scope.build ⟨input, Registry.builtins.resolver, lookups.resolver⟩ parsed output).outcome =
        .ok plan

/-- A run ended well and wrote the results of some files, in order, between its first line and its
last. -/
structure Wrote (writer : Writer) (files : List Mapped) (run : Written Unit) : Prop where
  success : run.outcome = .ok ()
  entries : ∃ first last, run.entries = first ::
    ((files.flatMap fun file => [writer.title file.path, writer.data file.result]) ++ [last])

/-- The document of a file was loaded, and its result is what a plan makes of it under an origin. -/
structure Mapped.Labelled (documents : Documents) (plan : Level) (origin : String) (file : Mapped) :
    Prop where
  loaded : documents file.path = .ok file.document
  result : ByRecord (plan.Labels origin) file.document file.result

/-- The results that a file has under two origins differ, record by record, in these only. -/
structure Mapped.Relabelled (plan : Level) (origin origin' : String) (file file' : Mapped) :
    Prop where
  path : file'.path = file.path
  document : file'.document = file.document
  result : ByRecord (plan.Relabels origin origin') file.result file'.result

variable {documents : Documents} {settings : Settings} {writer : Writer} {paths : MappingPaths}
  {argument : Option String} {plan : Level} {origin : String} {mapper : Mapper}

theorem exists_plans (h : compile documents settings argument paths = .ok mapper) :
    ∃ plan, Plans documents settings.lookups paths plan ∧
      ∀ record, mapper.apply record =
        plan.apply record (settings.mapperConfig argument).origin := by
  obtain ⟨definition, inputSchema, outputSchema, hd, hi, ho, hc⟩ := compile_eq_ok.mp h
  obtain ⟨parsed, input, output, plan, hp, hin, hout, hb, rfl⟩ := Mapper.compile_eq_ok.mp hc
  exact ⟨plan, ⟨definition, inputSchema, outputSchema, hd, hi, ho, parsed, input, output, hp, hin,
    hout, hb⟩, fun _ => rfl⟩

/-- The same plan comes of any settings with the same tables. -/
theorem Plans.exists_mapper {lookups : LookupTables} (h : Plans documents lookups paths plan)
    (same : settings.lookups = lookups) (argument : Option String) :
    ∃ mapper, compile documents settings argument paths = .ok mapper ∧
      ∀ record, mapper.apply record =
        plan.apply record (settings.mapperConfig argument).origin := by
  subst same
  obtain ⟨definition, inputSchema, outputSchema, hd, hi, ho, parsed, input, output, hp, hin, hout,
    hb⟩ := h
  have ready : SetsUp documents settings.lookups (settings.mapperConfig argument) paths _ :=
    ⟨definition, inputSchema, outputSchema, hd, hi, ho,
      Mapper.compile_eq_ok.mpr ⟨parsed, input, output, plan, hp, hin, hout, hb, rfl⟩⟩
  exact ⟨_, compile_eq_ok.mpr ready, fun _ => rfl⟩

theorem Plans.of_documents {documents' : Documents} {lookups : LookupTables}
    (h : Plans documents lookups paths plan)
    (same : ∀ path ∈ [paths.definition, paths.inputSchema, paths.outputSchema],
      documents' path = documents path) : Plans documents' lookups paths plan := by
  obtain ⟨definition, inputSchema, outputSchema, hd, hi, ho, rest⟩ := h
  have hd' := same paths.definition (by simp)
  have hi' := same paths.inputSchema (by simp)
  have ho' := same paths.outputSchema (by simp)
  exact ⟨definition, inputSchema, outputSchema, hd'.trans hd, hi'.trans hi, ho'.trans ho, rest⟩

theorem mapsTo_iff_byRecord {document mapped : Value} :
    MapsTo mapper document mapped ↔
      ByRecord (fun record made => (mapper.apply record).outcome = .ok made) document mapped := by
  constructor
  · intro h
    by_cases hl : ∃ items, document = .list items
    · obtain ⟨items, rfl⟩ := hl
      obtain ⟨results, rfl, each⟩ := h.list items rfl
      exact .list (List.forall₂_iff_get.mpr each)
    · have hn : ∀ items, document ≠ .list items := not_exists.mp hl
      exact .single hn (h.single hn)
  · intro h
    cases h with
    | @list records results each =>
      refine ⟨fun items hi => ?_, fun hn => absurd rfl (hn records)⟩
      cases hi
      exact ⟨results, rfl, List.forall₂_iff_get.mp each⟩
    | single hn related => exact ⟨fun items hi => absurd hi (hn items), fun _ => related⟩

theorem wrote_run {files : List Mapped}
    (hc : compile documents settings argument paths = .ok mapper)
    (each : ∀ file ∈ files, file.Of documents mapper) :
    Wrote writer files
      (run documents settings writer (.apply paths argument (files.map Mapped.path))) := by
  constructor
  · rw [outcome_run_apply, hc, Outcome.ok_bind, mapM_mapped each]
    rfl
  · rw [entries_run_of_mapped hc (outcome_mapFiles_mapped each), entries_mapFiles_mapped each]
    exact ⟨_, _, rfl⟩

theorem Mapped.of_iff_labelled {file : Mapped}
    (keeps : ∀ record, mapper.apply record = plan.apply record origin) :
    file.Of documents mapper ↔ file.Labelled documents plan origin := by
  have hl : plan.Labels origin = fun record made => (plan.apply record origin).outcome = .ok made :=
    funext₂ fun _ _ => propext Level.labels_iff
  have hm : MapsTo mapper file.document file.result ↔
      ByRecord (plan.Labels origin) file.document file.result := by
    rw [mapsTo_iff_byRecord, hl]
    simp only [keeps]
  exact ⟨fun h => ⟨h.loaded, hm.mp h.mapped⟩, fun h => ⟨h.loaded, hm.mpr h.result⟩⟩

theorem exists_labelled {data : List String}
    (success : (run documents settings writer (.apply paths argument data)).outcome = .ok ()) :
    ∃ (plan : Level) (files : List Mapped), Plans documents settings.lookups paths plan ∧
      (∀ file ∈ files, file.Labelled documents plan (settings.mapperConfig argument).origin) ∧
      files.map Mapped.path = data := by
  simp only [outcome_run_apply, Outcome.bind_eq_ok, Outcome.map_eq_ok, and_true] at success
  obtain ⟨mapper, hc, results, hm⟩ := success
  obtain ⟨plan, plans, keeps⟩ := exists_plans hc
  obtain ⟨files, each, paths⟩ := exists_mapped_of_mapM hm
  exact ⟨plan, files, plans, fun file hf => (Mapped.of_iff_labelled keeps).mp (each file hf), paths⟩

theorem paths_eq_of_relabelled {origin' : String} {files files' : List Mapped}
    (h : List.Forall₂ (Mapped.Relabelled plan origin origin') files files') :
    files'.map Mapped.path = files.map Mapped.path := by
  have hp : List.Forall₂ Eq (files.map Mapped.path) (files'.map Mapped.path) := by
    rw [List.forall₂_map_left_iff, List.forall₂_map_right_iff]
    exact h.imp fun _ _ hf => hf.path.symm
  rw [List.forall₂_eq_eq_eq] at hp
  exact hp.symm

theorem exists_relabelled {documents' : Documents} {files : List Mapped}
    (each : ∀ file ∈ files, file.Labelled documents plan origin)
    (same : ∀ file ∈ files, documents' file.path = documents file.path) (origin' : String) :
    ∃ files' : List Mapped, (∀ file ∈ files', file.Labelled documents' plan origin') ∧
      List.Forall₂ (Mapped.Relabelled plan origin origin') files files' := by
  induction files with
  | nil => exact ⟨[], List.forall_mem_nil _, .nil⟩
  | cons file files ih =>
    obtain ⟨head, tail⟩ := List.forall_mem_cons.mp each
    obtain ⟨sameHead, sameTail⟩ := List.forall_mem_cons.mp same
    obtain ⟨files', each', related⟩ := ih tail sameTail
    obtain ⟨result', labelled, relabelled⟩ := head.result.exists_relabels origin'
    have hf : Mapped.Labelled documents' plan origin' ⟨file.path, file.document, result'⟩ :=
      ⟨sameHead.trans head.loaded, labelled⟩
    exact ⟨_, List.forall_mem_cons.mpr ⟨hf, each'⟩, .cons ⟨rfl, rfl, relabelled⟩ related⟩

end Command

namespace Invocation

open Command

/-- The origin that counts for a command, if its settings file says this. -/
def originFor (invocation : Invocation) (s : Surroundings) (content : Option Value) : String :=
  match invocation.command with
  | .apply _ argument _ => originOf argument s.origin? (Settings.originIn? content)
  | .check _ => originOf none s.origin? (Settings.originIn? content)

/-- A run of the program wrote the results of some files, which a plan made under an origin. -/
structure Maps (invocation : Invocation) (s : Surroundings) (plan : Level) (origin : String)
    (files : List Mapped) : Prop where
  wrote : Wrote (invocation.writer s) files (invocation.run s)
  labelled : ∀ file ∈ files, file.Labelled s.files.document plan origin

variable {invocation : Invocation} {s : Surroundings} {paths : MappingPaths}
  {argument : Option String} {data : List String}

theorem originFor_apply (command : invocation.command = .apply paths argument data)
    (content : Option Value) : invocation.originFor s content =
      originOf argument s.origin? (Settings.originIn? content) := by
  rw [originFor, command]

theorem run_of_settings {settings : Settings} (h : invocation.settings s = .ok settings) :
    invocation.run s =
      invocation.command.run s.files.document settings (invocation.writer s) := by
  rw [run, h]
  exact pure_bind settings _

theorem maps_of_plans {content : Option Value} {plan : Level} {files : List Mapped}
    (command : invocation.command = .apply paths argument (files.map Mapped.path))
    (said : Settings.Says s.files invocation.config content)
    (plans : Plans s.files.document (Settings.ofContent content).lookups paths plan)
    (each : ∀ file ∈ files,
      file.Labelled s.files.document plan (invocation.originFor s content)) :
    invocation.Maps s plan (invocation.originFor s content) files := by
  have hs : invocation.settings s =
      .ok ((Settings.ofContent content).overrideOrigin s.origin?) :=
    Settings.load_eq_ok.mpr ⟨content, said, rfl⟩
  obtain ⟨mapper, hc, keeps⟩ :=
    plans.exists_mapper (Settings.lookups_overrideOrigin _ s.origin?) argument
  rw [Settings.origin_mapperConfig, ← originFor_apply command] at keeps
  refine ⟨?_, each⟩
  rw [run_of_settings hs, command]
  exact wrote_run hc fun file hf => (Mapped.of_iff_labelled keeps).mpr (each file hf)

/-- What was mapped once is mapped by any run with the same documents and tables, with other origins
if its layers give another one. -/
theorem exists_maps {documents : Documents} {content : Option Value} {plan : Level}
    {origin : String} {files : List Mapped}
    (plans : Plans documents (Settings.ofContent content).lookups paths plan)
    (each : ∀ file ∈ files, file.Labelled documents plan origin)
    (command : invocation.command = .apply paths argument (files.map Mapped.path))
    (said : Settings.Says s.files invocation.config content)
    (same : ∀ path ∈ [paths.definition, paths.inputSchema, paths.outputSchema] ++
      files.map Mapped.path, s.files.document path = documents path) :
    ∃ files', invocation.Maps s plan (invocation.originFor s content) files' ∧
      List.Forall₂ (Mapped.Relabelled plan origin (invocation.originFor s content))
        files files' := by
  obtain ⟨sameMapping, sameData⟩ := List.forall_mem_append.mp same
  have sameFiles : ∀ file ∈ files, s.files.document file.path = documents file.path :=
    fun file hf => sameData file.path (List.mem_map_of_mem hf)
  obtain ⟨files', each', related⟩ :=
    exists_relabelled each sameFiles (invocation.originFor s content)
  rw [← paths_eq_of_relabelled related] at command
  exact ⟨files', maps_of_plans command said (plans.of_documents sameMapping) each', related⟩

/-- A run that ends well writes for each data file what one plan makes of its records under one
origin, and every element that the plan builds for a nested array, at any depth, carries this origin:
the one of the command line if given, else that of the environment if given and not empty, else that
of the settings file if given, else the plain one. Any other run with the same documents and tables
ends well too, whatever its layers give, and writes the same results but for the origins. -/
theorem origin_of_layers (command : invocation.command = .apply paths argument data)
    (success : (invocation.run s).outcome = .ok ()) :
    ∃ content plan files, Settings.Says s.files invocation.config content ∧
      invocation.originFor s content =
        originOf argument s.origin? (Settings.originIn? content) ∧
      Plans s.files.document (Settings.ofContent content).lookups paths plan ∧
      files.map Mapped.path = data ∧
      invocation.Maps s plan (invocation.originFor s content) files ∧
      ∀ (invocation' : Invocation) (s' : Surroundings) (argument' : Option String)
        (content' : Option Value), invocation'.command = .apply paths argument' data →
        Settings.Says s'.files invocation'.config content' →
        (Settings.ofContent content').lookups = (Settings.ofContent content).lookups →
        (∀ path ∈ [paths.definition, paths.inputSchema, paths.outputSchema] ++ data,
          s'.files.document path = s.files.document path) →
        ∃ files', invocation'.Maps s' plan (invocation'.originFor s' content') files' ∧
          List.Forall₂ (Mapped.Relabelled plan (invocation.originFor s content)
            (invocation'.originFor s' content')) files files' := by
  rw [run, Journal.outcome_bind, Journal.outcome_lift, Outcome.bind_eq_ok] at success
  obtain ⟨settings, hs, success⟩ := success
  obtain ⟨content, said, rfl⟩ := Settings.load_eq_ok.mp hs
  rw [command] at success
  obtain ⟨plan, files, plans, each, rfl⟩ := exists_labelled success
  rw [Settings.lookups_overrideOrigin] at plans
  rw [Settings.origin_mapperConfig, ← originFor_apply command] at each
  refine ⟨content, plan, files, said, originFor_apply command content, plans, rfl,
    maps_of_plans command said plans each,
    fun invocation' s' argument' content' command' said' tables same => ?_⟩
  rw [← tables] at plans
  exact exists_maps plans each command' said' same

section Hangar

def hangarPaths : MappingPaths := ⟨"h.yml", "i.yml", "o.yml"⟩

/-- Planes are put into bays, and the second record has none. -/
def hangarText : String → String
  | "h.yml" => "bays: \x7b$nested: [\x7bplane: \x7bsource: tail\x7d\x7d]\x7d"
  | "i.yml" => "properties: \x7btail: \x7b\x7d\x7d"
  | "o.yml" =>
    "properties:\n  bays: \x7btype: array, items: \x7bproperties: \x7bplane: \x7b\x7d\x7d\x7d\x7d"
  | "p.yml" => "[\x7btail: D-1\x7d, \x7b\x7d]"
  | _ => "[mapper]\norigin = \"crm\"\n"

/-- The origin of the environment is empty. -/
def hangarSurroundings : Surroundings :=
  ⟨fun path => .text (hangarText path), fun _ => some "", false⟩

def hangarRun (config : Option String) : Invocation :=
  ⟨0, false, config, .json, true, .apply hangarPaths none ["p.yml"]⟩

def hangarDocuments : Documents := fun path =>
  (Yaml.read .free (hangarText path)).mapError fun e => .invalidFormat path "YAML" e.message

theorem document_hangar : ∀ path ∈ ["h.yml", "i.yml", "o.yml", "p.yml"],
    hangarSurroundings.files.document path = hangarDocuments path := by
  have yaml {path : String} (h : isYamlPath path = true) :
      hangarSurroundings.files.document path = hangarDocuments path := by
    change Files.parseDocument path (hangarText path) = _
    rw [Files.parseDocument, if_pos h, hangarDocuments]
  simp only [List.forall_mem_cons]
  refine ⟨yaml ?_, yaml ?_, yaml ?_, yaml ?_, List.forall_mem_nil _⟩ <;>
    simp +decide [isYamlPath, fileExtension?, pathParts, String.splitOn, String.splitOnAux]

theorem success_hangar : ((hangarRun none).run hangarSurroundings).outcome = .ok () := by
  have success : (Command.run hangarDocuments .default ⟨.json, false, false⟩
      (.apply hangarPaths none ["p.yml"])).outcome = .ok () :=
    Outcome.toOption_eq_some.mp (by decide +kernel)
  obtain ⟨plan, files, plans, each, paths⟩ := exists_labelled success
  have command : (hangarRun none).command = .apply hangarPaths none (files.map Mapped.path) := by
    rw [paths]
    rfl
  have plain : Settings.Says hangarSurroundings.files (hangarRun none).config none := .nothing
  obtain ⟨_, maps, -⟩ := exists_maps plans each command plain (paths ▸ document_hangar)
  exact maps.wrote.success

theorem says_hangar : ∃ content,
    Settings.Says hangarSurroundings.files (some "s.toml") (some content) ∧
      Settings.originIn? (some content) = some "crm" ∧ content.get? "lookups" = none := by
  have ht : isYamlPath "s.toml" = false ∧ fileExtension? "s.toml" ≠ some "json" := by
    simp +decide [isYamlPath, fileExtension?, pathParts, String.splitOn, String.splitOnAux]
  have hr : (Toml.read Settings.form (hangarText "s.toml")).toOption.map (fun content =>
      (Settings.originIn? (some content), (content.get? "lookups").isNone)) =
        some (some "crm", true) := by
    decide +kernel
  obtain ⟨content, hc, hm⟩ := Option.map_eq_some_iff.mp hr
  obtain ⟨origin, tables⟩ := Prod.ext_iff.mp hm
  have parsed : Settings.readContent "s.toml" (hangarText "s.toml") = .ok content := by
    rw [Settings.readContent, ht.1, if_neg Bool.false_ne_true, if_neg ht.2,
      Outcome.mapError_eq_ok]
    exact Outcome.toOption_eq_some.mp hc
  exact ⟨content, .file rfl parsed, origin, Option.isNone_iff_eq_none.mp tables⟩

/-- Without a settings file the plain origin counts, and with one that of the file. -/
theorem origin_of_layers_hangar :
    (hangarRun none).command = .apply hangarPaths none ["p.yml"] ∧
    ((hangarRun none).run hangarSurroundings).outcome = .ok () ∧
    ∃ plan files files', (hangarRun none).Maps hangarSurroundings plan "mapper" files ∧
      (hangarRun (some "s.toml")).Maps hangarSurroundings plan "crm" files' ∧
      List.Forall₂ (Mapped.Relabelled plan "mapper" "crm") files files' := by
  have command : (hangarRun none).command = .apply hangarPaths none ["p.yml"] := rfl
  obtain ⟨content, plan, files, said, -, -, -, maps, others⟩ :=
    origin_of_layers command success_hangar
  cases said
  obtain ⟨content', said', origin, tables⟩ := says_hangar
  have plain : (hangarRun none).originFor hangarSurroundings none = "mapper" := by decide
  have given : (hangarRun (some "s.toml")).originFor hangarSurroundings (some content') =
      "crm" := by
    rw [originFor_apply rfl, origin]
    decide
  have same : (Settings.ofContent (some content')).lookups = (Settings.ofContent none).lookups := by
    change ((content'.get? "lookups").map LookupTables.ofForm).getD _ = _
    rw [tables]
    rfl
  obtain ⟨files', maps', related⟩ :=
    others (hangarRun (some "s.toml")) hangarSurroundings none (some content') rfl said' same
      fun _ _ => rfl
  rw [plain] at maps related
  rw [given] at maps' related
  exact ⟨command, success_hangar, plan, files, files', maps, maps', related⟩

end Hangar

end Invocation
end Reshape
