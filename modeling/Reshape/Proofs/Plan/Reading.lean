import Reshape.Proofs.Plan.Agreement
import Reshape.Proofs.Plan.Key

/-!
# How a source is read

What a node sees of its source: null for a field that is not there, a field that is no text as it
is, and of a text the one part that lies between blanks and has none at its ends. The part is said
without the scans that find it, and the blanks are listed. Texts inside lists and objects are not
trimmed.
-/
namespace Reshape

namespace Text

/-- The code points with the Unicode property `White_Space`, one by one. -/
def whiteSpaceCodes : List Nat :=
  [0x9, 0xA, 0xB, 0xC, 0xD, 0x20, 0x85, 0xA0, 0x1680, 0x2000, 0x2001, 0x2002, 0x2003, 0x2004,
    0x2005, 0x2006, 0x2007, 0x2008, 0x2009, 0x200A, 0x2028, 0x2029, 0x202F, 0x205F, 0x3000]

theorem isWhiteSpace_iff {c : Char} : isWhiteSpace c = true ↔ c.toNat ∈ whiteSpaceCodes := by
  simp only [isWhiteSpace, whiteSpaceCodes, Bool.or_eq_true, Bool.and_eq_true, decide_eq_true_iff,
    beq_iff_eq, List.mem_cons, List.not_mem_nil, or_false]
  omega

theorem isTextSpace_iff {c : Char} :
    isTextSpace c = true ↔ c.toNat ∈ whiteSpaceCodes ∧ c.toNat ≠ 0x85 ∨ c.toNat = 0xFEFF := by
  have hline : c.toNat = 0x85 ↔ c = '\x85' := Char.toNat_inj (d := '\x85')
  have hmark : c.toNat = 0xFEFF ↔ c = '\uFEFF' := Char.toNat_inj (d := '\uFEFF')
  rw [Ne, hline, hmark, ← isWhiteSpace_iff, isTextSpace, Bool.or_eq_true, Bool.and_eq_true,
    bne_iff_ne, beq_iff_eq]

/-- A part of a text lies between blanks, and is empty or begins and ends with no blank. -/
structure Trims (blank : Char → Bool) (text kept : String) : Prop where
  between : ∃ front back : String, text = front ++ kept ++ back ∧
    (∀ c ∈ front.toList, blank c = true) ∧ ∀ c ∈ back.toList, blank c = true
  ends : kept = "" ∨ (∃ c, kept.toList.head? = some c ∧ blank c = false) ∧
    ∃ c, kept.toList.getLast? = some c ∧ blank c = false

variable {blank : Char → Bool} {text kept : String}

theorem Trims.eq_trim (h : Trims blank text kept) : kept = trim blank text := by
  obtain ⟨⟨front, back, rfl, hf, hb⟩, ends⟩ := h
  apply String.toList_inj.mp
  rw [toList_trim, String.toList_append, String.toList_append, List.append_assoc]
  rcases ends with rfl | ⟨⟨first, hfirst, hfs⟩, last, hlast, hls⟩
  · exact (trimList_append hf hb (by simp) (by simp)).symm
  · refine (trimList_append hf hb (fun c hc => ?_) fun c hc => ?_).symm
    · rw [hfirst] at hc
      exact Option.some.inj hc ▸ hfs
    · rw [hlast] at hc
      exact Option.some.inj hc ▸ hls

theorem trims_trim (blank : Char → Bool) (text : String) : Trims blank text (trim blank text) where
  between := by
    obtain ⟨front, back, hcs, hf, hb⟩ := exists_trimList blank text.toList
    refine ⟨String.ofList front, String.ofList back, String.toList_inj.mp ?_, by simpa using hf,
      by simpa using hb⟩
    simpa using hcs
  ends := by
    by_cases he : trim blank text = ""
    · exact .inl he
    · have hne : trimList blank text.toList ≠ [] := by
        rwa [← toList_trim, Ne, String.toList_eq_nil_iff]
      rw [toList_trim]
      refine .inr ⟨⟨_, List.head?_eq_some_head hne, ?_⟩, _, List.getLast?_eq_some_getLast hne, ?_⟩
      · exact blank_head_trimList blank _ _ (List.head?_eq_some_head hne)
      · exact blank_getLast_trimList blank _ _ (List.getLast?_eq_some_getLast hne)

/-- Trimming finds the one such part. -/
theorem trims_iff : Trims blank text kept ↔ kept = trim blank text := by
  constructor
  · exact Trims.eq_trim
  · rintro rfl
    exact trims_trim blank text

theorem trim_trim (blank : Char → Bool) (text : String) :
    trim blank (trim blank text) = trim blank text := by
  -- the ends of a trimmed text are its own, so nothing has to go and it is the one part of itself
  have again : Trims blank (trim blank text) (trim blank text) :=
    ⟨⟨"", "", by simp, by simp, by simp⟩, (trims_trim blank text).ends⟩
  exact again.eq_trim.symm

end Text

theorem Value.trimmed_of_not_text {value : Value} (h : ∀ s, value ≠ .text s) :
    value.trimmed = value := by
  cases value with
  | text s => exact absurd rfl (h s)
  | _ => rfl

theorem Value.trimmed_trimmed (value : Value) : value.trimmed.trimmed = value.trimmed := by
  cases value with
  | text s => exact congrArg Value.text (Text.trim_trim Text.isTextSpace s)
  | _ => rfl

section Write

/-- A node writes a value as its field exactly under a condition: into what is there when its turn
comes, whatever nodes come after it, and so into the output of any level in which no other node and
no constant has its target. -/
structure Node.Writes (node : Node) (input : Value) (origin : String) (value : Value)
    (condition : Prop) : Prop where
  put : condition → ∀ rest output, (outputOfNodes input origin (node :: rest) output).outcome =
    (outputOfNodes input origin rest (output.insert node.target value)).outcome
  leave : ¬ condition → ∀ rest output,
    (outputOfNodes input origin (node :: rest) output).outcome =
      (outputOfNodes input origin rest output).outcome
  key : ∀ (level : Level) (output : Fields), (level.output input origin).outcome = .ok output →
    node ∈ level.nodes → (∀ other ∈ level.nodes, other.target = node.target → other = node) →
    node.target ∉ level.constants.keys → (node.target ∈ output.keys ↔ condition)

variable {node : Node} {input value : Value} {origin : String}

theorem outcome_outputOfNodes_cons (hv : (node.result input origin).outcome = .ok value)
    (rest : List Node) (output : Fields) :
    (outputOfNodes input origin (node :: rest) output).outcome =
      (outputOfNodes input origin rest
        (if value.isSuppressed then output else output.insert node.target value)).outcome := by
  rw [outputOfNodes, Journal.outcome_bind, hv, Outcome.ok_bind]
  split_ifs
  · rw [Journal.outcome_bind, Journal.outcome_note, Outcome.ok_bind]
  · rfl

/-- What a node makes is written exactly if it is neither null nor the empty text. -/
theorem Node.writes (hv : (node.result input origin).outcome = .ok value) :
    node.Writes input origin value (¬ value.Blank) where
  put hb rest output := by
    rw [outcome_outputOfNodes_cons hv, isSuppressed_eq_false_iff.mpr hb, if_neg Bool.false_ne_true]
  leave hb rest output := by
    rw [outcome_outputOfNodes_cons hv, isSuppressed_eq_true_iff.mpr (not_not.mp hb), if_pos rfl]
  key level output ho hn sole free := by
    rw [mem_keys_output ho, ← isSuppressed_eq_false_iff]
    constructor
    · rintro (⟨other, hother, ht, made, hm, hs⟩ | ⟨-, hc⟩)
      · rw [sole other hother ht, hv] at hm
        cases hm
        exact hs
      · exact absurd hc free
    · exact fun hs => .inl ⟨node, hn, rfl, value, hv, hs⟩

end Write

section Read

variable {source : Binding} {input value : Value}

theorem Binding.read_of_get? (h : input.get? source.name = some value) :
    source.read input = value.trimmed := by
  rw [Binding.read_eq, h, Option.getD_some]

theorem Node.outcome_of_copy {node : Node} (hs : node.strategy = .copy source) (input : Value)
    (origin : String) : (node.result input origin).outcome = .ok (source.read input) := by
  rw [Node.outcome_result, hs, outcome_result_copy]

theorem not_blank_trim_iff {s : String} :
    ¬ (Value.text (Text.trim Text.isTextSpace s)).Blank ↔
      ∃ c ∈ s.toList, Text.isTextSpace c = false := by
  rw [Value.Blank]
  simp [Text.trim_eq_empty_iff]

/-- A source is read as null if the input is no object or lacks the field, and a field that is no
text as it is. Of a text exactly one part lies between blanks and is empty or begins and ends with
none, and this part is read; reading what was read changes nothing. A node that copies the source
writes its field exactly if the text has a character that is not blank. Blank are the characters of
Unicode's white space, less the next-line control, and the byte order mark. -/
theorem read_trims_exactly (source : Binding) (input : Value) :
    ((∀ fields : Fields, input = .object fields → source.name ∉ fields.keys) →
      source.read input = .null) ∧
    (∀ value, input.get? source.name = some value → (∀ s, value ≠ .text s) →
      source.read input = value) ∧
    (∀ s, input.get? source.name = some (.text s) → ∃ kept, source.read input = .text kept ∧
      (∀ part, Text.Trims Text.isTextSpace s part ↔ part = kept) ∧
      ∀ node : Node, node.strategy = .copy source → ∀ origin,
        node.Writes input origin (.text kept) (∃ c ∈ s.toList, Text.isTextSpace c = false)) ∧
    (∀ again : Value, again.get? source.name = some (source.read input) →
      source.read again = source.read input) ∧
    ∀ c, Text.isTextSpace c = true ↔
      c.toNat ∈ Text.whiteSpaceCodes ∧ c.toNat ≠ 0x85 ∨ c.toNat = 0xFEFF := by
  refine ⟨fun lacks => ?_, fun value hv hs => ?_, fun s hs => ?_, fun again ha => ?_,
    fun c => Text.isTextSpace_iff⟩
  · have hn : input.get? source.name = none := by
      cases input with
      | object fields => exact Fields.get?_eq_none_iff.mpr (lacks fields rfl)
      | _ => rfl
    rw [Binding.read_eq, hn]
    rfl
  · rw [Binding.read_of_get? hv, Value.trimmed_of_not_text hs]
  · have hr : source.read input = .text (Text.trim Text.isTextSpace s) := Binding.read_of_get? hs
    refine ⟨_, hr, fun part => Text.trims_iff, fun node hc origin => ?_⟩
    rw [← not_blank_trim_iff]
    exact Node.writes (hr ▸ Node.outcome_of_copy hc input origin)
  · rw [Binding.read_of_get? ha, Binding.read_eq, Value.trimmed_trimmed]

end Read

section Berth

/-- Texts with blanks of several kinds around them, one of blanks alone, and a list. -/
def berthInput : Value := .object
  [("name", "\uFEFF\u3000 sea gull\t\n"), ("mark", "\x85K 7\x85\u2003"), ("note", "\u2028\xA0"),
    ("flags", .list [" P "])]

def berthSource (name : String) : Binding := ⟨name, .empty⟩

def berthNode (name : String) : Node := .mk name .empty (.copy (berthSource name))

def berthLevel : Level := .mk [("kind", "berth")] [berthNode "name", berthNode "note"]

theorem read_trims_exactly_berth :
    (berthSource "name").read berthInput = "sea gull" ∧
    (berthSource "mark").read berthInput = "\x85K 7\x85" ∧
    (berthSource "flags").read berthInput = .list [" P "] ∧
    (berthSource "mate").read berthInput = .null ∧ (berthSource "mate").read "name" = .null ∧
    (berthSource "name").read (.object [("name", "sea gull")]) = "sea gull" ∧
    ∃ output, (berthLevel.output berthInput "erp").outcome = .ok output ∧
      "name" ∈ output.keys ∧ "note" ∉ output.keys := by
  obtain ⟨-, -, nameAt, again, -⟩ := read_trims_exactly (berthSource "name") berthInput
  obtain ⟨-, -, markAt, -, -⟩ := read_trims_exactly (berthSource "mark") berthInput
  obtain ⟨-, -, noteAt, -, -⟩ := read_trims_exactly (berthSource "note") berthInput
  obtain ⟨-, flagsAt, -, -, -⟩ := read_trims_exactly (berthSource "flags") berthInput
  obtain ⟨lacking, -, -, -, -⟩ := read_trims_exactly (berthSource "mate") berthInput
  obtain ⟨scalar, -, -, -, -⟩ := read_trims_exactly (berthSource "mate") "name"
  obtain ⟨name, hname, isName, nameWrites⟩ := nameAt _ rfl
  obtain ⟨mark, hmark, isMark, -⟩ := markAt _ rfl
  obtain ⟨note, -, -, noteWrites⟩ := noteAt _ rfl
  have gull : Text.Trims Text.isTextSpace "\uFEFF\u3000 sea gull\t\n" "sea gull" :=
    ⟨⟨"\uFEFF\u3000 ", "\t\n", rfl, List.all_eq_true.mp rfl, List.all_eq_true.mp rfl⟩,
      .inr ⟨⟨'s', rfl, rfl⟩, 'l', rfl, rfl⟩⟩
  have lines : Text.Trims Text.isTextSpace "\x85K 7\x85\u2003" "\x85K 7\x85" :=
    ⟨⟨"", "\u2003", rfl, List.all_eq_true.mp rfl, List.all_eq_true.mp rfl⟩,
      .inr ⟨⟨'\x85', rfl, rfl⟩, '\x85', rfl, rfl⟩⟩
  have blanks : ∀ c ∈ "\u2028\xA0".toList, Text.isTextSpace c = true := List.all_eq_true.mp rfl
  obtain rfl := (isName _).mp gull
  obtain rfl := (isMark _).mp lines
  have made : (berthLevel.output berthInput "erp").outcome =
      .ok [("name", "sea gull"), ("kind", "berth")] := rfl
  have nameIff := (nameWrites (berthNode "name") rfl "erp").key berthLevel _ made
    (by simp [berthLevel, Level.nodes]) (by simp [berthLevel, Level.nodes, berthNode, Node.target])
    (by decide)
  have noteIff := (noteWrites (berthNode "note") rfl "erp").key berthLevel _ made
    (by simp [berthLevel, Level.nodes]) (by simp [berthLevel, Level.nodes, berthNode, Node.target])
    (by decide)
  refine ⟨hname, hmark, flagsAt _ rfl (by simp), lacking ?_, scalar ?_, ?_, _, made,
    nameIff.mpr ⟨'s', by decide, rfl⟩, fun hk => ?_⟩
  · rintro _ ⟨⟩
    decide
  · rintro _ ⟨⟩
  · rw [again (.object [("name", "sea gull")]) (congrArg some hname.symm), hname]
  · obtain ⟨c, hc, hs⟩ := noteIff.mp hk
    rw [blanks c hc] at hs
    cases hs

end Berth

end Reshape
