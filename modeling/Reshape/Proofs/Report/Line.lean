import Reshape.Plan
import Reshape.Text.Space

/-!
# Lines of a tree

A line of the tree of a plan is an indentation and words with a blank between them. Where names are
not empty and have none of the characters that the lines themselves use, a text is the text of one
line only, and a text of several lines that of one list of lines.
-/
namespace Reshape

/-- What the tree of a plan tells of a node itself. -/
structure Summary where
  target : String
  kind : StrategyKind
  source : Option String
  transform : Option String
  deriving DecidableEq, Repr

def Node.summary (node : Node) : Summary :=
  ⟨node.target, node.kind, node.strategy.source?.map (·.name),
    node.strategy.transform?.map (·.name)⟩

/-- The names in a summary. -/
def Summary.names (summary : Summary) : List String :=
  summary.target :: (summary.source.toList ++ summary.transform.toList)

namespace Report

/-- A line of a tree: that of a node, or the header of a level with its number, if it has one, and
the names of its constants. -/
inductive Line where
  | node (depth : Nat) (summary : Summary)
  | header (depth : Nat) (number : Option Nat) (constants : List String)
  deriving DecidableEq, Repr

/-- Names in a row, with a comma behind each but the last. -/
def listed : List String → List String
  | [] => []
  | [name] => [name]
  | name :: next :: rest => (name ++ ",") :: listed (next :: rest)

namespace Line

def depth : Line → Nat
  | .node depth _ => depth
  | .header depth _ _ => depth

def summary? : Line → Option Summary
  | .node _ summary => some summary
  | .header .. => none

def names : Line → List String
  | .node _ summary => summary.names
  | .header _ _ constants => constants

/-- The words of a line, between which there is a blank each. -/
def words : Line → List String
  | .node _ summary =>
    [summary.target, "[" ++ summary.kind.word ++ "]"] ++
      summary.source.toList.flatMap (fun name => ["<-", name]) ++
      summary.transform.toList.flatMap fun name => ["via", name]
  | .header _ number constants =>
    (number.toList.map fun index => "[" ++ toString index ++ "]") ++
      if constants.isEmpty then [] else "constants:" :: listed constants

/-- Two blanks for each step of the depth, and the words. -/
def text (line : Line) : String :=
  String.ofList (List.replicate (2 * line.depth) ' ') ++ " ".intercalate line.words

end Line

/-- The line without its indentation. -/
def Line.bare : Line → Line
  | .node _ summary => .node 0 summary
  | .header _ number constants => .header 0 number constants

@[simp] theorem Line.names_bare (line : Line) : line.bare.names = line.names := by
  cases line <;> rfl

@[simp] theorem Line.words_bare (line : Line) : line.bare.words = line.words := by
  cases line <;> rfl

/-- A name that is not empty and has neither white space nor a comma or bracket in it. -/
structure PlainName (name : String) : Prop where
  ne_empty : name ≠ ""
  not_space : ∀ c ∈ name.toList, Text.isWhiteSpace c = false
  not_mark : ',' ∉ name.toList ∧ '[' ∉ name.toList ∧ ']' ∉ name.toList

-- a quantifier over the characters would be decided by running through all there are
instance : DecidablePred PlainName := fun name =>
  decidable_of_iff
    (name ≠ "" ∧ name.toList.all (fun c => !Text.isWhiteSpace c) = true ∧
      ',' ∉ name.toList ∧ '[' ∉ name.toList ∧ ']' ∉ name.toList)
    ⟨fun ⟨empty, space, mark⟩ => ⟨empty, by simpa using space, mark⟩,
      fun ⟨empty, space, mark⟩ => ⟨empty, by simpa using space, mark⟩⟩

section Characters

theorem listed_ne_nil {names : List String} (h : names ≠ []) : listed names ≠ [] := by
  rcases names with _ | ⟨name, _ | ⟨next, rest⟩⟩
  · exact absurd rfl h
  · exact List.cons_ne_nil _ _
  · exact List.cons_ne_nil _ _

/-- What is listed is a name, or one with a comma. -/
theorem mem_listed {names : List String} {word : String} (h : word ∈ listed names) :
    ∃ name ∈ names, word = name ∨ word = name ++ "," := by
  induction names with
  | nil => cases h
  | cons name rest ih =>
    cases rest with
    | nil => exact ⟨name, List.mem_cons_self, .inl (List.mem_singleton.mp h)⟩
    | cons next rest =>
      rcases List.mem_cons.mp h with rfl | hr
      · exact ⟨name, List.mem_cons_self, .inr rfl⟩
      · obtain ⟨other, ho, hw⟩ := ih hr
        exact ⟨other, List.mem_cons_of_mem _ ho, hw⟩

theorem isDigit_of_mem_toString {index : Nat} {c : Char} (h : c ∈ (toString index).toList) :
    c.isDigit = true := by
  rw [Nat.toString_eq_repr, Nat.toList_repr] at h
  exact Nat.isDigit_of_mem_toDigits (by decide) (by decide) h

theorem isAlpha_of_mem_word {kind : StrategyKind} {c : Char} (h : c ∈ kind.word.toList) :
    c.isAlpha = true := by
  have hall : kind.word.toList.all Char.isAlpha = true := by cases kind <;> decide
  exact List.all_eq_true.mp hall c h

/-- A word is a name, maybe with a comma, or letters or digits in brackets, or one of three. -/
theorem mem_words {line : Line} {word : String} (h : word ∈ line.words) :
    (∃ name ∈ line.names, word = name ∨ word = name ++ ",") ∨
    (∃ text, word = "[" ++ text ++ "]" ∧ ∀ c ∈ text.toList, c.isAlphanum = true) ∨
    word ∈ ["<-", "via", "constants:"] := by
  cases line with
  | node depth summary =>
    simp only [Line.words, List.mem_append, List.mem_cons, List.not_mem_nil, or_false,
      List.mem_flatMap, Option.mem_toList] at h
    simp only [Line.names, Summary.names, List.mem_cons, List.mem_append, Option.mem_toList]
    rcases h with ((rfl | rfl) | ⟨name, hn, rfl | rfl⟩) | ⟨name, hn, rfl | rfl⟩
    · exact .inl ⟨_, .inl rfl, .inl rfl⟩
    · exact .inr (.inl ⟨_, rfl, fun c hc => by simp [Char.isAlphanum, isAlpha_of_mem_word hc]⟩)
    · exact .inr (.inr (by simp))
    · exact .inl ⟨_, .inr (.inl hn), .inl rfl⟩
    · exact .inr (.inr (by simp))
    · exact .inl ⟨_, .inr (.inr hn), .inl rfl⟩
  | header depth number constants =>
    rw [Line.words, List.mem_append, List.mem_map] at h
    rcases h with ⟨index, -, rfl⟩ | h
    · exact .inr (.inl ⟨_, rfl, fun c hc => by
        simp [Char.isAlphanum, isDigit_of_mem_toString hc]⟩)
    · split at h
      · cases h
      · rcases List.mem_cons.mp h with rfl | hl
        · exact .inr (.inr (by simp))
        · exact .inl (mem_listed hl)

/-- A blank or line break in a word comes from a name. -/
theorem not_mem_word {line : Line} {c : Char} (hc : c = ' ' ∨ c = '\n')
    (h : ∀ name ∈ line.names, c ∉ name.toList) : ∀ word ∈ line.words, c ∉ word.toList := by
  have halphanum : c.isAlphanum = false := by rcases hc with rfl | rfl <;> decide
  have hfixed : ∀ word ∈ ["<-", "via", "constants:"], c ∉ word.toList := by
    rcases hc with rfl | rfl <;> decide
  have hmark : c ∉ ",".toList ∧ c ∉ "[".toList ∧ c ∉ "]".toList := by
    rcases hc with rfl | rfl <;> decide
  obtain ⟨hcomma, hopen, hclose⟩ := hmark
  intro word hw
  rcases mem_words hw with ⟨name, hn, rfl | rfl⟩ | ⟨text, rfl, ht⟩ | hf
  · exact h _ hn
  · simp only [String.toList_append, List.mem_append, not_or]
    exact ⟨h _ hn, hcomma⟩
  · simp only [String.toList_append, List.mem_append, not_or]
    exact ⟨⟨hopen, fun hm => by simpa [halphanum] using ht c hm⟩, hclose⟩
  · exact hfixed _ hf

theorem word_ne_empty {line : Line} (h : ∀ name ∈ line.names, name ≠ "") :
    ∀ word ∈ line.words, word ≠ "" := by
  intro word hw
  rcases mem_words hw with ⟨name, hn, rfl | rfl⟩ | ⟨text, rfl, -⟩ | hf
  · exact h _ hn
  · simp
  · simp
  · rintro rfl
    revert hf
    decide

theorem mem_intercalate_blank {words : List String} {c : Char}
    (h : c ∈ (" ".intercalate words).toList) : c = ' ' ∨ ∃ word ∈ words, c ∈ word.toList := by
  induction words with
  | nil => simp at h
  | cons word rest ih =>
    cases rest with
    | nil => exact .inr ⟨word, List.mem_cons_self, by simpa using h⟩
    | cons next rest =>
      rw [String.intercalate_cons_cons, String.toList_append, String.toList_append,
        List.mem_append, List.mem_append] at h
      rcases h with (hw | hb) | hr
      · exact .inr ⟨word, List.mem_cons_self, hw⟩
      · exact .inl (List.mem_singleton.mp hb)
      · obtain hb | ⟨other, ho, hc⟩ := ih hr
        · exact .inl hb
        · exact .inr ⟨other, List.mem_cons_of_mem _ ho, hc⟩

theorem newline_not_mem_text {line : Line} (h : ∀ name ∈ line.names, '\n' ∉ name.toList) :
    '\n' ∉ line.text.toList := by
  intro hm
  rw [Line.text, String.toList_append, List.mem_append, String.toList_ofList] at hm
  rcases hm with hi | hw
  · exact absurd (List.eq_of_mem_replicate hi) (by decide)
  · obtain hb | ⟨word, hword, hc⟩ := mem_intercalate_blank hw
    · exact absurd hb (by decide)
    · exact not_mem_word (.inr rfl) h word hword hc

/-- The lines that a text breaks into. -/
def linesOf (text : String) : List String := (text.split '\n').toList.map (·.copy)

/-- A text of lines breaks into these, where no name breaks. -/
theorem linesOf_intercalate {lines : List Line} (hne : lines ≠ [])
    (h : ∀ line ∈ lines, ∀ name ∈ line.names, '\n' ∉ name.toList) :
    linesOf ("\n".intercalate (lines.map Line.text)) = lines.map Line.text := by
  have hs := String.toList_split_intercalate (c := '\n') (l := lines.map Line.text)
    (List.forall_mem_map.mpr fun line hl => newline_not_mem_text (h line hl))
  rwa [if_neg (by simpa using hne)] at hs

end Characters

section Indentation

/-- An indentation is as good as empty words in front. -/
theorem intercalate_replicate_nil (n : Nat) {words : List (List Char)} (hne : words ≠ []) :
    [' '].intercalate (List.replicate n [] ++ words) =
      List.replicate n ' ' ++ [' '].intercalate words := by
  induction n with
  | zero => rfl
  | succ n ih =>
    have hrest : List.replicate n [] ++ words ≠ [] := List.append_ne_nil_of_right_ne_nil _ hne
    rw [List.replicate_succ, List.replicate_succ, List.cons_append,
      List.intercalate_cons_of_ne_nil hrest, ih]
    rfl

theorem replicate_nil_append_inj {m n : Nat} {words words' : List (List Char)}
    (h : ∀ word ∈ words, word ≠ []) (h' : ∀ word ∈ words', word ≠ [])
    (he : List.replicate m [] ++ words = List.replicate n [] ++ words') (hne : words ≠ [])
    (hne' : words' ≠ []) : m = n ∧ words = words' := by
  induction m generalizing n with
  | zero =>
    cases n with
    | zero => exact ⟨rfl, he⟩
    | succ n =>
      obtain ⟨word, rest, rfl⟩ := List.exists_cons_of_ne_nil hne
      rw [List.replicate_succ] at he
      exact absurd (List.cons.inj he).1 (h word List.mem_cons_self)
  | succ m ih =>
    cases n with
    | zero =>
      obtain ⟨word, rest, rfl⟩ := List.exists_cons_of_ne_nil hne'
      rw [List.replicate_succ] at he
      exact absurd (List.cons.inj he).1.symm (h' word List.mem_cons_self)
    | succ n =>
      obtain ⟨hm, hw⟩ := ih (List.cons.inj he).2
      exact ⟨congrArg (· + 1) hm, hw⟩

/-- A line whose names can all be told from what is around them, and that has a word at all. -/
structure Line.Plain (line : Line) : Prop where
  names : ∀ name ∈ line.names, PlainName name
  words : line.words ≠ []

variable {a b : Line}

theorem PlainName.not_mem_blank {name : String} (h : PlainName name) {c : Char}
    (hc : c = ' ' ∨ c = '\n') : c ∉ name.toList := by
  intro hm
  have hs := h.not_space c hm
  rcases hc with rfl | rfl <;> cases hs

theorem splitOn_text (ha : a.Plain) :
    a.text.toList.splitOn ' ' =
      List.replicate (2 * a.depth) [] ++ a.words.map String.toList := by
  have hne : a.words.map String.toList ≠ [] := by simpa using ha.words
  rw [Line.text, String.toList_append, String.toList_ofList, String.toList_intercalate,
    show " ".toList = [' '] from rfl, ← intercalate_replicate_nil _ hne]
  refine List.splitOn_intercalate ' ' ?_ (List.append_ne_nil_of_right_ne_nil _ hne)
  intro word hw
  rcases List.mem_append.mp hw with hi | hm
  · rw [List.eq_of_mem_replicate hi]
    exact List.not_mem_nil
  · obtain ⟨word, hword, rfl⟩ := List.mem_map.mp hm
    exact not_mem_word (.inl rfl) (fun name hn => (ha.names name hn).not_mem_blank (.inl rfl))
      word hword

/-- A text gives back how deep its line is, and its words. -/
theorem depth_and_words_of_text_eq (ha : a.Plain) (hb : b.Plain) (h : a.text = b.text) :
    a.depth = b.depth ∧ a.words = b.words := by
  have words_ne {line : Line} (hl : line.Plain) :
      ∀ word ∈ line.words.map String.toList, word ≠ [] := by
    refine List.forall_mem_map.mpr fun word hw he => ?_
    exact word_ne_empty (fun name hn => (hl.names name hn).ne_empty) word hw
      (String.toList_eq_nil_iff.mp he)
  have hs := splitOn_text ha
  rw [h, splitOn_text hb] at hs
  obtain ⟨hd, hw⟩ := replicate_nil_append_inj (words_ne ha) (words_ne hb) hs.symm
    (by simpa using ha.words) (by simpa using hb.words)
  exact ⟨by omega, (List.map_inj_right fun _ _ => String.toList_inj.mp).mp hw⟩

end Indentation

section Words

theorem word_injective {a b : StrategyKind} (h : a.word = b.word) : a = b := by
  revert h
  cases a <;> cases b <;> decide

theorem bracketed_inj {a b : String} (h : "[" ++ a ++ "]" = "[" ++ b ++ "]") : a = b := by
  rw [← String.toList_inj] at h ⊢
  simpa using h

theorem toString_nat_injective {i j : Nat} (h : toString i = toString j) : i = j := by
  have hd : Nat.toDigits 10 i = Nat.toDigits 10 j := by
    rw [← Nat.toList_repr, ← Nat.toList_repr]
    exact congrArg String.toList h
  have hv := congrArg (fun digits => Nat.ofDigitChars 10 digits 0) hd
  simpa only [Nat.ofDigitChars_ten_toDigits] using hv

theorem open_mem_bracketed (text : String) : '[' ∈ ("[" ++ text ++ "]").toList := by simp

/-- Names in a row can be told apart where none has a comma in it. -/
theorem listed_injective {names names' : List String} (h : ∀ name ∈ names, ',' ∉ name.toList)
    (h' : ∀ name ∈ names', ',' ∉ name.toList) (he : listed names = listed names') :
    names = names' := by
  have comma (name : String) : ',' ∈ (name ++ ",").toList := by simp
  induction names generalizing names' with
  | nil =>
    rcases names' with _ | ⟨name', rest'⟩
    · rfl
    · exact absurd he.symm (listed_ne_nil (List.cons_ne_nil name' rest'))
  | cons name rest ih =>
    cases rest with
    | nil =>
      rcases names' with _ | ⟨name', _ | ⟨next', rest'⟩⟩
      · cases he
      · exact he
      · have hn := (List.cons.inj he).1
        exact absurd (hn ▸ comma name') (h name List.mem_cons_self)
    | cons next rest =>
      rcases names' with _ | ⟨name', _ | ⟨next', rest'⟩⟩
      · cases he
      · have hn := (List.cons.inj he).1
        exact absurd (hn ▸ comma name) (h' name' List.mem_cons_self)
      · obtain ⟨hn, hr⟩ := List.cons.inj he
        have hname : name = name' := by
          rw [← String.toList_inj] at hn ⊢
          simpa using hn
        rw [hname, ih (fun n hm => h n (List.mem_cons_of_mem _ hm))
          (fun n hm => h' n (List.mem_cons_of_mem _ hm)) hr]

variable {a b : Line} {depth depth' : Nat}

/-- A word in brackets is no name, and no name with a comma. -/
theorem bracketed_not_mem_listed {names : List String} (h : ∀ name ∈ names, PlainName name)
    (text : String) : "[" ++ text ++ "]" ∉ listed names := by
  intro hm
  have ho := open_mem_bracketed text
  obtain ⟨name, hn, hw⟩ := mem_listed hm
  have hname := (h name hn).not_mark.2.1
  rcases hw with hw | hw
  · exact hname (hw ▸ ho)
  · rw [hw, String.toList_append, List.mem_append] at ho
    exact ho.elim hname (by decide)

/-- The words of a node are not those of a header: there is a bracket in the second word only. -/
theorem words_node_ne_header {summary : Summary} {number : Option Nat} {constants : List String}
    (hn : (Line.node depth summary).Plain) (hh : (Line.header depth' number constants).Plain) :
    (Line.node depth summary).words ≠ (Line.header depth' number constants).words := by
  intro he
  cases number with
  | some index =>
    have htarget : summary.target = "[" ++ toString index ++ "]" := (List.cons.inj he).1
    have hplain := hn.names summary.target List.mem_cons_self
    exact hplain.not_mark.2.1 (htarget ▸ open_mem_bracketed (toString index))
  | none =>
    have hne := hh.words
    simp only [Line.words, Option.toList_none, List.map_nil, List.nil_append] at he hne
    split at he
    · next hc => exact hne (if_pos hc)
    · have hnames : ∀ name ∈ constants, PlainName name := hh.names
      refine bracketed_not_mem_listed hnames summary.kind.word ?_
      rw [← (List.cons.inj he).2]
      exact List.mem_cons_self

theorem summary_eq_of_words_eq {summary summary' : Summary}
    (h : (Line.node depth summary).words = (Line.node depth' summary').words) :
    summary = summary' := by
  obtain ⟨target, kind, source, transform⟩ := summary
  obtain ⟨target', kind', source', transform'⟩ := summary'
  obtain ⟨rfl, hrest⟩ := List.cons.inj h
  obtain ⟨hkind, hparts⟩ := List.cons.inj hrest
  obtain rfl := word_injective (bracketed_inj hkind)
  cases source <;> cases transform <;> cases source' <;> cases transform' <;>
    simp_all

/-- The words for the constants of a level. -/
def constantWords (constants : List String) : List String :=
  if constants.isEmpty then [] else "constants:" :: listed constants

theorem words_header (depth : Nat) (number : Option Nat) (constants : List String) :
    (Line.header depth number constants).words =
      (number.toList.map fun index => "[" ++ toString index ++ "]") ++ constantWords constants :=
  rfl

theorem constantWords_injective {constants constants' : List String}
    (h : ∀ name ∈ constants, PlainName name) (h' : ∀ name ∈ constants', PlainName name)
    (he : constantWords constants = constantWords constants') : constants = constants' := by
  rcases constants with _ | ⟨name, rest⟩ <;> rcases constants' with _ | ⟨name', rest'⟩
  · rfl
  · cases he
  · cases he
  · exact listed_injective (fun n hn => (h n hn).not_mark.1) (fun n hn => (h' n hn).not_mark.1)
      (List.cons.inj he).2

/-- The number of a level is no word for its constants. -/
theorem bracketed_ne_constantWords {text : String} {rest constants : List String} :
    ("[" ++ text ++ "]") :: rest ≠ constantWords constants := by
  intro he
  rcases constants with _ | ⟨name, rest'⟩
  · cases he
  · have ho := open_mem_bracketed text
    rw [(List.cons.inj he).1] at ho
    revert ho
    decide

theorem header_eq_of_words_eq {number number' : Option Nat} {constants constants' : List String}
    (h : ∀ name ∈ constants, PlainName name) (h' : ∀ name ∈ constants', PlainName name)
    (he : (Line.header depth number constants).words =
      (Line.header depth' number' constants').words) :
    number = number' ∧ constants = constants' := by
  rw [words_header, words_header] at he
  rcases number with _ | index <;> rcases number' with _ | index'
  · exact ⟨rfl, constantWords_injective h h' he⟩
  · exact absurd he.symm bracketed_ne_constantWords
  · exact absurd he bracketed_ne_constantWords
  · obtain ⟨hi, hc⟩ := List.cons.inj he
    exact ⟨congrArg some (toString_nat_injective (bracketed_inj hi)),
      constantWords_injective h h' hc⟩

/-- A text is that of one line only. -/
theorem Line.eq_of_text_eq (ha : a.Plain) (hb : b.Plain) (h : a.text = b.text) : a = b := by
  obtain ⟨hd, hw⟩ := depth_and_words_of_text_eq ha hb h
  cases a with
  | node depth summary =>
    cases b with
    | node depth' summary' =>
      obtain rfl : depth = depth' := hd
      rw [summary_eq_of_words_eq hw]
    | header depth' number constants => exact absurd hw (words_node_ne_header ha hb)
  | header depth number constants =>
    cases b with
    | node depth' summary => exact absurd hw.symm (words_node_ne_header hb ha)
    | header depth' number' constants' =>
      obtain rfl : depth = depth' := hd
      have hnames : ∀ name ∈ constants, PlainName name := ha.names
      have hnames' : ∀ name ∈ constants', PlainName name := hb.names
      obtain ⟨rfl, rfl⟩ := header_eq_of_words_eq hnames hnames' hw
      rfl

theorem Line.Plain.text_ne_empty (h : a.Plain) : a.text ≠ "" := by
  intro he
  have hs := splitOn_text h
  rw [he] at hs
  obtain ⟨word, rest, hw⟩ := List.exists_cons_of_ne_nil h.words
  have hne : word ≠ "" := word_ne_empty (fun name hn => (h.names name hn).ne_empty) word
    (hw ▸ List.mem_cons_self)
  have hm : word.toList ∈ "".toList.splitOn ' ' := by
    rw [hs, hw]
    exact List.mem_append_right _ List.mem_cons_self
  exact hne (String.toList_eq_nil_iff.mp (List.mem_singleton.mp hm))

theorem map_text_injective {lines lines' : List Line} (h : ∀ line ∈ lines, line.Plain)
    (h' : ∀ line ∈ lines', line.Plain) (he : lines.map Line.text = lines'.map Line.text) :
    lines = lines' := by
  induction lines generalizing lines' with
  | nil => exact (List.map_eq_nil_iff.mp he.symm).symm
  | cons line rest ih =>
    cases lines' with
    | nil => cases he
    | cons line' rest' =>
      obtain ⟨hl, hr⟩ := List.cons.inj he
      rw [List.forall_mem_cons] at h h'
      rw [Line.eq_of_text_eq h.1 h'.1 hl, ih h.2 h'.2 hr]

/-- A text of several lines is that of one list of lines only. -/
theorem lines_eq_of_text_eq {lines lines' : List Line} (h : ∀ line ∈ lines, line.Plain)
    (h' : ∀ line ∈ lines', line.Plain)
    (he : "\n".intercalate (lines.map Line.text) = "\n".intercalate (lines'.map Line.text)) :
    lines = lines' := by
  have breaks {lines : List Line} (hp : ∀ line ∈ lines, line.Plain) (hne : lines ≠ []) :
      linesOf ("\n".intercalate (lines.map Line.text)) = lines.map Line.text :=
    linesOf_intercalate hne fun line hl name hn =>
      ((hp line hl).names name hn).not_mem_blank (.inr rfl)
  have empty : linesOf ("\n".intercalate (([] : List Line).map Line.text)) = [""] :=
    String.toList_split_intercalate (List.forall_mem_nil _)
  -- no line is empty, so the text of no lines is not that of one
  have not_empty {lines : List Line} (hp : ∀ line ∈ lines, line.Plain) :
      lines.map Line.text ≠ [""] := by
    intro hs
    obtain ⟨line, hl, ht⟩ := List.mem_map.mp (hs ▸ List.mem_singleton_self "")
    exact (hp line hl).text_ne_empty ht
  by_cases hne : lines = [] <;> by_cases hne' : lines' = []
  · rw [hne, hne']
  · rw [hne] at he
    have hs := breaks h' hne'
    rw [← he, empty] at hs
    exact absurd hs.symm (not_empty h')
  · rw [hne'] at he
    have hs := breaks h hne
    rw [he, empty] at hs
    exact absurd hs.symm (not_empty h)
  · have hs := breaks h hne
    rw [he, breaks h' hne'] at hs
    exact map_text_injective h h' hs.symm

end Words

end Report
end Reshape
