import Mathlib.Data.Finset.Card
import Mathlib.Data.String.Basic
import Reshape.Proofs.Transform

/-!
# What registries and sets of tables keep

Storing in a registry or in a set of tables puts a transform or a table in the place of the one of
its name. So after any operations each name finds what was stored last under it, and names under
which nothing was stored find nothing. What transforms do when they are called is not stated here.
-/
namespace Reshape

/-- Of some entries with names, the last one of a name. -/
def LastOf {α : Type} (nameOf : α → String) (name : String) (entries : List α) (last : α) : Prop :=
  ∃ before after, entries = before ++ last :: after ∧ nameOf last = name ∧
    ∀ entry ∈ after, nameOf entry ≠ name

section LastOf

variable {α : Type} {nameOf : α → String} {name : String} {entries : List α} {new last : α}

theorem find?_named_cons (nameOf : α → String) (name : String) (new : α) (entries : List α) :
    (new :: entries).find? (fun entry => nameOf entry == name) =
      if nameOf new = name then some new
      else entries.find? fun entry => nameOf entry == name := by
  by_cases h : nameOf new = name
  · rw [if_pos h, List.find?_cons_of_pos (by simpa using h)]
  · rw [if_neg h, List.find?_cons_of_neg (by simpa using h)]

theorem isSome_find?_named_iff :
    (entries.find? fun entry => nameOf entry == name).isSome = true ↔
      name ∈ entries.map nameOf := by
  simp only [List.find?_isSome, beq_iff_eq, List.mem_map]

theorem lastOf_iff :
    LastOf nameOf name entries last ↔
      entries.reverse.find? (fun entry => nameOf entry == name) = some last := by
  rw [List.find?_eq_some_iff_append]
  constructor
  · rintro ⟨before, after, rfl, hn, hafter⟩
    refine ⟨by simpa using hn, after.reverse, before.reverse, by simp, fun entry he => ?_⟩
    simpa using hafter entry (List.mem_reverse.mp he)
  · rintro ⟨hn, after, before, hsplit, hafter⟩
    refine ⟨before.reverse, after.reverse, ?_, by simpa using hn, fun entry he => ?_⟩
    · rw [← List.reverse_reverse entries, hsplit]
      simp
    · simpa using hafter entry (List.mem_reverse.mp he)

theorem not_lastOf_nil : ¬ LastOf nameOf name [] last := by
  rw [lastOf_iff]
  exact Option.not_mem_none last

/-- One more entry is the last one of its own name and changes nothing for other names. -/
theorem lastOf_concat :
    LastOf nameOf name (entries ++ [new]) last ↔
      if nameOf new = name then new = last else LastOf nameOf name entries last := by
  rw [lastOf_iff, lastOf_iff, List.reverse_concat, find?_named_cons]
  split_ifs
  · rw [Option.some.injEq]
  · rfl

/-- Where each name finds its last entry, it still does so when a new entry takes the place of the
one of its name. -/
theorem finds_concat {find? findNext? : String → Option α}
    (finds : ∀ name last, find? name = some last ↔ LastOf nameOf name entries last)
    (next : ∀ name, findNext? name = if nameOf new = name then some new else find? name)
    (name : String) (last : α) :
    findNext? name = some last ↔ LastOf nameOf name (entries ++ [new]) last := by
  rw [next, lastOf_concat]
  split_ifs
  · rw [Option.some.injEq]
  · exact finds name last

theorem exists_lastOf_iff :
    (∃ last, LastOf nameOf name entries last) ↔ name ∈ entries.map nameOf := by
  simp only [lastOf_iff, ← Option.isSome_iff_exists, isSome_find?_named_iff, List.map_reverse,
    List.mem_reverse]

end LastOf

namespace Registry

/-- An operation that stores a transform. -/
inductive Step where
  | insert (transform : Transform)
  | register (name : String) (call : Value → Except Error Value)

/-- The transform that an operation stores. -/
def Step.stored : Step → Transform
  | .insert transform => transform
  | .register name call => ⟨name, call⟩

def step (registry : Registry) : Step → Registry
  | .insert transform => registry.insert transform
  | .register name call => registry.register name call

/-- The registry after some operations. -/
def run (registry : Registry) (steps : List Step) : Registry := steps.foldl step registry

/-- The registries that operations start from. -/
inductive Start where
  | empty
  | builtins

def Start.registry : Start → Registry
  | .empty => .empty
  | .builtins => .builtins

/-- The transforms that are stored at the start, in order. -/
def Start.stored : Start → List Transform
  | .empty => []
  | .builtins => Transform.builtins

/-- A registry holds what was stored in it last under each name, in the strict order of names. -/
structure Keeps (registry : Registry) (stored : List Transform) : Prop where
  ordered : registry.names.Pairwise (· < ·)
  finds : ∀ name transform, registry.find? name = some transform ↔
    LastOf Transform.name name stored transform

section Place

variable {new : Transform} {transforms : List Transform}

/-- The name of the new transform finds it, and other names find what they did. The order of the
names does not matter here. -/
theorem find?_place (new : Transform) (transforms : List Transform) (name : String) :
    (place new transforms).find? (fun transform => transform.name == name) =
      if new.name = name then some new
      else transforms.find? fun transform => transform.name == name := by
  induction transforms with
  | nil => exact find?_named_cons Transform.name name new []
  | cons old rest ih =>
    by_cases hlt : new.name < old.name
    · rw [place, if_pos hlt, find?_named_cons]
    by_cases heq : new.name = old.name
    · rw [place, if_neg hlt, if_pos heq, find?_named_cons, find?_named_cons, ← heq]
      split_ifs <;> rfl
    · rw [place, if_neg hlt, if_neg heq, find?_named_cons, find?_named_cons, ih]
      by_cases ho : old.name = name
      · -- the name cannot be that of both
        rw [if_pos ho, if_pos ho, if_neg fun hn => heq (hn.trans ho.symm)]
      · rw [if_neg ho, if_neg ho]

theorem pairwise_place (h : (transforms.map Transform.name).Pairwise (· < ·)) :
    ((place new transforms).map Transform.name).Pairwise (· < ·) := by
  induction transforms with
  | nil => exact List.pairwise_singleton _ _
  | cons old rest ih =>
    obtain ⟨hold, hrest⟩ := List.pairwise_cons.mp h
    by_cases hlt : new.name < old.name
    · rw [place, if_pos hlt]
      refine List.pairwise_cons.mpr ⟨fun name hn => ?_, h⟩
      rcases List.mem_cons.mp hn with rfl | hn
      · exact hlt
      · exact hlt.trans (hold name hn)
    by_cases heq : new.name = old.name
    · rw [place, if_neg hlt, if_pos heq]
      exact List.pairwise_cons.mpr ⟨fun name hn => heq ▸ hold name hn, hrest⟩
    · -- the new transform goes behind the old one, so the old name stays the least
      have hgt : old.name < new.name := lt_of_le_of_ne (not_lt.mp hlt) (Ne.symm heq)
      rw [place, if_neg hlt, if_neg heq]
      refine List.pairwise_cons.mpr ⟨fun name hn => ?_, ih hrest⟩
      obtain ⟨transform, ht, rfl⟩ := List.mem_map.mp hn
      rcases mem_place ht with rfl | ht
      · exact hgt
      · exact hold _ (List.mem_map_of_mem ht)

end Place

section Observers

variable (registry : Registry) (name : String)

theorem isSome_find?_iff : (registry.find? name).isSome = true ↔ name ∈ registry.names :=
  isSome_find?_named_iff

theorem contains_iff : registry.contains name = true ↔ name ∈ registry.names := by
  simp only [contains, names, List.any_eq_true, beq_iff_eq, List.mem_map]

end Observers

section Run

variable {registry : Registry} {stored : List Transform}

theorem step_eq (registry : Registry) (step : Step) :
    registry.step step = registry.insert step.stored := by
  cases step <;> rfl

theorem keeps_empty : empty.Keeps [] where
  ordered := List.Pairwise.nil
  finds _ _ := ⟨nofun, fun h => absurd h not_lastOf_nil⟩

theorem Keeps.step (h : registry.Keeps stored) (step : Step) :
    (registry.step step).Keeps (stored ++ [step.stored]) := by
  rw [step_eq]
  refine ⟨pairwise_place h.ordered, ?_⟩
  exact finds_concat h.finds (find?_place step.stored registry.transforms)

theorem Keeps.run (h : registry.Keeps stored) (steps : List Step) :
    (registry.run steps).Keeps (stored ++ steps.map Step.stored) := by
  induction steps generalizing registry stored with
  | nil => rwa [List.map_nil, List.append_nil]
  | cons step steps ih =>
    rw [List.map_cons, List.append_cons]
    exact ih (h.step step)

theorem Start.keeps (start : Start) : start.registry.Keeps start.stored := by
  cases start with
  | empty => exact keeps_empty
  | builtins => exact keeps_empty.run (Transform.builtins.map .insert)

end Run

end Registry

namespace LookupTables

/-- The set of some tables, added one after the other. -/
def ofList (added : List (String × Fields)) : LookupTables :=
  added.foldl (fun tables entry => tables.add entry.1 entry.2) .empty

def names (tables : LookupTables) : List String := tables.tables.map (·.1)

/-- A set of tables holds what was added to it last under each name, and each name once. -/
structure Keeps (tables : LookupTables) (added : List (String × Fields)) : Prop where
  distinct : tables.names.Nodup
  finds : ∀ name entry, tables.tables.find? (fun entry => entry.1 == name) = some entry ↔
    LastOf Prod.fst name added entry

section Store

variable {name other : String} {table : Fields} {tables : List (String × Fields)}

theorem find?_store (name : String) (table : Fields) (tables : List (String × Fields))
    (other : String) :
    (store name table tables).find? (fun entry => entry.1 == other) =
      if name = other then some (name, table)
      else tables.find? fun entry => entry.1 == other := by
  induction tables with
  | nil => exact find?_named_cons Prod.fst other (name, table) []
  | cons entry rest ih =>
    obtain ⟨key, old⟩ := entry
    by_cases hk : key = name
    · rw [store, if_pos hk, find?_named_cons Prod.fst, find?_named_cons Prod.fst, hk]
      split_ifs <;> rfl
    · rw [store, if_neg hk, find?_named_cons Prod.fst, find?_named_cons Prod.fst, ih]
      by_cases ho : key = other
      · rw [if_pos ho, if_pos ho, if_neg fun hn => hk (ho.trans hn.symm)]
      · rw [if_neg ho, if_neg ho]

theorem mem_names_store (h : other ∈ (store name table tables).map Prod.fst) :
    other = name ∨ other ∈ tables.map Prod.fst := by
  rw [← isSome_find?_named_iff, find?_store] at h
  split_ifs at h with hn
  · exact .inl hn.symm
  · exact .inr (isSome_find?_named_iff.mp h)

theorem nodup_store (h : (tables.map Prod.fst).Nodup) :
    ((store name table tables).map Prod.fst).Nodup := by
  induction tables with
  | nil => exact List.nodup_singleton name
  | cons entry rest ih =>
    obtain ⟨key, old⟩ := entry
    obtain ⟨hkey, hrest⟩ := List.nodup_cons.mp h
    by_cases hk : key = name
    · rw [store, if_pos hk]
      exact hk ▸ h
    · rw [store, if_neg hk]
      refine List.nodup_cons.mpr ⟨fun hm => ?_, ih hrest⟩
      exact (mem_names_store hm).elim hk hkey

end Store

variable {tables : LookupTables} {added : List (String × Fields)}

theorem keeps_empty : empty.Keeps [] where
  distinct := List.nodup_nil
  finds _ _ := ⟨nofun, fun h => absurd h not_lastOf_nil⟩

theorem Keeps.add (h : tables.Keeps added) (name : String) (table : Fields) :
    (tables.add name table).Keeps (added ++ [(name, table)]) where
  distinct := nodup_store h.distinct
  finds := finds_concat h.finds (find?_store name table tables.tables)

theorem Keeps.foldl_add (h : tables.Keeps added) (news : List (String × Fields)) :
    (news.foldl (fun tables entry => tables.add entry.1 entry.2) tables).Keeps (added ++ news) := by
  induction news generalizing tables added with
  | nil => rwa [List.append_nil]
  | cons new news ih =>
    rw [List.foldl_cons, List.append_cons]
    exact ih (h.add new.1 new.2)

theorem keeps_ofList (added : List (String × Fields)) : (ofList added).Keeps added :=
  keeps_empty.foldl_add added

theorem Keeps.mem_names_iff (h : tables.Keeps added) (name : String) :
    name ∈ tables.names ↔ name ∈ added.map Prod.fst := by
  rw [names, ← isSome_find?_named_iff, Option.isSome_iff_exists, ← exists_lastOf_iff]
  exact exists_congr (h.finds name)

theorem Keeps.size_eq (h : tables.Keeps added) :
    tables.size = (added.map Prod.fst).toFinset.card := by
  have hn : tables.names.toFinset = (added.map Prod.fst).toFinset :=
    List.toFinset.ext h.mem_names_iff
  rw [← hn, List.toFinset_card_of_nodup h.distinct, names, List.length_map, size]

theorem Keeps.find?_eq_some_iff (h : tables.Keeps added) {name : String} {transform : Transform} :
    tables.find? name = some transform ↔
      ∃ table, LastOf Prod.fst name added (name, table) ∧ transform = .lookup name table := by
  rw [find?, table?, Option.map_map, Option.map_eq_some_iff]
  constructor
  · rintro ⟨⟨key, table⟩, he, rfl⟩
    obtain ⟨-, -, -, rfl, -⟩ := (h.finds name _).mp he
    exact ⟨table, (h.finds _ _).mp he, rfl⟩
  · rintro ⟨table, hlast, rfl⟩
    exact ⟨(name, table), (h.finds name _).mpr hlast, rfl⟩

theorem Keeps.find?_eq_none_iff (h : tables.Keeps added) {name : String} :
    tables.find? name = none ↔ name ∉ added.map Prod.fst := by
  rw [← h.mem_names_iff, names, ← isSome_find?_named_iff, find?, table?, Option.map_map,
    Option.map_eq_none_iff, Option.not_isSome_iff_eq_none]

end LookupTables

/-- After any operations on the empty registry or on that of the built-in transforms, a name finds a
transform exactly if it is contained, and exactly if it is listed; what it finds is the transform
that was stored last under it, be it built in, and has this name for its own. The names are listed
in the strict order of their code points, so each of them once. A set of tables counts the distinct
names under which tables were added, and a name finds the table that was added last under it, as a
transform, or nothing if none was. -/
theorem stores_find_last {start : Registry.Start} {steps : List Registry.Step} {registry : Registry}
    (ran : start.registry.run steps = registry) {added : List (String × Fields)}
    {tables : LookupTables} (made : LookupTables.ofList added = tables) :
    (registry.names.Pairwise (· < ·) ∧ registry.names.Nodup ∧ ∀ name,
      ((registry.resolver.find? name).isSome = true ↔ registry.contains name = true) ∧
      (registry.contains name = true ↔ name ∈ registry.names) ∧
      ∀ transform,
        (registry.resolver.find? name = some transform ↔ LastOf Transform.name name
          (start.stored ++ steps.map Registry.Step.stored) transform) ∧
        (registry.resolver.find? name = some transform → transform.name = name)) ∧
    tables.size = (added.map Prod.fst).toFinset.card ∧ ∀ name,
      (tables.resolver.find? name = none ↔ name ∉ added.map Prod.fst) ∧
      ∀ transform, tables.resolver.find? name = some transform ↔
        ∃ table, LastOf Prod.fst name added (name, table) ∧ transform = .lookup name table := by
  have hr : registry.Keeps (start.stored ++ steps.map Registry.Step.stored) :=
    ran ▸ start.keeps.run steps
  have ht : tables.Keeps added := made ▸ LookupTables.keeps_ofList added
  refine ⟨⟨hr.ordered, hr.ordered.imp ne_of_lt, fun name => ⟨?_, registry.contains_iff name,
    fun transform => ⟨hr.finds name transform, fun found => ?_⟩⟩⟩, ht.size_eq,
    fun name => ⟨ht.find?_eq_none_iff, fun transform => ht.find?_eq_some_iff⟩⟩
  · rw [registry.contains_iff]
    exact registry.isSome_find?_iff name
  · obtain ⟨-, -, -, hn, -⟩ := (hr.finds name transform).mp found
    exact hn

section Desk

def deskLength : Transform := .total "length" fun _ => .int 0

def deskReverse (value : Value) : Except Error Value := .ok (.list [value])

/-- A built-in transform is replaced twice, and one is stored under a new name in between. -/
def deskSteps : List Registry.Step :=
  [.insert Transform.increment, .insert deskLength, .register "Reverse" deskReverse,
    .register "length" deskReverse]

def deskTables : List (String × Fields) :=
  [("lands", [("D", "Germany")]), ("towns", []), ("lands", [("F", "France")])]

theorem stores_find_last_desk :
    ∃ registry tables, Registry.builtins.run deskSteps = registry ∧
      LookupTables.ofList deskTables = tables ∧
      registry.names = ["Reverse", "concat", "increment", "length", "lowercase", "toNumber",
        "toString", "uppercase"] ∧
      registry.resolver.find? "length" = some ⟨"length", deskReverse⟩ ∧
      registry.resolver.find? "concat" = some Transform.concat ∧
      registry.contains "reverse" = false ∧
      tables.size = 2 ∧
      tables.resolver.find? "lands" = some (.lookup "lands" [("F", "France")]) ∧
      tables.resolver.find? "rivers" = none := by
  have ran : Registry.Start.builtins.registry.run deskSteps = Registry.builtins.run deskSteps := rfl
  have listed : (Registry.builtins.run deskSteps).names = ["Reverse", "concat", "increment",
      "length", "lowercase", "toNumber", "toString", "uppercase"] := by decide
  obtain ⟨⟨-, -, each⟩, size, eachTable⟩ :=
    stores_find_last ran (rfl : LookupTables.ofList deskTables = .ofList deskTables)
  obtain ⟨-, contained, -⟩ := each "reverse"
  obtain ⟨-, -, length⟩ := each "length"
  obtain ⟨-, -, concat⟩ := each "concat"
  refine ⟨_, _, rfl, rfl, listed, (length _).1.mpr ?_, (concat _).1.mpr ?_, ?_,
    size.trans (by decide), ((eachTable "lands").2 _).mpr ⟨_, ?_, rfl⟩,
    (eachTable "rivers").1.mpr (by decide)⟩
  · exact ⟨Transform.builtins ++ (deskSteps.map Registry.Step.stored).dropLast, [], rfl, rfl,
      List.forall_mem_nil _⟩
  · exact ⟨[Transform.increment], _, rfl, rfl, by decide⟩
  · rw [← Bool.not_eq_true, contained, listed]
    decide
  · exact ⟨deskTables.dropLast, [], rfl, rfl, List.forall_mem_nil _⟩

end Desk

end Reshape
